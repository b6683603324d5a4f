import Concordancer.Engine
import Concordancer.Query.Wire
import Concordancer.Proofs.Hiding
import Concordancer.Proofs.Independence
import Concordancer.Proofs.Reordering
import Concordancer.Proofs.Search.Meaning
import Concordancer.Proofs.Cancellation
import Concordancer.Proofs.Presentation.Modes
import Concordancer.Proofs.Presentation.Surroundings
import Concordancer.Proofs.Refusals
import Concordancer.Proofs.WholeChains
import Concordancer.Proofs.HiddenMentions
import Concordancer.Proofs.Rootless
import Concordancer.Proofs.SearchedShown
import Concordancer.Proofs.SetAlgebra
import Concordancer.Proofs.Roles
import Concordancer.Proofs.Descriptors.Nesting
import Concordancer.Proofs.Descriptors.Showing
import Concordancer.Proofs.Placeholders
import Concordancer.Proofs.Presentation.Repetitions
import Concordancer.Proofs.Distances
import Concordancer.Proofs.Shifting
import Concordancer.Proofs.ChainMates
import Concordancer.Proofs.Shadowing
import Concordancer.Proofs.NoChain
import Concordancer.Proofs.AddedMentions
import Concordancer.Proofs.MatcherEquality
import Concordancer.Proofs.Dependents
import Concordancer.Proofs.Presentation.Fields
import Concordancer.Proofs.Presentation.Emission
import Concordancer.Proofs.IntegerPatterns
import Concordancer.Proofs.IgnoringCase
import Concordancer.Proofs.VisiblePositions
import Concordancer.Proofs.Bounds
import Concordancer.Proofs.Wire.Members
import Concordancer.Proofs.Wire.Patterns
import Concordancer.Proofs.Wire.Queries
