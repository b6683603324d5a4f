import Concordancer.Rendering

/-!
# Concordance lines

A concordance line shows a span between the tokens before and after it.  All lines of one
sentence have the same tokens as contexts, so these are rendered only once.
-/

namespace Concordancer

structure ConcordanceLine where
  source : String
  speaker : String
  left : String
  matched : String
  right : String
deriving DecidableEq, Repr

/-- Makes the concordance lines of a corpus, one after the other. -/
structure Concordance where
  source : String
  renderer : Renderer
  /-- Do contexts show words, whatever is shown of the match? -/
  plainContexts : Bool
  separator : String
  /-- The rendered tokens of the sentences that have had a line. -/
  contexts : Std.TreeMap Nat (List String)

namespace Concordance

def start (source : String) (renderer : Renderer) (plainContexts : Bool)
    (separator : String) : Concordance :=
  ⟨source, renderer, plainContexts, separator, ∅⟩

/-- The tokens of a sentence as contexts show them, by position. -/
def contextTokens (concordance : Concordance) (visible : VisibleSentence) :
    Told (List String) :=
  let refs := visible.indices.toList.map fun index => ⟨visible.sentence.id, index⟩
  if concordance.plainContexts then
    Told.traverse
      (fun ref => do
        let word ← concordance.renderer.navigator.read ref .word
        pure (word.getD ""))
      refs
  else Told.traverse concordance.renderer.token refs

/-- The context between two positions: what stands there and is not shown in the span. -/
def context (visible : VisibleSentence) (span : Span) (separator : String)
    (tokens : List String) (first last : Nat) : String :=
  let isShown (position : Nat) := (visible.at? position).any span.tokens.contains
  let texts := (List.range' first (last - first)).filterMap fun position =>
    if isShown position then none else tokens[position]?
  separator.intercalate (texts.filter (!·.isEmpty))

/-- The line of a span with its text, unless there is nothing in the text to show. -/
def line (concordance : Concordance) (visible : VisibleSentence) (span : Span)
    (matched : String) : Told (Option ConcordanceLine × Concordance) := do
  if matched.isEmpty || isAllPlaceholders matched concordance.separator then
    pure (none, concordance)
  else
    let id := visible.sentence.id
    let tokens ← match concordance.contexts[id]? with
      | some tokens => pure tokens
      | none => concordance.contextTokens visible
    let leftEnd := min span.leftEnd tokens.length
    let rightStart := min (max span.rightStart leftEnd) tokens.length
    let context := context visible span concordance.separator tokens
    let line := {
      source := concordance.source
      speaker := visible.sentence.speaker?.getD placeholder
      left := context 0 leftEnd
      matched
      right := context rightStart tokens.length }
    pure (some line,
      { concordance with contexts := concordance.contexts.insert id tokens })

end Concordance

end Concordancer
