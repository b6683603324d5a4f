import Concordancer.Layout
import Concordancer.Navigator
import Concordancer.OrderedSet
import Concordancer.Span

/-!
# Rendering

A token is rendered as the texts of all columns, separated by slashes; slashes inside values
are written out, so they never separate.  A column whose steps lead nowhere renders as a
placeholder, and one that finds no value renders as nothing at all.
-/

namespace Concordancer

/-- What stands for a token that is not there. -/
def placeholder : String := "none"

/-- What stands for the features of the root. -/
def rootLabel : String := "root"

/-- What separates the tokens of one span. -/
def tokenSeparator : Option Expansion → String
  | some .window => "_"
  | _ => " "

/-- Does a text have nothing but placeholders between its separators? -/
def isAllPlaceholders (text separator : String) : Bool :=
  ((Text.splitOn separator.toList text.toList).flatMap (Text.splitOn ['/'])).all
    (· == placeholder.toList)

structure Renderer where
  navigator : Navigator
  columns : List Column

namespace Renderer

/-- What stands for a feature of the root.  It has no word: a word column that stands alone
leaves it out. -/
def rootValue (renderer : Renderer) (root : TokenRef) : Feature → Option String
  | .word => if renderer.columns.length = 1 then none else some placeholder
  | .index => some (toString root.index)
  | .sentenceId => some (toString root.sentence)
  | _ => some rootLabel

/-- A value as it stands between slashes. -/
def clean (value : String) : String := Text.replaceChar '/' "-slash-".toList value

/-- A feature of a token as it is shown. -/
def value (renderer : Renderer) (feature : Feature) (ref : TokenRef) :
    Told (Option String) := do
  if ref.isRoot then pure (renderer.rootValue ref feature)
  else
    let value ← renderer.navigator.read ref feature
    let shown := match feature with
      | .baseForm => value.map renderer.navigator.lexicon.listedForm
      | _ => value
    pure (shown.map clean)

/-- The tokens that steps lead to from given ones, each where it is reached first.  No further
step is taken from where one leads nowhere. -/
def reach (renderer : Renderer) (refs : List TokenRef) : List Step → List TokenRef
  | [] => refs
  | step :: further =>
    let next := OrderedSet.ofList (refs.flatMap (renderer.navigator.follow · step))
    if next.toList.isEmpty then [] else renderer.reach next.toList further

/-- What one column shows of a token. -/
def column (renderer : Renderer) (ref : TokenRef) (column : Column) :
    Told (Option String) := do
  match renderer.navigator.shiftBy ref column.adjacency with
  | none => pure none
  | some start =>
    match renderer.reach [start] column.steps with
    | [] => pure (some placeholder)
    | reached => do
      let values := (← Told.traverse (renderer.value column.feature) reached).filterMap id
      pure (if values.isEmpty then none else some ("/".intercalate values))

/-- A token in all columns; columns that show nothing are left out. -/
def token (renderer : Renderer) (ref : TokenRef) : Told String := do
  let texts := (← Told.traverse (renderer.column ref) renderer.columns).filterMap id
  pure ("/".intercalate texts)

/-- The tokens of a span; those that render as nothing are left out. -/
def span (renderer : Renderer) (separator : String) (span : Span) : Told String := do
  let texts := (← Told.traverse renderer.token span.tokens).filter (!·.isEmpty)
  pure (separator.intercalate texts)

end Renderer

end Concordancer
