import Concordancer.Concordance
import Concordancer.Query.Basic
import Concordancer.Search

/-!
# Running queries

A query is compiled once and can then be run against any corpus.  Compiling finds every
fault that a query can have, before any sentence is looked at: the first one counts, in the
order search, exclusions, columns, punctuation pattern.  A run searches, takes exclusions
away, and renders what is left.
-/

namespace Concordancer

structure CompiledQuery where
  criteria : List Criterion
  exclusions : List Criterion
  layout : Layout
  options : Options
  filter : WordFilter

inductive Results
  | count (size : Nat)
  | texts (rendered : List String)
deriving DecidableEq, Repr

namespace Results

/-- The number of results. -/
def size : Results → Nat
  | count size => size
  | texts rendered => rendered.length

/-- The texts of the results; a count has none. -/
def toList : Results → List String
  | count _ => []
  | texts rendered => rendered

end Results

structure Output where
  results : Results
  concordance : List ConcordanceLine
deriving DecidableEq, Repr

/-! ## Compiling -/

namespace Options

/-- The name under which faults of the punctuation pattern are reported. -/
def punctuationName : String := "punctuationPattern"

/-- What the options hide. -/
def wordFilter (options : Options) (dialect : Regex.Dialect := Regex.compile?) :
    Except QueryError WordFilter :=
  if options.stripPunctuation then
    match dialect options.punctuationPattern false with
    | some expression => .ok ⟨some expression, options.stripClosedClass⟩
    | none => .error (.invalidPattern punctuationName)
  else .ok ⟨none, options.stripClosedClass⟩

end Options

namespace Query

def compile (query : Query) (dialect : Regex.Dialect := Regex.compile?) :
    Except QueryError CompiledQuery := do
  let criteria ← Criterion.compileAll query.options query.search dialect
  let exclusions ← Criterion.compileAll query.options query.exclude dialect
  let layout ← Layout.compile query.shown
  let filter ← query.options.wordFilter dialect
  return { criteria, exclusions, layout, options := query.options, filter }

end Query

/-! ## Running -/

namespace CompiledQuery

/-- What is searched with. -/
def search (query : CompiledQuery) (lexicon : Lexicon) (corpus : Corpus) : Search :=
  { navigator :=
      { visible := .ofCorpus query.filter lexicon corpus
        lexicon
        distanceLimit := query.options.maxDistance }
    coreference := if query.options.coreference then some (.ofCorpus corpus) else none }

/-- The tokens that a query is about: those that are searched for and not excluded. -/
def findMatches (query : CompiledQuery) (search : Search) : Run TokenSet := do
  let found ← search.findAll query.options.searchMode query.criteria
  if query.exclusions.isEmpty then return found
  let excluded ← search.findAll query.options.excludeMode query.exclusions
  Run.tell .debug <|
    "excluding " ++ toString excluded.size ++ " tokens from " ++ toString found.size ++ " matches"
  return found.difference excluded

def repetition (query : CompiledQuery) : Repetition :=
  ⟨query.layout.expansion, query.options.gramSize, query.options.windowRadius⟩

def separator (query : CompiledQuery) : String := tokenSeparator query.layout.expansion

/-- The rendered spans so far, and the concordance if there is one. -/
structure Shown where
  texts : Array String
  lines : Array ConcordanceLine
  concordance : Option Concordance

/-- Renders one more span. -/
def showSpan (renderer : Renderer) (separator : String) (visible : VisibleSentence)
    (shown : Shown) (span : Span) : Told Shown := do
  let text ← renderer.span separator span
  match shown.concordance with
  | none => pure { shown with texts := shown.texts.push text }
  | some concordance => do
    let (line, concordance) ← concordance.line visible span text
    pure ⟨shown.texts.push text, shown.lines ++ line.toList, some concordance⟩

def showSpans (renderer : Renderer) (separator : String) (visible : VisibleSentence)
    (shown : Shown) : List Span → Told Shown
  | [] => pure shown
  | span :: rest => do
    let shown ← showSpan renderer separator visible shown span
    showSpans renderer separator visible shown rest

/-- Renders a match in its sentence. -/
def showMatch (query : CompiledQuery) (renderer : Renderer) (shown : Shown) (ref : TokenRef) :
    Told Shown :=
  match renderer.navigator.visible.sentence? ref.sentence with
  | none => pure shown
  | some visible =>
    showSpans renderer query.separator visible shown (query.repetition.spans visible ref)

/-- Goes on to a match.  The signal is looked at wherever the sentence changes. -/
def enterSentence (current : Option Nat) (ref : TokenRef) : Run Unit := do
  if current != some ref.sentence then
    Run.check "query cancelled while formatting"
    Run.tell .trace ("formatting sentence " ++ toString ref.sentence)

/-- Renders matches. -/
def showMatches (query : CompiledQuery) (renderer : Renderer) :
    (current : Option Nat) → Shown → List TokenRef → Run Shown
  | _, shown, [] => return shown
  | current, shown, ref :: rest => do
    enterSentence current ref
    let shown ← Run.ofTold (showMatch query renderer shown ref)
    showMatches query renderer (some ref.sentence) shown rest

def renderer (query : CompiledQuery) (search : Search) : Renderer :=
  ⟨search.navigator, query.layout.columns⟩

/-- Do contexts show words, whatever is shown of the match? -/
def hasPlainContexts (query : CompiledQuery) : Bool :=
  query.options.onlyFormatMatch || query.layout.expansion.isSome

/-- The concordance that a query asks for, before it has made a line. -/
def concordance? (query : CompiledQuery) (search : Search) : Option Concordance :=
  if query.options.concordance.isEnabled then
    some (.start search.navigator.visible.corpus.source (query.renderer search)
      query.hasPlainContexts query.separator)
  else none

/-- Tells what is going to be rendered, each match so many times. -/
def announce (found : TokenSet) (count : Nat) : Run Unit :=
  Run.tell .debug <|
    "formatting " ++ toString found.size ++ " matches, " ++ toString count ++ " repeats each"

/-- Puts out what is shown and is more than placeholders. -/
def conclude (query : CompiledQuery) (found : TokenSet) (shown : Shown) : Run Output := do
  let texts :=
    if query.options.concordance = .only then []
    else shown.texts.toList.filter fun text =>
      !text.isEmpty && !isAllPlaceholders text query.separator
  Run.tell .debug <|
    "query matched " ++ toString found.size ++ " tokens: " ++ toString texts.length
      ++ " results, " ++ toString shown.lines.size ++ " concordance lines"
  return ⟨.texts texts, shown.lines.toList⟩

/-- Renders all matches, with their concordance lines if these are wanted. -/
def present (query : CompiledQuery) (search : Search) (found : TokenSet) : Run Output := do
  announce found query.repetition.count
  let shown ← showMatches query (query.renderer search) none
    ⟨#[], #[], query.concordance? search⟩ found.toList
  query.conclude found shown

/-- Searches a corpus for what a query is about. -/
def lookUp (query : CompiledQuery) (search : Search) : Run TokenSet := do
  if let some coreference := search.coreference then
    Run.tell .debug <|
      "coreference index: " ++ toString coreference.size ++ " chains, "
        ++ toString (Coreference.mentions search.navigator.visible.corpus).length ++ " mentions"
  query.findMatches search

/-- Puts out how many matches there are. -/
def countMatches (found : TokenSet) : Run Output := do
  Run.tell .debug ("query matched " ++ toString found.size ++ " tokens")
  return ⟨.count found.size, []⟩

/-- Runs a query against a corpus. -/
def execute (query : CompiledQuery) (lexicon : Lexicon) (corpus : Corpus) : Run Output := do
  let search := query.search lexicon corpus
  let found ← query.lookUp search
  if query.layout.count then countMatches found
  else query.present search found

end CompiledQuery

namespace Query

/-- Compiles a query and tells how much there is to do. -/
def prepare (query : Query) (dialect : Regex.Dialect := Regex.compile?) : Run CompiledQuery := do
  let compiled ← Run.ofExcept (query.compile dialect)
  Run.tell .debug <|
    "compiled query: " ++ toString compiled.criteria.length ++ " criteria, "
      ++ toString compiled.exclusions.length ++ " exclusions, "
      ++ toString compiled.layout.columns.length ++ " show stages"
  return compiled

/-- Compiles a query and runs it against a corpus. -/
def run (query : Query) (lexicon : Lexicon) (corpus : Corpus)
    (dialect : Regex.Dialect := Regex.compile?) : Run Output := do
  let compiled ← query.prepare dialect
  compiled.execute lexicon corpus

end Query

end Concordancer
