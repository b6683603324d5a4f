import Concordancer.Proofs.Presentation.Answer

/-!
# Comparing outputs

Runs over different corpora are compared by what they find and what they put out.
`CompiledQuery.Answers` says both of one run.  Outputs can follow one another, where
counts add up, and can be the same up to the order of texts and lines; what an
answer shows of matches follows them in both (`answer_append`, `answer_sameUpToOrder`).
-/

namespace Concordancer

namespace Results

/-- The results of one run and then those of another. -/
def append : Results → Results → Results
  | count size, count further => count (size + further)
  | first, second => texts (first.toList ++ second.toList)

/-- Counts are equal, and texts are equally often there. -/
inductive SameUpToOrder : Results → Results → Prop
  | count (size : Nat) : SameUpToOrder (count size) (count size)
  | texts {first second : List String} (hperm : first.Perm second) :
    SameUpToOrder (texts first) (texts second)

end Results

namespace Output

def append (first second : Output) : Output where
  results := first.results.append second.results
  concordance := first.concordance ++ second.concordance

instance : Append Output := ⟨append⟩

/-- Results and lines are the same, but may stand in another order. -/
structure SameUpToOrder (first second : Output) : Prop where
  results : first.results.SameUpToOrder second.results
  concordance : first.concordance.Perm second.concordance

end Output

namespace CompiledQuery

/-- Running a query on a corpus finds these tokens and ends with this output. -/
structure Answers (query : CompiledQuery) (lexicon : Lexicon) (corpus : Corpus) (found : TokenSet)
    (output : Output) : Prop where
  finds : (query.findMatches (query.search lexicon corpus)).Yields found
  ends : (query.execute lexicon corpus).Yields output
  counts : query.layout.count = true → output.results = .count found.size

variable {query : CompiledQuery} {search first second : Search}

theorem answers_matched {lexicon : Lexicon} {corpus : Corpus}
    (hknows : (query.search lexicon corpus).navigator.visible.KnowsIds) :
    query.Answers lexicon corpus (query.matched (query.search lexicon corpus))
      (query.answer (query.search lexicon corpus)
        (query.matched (query.search lexicon corpus)).toList) where
  finds := looks_findMatches.yields
  ends := (looks_execute hknows).yields
  counts := by
    intro hcount
    rw [answer, if_pos hcount, OrderedSet.size]

theorem answer_append (early late : List TokenRef) :
    query.answer search (early ++ late) =
      query.answer search early ++ query.answer search late := by
  change _ = Output.append _ _
  unfold answer
  cases query.layout.count with
  | true => simp [Output.append, Results.append]
  | false =>
      by_cases honly : query.options.concordance = .only
      · simp [Output.append, Results.append, Results.toList, honly]
      · simp [Output.append, Results.append, Results.toList, honly]

/-- Matches in another order are shown in another order. -/
theorem answer_sameUpToOrder {refs others : List TokenRef} (hperm : refs.Perm others) :
    (query.answer search refs).SameUpToOrder (query.answer search others) := by
  unfold answer
  cases query.layout.count with
  | true => exact ⟨hperm.length_eq ▸ .count _, .nil⟩
  | false =>
      refine ⟨.texts ?_, hperm.flatMap_right _⟩
      split
      · exact .nil
      · exact (hperm.flatMap_right _).filter _

/-- If each match is shown alike, but for what is forgotten of its lines, so are all of them. -/
theorem answer_map_congr {α : Type} (forget : ConcordanceLine → α) {refs : List TokenRef}
    (hsame : ∀ ref ∈ refs, query.textsOf first ref = query.textsOf second ref ∧
      (query.linesOf first ref).map forget = (query.linesOf second ref).map forget) :
    (query.answer first refs).results = (query.answer second refs).results ∧
      (query.answer first refs).concordance.map forget =
        (query.answer second refs).concordance.map forget := by
  have htexts : refs.flatMap (query.textsOf first) = refs.flatMap (query.textsOf second) :=
    List.flatMap_congr fun ref href => (hsame ref href).1
  have hlines : (refs.flatMap (query.linesOf first)).map forget =
      (refs.flatMap (query.linesOf second)).map forget := by
    rw [List.map_flatMap, List.map_flatMap]
    exact List.flatMap_congr fun ref href => (hsame ref href).2
  unfold answer
  cases query.layout.count with
  | true => simp only [if_true, and_self]
  | false => simp only [Bool.false_eq_true, if_false, htexts, hlines, and_self]

theorem answer_congr {refs : List TokenRef}
    (hsame : ∀ ref ∈ refs, query.textsOf first ref = query.textsOf second ref ∧
      query.linesOf first ref = query.linesOf second ref) :
    query.answer first refs = query.answer second refs := by
  obtain ⟨hresults, hlines⟩ := answer_map_congr id fun ref href =>
    ⟨(hsame ref href).1, congrArg (List.map id) (hsame ref href).2⟩
  rw [List.map_id, List.map_id] at hlines
  calc
    query.answer first refs = ⟨(query.answer first refs).results,
        (query.answer first refs).concordance⟩ := rfl
    _ = ⟨(query.answer second refs).results, (query.answer second refs).concordance⟩ := by
      rw [hresults, hlines]
    _ = query.answer second refs := rfl

/-- The search `{"df": ["nsubj"]}` for what has a subject, in the columns `m` and `gw` and with
concordance lines. -/
def sample (coreference : Bool) : CompiledQuery where
  criteria := [{
    descriptor := "df"
    role := .dependent
    feature := .function
    adjacency := none
    expandsCoreference := coreference
    matcher := .literals ["nsubj"] false }]
  exclusions := []
  layout := ⟨false, [.word, ⟨none, none, [.governor], .word⟩]⟩
  options := { concordance := .on, coreference }
  filter := .none

end CompiledQuery

end Concordancer
