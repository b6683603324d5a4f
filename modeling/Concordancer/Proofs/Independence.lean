import Concordancer.Proofs.Agreement.Answers
import Concordancer.Proofs.Agreement.Searches
import Concordancer.Proofs.Presentation.Outputs
import Concordancer.Proofs.Search.Combination

/-!
# Sentences are independent of each other

Without coreference, no move and no report leaves its sentence.  What a query finds in
a part of a corpus is therefore what it finds in this part alone, in the same order
(`filter_matched`), and each match is shown alike in both.  For two corpora without a
common identifier, the answer over both of them is the two answers in some order, and
in the very order of the corpora if matches have to be found by all criteria.

Nothing is asked of the sentences themselves: numbers and identifiers may be repeated.
-/

namespace Concordancer

/-! ## Parts of a corpus -/

/-- Is this the identifier of one of these sentences? -/
def isIdOf (sentences : List Sentence) (id : Nat) : Bool := sentences.any (·.id == id)

/-- Is a token in one of these sentences? -/
def TokenRef.isIn (sentences : List Sentence) (ref : TokenRef) : Bool :=
  isIdOf sentences ref.sentence

/-- A part has all sentences with its identifiers, in their order. -/
def IsPart (part sentences : List Sentence) : Prop :=
  sentences.filter (fun sentence => isIdOf part sentence.id) = part

variable {first second : List Sentence}

theorem isIdOf_of_mem {sentences : List Sentence} {sentence : Sentence}
    (hmem : sentence ∈ sentences) : isIdOf sentences sentence.id = true :=
  List.any_eq_true.mpr ⟨sentence, hmem, beq_self_eq_true _⟩

/-- Sentences have no common identifier. -/
def HaveDistinctIds (first second : List Sentence) : Prop :=
  ∀ early ∈ first, ∀ late ∈ second, early.id ≠ late.id

instance (first second : List Sentence) : Decidable (HaveDistinctIds first second) :=
  inferInstanceAs (Decidable (∀ early ∈ first, ∀ late ∈ second, early.id ≠ late.id))

theorem HaveDistinctIds.symm (hdistinct : HaveDistinctIds first second) :
    HaveDistinctIds second first :=
  fun late hlate early hearly hsame => hdistinct early hearly late hlate hsame.symm

theorem HaveDistinctIds.isIdOf_eq_false (hdistinct : HaveDistinctIds first second)
    {late : Sentence} (hlate : late ∈ second) : isIdOf first late.id = false :=
  List.any_eq_false.mpr fun early hearly hsame =>
    hdistinct early hearly late hlate (beq_iff_eq.mp hsame)

theorem HaveDistinctIds.isPart_left (hdistinct : HaveDistinctIds first second) :
    IsPart first (first ++ second) := by
  have hfirst := List.filter_eq_self.mpr fun early (hmem : early ∈ first) => isIdOf_of_mem hmem
  have hsecond := List.filter_eq_nil_iff.mpr fun late (hmem : late ∈ second) =>
    Bool.eq_false_iff.mp (hdistinct.isIdOf_eq_false hmem)
  rw [IsPart, List.filter_append, hfirst, hsecond, List.append_nil]

theorem HaveDistinctIds.isPart_right (hdistinct : HaveDistinctIds first second) :
    IsPart second (first ++ second) := by
  have hsecond := List.filter_eq_self.mpr fun late (hmem : late ∈ second) => isIdOf_of_mem hmem
  have hfirst := List.filter_eq_nil_iff.mpr fun early (hmem : early ∈ first) =>
    Bool.eq_false_iff.mp (hdistinct.symm.isIdOf_eq_false hmem)
  rw [IsPart, List.filter_append, hfirst, hsecond, List.nil_append]

namespace Corpus

theorem sentence?_part (source : String) {part sentences : List Sentence}
    (hpart : IsPart part sentences) {id : Nat} (hid : isIdOf part id = true) :
    (ofSentences source sentences).sentence? id = (ofSentences source part).sentence? id := by
  rw [sentence?_ofSentences, sentence?_ofSentences, ← congrArg List.reverse hpart,
    ← List.filter_reverse, List.find?_filter]
  refine congrArg (List.find? · sentences.reverse) (funext fun sentence => ?_)
  -- A sentence with this identifier belongs to the part.
  by_cases hsame : sentence.id = id <;> simp [hsame, hid]

end Corpus

private theorem flatMap_filter {α β : Type} (keeps : α → Bool) (f : α → List β)
    (elements : List α) :
    (elements.filter keeps).flatMap f = elements.flatMap fun a => if keeps a then f a else [] := by
  induction elements with
  | nil => rfl
  | cons a rest ih =>
      rw [List.flatMap_cons, ← ih, List.filter_cons]
      cases keeps a <;> rfl

namespace CompiledQuery

variable {query : CompiledQuery} {lexicon : Lexicon} {source : String}
  {part sentences : List Sentence}

section

variable (hplain : query.options.coreference = false)

include hplain

private theorem mentions_eq_singleton (corpus : Corpus) (criterion : Criterion) (ref : TokenRef) :
    (query.search lexicon corpus).mentions criterion ref = [ref] :=
  Search.mentions_of_coreference_eq_none (by simp [search, hplain]) ref

theorem sentence_of_mem_reportedIn {criterion : Criterion} {visible : VisibleSentence}
    {ref : TokenRef}
    (hmem : ref ∈ (query.search lexicon (.ofSentences source sentences)).reportedIn criterion
      visible) :
    ref.sentence = visible.sentence.id := by
  -- A navigator agrees with itself on the tokens of one sentence, and so does not leave it.
  let navigator := (query.search lexicon (.ofSentences source sentences)).navigator
  have hagrees : navigator.Agrees (·.sentence = visible.sentence.id) (fun _ => True) navigator :=
    agrees_search query lexicon (· = visible.sentence.id) fun _ _ => rfl
  refine Search.domain_of_mem_reportedIn hagrees ?_ ?_ hmem
  · exact fun ref href => (VisibleSentence.mem_refs.mp href).1
  · intro ref href
    exact (Search.anchors_eq_of_mentions_eq_singleton hagrees (mentions_eq_singleton hplain _ _ ref)
      (mentions_eq_singleton hplain _ _ ref) href).2

/-! ## What is found in a part -/

/-- For the sentences of a part, the same is reported in the corpus; for others, nothing in it. -/
private theorem filter_reportedIn (hpart : IsPart part sentences) (criterion : Criterion)
    (sentence : Sentence) :
    ((query.search lexicon (.ofSentences source sentences)).reportedIn criterion
        (.ofSentence query.filter lexicon sentence)).filter (·.isIn part) =
      if isIdOf part sentence.id then
        (query.search lexicon (.ofSentences source part)).reportedIn criterion
          (.ofSentence query.filter lexicon sentence)
      else [] := by
  have hstays : ∀ ref ∈ (query.search lexicon (.ofSentences source sentences)).reportedIn
      criterion (.ofSentence query.filter lexicon sentence),
        ref.isIn part = isIdOf part sentence.id := by
    intro ref href
    rw [TokenRef.isIn, sentence_of_mem_reportedIn hplain href]
    rfl
  -- All that is reported is in this sentence, so all of it is in the part, or nothing is.
  rw [List.filter_congr hstays]
  cases hkept : isIdOf part sentence.id with
  | false => rw [List.filter_false, if_neg Bool.false_ne_true]
  | true =>
      rw [List.filter_true, if_pos rfl]
      have hagrees := agrees_search query lexicon (fun id => isIdOf part id = true) fun _ hid =>
        Corpus.sentence?_part source hpart hid
      refine Search.reportedIn_eq hagrees (.refl _) ?_ trivial fun ref href =>
        Search.anchors_eq_of_mentions_eq_singleton hagrees (mentions_eq_singleton hplain _ _ ref)
          (mentions_eq_singleton hplain _ _ ref) href
      intro ref href
      show isIdOf part ref.sentence = true
      rw [(VisibleSentence.mem_refs.mp href).1]
      exact hkept

/-- In a part of a corpus, a criterion finds what it finds in the part alone. -/
theorem filter_found (hpart : IsPart part sentences) (criterion : Criterion) :
    ((query.search lexicon (.ofSentences source sentences)).found criterion).filter (·.isIn part) =
      (query.search lexicon (.ofSentences source part)).found criterion := by
  unfold Search.found
  rw [OrderedSet.filter_ofList, List.filter_flatMap]
  refine congrArg OrderedSet.ofList ?_
  simp only [search, VisibleCorpus.sentences_ofCorpus, List.flatMap_map]
  rw [← congrArg (List.flatMap _) hpart, flatMap_filter]
  exact List.flatMap_congr fun sentence _ => filter_reportedIn hplain hpart criterion sentence

/-- In a part of a corpus, a query finds what it finds in the part alone. -/
theorem filter_matched (hpart : IsPart part sentences) :
    (query.matched (query.search lexicon (.ofSentences source sentences))).filter (·.isIn part) =
      query.matched (query.search lexicon (.ofSentences source part)) := by
  have hfound : ∀ criteria : List Criterion,
      (criteria.map (query.search lexicon (.ofSentences source sentences)).found).map
          (OrderedSet.filter (·.isIn part)) =
        criteria.map (query.search lexicon (.ofSentences source part)).found := by
    intro criteria
    rw [List.map_map]
    exact List.map_congr_left fun criterion _ => filter_found hplain hpart criterion
  unfold matched
  rw [OrderedSet.filter_difference, Search.filter_combine, Search.filter_combine, hfound, hfound]

/-- The answer over a part of a corpus shows the matches there as the corpus shows them. -/
theorem answer_part (hpart : IsPart part sentences) :
    query.answer (query.search lexicon (.ofSentences source part))
        (query.matched (query.search lexicon (.ofSentences source part))).toList =
      query.answer (query.search lexicon (.ofSentences source sentences))
        (query.matched (query.search lexicon (.ofSentences source part))).toList := by
  refine (answer_congr fun ref href => shown_eq query lexicon (fun id => isIdOf part id = true)
    (fun _ hid => Corpus.sentence?_part source hpart hid) ?_).symm
  rw [← OrderedSet.mem_iff, ← filter_matched hplain hpart, OrderedSet.mem_filter] at href
  exact href.2

theorem isIn_of_mem_matched {ref : TokenRef}
    (hmem : ref ∈ query.matched (query.search lexicon (.ofSentences source sentences))) :
    ref.isIn sentences = true := by
  obtain ⟨criterion, -, href⟩ := exists_mem_found hmem
  obtain ⟨visible, hvisible, hreported⟩ := List.mem_flatMap.mp (OrderedSet.mem_ofList.mp href)
  simp only [search, VisibleCorpus.sentences_ofCorpus] at hvisible
  obtain ⟨sentence, hsentence, rfl⟩ := List.mem_map.mp hvisible
  rw [TokenRef.isIn, sentence_of_mem_reportedIn hplain hreported]
  exact isIdOf_of_mem hsentence

/-! ## Two corpora, one after the other -/

/-- What all criteria find, they find in the first corpus first. -/
theorem grouped_matched (hall : query.options.searchMode = .all)
    (hdistinct : HaveDistinctIds first second) :
    (query.matched (query.search lexicon (.ofSentences source (first ++ second)))).Grouped
      (·.isIn first) := by
  unfold matched
  rw [hall, OrderedSet.difference_eq_filter]
  refine (Search.grouped_combine_all fun set hset => ?_).filter _
  obtain ⟨criterion, -, rfl⟩ := List.mem_map.mp hset
  unfold Search.found
  simp only [search, VisibleCorpus.sentences_ofCorpus, List.map_append, List.flatMap_append]
  refine OrderedSet.grouped_ofList_append ?_ ?_
  · intro ref href
    obtain ⟨visible, hvisible, hreported⟩ := List.mem_flatMap.mp href
    obtain ⟨sentence, hsentence, rfl⟩ := List.mem_map.mp hvisible
    rw [TokenRef.isIn, sentence_of_mem_reportedIn hplain hreported]
    exact isIdOf_of_mem hsentence
  · intro ref href
    obtain ⟨visible, hvisible, hreported⟩ := List.mem_flatMap.mp href
    obtain ⟨sentence, hsentence, rfl⟩ := List.mem_map.mp hvisible
    rw [TokenRef.isIn, sentence_of_mem_reportedIn hplain hreported]
    exact hdistinct.isIdOf_eq_false hsentence

/-- The matches that are not in the first corpus are those of the second. -/
theorem filter_not_matched (hdistinct : HaveDistinctIds first second) :
    (query.matched (query.search lexicon (.ofSentences source (first ++ second)))).filter
        (!·.isIn first) =
      query.matched (query.search lexicon (.ofSentences source second)) := by
  rw [← filter_matched hplain hdistinct.isPart_right]
  refine OrderedSet.eq_of_toList_eq (List.filter_congr fun ref hmem => ?_)
  obtain ⟨sentence, hsentence, hid⟩ := List.any_eq_true.mp (isIn_of_mem_matched hplain hmem)
  rw [TokenRef.isIn, TokenRef.isIn, ← beq_iff_eq.mp hid]
  rcases List.mem_append.mp hsentence with hfirst | hsecond
  · rw [isIdOf_of_mem hfirst, hdistinct.symm.isIdOf_eq_false hfirst, Bool.not_true]
  · rw [hdistinct.isIdOf_eq_false hsecond, isIdOf_of_mem hsecond, Bool.not_false]

theorem matched_append_perm (hdistinct : HaveDistinctIds first second) :
    (query.matched (query.search lexicon (.ofSentences source (first ++ second)))).toList.Perm
      ((query.matched (query.search lexicon (.ofSentences source first))).toList ++
        (query.matched (query.search lexicon (.ofSentences source second))).toList) := by
  rw [← filter_matched hplain hdistinct.isPart_left, ← filter_not_matched hplain hdistinct]
  exact (List.filter_append_perm _ _).symm

/-- Found by all criteria, the matches are those of the first corpus, then those of the second. -/
theorem matched_append_of_all (hall : query.options.searchMode = .all)
    (hdistinct : HaveDistinctIds first second) :
    (query.matched (query.search lexicon (.ofSentences source (first ++ second)))).toList =
      (query.matched (query.search lexicon (.ofSentences source first))).toList ++
        (query.matched (query.search lexicon (.ofSentences source second))).toList := by
  rw [← filter_matched hplain hdistinct.isPart_left, ← filter_not_matched hplain hdistinct]
  exact (grouped_matched hplain hall hdistinct).toList_eq

/-- The two outputs, one after the other, show the two lists of matches one after the other. -/
theorem answer_append_answer (hdistinct : HaveDistinctIds first second) :
    query.answer (query.search lexicon (.ofSentences source first))
          (query.matched (query.search lexicon (.ofSentences source first))).toList ++
        query.answer (query.search lexicon (.ofSentences source second))
          (query.matched (query.search lexicon (.ofSentences source second))).toList =
      query.answer (query.search lexicon (.ofSentences source (first ++ second)))
        ((query.matched (query.search lexicon (.ofSentences source first))).toList ++
          (query.matched (query.search lexicon (.ofSentences source second))).toList) := by
  rw [answer_part hplain hdistinct.isPart_left, answer_part hplain hdistinct.isPart_right,
    answer_append]

end

/-- **Sentences are independent.**  Without coreference, running a query on two corpora without a
common identifier, one after the other, finds in each what it finds there alone, in the same
order.  The output is the two outputs up to order, and the one followed by the other if
matches have to be found by all criteria. -/
theorem answers_append (query : CompiledQuery) (lexicon : Lexicon) (source : String)
    (hdistinct : HaveDistinctIds first second) (hplain : query.options.coreference = false) :
    ∃ found foundFirst foundSecond output outputFirst outputSecond,
      query.Answers lexicon (.ofSentences source (first ++ second)) found output ∧
      query.Answers lexicon (.ofSentences source first) foundFirst outputFirst ∧
      query.Answers lexicon (.ofSentences source second) foundSecond outputSecond ∧
      found.toList.filter (·.isIn first) = foundFirst.toList ∧
      found.toList.filter (·.isIn second) = foundSecond.toList ∧
      found.size = foundFirst.size + foundSecond.size ∧
      output.SameUpToOrder (outputFirst ++ outputSecond) ∧
      (query.options.searchMode = .all →
        found.toList = foundFirst.toList ++ foundSecond.toList ∧
          output = outputFirst ++ outputSecond) := by
  have hknows := VisibleCorpus.knowsIds_ofSentences query.filter lexicon source
  refine ⟨_, _, _, _, _, _, answers_matched (hknows (first ++ second)),
    answers_matched (hknows first), answers_matched (hknows second),
    congrArg OrderedSet.toList (filter_matched hplain hdistinct.isPart_left),
    congrArg OrderedSet.toList (filter_matched hplain hdistinct.isPart_right), ?_, ?_, ?_⟩
  · exact (matched_append_perm hplain hdistinct).length_eq.trans List.length_append
  · rw [answer_append_answer hplain hdistinct]
    exact answer_sameUpToOrder (matched_append_perm hplain hdistinct)
  · intro hall
    refine ⟨matched_append_of_all hplain hall hdistinct, ?_⟩
    rw [answer_append_answer hplain hdistinct, ← matched_append_of_all hplain hall hdistinct]

theorem answers_append_sample :
    let first := Treebank.sample.parses.map Parse.sentence
    let second : List Sentence := [.ofRows 9 [
      .parsed 1 "Mice" "mouse" "NNS" 2 "nsubj", .parsed 2 "ran" "run" "VBD" 0 "root"] ∅]
    HaveDistinctIds first second ∧ (sample false).options.coreference = false ∧
      ∃ found foundFirst foundSecond output outputFirst outputSecond,
        (sample false).Answers .penn (.ofSentences "fable" (first ++ second)) found output ∧
        (sample false).Answers .penn (.ofSentences "fable" first) foundFirst outputFirst ∧
        (sample false).Answers .penn (.ofSentences "fable" second) foundSecond outputSecond ∧
        found.toList.filter (·.isIn first) = foundFirst.toList ∧
        found.toList.filter (·.isIn second) = foundSecond.toList ∧
        found.size = foundFirst.size + foundSecond.size ∧
        output.SameUpToOrder (outputFirst ++ outputSecond) ∧
        ((sample false).options.searchMode = .all →
          found.toList = foundFirst.toList ++ foundSecond.toList ∧
            output = outputFirst ++ outputSecond) := by
  intro first second
  exact ⟨by decide, rfl, answers_append (sample false) .penn "fable" (by decide) rfl⟩

end CompiledQuery

end Concordancer
