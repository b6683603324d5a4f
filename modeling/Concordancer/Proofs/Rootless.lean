import Concordancer.Proofs.Agreement.Answers
import Concordancer.Proofs.Agreement.Searches
import Concordancer.Proofs.Corpus.Roots
import Concordancer.Proofs.Presentation.Outputs

/-!
# Rows numbered 0 and the answers to queries

The number 0 is meant to stand for the root only, so that rows numbered 0 should make no
difference to any query.  Navigators cannot tell whether they are there
(`agrees_withoutRoots`), so that criteria are tested on the same tokens, hold for the same,
and are shown alike.  Deleting the rows changes an answer in two ways only:

* with coreference, where a chain mixes roots and tokens, and so roots are found;
* in who speaks the concordance lines of a sentence in which such a row names a speaker.

Each of them does occur (`answers_rooted`).  Otherwise answers are the same, and a criterion
on the match itself finds no root (`answers_withoutRoots`).
-/

namespace Concordancer

namespace Treebank

variable (treebank : Treebank) (filter : WordFilter) (lexicon : Lexicon)

/-- Whether there are rows numbered 0 cannot be told by moving and reading. -/
theorem agrees_withoutRoots (distanceLimit : Nat) :
    Navigator.Agrees (fun _ => True) (fun _ => True)
      ⟨treebank.visible filter lexicon, lexicon, distanceLimit⟩
      ⟨treebank.withoutRoots.visible filter lexicon, lexicon, distanceLimit⟩ where
  lexicon_eq := rfl
  sentence?_rel := by
    intro ref _
    rw [sentence?_visible_eq_parse?, sentence?_visible_eq_parse?, parse?_withoutRoots]
    cases treebank.parse? ref.sentence with
    | none => exact .none
    | some parse => exact .some (parse.looksLike_withoutRoots filter lexicon)
  resolve_eq := by
    intro ref _ role
    have hfirst := treebank.sentence?_visible_eq_parse? filter lexicon ref.sentence
    have hsecond := treebank.withoutRoots.sentence?_visible_eq_parse? filter lexicon ref.sentence
    rw [parse?_withoutRoots] at hsecond
    cases hparse : treebank.parse? ref.sentence with
    | none =>
        rw [hparse] at hfirst hsecond
        simp only [Navigator.resolve, hfirst, hsecond, Option.map_none]
    | some parse =>
        rw [hparse] at hfirst hsecond
        -- Roles lead to the same numbers, and the same of these are shown.
        have hroles := parse.inRole_withoutRoots role ref.index
        have hshows := (parse.looksLike_withoutRoots filter lexicon).shows_eq
        rw [Navigator.resolve_eq_inRole hfirst, Navigator.resolve_eq_inRole hsecond, hshows]
        exact congrArg (fun indices => (List.filter _ indices).map _) hroles.symm
  shift_eq := by
    intro ref _ offset
    unfold Navigator.shift
    rw [sentence?_visible_eq_parse?, sentence?_visible_eq_parse?, parse?_withoutRoots]
    cases treebank.parse? ref.sentence with
    | none => rfl
    | some parse =>
        have hshows := (parse.looksLike_withoutRoots filter lexicon).shows_eq
        have htoken : (parse.withoutRoots.visible filter lexicon).sentence.token? =
            (parse.visible filter lexicon).sentence.token? :=
          funext parse.token?_withoutRoots
        simp only [Option.map_some, Option.bind_eq_bind, Option.bind_some, hshows, htoken]
  read_eq := by
    intro ref _ feature _
    have hfirst := treebank.sentence?_eq_parse? ref.sentence
    have hsecond := treebank.withoutRoots.sentence?_eq_parse? ref.sentence
    rw [parse?_withoutRoots] at hsecond
    unfold Navigator.read
    simp only [visible, VisibleCorpus.ofCorpus, hfirst, hsecond]
    cases treebank.parse? ref.sentence with
    | none => rfl
    | some parse =>
        -- Features are those of the token and its distance, and the root is no token.
        simp only [Option.map_some, parse.token?_withoutRoots, parse.distance_withoutRoots]
        rfl
  domain_refs := fun _ _ _ _ => trivial
  domain_resolve := fun _ _ _ => trivial
  domain_shift := fun _ _ _ => trivial

end Treebank

namespace CompiledQuery

variable {query : CompiledQuery} {treebank : Treebank} {lexicon : Lexicon} {criterion : Criterion}

private theorem agrees_rootless (query : CompiledQuery) (lexicon : Lexicon) (treebank : Treebank) :
    (query.search lexicon treebank.corpus).navigator.Agrees (fun _ => True) (fun _ => True)
      (query.search lexicon treebank.withoutRoots.corpus).navigator :=
  treebank.agrees_withoutRoots query.filter lexicon query.options.maxDistance

/-! ## Searching -/

section

variable (hapart : query.options.coreference = true → treebank.KeepsRootsApart)

include hapart

private theorem mentions_rootless (ref : TokenRef) :
    (query.search lexicon treebank.corpus).mentions criterion ref =
      (query.search lexicon treebank.withoutRoots.corpus).mentions criterion ref := by
  unfold Search.mentions search
  cases hcoreference : query.options.coreference with
  | false => rfl
  | true =>
      have hmates := (hapart hcoreference).mates_withoutRoots ref
      cases criterion.expandsCoreference with
      | false => rfl
      | true => exact hmates.symm

/-- With or without rows numbered 0, a criterion finds the same tokens in the same order. -/
theorem found_rootless :
    (query.search lexicon treebank.corpus).found criterion =
      (query.search lexicon treebank.withoutRoots.corpus).found criterion := by
  have hagrees := agrees_rootless query lexicon treebank
  have hfirst : (query.search lexicon treebank.corpus).navigator.visible.sentences.toList =
      treebank.parses.map (Parse.visible query.filter lexicon) :=
    Treebank.sentences_visible query.filter lexicon
  have hsecond : (query.search lexicon
      treebank.withoutRoots.corpus).navigator.visible.sentences.toList =
        (treebank.parses.map Parse.withoutRoots).map (Parse.visible query.filter lexicon) :=
    Treebank.sentences_visible query.filter lexicon
  rw [List.map_map] at hsecond
  refine Search.found_eq hagrees hfirst hsecond ?_ (fun _ _ _ _ => trivial) trivial ?_
  · exact fun parse _ => parse.looksLike_withoutRoots query.filter lexicon
  · intro ref _
    exact Search.anchors_eq hagrees (mentions_rootless hapart ref) fun _ _ => trivial

theorem matched_rootless :
    query.matched (query.search lexicon treebank.corpus) =
      query.matched (query.search lexicon treebank.withoutRoots.corpus) := by
  have hfound : (query.search lexicon treebank.corpus).found =
      (query.search lexicon treebank.withoutRoots.corpus).found :=
    funext fun _ => found_rootless hapart
  rw [matched, hfound, matched]

private theorem isRoot_of_mem_mentions {tested mention : TokenRef} (htested : tested.isRoot = false)
    (hmention : mention ∈ (query.search lexicon treebank.corpus).mentions criterion tested) :
    mention.isRoot = false := by
  unfold Search.mentions search at hmention
  cases hcoreference : query.options.coreference with
  | false =>
      rw [hcoreference] at hmention
      rw [List.mem_singleton.mp hmention]
      exact htested
  | true =>
      rw [hcoreference] at hmention
      cases hexpands : criterion.expandsCoreference with
      | false =>
          rw [hexpands] at hmention
          rw [List.mem_singleton.mp hmention]
          exact htested
      | true =>
          rw [hexpands] at hmention
          rcases Coreference.mem_mates.mp hmention with rfl | ⟨name, hchain, hmember⟩
          · exact htested
          · exact (hapart hcoreference).isRoot_eq_false_of_mem_mentions hchain hmember

theorem isRoot_of_mem_found (hrole : criterion.role = .self) {ref : TokenRef}
    (hfound : ref ∈ (query.search lexicon treebank.corpus).found criterion) :
    ref.isRoot = false := by
  obtain ⟨visible, hvisible, tested, htested, -, hreport⟩ := Search.mem_found.mp hfound
  obtain ⟨mention, hmention, anchor, hanchor, hresolve⟩ := Search.mem_report.mp hreport
  rw [hrole, Role.inverse] at hresolve
  obtain ⟨rfl, -⟩ := Navigator.mem_resolve_self.mp hresolve
  have hplain : tested.isRoot = false := Search.isRoot_of_mem_tested rfl hvisible htested
  unfold Search.anchor? at hanchor
  cases hplace : criterion.adjacency with
  | none =>
      rw [hplace] at hanchor
      obtain ⟨-, hsame⟩ := Option.ite_none_right_eq_some.mp hanchor
      obtain rfl := Option.some.inj hsame
      exact isRoot_of_mem_mentions hapart hplain hmention
  | some offset =>
      rw [hplace] at hanchor
      obtain ⟨-, -, -, hpositive, -⟩ := Navigator.shift_eq_some_iff.mp hanchor
      exact TokenRef.isRoot_eq_false_iff.mpr hpositive

end

/-! ## Showing -/

/-- Where roots are silent, a token is shown alike. -/
private theorem shown_silent (hsilent : treebank.HasSilentRoots) (ref : TokenRef) :
    query.textsOf (query.search lexicon treebank.corpus) ref =
        query.textsOf (query.search lexicon treebank.withoutRoots.corpus) ref ∧
      query.linesOf (query.search lexicon treebank.corpus) ref =
        query.linesOf (query.search lexicon treebank.withoutRoots.corpus) ref := by
  have hagrees := agrees_rootless query lexicon treebank
  refine ⟨textsOf_eq hagrees (fun _ _ => trivial) trivial, ?_⟩
  refine linesOf_eq_of_speakerOf_eq hagrees (fun _ _ => trivial) trivial trivial rfl ?_
  have hfirst := treebank.sentence?_visible_eq_parse? query.filter lexicon ref.sentence
  have hsecond :=
    treebank.withoutRoots.sentence?_visible_eq_parse? query.filter lexicon ref.sentence
  rw [Treebank.parse?_withoutRoots] at hsecond
  show Option.getD (((treebank.visible query.filter lexicon).sentence? ref.sentence).bind _) _ =
    Option.getD (((treebank.withoutRoots.visible query.filter lexicon).sentence?
      ref.sentence).bind _) _
  rw [hfirst, hsecond]
  cases hparse : treebank.parse? ref.sentence with
  | none => rfl
  | some parse =>
      have hspeaker := (hsilent parse (Treebank.mem_of_parse? hparse)).speaker?_withoutRoots
      exact congrArg (Option.getD · placeholder) hspeaker.symm

/-- **Rows numbered 0 make no difference**, but for mentions and speakers.  Let no chain have
mentions numbered 0 and others, or let the query be without coreference.  Over any treebank,
the query finds the same tokens and puts out the same results and lines, apart from speakers,
as without the rows numbered 0; where none of these names a speaker, its output is the same
altogether.  A criterion on the match itself finds no root. -/
theorem answers_withoutRoots (query : CompiledQuery) (lexicon : Lexicon) (treebank : Treebank)
    (hapart : query.options.coreference = true → treebank.KeepsRootsApart) :
    (∃ found rooted rootless,
      query.Answers lexicon treebank.corpus found rooted ∧
      query.Answers lexicon treebank.withoutRoots.corpus found rootless ∧
      rooted.results = rootless.results ∧
      rooted.concordance.map ConcordanceLine.withoutSpeaker =
        rootless.concordance.map ConcordanceLine.withoutSpeaker ∧
      (treebank.HasSilentRoots → rooted = rootless)) ∧
    ∀ criterion : Criterion, criterion.role = .self →
      ∃ found, ((query.search lexicon treebank.corpus).find criterion).Yields found ∧
        ∀ ref ∈ found, ref.isRoot = false := by
  have hfirst : query.Answers lexicon treebank.corpus _ _ :=
    answers_matched (VisibleCorpus.knowsIds_ofSentences _ _ _ _)
  have hsecond : query.Answers lexicon treebank.withoutRoots.corpus _ _ :=
    answers_matched (VisibleCorpus.knowsIds_ofSentences _ _ _ _)
  rw [← matched_rootless hapart] at hsecond
  refine ⟨⟨_, _, _, hfirst, hsecond, ?_⟩, fun criterion hrole => ?_⟩
  · have hagrees := agrees_rootless query lexicon treebank
    obtain ⟨hresults, hlines⟩ := answer_map_congr ConcordanceLine.withoutSpeaker fun ref _ =>
      shown_eq_withoutSpeaker hagrees (fun _ _ => trivial) trivial trivial rfl
    refine ⟨hresults, hlines, fun hsilent => ?_⟩
    exact answer_congr fun ref _ => shown_silent hsilent ref
  · exact ⟨_, Search.looks_find.yields, fun ref hfound => isRoot_of_mem_found hapart hrole hfound⟩

/-- The query for the number of *Anna*, with concordance lines. -/
def annaSample (coreference : Bool) : CompiledQuery where
  criteria := [⟨"w", .self, .word, none, coreference, .literals ["Anna"] true⟩]
  exclusions := []
  layout := ⟨false, [⟨none, none, [], .index⟩]⟩
  options := { concordance := .on, coreference, caseSensitive := true }
  filter := .none

end CompiledQuery

/-- *Anna laughed*, with a row numbered 0 that is a mention of this chain and names a speaker. -/
def Treebank.rootedTale (chain : String) : Treebank where
  source := "tale"
  parses := [
    { id := 1
      rows := [
        { Token.parsed 0 "ROOT" "root" "ROOT" 0 "root" with
          coreference := some chain, speaker := some "nobody" },
        { Token.parsed 1 "Anna" "anna" "NNP" 2 "nsubj" with
          coreference := some "c1", speaker := some "narrator" },
        .parsed 2 "laughed" "laugh" "VBD" 0 "root"]
      metadata := ∅ }]

namespace CompiledQuery

theorem answers_withoutRoots_rootedTale :
    let treebank := Treebank.rootedTale "c0"
    ((annaSample true).options.coreference = true → treebank.KeepsRootsApart) ∧
      (∃ found rooted rootless,
        (annaSample true).Answers .penn treebank.corpus found rooted ∧
        (annaSample true).Answers .penn treebank.withoutRoots.corpus found rootless ∧
        rooted.results = rootless.results ∧
        rooted.concordance.map ConcordanceLine.withoutSpeaker =
          rootless.concordance.map ConcordanceLine.withoutSpeaker ∧
        (treebank.HasSilentRoots → rooted = rootless)) ∧
      ∀ criterion : Criterion, criterion.role = .self →
        ∃ found, (((annaSample true).search .penn treebank.corpus).find criterion).Yields found ∧
          ∀ ref ∈ found, ref.isRoot = false := by
  intro treebank
  have hapart : treebank.KeepsRootsApart := by decide +kernel
  exact ⟨fun _ => hapart, answers_withoutRoots (annaSample true) .penn treebank fun _ => hapart⟩

/-- With coreference, a row numbered 0 of the chain of *Anna* is found with her; without, its
speaker still speaks. -/
theorem answers_rooted :
    let treebank := Treebank.rootedTale "c1"
    (∃ found others rooted rootless,
      (annaSample true).Answers .penn treebank.corpus found rooted ∧
      (annaSample true).Answers .penn treebank.withoutRoots.corpus others rootless ∧
      TokenRef.root 1 ∈ found ∧
      rooted.results = .texts ["1", "0"] ∧ rootless.results = .texts ["1"]) ∧
    ∃ found rooted rootless,
      (annaSample false).Answers .penn treebank.corpus found rooted ∧
      (annaSample false).Answers .penn treebank.withoutRoots.corpus found rootless ∧
      rooted.concordance.map ConcordanceLine.speaker = ["nobody"] ∧
      rootless.concordance.map ConcordanceLine.speaker = ["narrator"] := by
  intro treebank
  have hanswers : ∀ (coreference : Bool) (treebank : Treebank),
      (annaSample coreference).Answers .penn treebank.corpus _ _ := fun _ _ =>
    answers_matched (VisibleCorpus.knowsIds_ofSentences _ _ _ _)
  constructor
  · refine ⟨_, _, _, _, hanswers true treebank, hanswers true treebank.withoutRoots, ?_, ?_, ?_⟩
    · rw [OrderedSet.mem_iff]
      decide +kernel
    · decide +kernel
    · decide +kernel
  · have hrootless := hanswers false treebank.withoutRoots
    have hplain : (annaSample false).options.coreference = true → treebank.KeepsRootsApart := by
      intro hcoreference
      cases hcoreference
    rw [← matched_rootless hplain] at hrootless
    refine ⟨_, _, _, hanswers false treebank, hrootless, ?_, ?_⟩
    · decide +kernel
    · decide +kernel

end CompiledQuery

end Concordancer
