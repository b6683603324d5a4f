import Concordancer.Proofs.Corpus.Chains
import Concordancer.Proofs.Navigation
import Concordancer.Proofs.Sentence.Likeness

/-!
# Deleting the rows that are numbered 0

The number 0 always stands for the root, also where a row is numbered 0.  Such rows are
kept, so the question is who reads them.  `withoutRoots` deletes them.

The tables of a sentence and what is visible of it are made from the other rows only.  They
are the same without the rows numbered 0 (`token?_withoutRoots`,
`dependents_withoutRoots`, `looksLike_withoutRoots`), and so is every walk along governors
(`walk_withoutRoots`).  Two things read these rows as well:

* a row numbered 0 that names a chain is a mention of it (`mentions_withoutRoots`), and the
  root becomes a mate of the tokens of the chain.  `KeepsRootsApart` says that no chain
  mixes the two, and then mates are the same (`mates_withoutRoots`);
* a row numbered 0 that names a speaker speaks its sentence.  `HasSilentRoots` says that
  none does where it matters.

Nothing else is asked of a treebank: identifiers and numbers may be repeated.
-/

namespace Concordancer

/-- Without the rows numbered 0, a table needs as many cells. -/
theorem Sentence.tableSize_filter_isRoot {arranged : List Token}
    (hsorted : arranged.Pairwise fun a b => a.index ≤ b.index) :
    tableSize (arranged.filter fun row => !row.isRoot) = tableSize arranged := by
  rcases List.eq_nil_or_concat arranged with rfl | ⟨front, last, rfl⟩
  · rfl
  · rw [List.concat_eq_append] at hsorted ⊢
    rw [List.filter_append]
    cases hlast : last.isRoot with
    | false => simp [tableSize, hlast]
    | true =>
        -- If the last row is numbered 0, all are, and there is one cell in either case.
        have hindex : last.index = 0 := by simpa [Token.isRoot, rootIndex] using hlast
        have hfront : front.filter (fun row => !row.isRoot) = [] := by
          refine List.filter_eq_nil_iff.mpr fun row hrow => ?_
          have hle := (List.pairwise_append.mp hsorted).2.2 row hrow last
            (List.mem_singleton.mpr rfl)
          have hzero : row.index = 0 := by omega
          simp [Token.isRoot, rootIndex, hzero]
        rw [hfront]
        simp [tableSize, hlast, hindex, rootIndex]

namespace Parse

/-- The parse without the rows that are numbered 0. -/
def withoutRoots (parse : Parse) : Parse :=
  { parse with rows := parse.rows.filter fun row => !row.isRoot }

/-- Only the other rows say who speaks the sentence, if its metadata do not. -/
def HasSilentRoots (parse : Parse) : Prop :=
  parse.metadata["speaker"]? = none → ∀ row ∈ parse.rows, row.isRoot = true → row.speaker = none

instance (parse : Parse) : Decidable parse.HasSilentRoots :=
  inferInstanceAs (Decidable (parse.metadata["speaker"]? = none →
    ∀ row ∈ parse.rows, row.isRoot = true → row.speaker = none))

variable (parse : Parse)

@[simp] theorem id_withoutRoots : parse.withoutRoots.id = parse.id := rfl

theorem arrange_withoutRoots :
    Sentence.arrange parse.withoutRoots.rows =
      (Sentence.arrange parse.rows).filter fun row => !row.isRoot :=
  (Sentence.filter_arrange _ _).symm

/-! ## The tables of the sentence -/

theorem token?_withoutRoots (index : Nat) :
    parse.withoutRoots.sentence.token? index = parse.sentence.token? index := by
  unfold sentence
  rw [Sentence.token?_ofRows, Sentence.token?_ofRows, arrange_withoutRoots, List.filter_filter]
  refine congrArg List.getLast? (List.filter_congr fun row _ => ?_)
  cases row.isRoot <;> simp

theorem governor?_withoutRoots (index : Nat) :
    parse.withoutRoots.sentence.governor? index = parse.sentence.governor? index := by
  rw [Sentence.governor?, token?_withoutRoots, Sentence.governor?]

theorem dependents_withoutRoots (index : Nat) :
    parse.withoutRoots.sentence.dependents index = parse.sentence.dependents index := by
  have hsize : Sentence.tableSize (Sentence.arrange parse.withoutRoots.rows) =
      Sentence.tableSize (Sentence.arrange parse.rows) := by
    rw [arrange_withoutRoots, Sentence.tableSize_filter_isRoot (Sentence.arrange_sorted _)]
  unfold sentence
  rw [Sentence.dependents_ofRows, Sentence.dependents_ofRows, hsize, arrange_withoutRoots,
    List.filter_filter]
  split
  · refine congrArg (List.map Token.index) (List.filter_congr fun row _ => ?_)
    cases row.isRoot <;> simp
  · rfl

theorem inRole_withoutRoots (role : Role) (index : Nat) :
    parse.withoutRoots.sentence.inRole role index = parse.sentence.inRole role index := by
  cases role with
  | self => rfl
  | governor => rw [Sentence.inRole, governor?_withoutRoots, Sentence.inRole]
  | dependent => rw [Sentence.inRole, dependents_withoutRoots, Sentence.inRole]

/-- Governors lead to the root in as many steps. -/
theorem walk_withoutRoots (steps index : Nat) :
    parse.withoutRoots.sentence.walk steps index = parse.sentence.walk steps index :=
  Sentence.walk_congr parse.governor?_withoutRoots steps index

theorem distance_withoutRoots (limit index : Nat) :
    parse.withoutRoots.sentence.distance limit index = parse.sentence.distance limit index := by
  rw [Sentence.distance, walk_withoutRoots, Sentence.distance]
  rfl

/-! ## The visible part of the sentence -/

theorem looksLike_withoutRoots (filter : WordFilter) (lexicon : Lexicon) :
    (parse.visible filter lexicon).LooksLike (parse.withoutRoots.visible filter lexicon) := by
  have hindices : (parse.visible filter lexicon).indices.toList =
      (parse.withoutRoots.visible filter lexicon).indices.toList := by
    show List.map Token.index _ = List.map Token.index
      ((Sentence.arrange parse.withoutRoots.rows).filter _)
    rw [arrange_withoutRoots, List.filter_filter]
    refine congrArg (List.map Token.index) (List.filter_congr fun row _ => ?_)
    cases row.isRoot <;> simp
  refine ⟨rfl, Array.toList_inj.mp hindices, fun index => ?_⟩
  rw [position?_visible, position?_visible, hindices]

/-! ## Mentions and speakers -/

/-- Of the mentions, those are left that are not the root. -/
theorem mentions_withoutRoots :
    parse.withoutRoots.mentions = parse.mentions.filter fun entry => !entry.2.isRoot := by
  unfold mentions
  rw [arrange_withoutRoots, List.filterMap_filter, List.filter_filterMap]
  refine List.filterMap_congr fun row _ => ?_
  have hroot : (TokenRef.mk parse.id row.index).isRoot = row.isRoot := rfl
  cases hrow : row.isRoot <;> cases row.chain? <;> simp [Option.filter, hroot, hrow]

/-- Rows that name no speaker can be left out. -/
private theorem findSome?_speaker_filter_isRoot {rows : List Token}
    (hsilent : ∀ row ∈ rows, row.isRoot = true → row.speaker = none) :
    (rows.filter fun row => !row.isRoot).findSome? Token.speaker =
      rows.findSome? Token.speaker := by
  induction rows with
  | nil => rfl
  | cons row rest ih =>
      have hrest := ih fun other hother => hsilent other (List.mem_cons_of_mem row hother)
      rw [List.filter_cons, List.findSome?_cons]
      cases hroot : row.isRoot with
      | true =>
          rw [hsilent row List.mem_cons_self hroot]
          exact hrest
      | false =>
          show List.findSome? Token.speaker (row :: rest.filter _) = _
          rw [List.findSome?_cons, hrest]

theorem HasSilentRoots.speaker?_withoutRoots {parse : Parse} (hsilent : parse.HasSilentRoots) :
    parse.withoutRoots.sentence.speaker? = parse.sentence.speaker? := by
  show (parse.metadata["speaker"]? <|> (Sentence.arrange parse.withoutRoots.rows).findSome?
    Token.speaker) = (parse.metadata["speaker"]? <|> (Sentence.arrange parse.rows).findSome?
      Token.speaker)
  cases hspeaker : parse.metadata["speaker"]? with
  | some speaker => rfl
  | none =>
      rw [arrange_withoutRoots]
      exact findSome?_speaker_filter_isRoot fun row hrow hroot =>
        hsilent hspeaker row (Sentence.mem_arrange.mp hrow) hroot

end Parse

namespace Treebank

/-- The treebank without the rows that are numbered 0. -/
def withoutRoots (treebank : Treebank) : Treebank :=
  { treebank with parses := treebank.parses.map Parse.withoutRoots }

/-- The rows of all parses. -/
def rows (treebank : Treebank) : List Token := treebank.parses.flatMap Parse.rows

/-- No chain has mentions numbered 0 and others. -/
def KeepsRootsApart (treebank : Treebank) : Prop :=
  ∀ row ∈ treebank.rows, row.isRoot = true → ∀ token ∈ treebank.rows, token.isRoot = false →
    row.chain? = none ∨ token.chain? ≠ row.chain?

instance (treebank : Treebank) : Decidable treebank.KeepsRootsApart :=
  inferInstanceAs (Decidable (∀ row ∈ treebank.rows, row.isRoot = true →
    ∀ token ∈ treebank.rows, token.isRoot = false →
      row.chain? = none ∨ token.chain? ≠ row.chain?))

/-- Only rows that are not numbered 0 say who speaks. -/
def HasSilentRoots (treebank : Treebank) : Prop :=
  ∀ parse ∈ treebank.parses, parse.HasSilentRoots

instance (treebank : Treebank) : Decidable treebank.HasSilentRoots :=
  inferInstanceAs (Decidable (∀ parse ∈ treebank.parses, parse.HasSilentRoots))

variable (treebank : Treebank)

/-! ## Sentences -/

theorem parse?_withoutRoots (id : Nat) :
    treebank.withoutRoots.parse? id = (treebank.parse? id).map Parse.withoutRoots := by
  unfold parse? withoutRoots
  rw [← List.map_reverse, List.find?_map]
  rfl

variable {treebank}

theorem token?_corpus_withoutRoots (ref : TokenRef) :
    treebank.withoutRoots.corpus.token? ref = treebank.corpus.token? ref := by
  unfold Corpus.token?
  rw [sentence?_eq_parse?, sentence?_eq_parse?, parse?_withoutRoots]
  cases treebank.parse? ref.sentence with
  | none => rfl
  | some parse => exact parse.token?_withoutRoots ref.index

/-! ## Chains -/

theorem mentions_withoutRoots :
    Coreference.mentions treebank.withoutRoots.corpus =
      (Coreference.mentions treebank.corpus).filter fun entry => !entry.2.isRoot := by
  rw [mentions_corpus, mentions_corpus, Treebank.withoutRoots, List.flatMap_map,
    List.filter_flatMap]
  exact List.flatMap_congr fun parse _ => parse.mentions_withoutRoots

theorem mem_rows_of_token? {ref : TokenRef} {token : Token}
    (htoken : treebank.corpus.token? ref = some token) :
    token ∈ treebank.rows ∧ token.isRoot = false := by
  obtain ⟨sentence, hsentence, htoken⟩ := Option.bind_eq_some_iff.mp htoken
  rw [sentence?_eq_parse?] at hsentence
  obtain ⟨parse, hparse, rfl⟩ := Option.map_eq_some_iff.mp hsentence
  rw [Parse.sentence, Sentence.token?_ofRows] at htoken
  obtain ⟨hmem, hrow⟩ := List.mem_filter.mp (List.mem_of_getLast? htoken)
  refine ⟨List.mem_flatMap.mpr ⟨parse, mem_of_parse? hparse, Sentence.mem_arrange.mp hmem⟩, ?_⟩
  simpa using (Bool.and_eq_true_iff.mp hrow).1

/-- If no chain has both, roots are no mentions of the chain of a token. -/
theorem KeepsRootsApart.isRoot_eq_false_of_mem_mentions (hapart : treebank.KeepsRootsApart)
    {ref mention : TokenRef} {name : String}
    (hchain : (treebank.corpus.token? ref).bind Token.chain? = some name)
    (hmention : (name, mention) ∈ Coreference.mentions treebank.corpus) :
    mention.isRoot = false := by
  obtain ⟨token, htoken, hname⟩ := Option.bind_eq_some_iff.mp hchain
  obtain ⟨htoken, hplain⟩ := mem_rows_of_token? htoken
  obtain ⟨parse, hparse, -, row, hrow, hindex, hsame⟩ := mem_mentions_corpus.mp hmention
  have hrow : row ∈ treebank.rows := List.mem_flatMap.mpr ⟨parse, hparse, hrow⟩
  have hroot : mention.isRoot = row.isRoot := by
    rw [TokenRef.isRoot, ← hindex]
    rfl
  rw [hroot, ← Bool.not_eq_true]
  intro hrooted
  rcases hapart row hrow hrooted token htoken hplain with hnone | hne
  · rw [hsame] at hnone
    cases hnone
  · exact hne (hname.trans hsame.symm)

/-- If no chain has both, mates are the same. -/
theorem KeepsRootsApart.mates_withoutRoots (hapart : treebank.KeepsRootsApart) (ref : TokenRef) :
    (Coreference.ofCorpus treebank.withoutRoots.corpus).mates treebank.withoutRoots.corpus ref =
      (Coreference.ofCorpus treebank.corpus).mates treebank.corpus ref := by
  unfold Coreference.mates
  rw [token?_corpus_withoutRoots]
  cases hchain : (treebank.corpus.token? ref).bind Token.chain? with
  | none => rfl
  | some name =>
      have hsame : (Coreference.ofCorpus treebank.withoutRoots.corpus).chain name =
          (Coreference.ofCorpus treebank.corpus).chain name := by
        rw [Coreference.chain_ofCorpus, Coreference.chain_ofCorpus, mentions_withoutRoots,
          List.filter_filter]
        refine congrArg (List.map Prod.snd) (List.filter_congr fun entry hentry => ?_)
        obtain ⟨chain, mention⟩ := entry
        by_cases hname : chain = name
        · subst hname
          simp [hapart.isRoot_eq_false_of_mem_mentions hchain hentry]
        · simp [hname]
      simp only [hsame]

end Treebank

end Concordancer
