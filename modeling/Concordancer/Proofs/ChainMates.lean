import Concordancer.Proofs.Corpus.Mates
import Mathlib.Data.Finset.Card

/-!
# The mates of a token are its chain

`Corpus.refs` lists what stands in a corpus, in corpus order.  In a well-numbered treebank these
are its tokens.  A chain holds those of them that have its name, and the mates of a token are
the token itself and then, in the same order, the others of its chain (`mates_exact`).  So being
mates is an equivalence, a token with a chain is in one list of the index and in no other,
and there are as many lists as names of chains.

Names may also be replaced by keys, as long as no two names share one: what is then kept under
the key of a name is the list of the name (`mentionsUnder_eq_chain`).

## Strategy

The index is filled from rows, and asked for tokens.  `mentions_eq_filterMap_refs` brings the
two together: in a well-numbered treebank the row that a mention comes from is the token that
its reference stands for.  From there on everything is a filter of `Corpus.refs`.
-/

namespace Concordancer

/-- What stands in a corpus, row by row in corpus order. -/
def Corpus.refs (corpus : Corpus) : List TokenRef :=
  corpus.sentences.toList.flatMap fun sentence =>
    sentence.tokens.toList.map fun token => ⟨sentence.id, token.index⟩

/-- What stands in a parse, row by row in sentence order. -/
def Parse.refs (parse : Parse) : List TokenRef :=
  (Sentence.arrange parse.rows).map fun row => ⟨parse.id, row.index⟩

theorem Parse.mem_refs {parse : Parse} {ref : TokenRef} :
    ref ∈ parse.refs ↔
      parse.id = ref.sentence ∧ ∃ row ∈ parse.rows, row.index = ref.index := by
  rw [refs, List.mem_map]
  constructor
  · rintro ⟨row, hrow, rfl⟩
    exact ⟨rfl, row, Sentence.mem_arrange.mp hrow, rfl⟩
  · rintro ⟨hid, row, hrow, hindex⟩
    refine ⟨row, Sentence.mem_arrange.mpr hrow, ?_⟩
    rw [hid, hindex]

theorem Parse.WellNumbered.nodup_parse_refs {parse : Parse} (hnumbered : parse.WellNumbered) :
    parse.refs.Nodup := by
  have hstrict := Sentence.arrange_strict hnumbered.distinct
  refine List.pairwise_map.mpr (hstrict.imp fun {row other} hlt hsame => ?_)
  have hindex : row.index = other.index := congrArg TokenRef.index hsame
  omega

namespace Coreference

/-! ## The index of chains -/

theorem mem_chains_add {coreference : Coreference} {chain name : String} {mention : TokenRef} :
    name ∈ (coreference.add chain mention).chains ↔ chain = name ∨ name ∈ coreference.chains := by
  rw [add, Std.TreeMap.mem_insert, Std.compare_eq_iff_eq]

theorem mem_chains_foldl_add {entries : List (String × TokenRef)} {coreference : Coreference}
    {name : String} :
    name ∈ (entries.foldl (fun coreference (chain, mention) => coreference.add chain mention)
        coreference).chains ↔
      name ∈ entries.map (·.1) ∨ name ∈ coreference.chains := by
  induction entries generalizing coreference with
  | nil => simp
  | cons entry rest ih =>
      rw [List.foldl_cons, ih, mem_chains_add, List.map_cons, List.mem_cons]
      tauto

theorem size_ofCorpus (corpus : Corpus) :
    (ofCorpus corpus).size = ((mentions corpus).map (·.1)).toFinset.card := by
  have hnames : ∀ name, name ∈ (ofCorpus corpus).chains.keys ↔
      name ∈ (mentions corpus).map (·.1) := by
    intro name
    rw [Std.TreeMap.mem_keys, ofCorpus, mem_chains_foldl_add]
    simp
  have hdistinct : (ofCorpus corpus).chains.keys.Nodup := by
    refine Std.TreeMap.distinct_keys.imp fun {first second} hne heq => ?_
    exact hne (Std.compare_eq_iff_eq.mpr heq)
  have hsame : (ofCorpus corpus).chains.keys.toFinset =
      ((mentions corpus).map (·.1)).toFinset := by
    ext name
    rw [List.mem_toFinset, List.mem_toFinset]
    exact hnames name
  rw [size, ← Std.TreeMap.length_keys, ← List.toFinset_card_of_nodup hdistinct, hsame]

/-- The mentions that are kept under a key, where chains have keys in place of names. -/
def mentionsUnder {Key : Type} [DecidableEq Key] (key : String → Key) (corpus : Corpus)
    (wanted : Key) : List TokenRef :=
  ((mentions corpus).filter fun entry => key entry.1 = wanted).map (·.2)

/-- If no two names share a key, the list under the key of a name is that of the chain. -/
theorem mentionsUnder_eq_chain {Key : Type} [DecidableEq Key] {key : String → Key}
    (hkey : Function.Injective key) (corpus : Corpus) (name : String) :
    mentionsUnder key corpus (key name) = (ofCorpus corpus).chain name := by
  rw [chain_ofCorpus, mentionsUnder]
  simp only [hkey.eq_iff]

end Coreference

namespace Treebank

variable {treebank : Treebank} {ref other : TokenRef} {name : String}

theorem refs_corpus (treebank : Treebank) :
    treebank.corpus.refs = treebank.parses.flatMap Parse.refs := by
  simp only [Corpus.refs, corpus, Corpus.ofSentences]
  rw [List.flatMap_map]
  rfl

namespace WellNumbered

variable (hnumbered : treebank.WellNumbered)

include hnumbered

theorem mem_refs_corpus :
    ref ∈ treebank.corpus.refs ↔ ∃ token, treebank.corpus.token? ref = some token := by
  rw [refs_corpus, List.mem_flatMap]
  simp only [Parse.mem_refs, hnumbered.token?_corpus]
  constructor
  · rintro ⟨parse, hparse, hid, row, hrow⟩
    exact ⟨row, parse, hparse, hid, hrow⟩
  · rintro ⟨row, parse, hparse, hid, hrow⟩
    exact ⟨parse, hparse, hid, row, hrow⟩

theorem nodup_refs_corpus : treebank.corpus.refs.Nodup := by
  rw [refs_corpus, List.nodup_flatMap]
  constructor
  · intro parse hparse
    exact (hnumbered.parses parse hparse).nodup_parse_refs
  · -- Tokens of different parses have different identifiers.
    have hids : treebank.parses.Pairwise fun first second => first.id ≠ second.id :=
      List.pairwise_map.mp hnumbered.distinct
    refine hids.imp fun {first second} hne => ?_
    intro ref hfirst hsecond
    exact hne ((Parse.mem_refs.mp hfirst).1.trans (Parse.mem_refs.mp hsecond).1.symm)

/-- The mentions are the tokens that have a chain, each with its chain. -/
theorem mentions_eq_filterMap_refs :
    Coreference.mentions treebank.corpus =
      treebank.corpus.refs.filterMap fun ref =>
        (treebank.corpus.chain? ref).map fun chain => (chain, ref) := by
  rw [mentions_corpus, refs_corpus, List.filterMap_flatMap]
  refine List.flatMap_congr fun parse hparse => ?_
  rw [Parse.mentions, Parse.refs, List.filterMap_map]
  refine List.filterMap_congr fun row hrow => ?_
  have htoken : treebank.corpus.token? ⟨parse.id, row.index⟩ = some row :=
    hnumbered.token?_corpus.mpr ⟨parse, hparse, rfl, Sentence.mem_arrange.mp hrow, rfl⟩
  rw [Function.comp_apply, Corpus.chain?, htoken, Option.bind_some]

theorem chain_eq_filter_refs (name : String) :
    (Coreference.ofCorpus treebank.corpus).chain name =
      treebank.corpus.refs.filter fun ref => treebank.corpus.chain? ref = some name := by
  rw [Coreference.chain_ofCorpus, hnumbered.mentions_eq_filterMap_refs, List.filter_filterMap,
    List.map_filterMap, ← List.filterMap_eq_filter]
  refine List.filterMap_congr fun ref _ => ?_
  cases hchain : treebank.corpus.chain? ref with
  | none => simp [Option.guard, hchain]
  | some chain =>
      by_cases hname : chain = name <;> simp [Option.guard, Option.filter, hchain, hname]

/-- The mates of a token are the token, and after it the others of its chain in corpus order. -/
theorem mates_eq_cons_filter_refs (ref : TokenRef) :
    treebank.mates ref = ref :: treebank.corpus.refs.filter fun other =>
      other ≠ ref ∧ (treebank.corpus.chain? ref).isSome ∧
        treebank.corpus.chain? other = treebank.corpus.chain? ref := by
  rw [mates, Coreference.mates, ← Corpus.chain?]
  cases hchain : treebank.corpus.chain? ref with
  | none => simp
  | some name =>
      simp only [hnumbered.chain_eq_filter_refs, List.filter_filter]
      simp

theorem nodup_mates (ref : TokenRef) : (treebank.mates ref).Nodup := by
  rw [hnumbered.mates_eq_cons_filter_refs]
  refine List.nodup_cons.mpr ⟨?_, hnumbered.nodup_refs_corpus.filter _⟩
  intro hself
  have hne := of_decide_eq_true (List.mem_filter.mp hself).2
  exact hne.1 rfl

theorem equivalence_mates : Equivalence fun ref mate => mate ∈ treebank.mates ref where
  refl := treebank.self_mem_mates
  symm := hnumbered.mates_symm
  trans := hnumbered.mates_trans

/-- A token that has a chain is in the list of this chain and in no other. -/
theorem existsUnique_chain (hchain : (treebank.corpus.chain? ref).isSome = true) :
    ∃! name, ref ∈ (Coreference.ofCorpus treebank.corpus).chain name := by
  obtain ⟨name, hname⟩ := Option.isSome_iff_exists.mp hchain
  obtain ⟨token, htoken, -⟩ := Corpus.chain?_eq_some_iff.mp hname
  have href : ref ∈ treebank.corpus.refs := hnumbered.mem_refs_corpus.mpr ⟨token, htoken⟩
  refine ⟨name, ?_, ?_⟩
  · simp only [hnumbered.chain_eq_filter_refs]
    exact List.mem_filter.mpr ⟨href, decide_eq_true hname⟩
  · intro other hother
    simp only [hnumbered.chain_eq_filter_refs] at hother
    have hsame := of_decide_eq_true (List.mem_filter.mp hother).2
    exact Option.some.inj (hsame.symm.trans hname)

theorem size_eq_card_chains :
    (Coreference.ofCorpus treebank.corpus).size =
      (treebank.corpus.refs.filterMap treebank.corpus.chain?).toFinset.card := by
  rw [Coreference.size_ofCorpus, hnumbered.mentions_eq_filterMap_refs, List.map_filterMap]
  refine congrArg (fun names : List String => names.toFinset.card) ?_
  refine List.filterMap_congr fun ref _ => ?_
  cases treebank.corpus.chain? ref <;> rfl

end WellNumbered

/-- **Mates are exactly the chain.**  In a well-numbered treebank, the mates of a token are the
token itself and then, in corpus order and without repetition, all others that have a chain of
the same name; a token without a chain is its only mate.  So being mates is an equivalence,
and mates of tokens are tokens.  The list of a chain holds the tokens that have its name, in
corpus order; a token that has a chain is in exactly one of these lists, and there are
as many of them as different chains.  The lists do not depend on the keys under which they
are kept, if no two names share a key. -/
theorem mates_exact (hnumbered : treebank.WellNumbered) {Key : Type} [DecidableEq Key]
    {key : String → Key} (hkey : Function.Injective key) :
    let corpus := treebank.corpus
    let coreference := Coreference.ofCorpus corpus
    (∀ ref, ref ∈ corpus.refs ↔ ∃ token, corpus.token? ref = some token) ∧
    (∀ ref, coreference.mates corpus ref = ref :: corpus.refs.filter (fun other =>
        other ≠ ref ∧ (corpus.chain? ref).isSome ∧ corpus.chain? other = corpus.chain? ref) ∧
      (coreference.mates corpus ref).Nodup) ∧
    (Equivalence fun ref mate => mate ∈ coreference.mates corpus ref) ∧
    (∀ ref ∈ corpus.refs, ∀ mate ∈ coreference.mates corpus ref, mate ∈ corpus.refs) ∧
    (∀ name, coreference.chain name =
        corpus.refs.filter (fun ref => corpus.chain? ref = some name) ∧
      Coreference.mentionsUnder key corpus (key name) = coreference.chain name) ∧
    (∀ ref ∈ corpus.refs, (corpus.chain? ref).isSome →
      ∃! name, ref ∈ coreference.chain name) ∧
    coreference.size = (corpus.refs.filterMap corpus.chain?).toFinset.card := by
  intro corpus coreference
  refine ⟨fun _ => hnumbered.mem_refs_corpus, fun ref => ⟨?_, ?_⟩, hnumbered.equivalence_mates, ?_,
    fun name => ⟨?_, ?_⟩, fun _ _ => hnumbered.existsUnique_chain,
    hnumbered.size_eq_card_chains⟩
  · exact hnumbered.mates_eq_cons_filter_refs ref
  · exact hnumbered.nodup_mates ref
  · intro ref href mate hmate
    -- A mate is the token itself or listed among the tokens.
    have hmate : mate ∈ treebank.mates ref := hmate
    rw [hnumbered.mates_eq_cons_filter_refs, List.mem_cons] at hmate
    rcases hmate with rfl | hother
    · exact href
    · exact List.mem_of_mem_filter hother
  · exact hnumbered.chain_eq_filter_refs name
  · exact Coreference.mentionsUnder_eq_chain hkey corpus name

/-- The chain of the pronouns runs through both sentences; *sat* has none. -/
theorem mates_exact_sample :
    sample.WellNumbered ∧ Function.Injective String.toList ∧
      let corpus := sample.corpus
      let coreference := Coreference.ofCorpus corpus
      coreference.mates corpus ⟨7, 5⟩ = [⟨7, 5⟩, ⟨7, 2⟩, ⟨2, 1⟩] ∧
      coreference.mates corpus ⟨7, 3⟩ = [⟨7, 3⟩] ∧
      Coreference.mentionsUnder String.toList corpus "c1".toList = [⟨7, 2⟩, ⟨7, 5⟩, ⟨2, 1⟩] ∧
      (∃! name, ⟨2, 1⟩ ∈ coreference.chain name) ∧ coreference.size = 1 := by
  have hnumbered : sample.WellNumbered := by decide
  have hkey : Function.Injective String.toList := fun _ _ => String.toList_injective
  obtain ⟨hrefs, hmates, -, -, hlists, hunique, hsize⟩ := mates_exact hnumbered hkey
  refine ⟨hnumbered, hkey, ?_, ?_, ?_, ?_, ?_⟩
  · rw [(hmates ⟨7, 5⟩).1]
    decide +kernel
  · rw [(hmates ⟨7, 3⟩).1]
    decide +kernel
  · rw [(hlists "c1").2, (hlists "c1").1]
    decide +kernel
  · exact hunique ⟨2, 1⟩ (by decide +kernel) (by decide +kernel)
  · rw [hsize]
    decide +kernel

end Treebank

end Concordancer
