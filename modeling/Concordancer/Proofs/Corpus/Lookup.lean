import Concordancer.Visible
import Mathlib.Data.List.Nodup

/-!
# Looking sentences up

An identifier stands for the last sentence that has it (`sentence?_ofSentences`), and
the visible corpus answers with the visible part of the same sentence
(`sentence?_ofCorpus`).  What else is known of look-ups follows from these two: the
answer has the identifier that was asked for, it is one of the sentences, and where
no identifier is repeated every sentence is found.
-/

namespace Concordancer

namespace Corpus

private theorem getElem?_foldl_insert (entries : List (Sentence × Nat))
    (positions : Std.TreeMap Nat Nat) (id : Nat) :
    (entries.foldl (fun positions (sentence, position) => positions.insert sentence.id position)
        positions)[id]? =
      ((entries.reverse.find? fun entry => entry.1.id = id).map (·.2)).or positions[id]? := by
  induction entries generalizing positions with
  | nil => rfl
  | cons entry rest ih =>
      -- Later entries overwrite this one, so it is looked at last.
      rw [List.foldl_cons, ih, List.reverse_cons, List.find?_append, Option.map_or, Option.or_assoc,
        Std.TreeMap.getElem?_insert]
      by_cases hid : entry.1.id = id <;> simp [hid]

/-- An identifier stands for the last sentence that has it. -/
theorem sentence?_ofSentences (source : String) (sentences : List Sentence) (id : Nat) :
    (ofSentences source sentences).sentence? id =
      sentences.reverse.find? fun sentence => sentence.id = id := by
  have hsentences : sentences.reverse = sentences.zipIdx.reverse.map (·.1) := by
    rw [List.map_reverse, List.zipIdx_map_fst]
  simp only [sentence?, position?, ofSentences]
  rw [getElem?_foldl_insert, hsentences, List.find?_map]
  simp only [Function.comp_def]
  cases hfound : sentences.zipIdx.reverse.find? fun entry => entry.1.id = id with
  | none => simp
  | some entry =>
      have hentry : entry ∈ sentences.zipIdx :=
        List.mem_reverse.mp (List.mem_of_find?_eq_some hfound)
      simpa [hfound] using List.mem_zipIdx_iff_getElem?.mp hentry

theorem id_of_sentence? {source : String} {sentences : List Sentence} {id : Nat}
    {sentence : Sentence} (hfound : (ofSentences source sentences).sentence? id = some sentence) :
    sentence.id = id := by
  rw [sentence?_ofSentences] at hfound
  simpa using List.find?_some hfound

theorem mem_of_sentence? {source : String} {sentences : List Sentence} {id : Nat}
    {sentence : Sentence} (hfound : (ofSentences source sentences).sentence? id = some sentence) :
    sentence ∈ sentences := by
  rw [sentence?_ofSentences] at hfound
  exact List.mem_reverse.mp (List.mem_of_find?_eq_some hfound)

/-- Without repeated identifiers, every sentence is found under its own. -/
theorem sentence?_eq_some_iff {source : String} {sentences : List Sentence}
    (hdistinct : (sentences.map Sentence.id).Nodup) {id : Nat} {sentence : Sentence} :
    (ofSentences source sentences).sentence? id = some sentence ↔
      sentence ∈ sentences ∧ sentence.id = id := by
  constructor
  · intro hfound
    exact ⟨mem_of_sentence? hfound, id_of_sentence? hfound⟩
  · rintro ⟨hmem, rfl⟩
    cases hfound : (ofSentences source sentences).sentence? sentence.id with
    | none =>
        rw [sentence?_ofSentences, List.find?_eq_none] at hfound
        exact absurd (hfound sentence (List.mem_reverse.mpr hmem)) (by simp)
    | some other =>
        rw [List.inj_on_of_nodup_map hdistinct (mem_of_sentence? hfound) hmem
          (id_of_sentence? hfound)]

end Corpus

namespace VisibleCorpus

/-- Every sentence is found under its own identifier. -/
def KnowsIds (visible : VisibleCorpus) : Prop :=
  ∀ id sentence, visible.sentence? id = some sentence → sentence.sentence.id = id

variable (filter : WordFilter) (lexicon : Lexicon)

/-- The visible sentence under an identifier is the visible part of the sentence there. -/
theorem sentence?_ofCorpus (corpus : Corpus) (id : Nat) :
    (ofCorpus filter lexicon corpus).sentence? id =
      (corpus.sentence? id).map (.ofSentence filter lexicon) := by
  simp only [sentence?, ofCorpus, Corpus.sentence?]
  cases corpus.position? id with
  | none => rfl
  | some position => simp

@[simp] theorem sentences_ofCorpus (source : String) (sentences : List Sentence) :
    (ofCorpus filter lexicon (.ofSentences source sentences)).sentences.toList =
      sentences.map (.ofSentence filter lexicon) := by
  simp [ofCorpus, Corpus.ofSentences]

theorem knowsIds_ofSentences (source : String) (sentences : List Sentence) :
    (ofCorpus filter lexicon (.ofSentences source sentences)).KnowsIds := by
  intro id visible hfound
  rw [sentence?_ofCorpus] at hfound
  obtain ⟨sentence, hsentence, rfl⟩ := Option.map_eq_some_iff.mp hfound
  exact Corpus.id_of_sentence? hsentence

end VisibleCorpus

end Concordancer
