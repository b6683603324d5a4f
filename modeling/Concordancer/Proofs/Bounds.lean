import Concordancer.Concordance
import Concordancer.Proofs.Corpus.Treebank

/-!
# Tables are indexed within their bounds

Tables are filled and read by index, and the bounds of each come from somewhere else: the number of
cells from the last of the arranged rows, positions of tokens from the rows that were counted,
positions of sentences from the sentences that were.  Here every access of this kind fails when it
is out of bounds, and so does bringing a number between two bounds that are out of order; what
does so has a name in `Within`.  If one of them fails, all that it is a part of does.

None does (`indexing_within_bounds`).  Whatever rows there are, in any order, repeated, with gaps,
numbered 0 or with governors that are not there, whatever identifiers are repeated, whatever is
hidden and asked for: what is made with such accesses is there, and is what is made without regard
to bounds.  Numbers are natural numbers here, so that there is always one larger than the largest.

## Strategy

A table fills within its bounds if and only if all of its entries have a cell
(`ofEntriesWithin_eq_some_iff`), so nothing needs to be said of the order in which it is filled.
Numbers have cells because the last of the arranged rows has the largest.  Governors that have none
are left out, which is what filling a table without regard to bounds does with them
(`ofEntries_filter`).  Reading needs that the positions a table holds are positions of elements,
which is known of each table from its entries (`elementWithin_eq`).
-/

namespace Concordancer

/-! ## Accesses that may fail -/

/-- The element at a position, if there is a position.  Fails at one beyond the end. -/
def elementWithin {α : Type} (elements : Array α) : Option Nat → Option (Option α)
  | none => some none
  | some position =>
    if hbound : position < elements.size then some (some elements[position]) else none

theorem elementWithin_eq {α : Type} {elements : Array α} {position? : Option Nat}
    (hbounded : ∀ position, position? = some position → position < elements.size) :
    elementWithin elements position? =
      some (position?.bind fun position => elements[position]?) := by
  cases position? with
  | none => rfl
  | some position =>
      have hbound := hbounded position rfl
      rw [elementWithin, dif_pos hbound, Option.bind_some, Array.getElem?_eq_getElem hbound]

/-- A number brought between two bounds.  Fails if these are out of order. -/
def clampWithin (low high number : Nat) : Option Nat :=
  if low ≤ high then some (min (max number low) high) else none

namespace IndexTable

variable {α : Type}

/-- Adds a value to the cell of an index.  Fails for an index that has no cell. -/
def recordWithin (table : IndexTable α) (entry : Nat × α) : Option (IndexTable α) :=
  if entry.1 < table.cells.size then some (table.record entry.1 entry.2) else none

/-- The table of so many cells that holds these entries.  Fails if one of them has no cell. -/
def ofEntriesWithin (size : Nat) (entries : List (Nat × α)) : Option (IndexTable α) :=
  entries.foldlM recordWithin (blank size)

private theorem foldlM_recordWithin_eq_some_iff {entries : List (Nat × α)}
    {table : IndexTable α} :
    entries.foldlM recordWithin table =
        some (entries.foldl (fun table (index, value) => table.record index value) table) ↔
      ∀ entry ∈ entries, entry.1 < table.cells.size := by
  induction entries generalizing table with
  | nil => exact iff_of_true rfl fun _ hentry => absurd hentry List.not_mem_nil
  | cons entry rest ih =>
      obtain ⟨index, value⟩ := entry
      rw [List.foldlM_cons, recordWithin, List.foldl_cons, List.forall_mem_cons]
      by_cases hfirst : index < table.cells.size
      · rw [if_pos hfirst, Option.bind_eq_bind, Option.bind_some, ih, size_record]
        exact (and_iff_right hfirst).symm
      · rw [if_neg hfirst, Option.bind_eq_bind, Option.bind_none]
        exact iff_of_false (Option.some_ne_none _).symm fun hall => hfirst hall.1

theorem ofEntriesWithin_eq_some_iff {size : Nat} {entries : List (Nat × α)} :
    ofEntriesWithin size entries = some (ofEntries size entries) ↔
      ∀ entry ∈ entries, entry.1 < size := by
  rw [ofEntriesWithin, ofEntries, foldlM_recordWithin_eq_some_iff, size_blank]

theorem record_of_size_le {table : IndexTable α} {index : Nat}
    (hbound : table.cells.size ≤ index) (value : α) : table.record index value = table := by
  have hcells : table.cells.modify index (· ++ [value]) = table.cells := by
    apply Array.ext_getElem?
    intro other
    rw [Array.getElem?_modify]
    split
    · next hsame => rw [← hsame, Array.getElem?_eq_none hbound, Option.map_none]
    · rfl
  rw [record, hcells]

private theorem foldl_record_filter (entries : List (Nat × α)) (table : IndexTable α) :
    (entries.filter fun entry => decide (entry.1 < table.cells.size)).foldl
        (fun table (index, value) => table.record index value) table =
      entries.foldl (fun table (index, value) => table.record index value) table := by
  induction entries generalizing table with
  | nil => rfl
  | cons entry rest ih =>
      obtain ⟨index, value⟩ := entry
      rw [List.filter_cons, List.foldl_cons, ← ih, size_record]
      by_cases hfirst : index < table.cells.size
      · rw [if_pos (decide_eq_true hfirst), List.foldl_cons]
      · have hskipped := record_of_size_le (Nat.not_lt.mp hfirst) value
        rw [if_neg (by simpa using hfirst)]
        simp only [hskipped]

/-- Filling a table without regard to bounds leaves out the entries that have no cell. -/
theorem ofEntries_filter (size : Nat) (entries : List (Nat × α)) :
    ofEntries size (entries.filter fun entry => decide (entry.1 < size)) =
      ofEntries size entries := by
  have hfilter := foldl_record_filter entries (blank size)
  rw [size_blank] at hfilter
  exact hfilter

end IndexTable

/-! ## Sentences -/

namespace Sentence

/-- What the table of positions is filled with: where each row stands, under its number. -/
def positionEntries (arranged : List Token) : List (Nat × Nat) :=
  (arranged.zipIdx.filter fun (token, _) => !token.isRoot).map
    fun (token, position) => (token.index, position)

/-- What the table of dependents is filled with: the number of each row, under its governor. -/
def governedEntries (arranged : List Token) : List (Nat × Nat) :=
  (arranged.filter fun token => !token.isRoot).map fun token => (token.governor, token.index)

/-- A sentence made from rows, with tables that are filled within their bounds.  Rows whose
governor has no cell are not among the dependents. -/
def ofRowsWithin (id : Nat) (rows : List Token) (metadata : Std.TreeMap String String) :
    Option Sentence := do
  let arranged := arrange rows
  let size := tableSize arranged
  let slots ← IndexTable.ofEntriesWithin size (positionEntries arranged)
  let governed ← IndexTable.ofEntriesWithin size <|
    (governedEntries arranged).filter fun entry => decide (entry.1 < size)
  return { id, tokens := arranged.toArray, metadata, slots, governed }

/-- The token that a number stands for, read where the table of positions says. -/
def tokenWithin (sentence : Sentence) (index : Nat) : Option (Option Token) :=
  elementWithin sentence.tokens (sentence.slots.last? index)

/-- Every row has a cell under its number, and a position among the rows. -/
theorem bounded_of_mem_positionEntries {rows : List Token} {entry : Nat × Nat}
    (hentry : entry ∈ positionEntries (arrange rows)) :
    entry.1 < tableSize (arrange rows) ∧ entry.2 < (arrange rows).length := by
  obtain ⟨⟨row, position⟩, hplaced, rfl⟩ := List.mem_map.mp hentry
  have hplaced := List.mem_of_mem_filter hplaced
  have hposition := List.mk_mem_zipIdx_iff_getElem?.mp hplaced
  exact ⟨index_lt_tableSize (arrange_sorted rows) (List.fst_mem_of_mem_zipIdx hplaced),
    (List.getElem?_eq_some_iff.mp hposition).1⟩

theorem ofRowsWithin_eq (id : Nat) (rows : List Token) (metadata : Std.TreeMap String String) :
    ofRowsWithin id rows metadata = some (ofRows id rows metadata) := by
  have hslots : IndexTable.ofEntriesWithin (tableSize (arrange rows))
      (positionEntries (arrange rows)) = some (ofRows id rows metadata).slots :=
    IndexTable.ofEntriesWithin_eq_some_iff.mpr fun _ hentry =>
      (bounded_of_mem_positionEntries hentry).1
  have hgoverned : IndexTable.ofEntriesWithin (tableSize (arrange rows))
      ((governedEntries (arrange rows)).filter fun entry =>
        decide (entry.1 < tableSize (arrange rows))) = some (ofRows id rows metadata).governed := by
    have hkept := IndexTable.ofEntries_filter (tableSize (arrange rows))
      (governedEntries (arrange rows))
    refine Eq.trans ?_ (congrArg some hkept)
    exact IndexTable.ofEntriesWithin_eq_some_iff.mpr fun _ hentry =>
      of_decide_eq_true (List.mem_filter.mp hentry).2
  rw [ofRowsWithin, hslots, hgoverned]
  rfl

theorem lt_size_of_slots {id : Nat} {rows : List Token} {metadata : Std.TreeMap String String}
    {index position : Nat}
    (hslot : (ofRows id rows metadata).slots.last? index = some position) :
    position < (ofRows id rows metadata).tokens.size := by
  have hlisted : position ∈ ((positionEntries (arrange rows)).filter (·.1 = index)).map (·.2) := by
    rw [← IndexTable.all_ofEntries_of_bounded fun _ hentry =>
      (bounded_of_mem_positionEntries hentry).1]
    exact List.mem_of_getLast? hslot
  obtain ⟨entry, hentry, rfl⟩ := List.mem_map.mp hlisted
  exact (bounded_of_mem_positionEntries (List.mem_of_mem_filter hentry)).2

theorem tokenWithin_eq (id : Nat) (rows : List Token) (metadata : Std.TreeMap String String)
    (index : Nat) :
    (ofRows id rows metadata).tokenWithin index = some ((ofRows id rows metadata).token? index) :=
  elementWithin_eq fun _ => lt_size_of_slots

end Sentence

namespace VisibleSentence

/-- The numbers of the tokens that are visible, in sentence order. -/
def listed (filter : WordFilter) (lexicon : Lexicon) (sentence : Sentence) : List Nat :=
  (sentence.tokens.toList.filter fun token =>
    !token.isRoot && filter.keeps lexicon token.word).map Token.index

/-- The visible part of a sentence, with a table of positions that is filled within its bounds. -/
def ofSentenceWithin (filter : WordFilter) (lexicon : Lexicon) (sentence : Sentence) :
    Option VisibleSentence := do
  let indices := listed filter lexicon sentence
  let positions ← IndexTable.ofEntriesWithin (Sentence.tableSize sentence.tokens.toList)
    indices.zipIdx
  return { sentence, indices := indices.toArray, positions }

theorem ofSentenceWithin_eq (filter : WordFilter) (lexicon : Lexicon) (id : Nat)
    (rows : List Token) (metadata : Std.TreeMap String String) :
    ofSentenceWithin filter lexicon (.ofRows id rows metadata) =
      some (ofSentence filter lexicon (.ofRows id rows metadata)) := by
  have hpositions : IndexTable.ofEntriesWithin (Sentence.tableSize (Sentence.arrange rows))
      (listed filter lexicon (.ofRows id rows metadata)).zipIdx =
        some (ofSentence filter lexicon (.ofRows id rows metadata)).positions := by
    refine IndexTable.ofEntriesWithin_eq_some_iff.mpr fun entry hentry => ?_
    obtain ⟨row, hrow, hindex⟩ := List.mem_map.mp (List.fst_mem_of_mem_zipIdx hentry)
    rw [← hindex]
    exact Sentence.index_lt_tableSize (Sentence.arrange_sorted rows)
      (List.mem_of_mem_filter hrow)
  unfold ofSentenceWithin
  simp only [Sentence.ofRows] at hpositions ⊢
  rw [hpositions]
  rfl

end VisibleSentence

/-! ## Corpora -/

namespace Corpus

/-- The sentence with an identifier, read where the table of positions says. -/
def sentenceWithin (corpus : Corpus) (id : Nat) : Option (Option Sentence) :=
  elementWithin corpus.sentences (corpus.position? id)

private theorem lt_of_getElem?_foldl_insert {entries : List (Sentence × Nat)}
    {positions : Std.TreeMap Nat Nat} {size : Nat} (hentries : ∀ entry ∈ entries, entry.2 < size)
    (hpositions : ∀ id position : Nat, positions[id]? = some position → position < size) :
    ∀ id position : Nat, (entries.foldl (fun positions (sentence, position) =>
      positions.insert sentence.id position) positions)[id]? = some position → position < size := by
  induction entries generalizing positions with
  | nil => exact hpositions
  | cons entry rest ih =>
      obtain ⟨hfirst, hrest⟩ := List.forall_mem_cons.mp hentries
      refine ih hrest fun id position hposition => ?_
      rw [Std.TreeMap.getElem?_insert] at hposition
      split at hposition
      · exact Option.some.inj hposition ▸ hfirst
      · exact hpositions id position hposition

theorem lt_size_of_position? {source : String} {sentences : List Sentence} {id position : Nat}
    (hposition : (ofSentences source sentences).position? id = some position) :
    position < sentences.length := by
  refine lt_of_getElem?_foldl_insert (fun entry hentry => ?_) (fun _ _ hnone => ?_) id position
    hposition
  · exact (List.getElem?_eq_some_iff.mp (List.mem_zipIdx_iff_getElem?.mp hentry)).1
  · rw [Std.TreeMap.getElem?_emptyc] at hnone
    cases hnone

theorem sentenceWithin_eq (source : String) (sentences : List Sentence) (id : Nat) :
    (ofSentences source sentences).sentenceWithin id =
      some ((ofSentences source sentences).sentence? id) :=
  elementWithin_eq fun _ => lt_size_of_position?

end Corpus

namespace VisibleCorpus

/-- The visible part of a corpus, of whose sentences each is made within bounds. -/
def ofCorpusWithin (filter : WordFilter) (lexicon : Lexicon) (corpus : Corpus) :
    Option VisibleCorpus := do
  let sentences ← corpus.sentences.toList.mapM (VisibleSentence.ofSentenceWithin filter lexicon)
  return ⟨corpus, sentences.toArray⟩

/-- The visible sentence with an identifier, read at the position of the sentence. -/
def sentenceWithin (visible : VisibleCorpus) (id : Nat) : Option (Option VisibleSentence) :=
  elementWithin visible.sentences (visible.corpus.position? id)

/-- Visible sentences are as many as sentences, so that these have the same positions. -/
theorem sentenceWithin_eq (filter : WordFilter) (lexicon : Lexicon) (source : String)
    (sentences : List Sentence) (id : Nat) :
    (ofCorpus filter lexicon (.ofSentences source sentences)).sentenceWithin id =
      some ((ofCorpus filter lexicon (.ofSentences source sentences)).sentence? id) := by
  refine elementWithin_eq fun position hposition => ?_
  have hbound := Corpus.lt_size_of_position? hposition
  rw [← Array.length_toList, sentences_ofCorpus, List.length_map]
  exact hbound

end VisibleCorpus

namespace Treebank

variable (treebank : Treebank) (filter : WordFilter) (lexicon : Lexicon)

/-- The corpus of a treebank, of whose sentences each is made within bounds. -/
def corpusWithin : Option Corpus := do
  let sentences ← treebank.parses.mapM fun parse =>
    Sentence.ofRowsWithin parse.id parse.rows parse.metadata
  return .ofSentences treebank.source sentences

theorem corpusWithin_eq : treebank.corpusWithin = some treebank.corpus := by
  have hsentence : (fun parse : Parse =>
      Sentence.ofRowsWithin parse.id parse.rows parse.metadata) =
        fun parse => pure parse.sentence := by
    funext parse
    exact Sentence.ofRowsWithin_eq parse.id parse.rows parse.metadata
  rw [corpusWithin, hsentence, List.mapM_pure]
  rfl

theorem ofCorpusWithin_eq :
    VisibleCorpus.ofCorpusWithin filter lexicon treebank.corpus =
      some (treebank.visible filter lexicon) := by
  have hsentence : VisibleSentence.ofSentenceWithin filter lexicon ∘ Parse.sentence =
      fun parse => pure (parse.visible filter lexicon) := by
    funext parse
    exact VisibleSentence.ofSentenceWithin_eq filter lexicon parse.id parse.rows parse.metadata
  have hsentences : treebank.corpus.sentences.toList = treebank.parses.map Parse.sentence := rfl
  rw [VisibleCorpus.ofCorpusWithin, hsentences, List.mapM_map, hsentence, List.mapM_pure,
    ← sentences_visible]
  rfl

end Treebank

/-! ## Concordance lines -/

/-- The line of a span with its text, where the right context is cut within bounds. -/
def Concordance.lineWithin (concordance : Concordance) (visible : VisibleSentence) (span : Span)
    (matched : String) : Told (Option (Option ConcordanceLine × Concordance)) := do
  if matched.isEmpty || isAllPlaceholders matched concordance.separator then
    pure (some (none, concordance))
  else
    let id := visible.sentence.id
    let tokens ← match concordance.contexts[id]? with
      | some tokens => pure tokens
      | none => concordance.contextTokens visible
    let leftEnd := min span.leftEnd tokens.length
    pure <| (clampWithin leftEnd tokens.length span.rightStart).map fun rightStart =>
      let context := context visible span concordance.separator tokens
      let line := {
        source := concordance.source
        speaker := visible.sentence.speaker?.getD placeholder
        left := context 0 leftEnd
        matched
        right := context rightStart tokens.length }
      (some line, { concordance with contexts := concordance.contexts.insert id tokens })

/-- A result that is only looked at keeps its messages. -/
private theorem Told.map_bind_pure {α β γ : Type} (told : Told α) (f : α → β) (g : β → γ) :
    (told >>= fun a => pure (g (f a))) = g <$> (told >>= fun a => pure (f a)) := by
  obtain ⟨value, messages⟩ := told
  show (⟨g (f value), messages ++ []⟩ : Told γ) = ⟨g (f value), messages ++ [] ++ []⟩
  rw [List.append_nil, List.append_nil]

theorem Concordance.lineWithin_eq (concordance : Concordance) (visible : VisibleSentence)
    (span : Span) (matched : String) :
    concordance.lineWithin visible span matched =
      some <$> concordance.line visible span matched := by
  have hclamp : ∀ tokens : List String,
      clampWithin (min span.leftEnd tokens.length) tokens.length span.rightStart =
        some (min (max span.rightStart (min span.leftEnd tokens.length)) tokens.length) :=
    fun tokens => if_pos (Nat.min_le_right span.leftEnd tokens.length)
  unfold lineWithin line
  split
  · rfl
  · simp only [hclamp, Option.map_some]
    -- The tokens of the contexts are known from an earlier line, or are rendered now.
    cases concordance.contexts[visible.sentence.id]? with
    | some tokens => exact Told.map_bind_pure (pure tokens) _ some
    | none => exact Told.map_bind_pure (concordance.contextTokens visible) _ some

/-! ## Everything that is indexed -/

/-- **No table is indexed out of bounds.**  Let the rows of a treebank be any rows, their numbers
and the identifiers of sentences repeated or not, and let anything be hidden.  Accesses that fail
out of bounds do not fail:

* in making its sentences and the visible parts of these, which is what queries search;
* in looking up any number in a sentence, or any identifier among the sentences or their visible
  parts, whether it is there or not;
* in any line of a concordance, where the bounds of the right context are in order for any span.

What they give is what the model has without regard to bounds. -/
theorem Treebank.indexing_within_bounds (treebank : Treebank) (filter : WordFilter)
    (lexicon : Lexicon) :
    treebank.corpusWithin = some treebank.corpus ∧
    (∀ (parse : Parse) (index : Nat),
      parse.sentence.tokenWithin index = some (parse.sentence.token? index)) ∧
    VisibleCorpus.ofCorpusWithin filter lexicon treebank.corpus =
      some (treebank.visible filter lexicon) ∧
    (∀ id, treebank.corpus.sentenceWithin id = some (treebank.corpus.sentence? id) ∧
      (treebank.visible filter lexicon).sentenceWithin id =
        some ((treebank.visible filter lexicon).sentence? id)) ∧
    ∀ (concordance : Concordance) (visible : VisibleSentence) (span : Span) (matched : String),
      concordance.lineWithin visible span matched =
        some <$> concordance.line visible span matched := by
  refine ⟨treebank.corpusWithin_eq, ?_, treebank.ofCorpusWithin_eq filter lexicon, ?_,
    Concordance.lineWithin_eq⟩
  · intro parse index
    exact Sentence.tokenWithin_eq parse.id parse.rows parse.metadata index
  · intro id
    exact ⟨Corpus.sentenceWithin_eq treebank.source (treebank.parses.map Parse.sentence) id,
      VisibleCorpus.sentenceWithin_eq filter lexicon treebank.source
        (treebank.parses.map Parse.sentence) id⟩

-- Accesses of this kind do fail where bounds are too narrow.
example : (IndexTable.ofEntriesWithin 2 [(1, 'a'), (2, 'b')]).isNone = true ∧
    elementWithin #['a'] (some 1) = none ∧ clampWithin 3 2 0 = none := by
  decide

end Concordancer
