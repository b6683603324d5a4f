import Concordancer.Proofs.Corpus.Roots

/-!
# Other texts in the same trees

A rewording gives rows other texts.  It keeps their numbers, their governors and what is missing:
an annotation may read otherwise, but it is there or not there as before.  The
words may decide what is visible, so one filter is compared with another that keeps a reworded row
if the former keeps the row.

Then the same numbers are visible at the same positions (`looksLike_reworded`), every move leads to
the same tokens (`follow_reworded`, `shift_reworded`), and the same features are there to be read
(`isSome_read_reworded`), whatever the lexicon has for their texts.
-/

namespace Concordancer

/-- Other texts for rows, with the numbers and the governors that they have, and with no
annotation more or less. -/
structure Rewording where
  reword : Token → Token
  index_reword : ∀ row, (reword row).index = row.index
  governor_reword : ∀ row, (reword row).governor = row.governor
  isSome_baseForm : ∀ row, (reword row).baseForm.isSome = row.baseForm.isSome
  isSome_tag : ∀ row, (reword row).tag.isSome = row.tag.isSome
  isSome_function : ∀ row, (reword row).function.isSome = row.function.isSome
  isSome_entity : ∀ row, (reword row).entity.isSome = row.entity.isSome

namespace Rewording

attribute [simp] index_reword governor_reword

/-- Changes all texts alike. -/
def ofTexts (change : String → String) : Rewording where
  reword row :=
    { row with
      word := change row.word, baseForm := row.baseForm.map change, tag := row.tag.map change
      function := row.function.map change, entity := row.entity.map change }
  index_reword _ := rfl
  governor_reword _ := rfl
  isSome_baseForm _ := Option.isSome_map
  isSome_tag _ := Option.isSome_map
  isSome_function _ := Option.isSome_map
  isSome_entity _ := Option.isSome_map

variable (rewording : Rewording)

@[simp] theorem isRoot_reword (row : Token) : (rewording.reword row).isRoot = row.isRoot := by
  rw [Token.isRoot, index_reword, Token.isRoot]

/-! ## Arranged rows -/

private theorem place_map (row : Token) (rows : List Token) :
    Sentence.place (rewording.reword row) (rows.map rewording.reword) =
      (Sentence.place row rows).map rewording.reword := by
  induction rows with
  | nil => rfl
  | cons other rest ih =>
      rw [List.map_cons, Sentence.place, Sentence.place, index_reword, index_reword, ih]
      split <;> rfl

/-- Reworded rows stand as the rows do. -/
theorem arrange_map (rows : List Token) :
    Sentence.arrange (rows.map rewording.reword) =
      (Sentence.arrange rows).map rewording.reword := by
  induction rows with
  | nil => rfl
  | cons row rest ih => rw [List.map_cons, Sentence.arrange, Sentence.arrange, ih, place_map]

theorem tableSize_map (arranged : List Token) :
    Sentence.tableSize (arranged.map rewording.reword) = Sentence.tableSize arranged := by
  have hindices : Token.index ∘ rewording.reword = Token.index :=
    funext rewording.index_reword
  rw [Sentence.tableSize, List.getLast?_map, Option.map_map, hindices, Sentence.tableSize]

end Rewording

/-! ## Sentences -/

namespace Parse

/-- The parse with reworded rows. -/
def reworded (rewording : Rewording) (parse : Parse) : Parse :=
  { parse with rows := parse.rows.map rewording.reword }

variable (rewording : Rewording) (parse : Parse)

@[simp] theorem id_reworded : (parse.reworded rewording).id = parse.id := rfl

theorem arrange_reworded :
    Sentence.arrange (parse.reworded rewording).rows =
      (Sentence.arrange parse.rows).map rewording.reword :=
  rewording.arrange_map parse.rows

/-- A number stands for the reworded token. -/
theorem token?_reworded (index : Nat) :
    (parse.reworded rewording).sentence.token? index =
      (parse.sentence.token? index).map rewording.reword := by
  unfold sentence
  rw [Sentence.token?_ofRows, Sentence.token?_ofRows, arrange_reworded, List.filter_map,
    List.getLast?_map]
  simp only [Function.comp_def, Rewording.isRoot_reword, Rewording.index_reword]

theorem governor?_reworded (index : Nat) :
    (parse.reworded rewording).sentence.governor? index = parse.sentence.governor? index := by
  rw [Sentence.governor?, token?_reworded, Option.map_map, Sentence.governor?]
  exact congrArg (Option.map · _) (funext rewording.governor_reword)

theorem dependents_reworded (index : Nat) :
    (parse.reworded rewording).sentence.dependents index = parse.sentence.dependents index := by
  unfold sentence
  rw [Sentence.dependents_ofRows, Sentence.dependents_ofRows, arrange_reworded,
    Rewording.tableSize_map, List.filter_map, List.map_map]
  simp only [Function.comp_def, Rewording.isRoot_reword, Rewording.governor_reword,
    Rewording.index_reword]

theorem inRole_reworded (role : Role) (index : Nat) :
    (parse.reworded rewording).sentence.inRole role index = parse.sentence.inRole role index := by
  cases role with
  | self => rfl
  | governor => rw [Sentence.inRole, governor?_reworded, Sentence.inRole]
  | dependent => rw [Sentence.inRole, dependents_reworded, Sentence.inRole]

theorem distance_reworded (limit index : Nat) :
    ((parse.reworded rewording).sentence.distance limit index) =
      parse.sentence.distance limit index := by
  have hwalk := Sentence.walk_congr (parse.governor?_reworded rewording) limit index
  rw [Sentence.distance, hwalk, Sentence.distance]
  rfl

/-- The same numbers are visible at the same positions, if words are kept alike. -/
theorem looksLike_reworded {filter other : WordFilter} {lexicon otherLexicon : Lexicon}
    (hkeeps : ∀ row ∈ parse.rows,
      other.keeps otherLexicon (rewording.reword row).word = filter.keeps lexicon row.word) :
    (parse.visible filter lexicon).LooksLike
      ((parse.reworded rewording).visible other otherLexicon) := by
  have hindices : (parse.visible filter lexicon).indices.toList =
      ((parse.reworded rewording).visible other otherLexicon).indices.toList := by
    show List.map Token.index ((Sentence.arrange parse.rows).filter _) =
      List.map Token.index ((Sentence.arrange (parse.reworded rewording).rows).filter _)
    rw [arrange_reworded, List.filter_map, List.map_map]
    have hindex : Token.index ∘ rewording.reword = Token.index := funext rewording.index_reword
    rw [hindex]
    refine congrArg (List.map Token.index) (List.filter_congr fun row hrow => ?_)
    rw [Function.comp_apply, Rewording.isRoot_reword, hkeeps row (Sentence.mem_arrange.mp hrow)]
  refine ⟨rfl, Array.toList_inj.mp hindices, fun index => ?_⟩
  rw [position?_visible, position?_visible, hindices]

end Parse

/-! ## Treebanks -/

namespace Treebank

/-- The treebank with reworded rows. -/
def reworded (rewording : Rewording) (treebank : Treebank) : Treebank :=
  { treebank with parses := treebank.parses.map (Parse.reworded rewording) }

theorem parse?_reworded (rewording : Rewording) (treebank : Treebank) (id : Nat) :
    (treebank.reworded rewording).parse? id =
      (treebank.parse? id).map (Parse.reworded rewording) := by
  unfold parse? reworded
  rw [← List.map_reverse, List.find?_map]
  rfl

section

variable {treebank : Treebank} {rewording : Rewording} {navigator other : Navigator}
  {filter otherFilter : WordFilter} {lexicon otherLexicon : Lexicon}

variable (hvisible : navigator.visible = treebank.visible filter lexicon)
  (hother : other.visible = (treebank.reworded rewording).visible otherFilter otherLexicon)

include hvisible hother

section

variable (hkeeps : ∀ row ∈ treebank.rows,
  otherFilter.keeps otherLexicon (rewording.reword row).word = filter.keeps lexicon row.word)

include hkeeps

/-- The visible sentences that an identifier stands for look alike. -/
theorem sentence?_reworded (id : Nat) :
    navigator.visible.sentence? id = none ∧ other.visible.sentence? id = none ∨
      ∃ parse : Parse, ∃ visible reworded : VisibleSentence,
        navigator.visible.sentence? id = some visible ∧
        other.visible.sentence? id = some reworded ∧ visible.LooksLike reworded ∧
        visible.sentence = parse.sentence ∧
        reworded.sentence = (parse.reworded rewording).sentence := by
  rw [hvisible, hother, sentence?_visible_eq_parse?, sentence?_visible_eq_parse?, parse?_reworded]
  cases hparse : treebank.parse? id with
  | none => exact .inl ⟨rfl, rfl⟩
  | some parse =>
      refine .inr ⟨parse, _, _, rfl, rfl, parse.looksLike_reworded rewording ?_, rfl, rfl⟩
      exact fun row hrow =>
        hkeeps row (List.mem_flatMap.mpr ⟨parse, mem_of_parse? hparse, hrow⟩)

theorem follow_reworded : other.follow = navigator.follow := by
  funext ref step
  have hresolve : ∀ role, other.resolve ref role = navigator.resolve ref role := by
    intro role
    rcases sentence?_reworded hvisible hother hkeeps ref.sentence with
      ⟨hnone, hnone'⟩ | ⟨parse, visible, reworded, hfound, hfound', halike, hsame, hsame'⟩
    · rw [Navigator.resolve, hnone', Navigator.resolve, hnone]
    · rw [Navigator.resolve_eq_inRole hfound, Navigator.resolve_eq_inRole hfound', hsame, hsame',
        Parse.inRole_reworded, halike.shows_eq]
  cases step with
  | governor => exact hresolve .governor
  | dependent => exact hresolve .dependent
  | next =>
      rw [Navigator.follow, Navigator.follow, Navigator.next?, Navigator.next?]
      rcases sentence?_reworded hvisible hother hkeeps ref.sentence with
        ⟨hnone, hnone'⟩ | ⟨parse, visible, reworded, hfound, hfound', halike, -, -⟩
      · rw [hnone', hnone]
      · rw [hfound', hfound]
        simp only [Option.bind_eq_bind, Option.bind_some, halike.position?_eq, halike.at?_eq]

theorem shiftBy_reworded : other.shiftBy = navigator.shiftBy := by
  funext ref adjacency
  cases adjacency with
  | none => rfl
  | some offset =>
      rw [Navigator.shiftBy, Navigator.shiftBy, Navigator.shift, Navigator.shift]
      rcases sentence?_reworded hvisible hother hkeeps ref.sentence with
        ⟨hnone, hnone'⟩ | ⟨parse, visible, reworded, hfound, hfound', halike, hsame, hsame'⟩
      · rw [hnone', hnone]
      · rw [hfound', hfound]
        simp only [Option.bind_eq_bind, Option.bind_some, hsame, hsame', Parse.token?_reworded,
          Option.isSome_map, halike.shows_eq]

end

/-- The same features are there to be read. -/
theorem isSome_read_reworded (hlimit : other.distanceLimit = navigator.distanceLimit)
    (ref : TokenRef) (feature : Feature) :
    (other.read ref feature).value.isSome = (navigator.read ref feature).value.isSome := by
  have hcorpus : navigator.visible.corpus = treebank.corpus := by rw [hvisible]; rfl
  have hcorpus' : other.visible.corpus = (treebank.reworded rewording).corpus := by
    rw [hother]
    rfl
  unfold Navigator.read
  rw [hcorpus, hcorpus', sentence?_eq_parse?, sentence?_eq_parse?, parse?_reworded]
  cases treebank.parse? ref.sentence with
  | none => rfl
  | some parse =>
      simp only [Option.map_some, Parse.token?_reworded]
      cases parse.sentence.token? ref.index with
      | none => rfl
      | some token =>
          simp only [Option.map_some]
          cases feature with
          | word => rfl
          | baseForm => exact rewording.isSome_baseForm token
          | tag => exact rewording.isSome_tag token
          | wordClass => simp [rewording.isSome_tag]
          | function => simp [rewording.isSome_function]
          | entity => exact rewording.isSome_entity token
          | index => rfl
          | sentenceId => rfl
          | distance => simp [Parse.distance_reworded, hlimit]

end

end Treebank

end Concordancer
