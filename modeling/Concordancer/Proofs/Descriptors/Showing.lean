import Concordancer.Proofs.Descriptors.Spelling
import Concordancer.Proofs.Refusals

/-!
# The language of show descriptors

The show descriptor `c` asks for a count.  Every other one is that of a column, and is written
as the letter of an expansion, an adjacency, the letters of any number of steps and the letter
of a feature, in this order, where each of them may be missing.  `ColumnSpelling` says which
texts this gives.  Show descriptors compile if and only if each is of this language
(`compile_iff_columns_spelled`).

One text is spelled in two ways: `n` is the letter of grams and that of a named entity.  It is
the former wherever it comes first (`ColumnMeaning`), and then there is one way only to read a
text.  The letter of the feature is looked for at the end, and no step has such a letter, so
the rest are steps.

## Strategy

One descriptor is read part by part (`ofText_eq_ok_iff`, `ofDescriptor_eq_ok_iff`).  A step
lemma says how it extends a layout (`addText_eq_ok_iff`), and by induction this gives the
layout of a whole list (`compile_eq_ok_iff`).  Which descriptor is refused is known from
`refusal?_compile`: the first one that is refused when it stands alone.
-/

namespace Concordancer

/-! ## Spelling -/

/-- How an expansion is written. -/
inductive ExpansionSpelling : List Char → Option Expansion → Prop
  | none : ExpansionSpelling [] none
  | gram : ExpansionSpelling ['n'] (some .gram)
  | window : ExpansionSpelling ['b'] (some .window)

/-- How steps are written.  Each has a letter, and `m` may stand anywhere among these. -/
inductive StepsSpelling : List Char → List Step → Prop
  | nil : StepsSpelling [] []
  | stay {letters : List Char} {steps : List Step} (hspelling : StepsSpelling letters steps) :
    StepsSpelling ('m' :: letters) steps
  | governor {letters : List Char} {steps : List Step} (hspelling : StepsSpelling letters steps) :
    StepsSpelling ('g' :: letters) (.governor :: steps)
  | dependent {letters : List Char} {steps : List Step} (hspelling : StepsSpelling letters steps) :
    StepsSpelling ('d' :: letters) (.dependent :: steps)
  | next {letters : List Char} {steps : List Step} (hspelling : StepsSpelling letters steps) :
    StepsSpelling ('o' :: letters) (.next :: steps)

/-- How a column is written: an expansion, an adjacency, steps and a feature, and nothing
else. -/
inductive ColumnSpelling : List Char → Column → Prop
  | intro {letter sign stepLetters featureLetter : List Char} {expansion : Option Expansion}
    {adjacency : Option Int} {steps : List Step} {feature : Feature}
    (hexpansion : ExpansionSpelling letter expansion)
    (hsign : Descriptor.AdjacencySpelling sign adjacency)
    (hsteps : StepsSpelling stepLetters steps) (hfeature : FeatureSpelling featureLetter feature) :
    ColumnSpelling (letter ++ (sign ++ (stepLetters ++ featureLetter)))
      ⟨expansion, adjacency, steps, feature⟩

/-- The column that a text stands for.  A first letter that can be that of an expansion is. -/
structure ColumnMeaning (text : List Char) (column : Column) : Prop where
  spelled : ColumnSpelling text column
  gram_of_head? : text.head? = some 'n' → column.expansion = some .gram
  window_of_head? : text.head? = some 'b' → column.expansion = some .window

/-- How a show descriptor is written. -/
def ShowSpelling (text : String) : Prop :=
  text = "c" ∨ ∃ column, ColumnSpelling text.toList column

namespace ExpansionSpelling

theorem of_ofLetter? {letter : Char} {expansion : Expansion}
    (hletter : Expansion.ofLetter? letter = some expansion) :
    ExpansionSpelling [letter] (some expansion) := by
  unfold Expansion.ofLetter? at hletter
  split at hletter
  all_goals cases hletter
  all_goals constructor

theorem eq_of_same {letter other : List Char} {expansion : Option Expansion}
    (hletter : ExpansionSpelling letter expansion) (hother : ExpansionSpelling other expansion) :
    letter = other := by
  cases hletter with
  | none =>
      cases hother
      rfl
  | gram =>
      cases hother
      rfl
  | window =>
      cases hother
      rfl

end ExpansionSpelling

/-- A text has its meaning if the expansion is that of its first letter. -/
theorem columnMeaning_iff {text : List Char} {column : Column} :
    ColumnMeaning text column ↔
      ColumnSpelling text column ∧
        text.head?.bind Expansion.ofLetter? = column.expansion := by
  constructor
  · rintro ⟨hspelling, hgram, hwindow⟩
    refine ⟨hspelling, ?_⟩
    cases hspelling with
    | intro hexpansion hsign hsteps hfeature =>
        cases hexpansion with
        | none =>
            refine Option.bind_eq_none_iff.mpr fun letter hhead => ?_
            unfold Expansion.ofLetter?
            split
            · cases hgram hhead
            · cases hwindow hhead
            · rfl
        | gram => rfl
        | window => rfl
  · rintro ⟨hspelling, hexpansion⟩
    refine ⟨hspelling, ?_, ?_⟩
    · intro hhead
      rw [← hexpansion, hhead]
      rfl
    · intro hhead
      rw [← hexpansion, hhead]
      rfl

/-! ## Steps and features -/

namespace StepsSpelling

variable {letters : List Char} {steps : List Step}

theorem of_ofLetter? {letter : Char} {step : Step} (hletter : Step.ofLetter? letter = some step)
    (hspelling : StepsSpelling letters steps) :
    StepsSpelling (letter :: letters) (step :: steps) := by
  unfold Step.ofLetter? at hletter
  split at hletter
  all_goals cases hletter
  · exact .governor hspelling
  · exact .dependent hspelling
  · exact .next hspelling

/-- What holds of the four letters holds of each letter of steps. -/
theorem forall_letters {p : Char → Prop} (hspelling : StepsSpelling letters steps) (hstay : p 'm')
    (hgovernor : p 'g') (hdependent : p 'd') (hnext : p 'o') : ∀ letter ∈ letters, p letter := by
  induction hspelling with
  | nil => exact List.forall_mem_nil _
  | stay _ ih => exact List.forall_mem_cons.mpr ⟨hstay, ih⟩
  | governor _ ih => exact List.forall_mem_cons.mpr ⟨hgovernor, ih⟩
  | dependent _ ih => exact List.forall_mem_cons.mpr ⟨hdependent, ih⟩
  | next _ ih => exact List.forall_mem_cons.mpr ⟨hnext, ih⟩

theorem isAlpha (hspelling : StepsSpelling letters steps) :
    ∀ letter ∈ letters, letter.isAlpha = true :=
  hspelling.forall_letters rfl rfl rfl rfl

theorem ofLetter?_eq_none (hspelling : StepsSpelling letters steps) :
    letters.getLast?.bind Feature.ofLetter? = none := by
  have hother : ∀ letter ∈ letters, Feature.ofLetter? letter = none :=
    hspelling.forall_letters rfl rfl rfl rfl
  exact Option.bind_eq_none_iff.mpr fun letter hlast =>
    hother letter (List.mem_of_getLast? hlast)

end StepsSpelling

namespace Column

variable {letters : List Char} {steps : List Step} {feature : Feature}

private theorem readSteps_cons_eq_ok_iff {letter : Char} (hstay : letter ≠ 'm') :
    readSteps (letter :: letters) = .ok steps ↔
      ∃ step others, Step.ofLetter? letter = some step ∧ readSteps letters = .ok others ∧
        steps = step :: others := by
  have hfilter : (letter :: letters).filter (· ≠ 'm') = letter :: letters.filter (· ≠ 'm') :=
    List.filter_cons_of_pos (by simpa using hstay)
  rw [readSteps, hfilter, List.mapM_cons, bind_eq_ok_iff]
  constructor
  · rintro ⟨step, hstep, hrest⟩
    obtain ⟨others, hothers, hsteps⟩ := bind_eq_ok_iff.mp hrest
    cases hsteps
    split at hstep
    · next hletter =>
        cases hstep
        exact ⟨step, others, hletter, hothers, rfl⟩
    · cases hstep
  · rintro ⟨step, others, hletter, hothers, rfl⟩
    refine ⟨step, ?_, bind_eq_ok_iff.mpr ⟨others, hothers, rfl⟩⟩
    rw [hletter]

theorem readSteps_eq_ok_iff : readSteps letters = .ok steps ↔ StepsSpelling letters steps := by
  constructor
  · intro hread
    induction letters generalizing steps with
    | nil =>
        cases hread
        exact .nil
    | cons letter further ih =>
        by_cases hstay : letter = 'm'
        · subst hstay
          exact .stay (ih hread)
        · obtain ⟨step, others, hletter, hothers, rfl⟩ := (readSteps_cons_eq_ok_iff hstay).mp hread
          exact .of_ofLetter? hletter (ih hothers)
  · intro hspelling
    induction hspelling with
    | nil => rfl
    | stay _ ih => exact ih
    | governor _ ih => exact (readSteps_cons_eq_ok_iff (by decide)).mpr ⟨_, _, rfl, ih, rfl⟩
    | dependent _ ih => exact (readSteps_cons_eq_ok_iff (by decide)).mpr ⟨_, _, rfl, ih, rfl⟩
    | next _ ih => exact (readSteps_cons_eq_ok_iff (by decide)).mpr ⟨_, _, rfl, ih, rfl⟩

theorem readLetters_eq_ok_iff :
    readLetters letters = .ok (steps, feature) ↔
      ∃ stepLetters featureLetter, letters = stepLetters ++ featureLetter ∧
        StepsSpelling stepLetters steps ∧ FeatureSpelling featureLetter feature := by
  constructor
  · intro hread
    unfold readLetters at hread
    split at hread
    · next named hnamed =>
        obtain ⟨letter, hlast, hletter⟩ := Option.bind_eq_some_iff.mp hnamed
        obtain ⟨others, hothers, hmeaning⟩ := map_eq_ok_iff.mp hread
        cases hmeaning
        refine ⟨letters.dropLast, [letter], ?_, readSteps_eq_ok_iff.mp hothers,
          .of_ofLetter? hletter⟩
        exact (List.dropLast_append_getLast? letter hlast).symm
    · obtain ⟨others, hothers, hmeaning⟩ := map_eq_ok_iff.mp hread
      cases hmeaning
      exact ⟨letters, [], (List.append_nil _).symm, readSteps_eq_ok_iff.mp hothers, .implied⟩
  · rintro ⟨stepLetters, featureLetter, rfl, hsteps, hfeature⟩
    have hothers := readSteps_eq_ok_iff.mpr hsteps
    rcases hfeature.eq_nil_or_singleton with ⟨rfl, rfl⟩ | ⟨letter, rfl⟩
    · rw [List.append_nil, readLetters, hsteps.ofLetter?_eq_none, hothers]
      rfl
    · have hlast : (stepLetters ++ [letter]).getLast?.bind Feature.ofLetter? = some feature := by
        rw [List.getLast?_concat]
        exact hfeature.ofLetter?_eq_some
      rw [readLetters, hlast, List.dropLast_concat, hothers]
      rfl

theorem ofDescriptor_eq_ok_iff {parts : Descriptor} {column : Column} :
    ofDescriptor parts = .ok column ↔
      column.expansion = parts.expansion ∧ column.adjacency = parts.adjacency ∧
        ∃ stepLetters featureLetter, parts.letters = stepLetters ++ featureLetter ∧
          StepsSpelling stepLetters column.steps ∧
          FeatureSpelling featureLetter column.feature := by
  unfold ofDescriptor
  rw [bind_eq_ok_iff]
  constructor
  · rintro ⟨⟨steps, feature⟩, hletters, hcolumn⟩
    cases hcolumn
    exact ⟨rfl, rfl, readLetters_eq_ok_iff.mp hletters⟩
  · rintro ⟨hexpansion, hadjacency, hletters⟩
    refine ⟨(column.steps, column.feature), readLetters_eq_ok_iff.mpr hletters, ?_⟩
    rw [← hexpansion, ← hadjacency]
    rfl

end Column

/-! ## One descriptor -/

/-- The column that is read from a text is the one that the text is spelled with. -/
theorem Descriptor.column_of_readFrom_iff {nothing : DescriptorFault}
    {expansion : Option Expansion} {text : List Char} {column : Column} :
    (∃ parts, readFrom nothing expansion text = .ok parts ∧
        Column.ofDescriptor parts = .ok column) ↔
      column.expansion = expansion ∧ ∃ sign stepLetters featureLetter,
        text = sign ++ (stepLetters ++ featureLetter) ∧
          AdjacencySpelling sign column.adjacency ∧ StepsSpelling stepLetters column.steps ∧
          FeatureSpelling featureLetter column.feature := by
  constructor
  · rintro ⟨parts, hread, hcolumn⟩
    obtain ⟨hexpansion, -, sign, htext, hsign⟩ := readFrom_eq_ok_iff.mp hread
    obtain ⟨hsame, hadjacency, stepLetters, featureLetter, hletters, hsteps, hfeature⟩ :=
      Column.ofDescriptor_eq_ok_iff.mp hcolumn
    exact ⟨hsame.trans hexpansion, sign, stepLetters, featureLetter, hletters ▸ htext,
      hadjacency ▸ hsign, hsteps, hfeature⟩
  · rintro ⟨rfl, sign, stepLetters, featureLetter, htext, hsign, hsteps, hfeature⟩
    have halpha : ∀ letter ∈ stepLetters ++ featureLetter, letter.isAlpha = true :=
      List.forall_mem_append.mpr ⟨hsteps.isAlpha, hfeature.isAlpha⟩
    refine ⟨⟨column.expansion, column.adjacency, stepLetters ++ featureLetter⟩, ?_, ?_⟩
    · exact readFrom_eq_ok_iff.mpr ⟨rfl, halpha, sign, htext, hsign⟩
    · exact Column.ofDescriptor_eq_ok_iff.mpr
        ⟨rfl, rfl, stepLetters, featureLetter, rfl, hsteps, hfeature⟩

namespace ShowDescriptor

variable {text : String}

private theorem column_map_eq_ok_iff {result : Except DescriptorFault Descriptor}
    {parts : Descriptor} : column <$> result = .ok (.column parts) ↔ result = .ok parts := by
  cases result with
  | error fault => exact iff_of_false nofun nofun
  | ok other =>
      show (Except.ok (column other) : Except DescriptorFault ShowDescriptor) = _ ↔ _
      rw [Except.ok.injEq, column.injEq, Except.ok.injEq]

/-- What follows the letter of an expansion, if there is one, is read as a descriptor. -/
private theorem exists_ofText_eq (hcount : text ≠ "c") :
    ∃ nothing letter rest, text.toList = letter ++ rest ∧
      ExpansionSpelling letter (text.toList.head?.bind Expansion.ofLetter?) ∧
      ofText text = column <$>
        Descriptor.readFrom nothing (text.toList.head?.bind Expansion.ofLetter?) rest := by
  rw [ofText, if_neg hcount]
  cases htext : text.toList with
  | nil => exact ⟨.expectedShowDescriptor, [], [], rfl, .none, rfl⟩
  | cons first rest =>
      rw [List.head?_cons, Option.bind_some]
      cases hfirst : Expansion.ofLetter? first with
      | none =>
          exact ⟨.expectedShowDescriptor, [], first :: rest, rfl, .none, by simp only [hfirst]⟩
      | some expansion =>
          exact ⟨.expectedEndOrSign, [first], rest, rfl, .of_ofLetter? hfirst,
            by simp only [hfirst]⟩

theorem column_of_text_iff (hcount : text ≠ "c") {column : Column} :
    (∃ parts, ofText text = .ok (.column parts) ∧ Column.ofDescriptor parts = .ok column) ↔
      ColumnMeaning text.toList column := by
  obtain ⟨nothing, letter, rest, htext, hletter, hread⟩ := exists_ofText_eq hcount
  rw [columnMeaning_iff, hread]
  simp only [column_map_eq_ok_iff, Descriptor.column_of_readFrom_iff]
  constructor
  · rintro ⟨hexpansion, sign, stepLetters, featureLetter, hrest, hsign, hsteps, hfeature⟩
    refine ⟨?_, hexpansion.symm⟩
    rw [← hexpansion] at hletter
    rw [htext, hrest]
    exact .intro hletter hsign hsteps hfeature
  · rintro ⟨hspelling, hexpansion⟩
    rw [hexpansion] at hletter
    rw [htext] at hspelling
    generalize hchars : letter ++ rest = chars at hspelling
    cases hspelling with
    | @intro _ sign stepLetters featureLetter _ _ _ _ hother hsign hsteps hfeature =>
        -- The letters of one expansion are the same, and so is what follows them.
        obtain rfl := hletter.eq_of_same hother
        exact ⟨hexpansion.symm, sign, stepLetters, featureLetter,
          List.append_cancel_left hchars, hsign, hsteps, hfeature⟩

theorem ofText_eq_count_iff : ofText text = .ok .count ↔ text = "c" := by
  constructor
  · intro hcounts
    by_contra hcount
    obtain ⟨nothing, _, rest, -, -, hread⟩ := exists_ofText_eq hcount
    rw [hread] at hcounts
    cases hparts : Descriptor.readFrom nothing _ rest with
    | error fault =>
        rw [hparts] at hcounts
        cases hcounts
    | ok parts =>
        rw [hparts] at hcounts
        cases hcounts
  · rintro rfl
    rfl

end ShowDescriptor

/-! ## Lists of descriptors -/

namespace Layout

variable {shown : List String} {layout extended : Layout} {text : String}

/-- One more descriptor asks for a count or adds the column that it stands for. -/
theorem addText_eq_ok_iff :
    layout.addText text = .ok extended ↔
      (text = "c" ∧ extended = { layout with count := true }) ∨
        (text ≠ "c" ∧ ∃ column, ColumnMeaning text.toList column ∧
          extended = { layout with columns := layout.columns ++ [column] }) := by
  rw [addText, mapError_eq_ok_iff, bind_eq_ok_iff]
  constructor
  · rintro ⟨meant, hread, hadd⟩
    cases meant with
    | count =>
        cases hadd
        exact .inl ⟨ShowDescriptor.ofText_eq_count_iff.mp hread, rfl⟩
    | column parts =>
        obtain ⟨column, hcolumn, hextended⟩ := bind_eq_ok_iff.mp hadd
        cases hextended
        have hcount : text ≠ "c" := by
          -- The text `c` is read as the count and never as a column.
          rintro rfl
          cases hread
        exact .inr ⟨hcount, column,
          (ShowDescriptor.column_of_text_iff hcount).mp ⟨parts, hread, hcolumn⟩, rfl⟩
  · rintro (⟨hcount, rfl⟩ | ⟨hcount, column, hmeaning, rfl⟩)
    · exact ⟨.count, ShowDescriptor.ofText_eq_count_iff.mpr hcount, rfl⟩
    · obtain ⟨parts, hread, hcolumn⟩ := (ShowDescriptor.column_of_text_iff hcount).mpr hmeaning
      exact ⟨.column parts, hread, bind_eq_ok_iff.mpr ⟨column, hcolumn, rfl⟩⟩

/-- Descriptors one after the other ask for what each of them asks for. -/
theorem foldlM_addText_eq_ok_iff :
    shown.foldlM addText layout = .ok extended ↔
      ∃ columns, List.Forall₂ (fun text column => ColumnMeaning text.toList column)
          (shown.filter (· ≠ "c")) columns ∧
        extended = ⟨layout.count || decide ("c" ∈ shown), layout.columns ++ columns⟩ := by
  induction shown generalizing layout with
  | nil =>
      simp only [List.foldlM_nil, List.filter_nil, List.forall₂_nil_left_iff, exists_eq_left,
        List.append_nil, List.not_mem_nil, decide_false, Bool.or_false]
      exact ⟨fun hlayout => (Except.ok.inj hlayout).symm, fun hlayout => hlayout ▸ rfl⟩
  | cons text rest ih =>
      rw [List.foldlM_cons, bind_eq_ok_iff]
      simp only [addText_eq_ok_iff, ih]
      -- A `c` sets the count and adds no column; any other text adds one behind those of the
      -- layout.
      by_cases hcount : text = "c"
      · subst hcount
        simp
      · have hfilter : (text :: rest).filter (· ≠ "c") = text :: rest.filter (· ≠ "c") :=
          List.filter_cons_of_pos (by simpa using hcount)
        have hmem : "c" ∈ text :: rest ↔ "c" ∈ rest := by simp [Ne.symm hcount]
        simp only [hfilter, hmem]
        constructor
        · rintro ⟨_, ⟨hasks, -⟩ | ⟨-, column, hmeaning, rfl⟩, columns, hcolumns, rfl⟩
          · exact absurd hasks hcount
          · exact ⟨column :: columns, .cons hmeaning hcolumns, by simp⟩
        · rintro ⟨_, hcolumns, rfl⟩
          obtain ⟨column, columns, hmeaning, hothers, rfl⟩ :=
            List.forall₂_cons_left_iff.mp hcolumns
          exact ⟨_, .inr ⟨hcount, column, hmeaning, rfl⟩, columns, hothers, by simp⟩

theorem compile_eq_ok_iff :
    compile shown = .ok layout ↔
      (layout.count = true ↔ "c" ∈ shown) ∧
        ∃ columns, List.Forall₂ (fun text column => ColumnMeaning text.toList column)
            (shown.filter (· ≠ "c")) columns ∧
          layout.columns = if columns = [] ∧ "c" ∉ shown then [.word] else columns := by
  rw [compile_eq_foldlM, bind_eq_ok_iff]
  simp only [foldlM_addText_eq_ok_iff, Bool.false_or, List.nil_append]
  have hplain : ∀ columns : List Column, (columns.isEmpty && !decide ("c" ∈ shown)) = true ↔
      columns = [] ∧ "c" ∉ shown := by
    intro columns
    rw [Bool.and_eq_true, List.isEmpty_iff, Bool.not_eq_true', decide_eq_false_iff_not]
  obtain ⟨count, columns⟩ := layout
  constructor
  · rintro ⟨_, ⟨found, hfound, rfl⟩, hlayout⟩
    simp only [hplain] at hlayout
    -- The word stands in for columns only where nothing at all is asked for.
    by_cases hnothing : found = [] ∧ "c" ∉ shown
    · rw [if_pos hnothing] at hlayout
      cases hlayout
      exact ⟨iff_of_false Bool.false_ne_true hnothing.2, found, hfound, (if_pos hnothing).symm⟩
    · rw [if_neg hnothing] at hlayout
      cases hlayout
      exact ⟨decide_eq_true_iff, columns, hfound, (if_neg hnothing).symm⟩
  · rintro ⟨hcount, found, hfound, hcolumns⟩
    refine ⟨_, ⟨found, hfound, rfl⟩, ?_⟩
    obtain rfl : decide ("c" ∈ shown) = count := Bool.eq_iff_iff.mpr (by simpa using hcount.symm)
    simp only at hcolumns
    simp only [hplain, hcolumns]
    by_cases hnothing : found = [] ∧ "c" ∉ shown
    · rw [if_pos hnothing, if_pos hnothing, decide_eq_false hnothing.2]
      rfl
    · rw [if_neg hnothing, if_neg hnothing]
      rfl

/-! ## The language -/

theorem exists_columnMeaning_iff {chars : List Char} :
    (∃ column, ColumnMeaning chars column) ↔ ∃ column, ColumnSpelling chars column := by
  constructor
  · rintro ⟨column, hmeaning⟩
    exact ⟨column, hmeaning.spelled⟩
  · rintro ⟨column, hspelling⟩
    simp only [columnMeaning_iff]
    by_cases hentity : chars = ['n']
    · subst hentity
      exact ⟨⟨some .gram, none, [], .word⟩, .intro .gram .none .nil .implied, rfl⟩
    · refine ⟨column, hspelling, ?_⟩
      cases hspelling with
      | intro hexpansion hsign hsteps hfeature =>
          cases hexpansion with
          | gram => rfl
          | window => rfl
          | none =>
              -- What comes first is a sign, the letter of a step or that of the feature.
              cases hsign with
              | right _ => rfl
              | left _ => rfl
              | none =>
                  cases hsteps with
                  | nil =>
                      cases hfeature with
                      | entity => exact absurd rfl hentity
                      | _ => rfl
                  | _ => rfl

/-- A descriptor that stands alone is refused if it is not spelled as one. -/
theorem refusal?_singleton_eq_none_iff : refusal? (compile [text]) = none ↔ ShowSpelling text := by
  rw [refusal?_eq_none_iff]
  simp only [compile_eq_ok_iff, ShowSpelling]
  by_cases hcount : text = "c"
  · subst hcount
    refine iff_of_true ⟨⟨true, []⟩, by decide, [], ?_, by decide⟩ (.inl rfl)
    exact .nil
  · rw [or_iff_right hcount, ← exists_columnMeaning_iff]
    have hfilter : [text].filter (· ≠ "c") = [text] :=
      List.filter_cons_of_pos (by simpa using hcount)
    simp only [hfilter]
    constructor
    · rintro ⟨layout, -, columns, hcolumns, -⟩
      obtain ⟨column, _, hmeaning, -⟩ := List.forall₂_cons_left_iff.mp hcolumns
      exact ⟨column, hmeaning⟩
    · rintro ⟨column, hmeaning⟩
      refine ⟨⟨false, [column]⟩, ?_, [column], .cons hmeaning .nil, rfl⟩
      exact iff_of_false Bool.false_ne_true (by simpa using Ne.symm hcount)

/-- The error of a descriptor that is refused names it. -/
theorem refusal?_singleton_eq_some {error : QueryError}
    (hrefused : refusal? (compile [text]) = some error) :
    ∃ fault, error = .invalidDescriptor text fault := by
  have hadd := compile_singleton_eq_error_iff.mp (refusal?_eq_some_iff.mp hrefused)
  rw [addText] at hadd
  cases hresult : ShowDescriptor.ofText text >>= Layout.add ⟨false, []⟩ with
  | ok layout =>
      rw [hresult] at hadd
      cases hadd
  | error fault =>
      rw [hresult] at hadd
      cases hadd
      exact ⟨fault, rfl⟩

/-- Of a list of descriptors, the first that is not spelled as one is refused, by its name. -/
theorem exists_compile_eq_error_iff :
    (∃ fault, compile shown = .error (.invalidDescriptor text fault)) ↔
      ∃ earlier later, shown = earlier ++ text :: later ∧
        (∀ other ∈ earlier, ShowSpelling other) ∧ ¬ ShowSpelling text := by
  have hfirst : ∀ error, compile shown = .error error ↔
      ∃ earlier other later, shown = earlier ++ other :: later ∧
        refusal? (compile [other]) = some error ∧
        ∀ accepted ∈ earlier, ShowSpelling accepted := by
    intro error
    rw [← refusal?_eq_some_iff, refusal?_compile, List.findSome?_eq_some_iff]
    simp only [refusal?_singleton_eq_none_iff]
  simp only [hfirst]
  constructor
  · rintro ⟨fault, earlier, other, later, hshown, hrefused, hearlier⟩
    obtain ⟨_, hnames⟩ := refusal?_singleton_eq_some hrefused
    cases hnames
    refine ⟨earlier, later, hshown, hearlier, fun hspelling => ?_⟩
    rw [refusal?_singleton_eq_none_iff.mpr hspelling] at hrefused
    cases hrefused
  · rintro ⟨earlier, later, hshown, hearlier, hspelling⟩
    obtain ⟨error, hrefused⟩ := Option.ne_none_iff_exists'.mp
      (mt refusal?_singleton_eq_none_iff.mp hspelling)
    obtain ⟨fault, rfl⟩ := refusal?_singleton_eq_some hrefused
    exact ⟨fault, earlier, text, later, hshown, hrefused, hearlier⟩

/-- **The language of show descriptors.**  A list of them compiles if and only if each is `c` or
spelled as an expansion, an adjacency, steps and a feature.  Then a count is wanted if `c` is
among them, and the columns are those that the others stand for, in their order; the list of none
at all shows the word.  In a column, a first letter `n` or `b` is that of an expansion, and `m`
is no step.  A list that does not compile is refused for the first that is not spelled so, and
the error names it. -/
theorem compile_iff_columns_spelled (shown : List String) :
    ((∃ layout, compile shown = .ok layout) ↔ ∀ text ∈ shown, ShowSpelling text) ∧
    (∀ layout, compile shown = .ok layout ↔
      (layout.count = true ↔ "c" ∈ shown) ∧
        ∃ columns, List.Forall₂ (fun text column => ColumnMeaning text.toList column)
            (shown.filter (· ≠ "c")) columns ∧
          layout.columns = if columns = [] ∧ "c" ∉ shown then [.word] else columns) ∧
    ∀ text, (∃ fault, compile shown = .error (.invalidDescriptor text fault)) ↔
      ∃ earlier later, shown = earlier ++ text :: later ∧
        (∀ other ∈ earlier, ShowSpelling other) ∧ ¬ ShowSpelling text := by
  refine ⟨?_, fun _ => compile_eq_ok_iff, fun _ => exists_compile_eq_error_iff⟩
  rw [← refusal?_eq_none_iff, refusal?_compile, List.findSome?_eq_none_iff]
  simp only [refusal?_singleton_eq_none_iff]

-- In front, `n` asks for grams; at the end, for an entity.
example :
    compile ["n", "bmgomn", "c", "-07dd"] = .ok ⟨true, [⟨some .gram, none, [], .word⟩,
      ⟨some .window, none, [.governor, .next], .entity⟩,
      ⟨none, some (-7), [.dependent, .dependent], .word⟩]⟩ := by
  rfl

end Layout

end Concordancer
