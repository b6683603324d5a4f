import Concordancer.Proofs.Descriptors.Showing
import Concordancer.Proofs.Navigation
import Concordancer.Proofs.Sentence.Likeness
import Concordancer.Rendering

/-!
# What a column shows

A column shifts a token, takes its steps from where the shift leads, and shows a feature of the
tokens that it comes to.  Here these tokens are given as an image.  One step leads from a
list of tokens to all that it leads to from some of them, each where it is reached first;
several steps do so one after the other (`Navigator.image`).  `Navigator.LeadsBy` says of one
token whether steps lead to it, by the tokens on the way.

`column_eq_image` is the statement on columns.  There are three ways to show nothing of a
token.  A shift that leads nowhere and values that are all missing leave the column out;
steps that lead nowhere are shown as a placeholder.  The program takes no further step when it
stands nowhere, which makes no difference (`reach_eq_image`).

## Strategy

Every fact on images is that of one step and an induction on the steps.  A step leads from a
token to visible tokens of the same sentence (`visiblyIn_of_mem_follow`), since positions and
look-ups are those of the sentence that the identifier stands for; nothing is asked of rows, so
numbers and identifiers may be repeated.

Letters are the second half.  Where steps are spelled, `m` may be put in anywhere, and what is
spelled then has the same meaning (`columnMeaning_insert_stay`).  The one letter that has two
readings stands first, and `m` is put behind what it can be.
-/

namespace Concordancer

/-! ## Images of steps -/

namespace Navigator

/-- The tokens that one step leads to from some of these, each where it is reached first. -/
def imageOfStep (navigator : Navigator) (refs : List TokenRef) (step : Step) : List TokenRef :=
  (refs.flatMap (navigator.follow · step)).eraseDups

/-- The tokens that steps lead to, one step after the other. -/
def image (navigator : Navigator) (refs : List TokenRef) (steps : List Step) : List TokenRef :=
  steps.foldl navigator.imageOfStep refs

/-- Steps lead to a token if the first one leads to another from where the further ones do. -/
inductive LeadsBy (navigator : Navigator) : List Step → TokenRef → TokenRef → Prop
  | stay (ref : TokenRef) : navigator.LeadsBy [] ref ref
  | step {step : Step} {further : List Step} {ref middle target : TokenRef}
    (hstep : middle ∈ navigator.follow ref step)
    (hfurther : navigator.LeadsBy further middle target) :
    navigator.LeadsBy (step :: further) ref target

variable {navigator : Navigator} {refs : List TokenRef} {ref target : TokenRef}

theorem mem_imageOfStep {step : Step} :
    target ∈ navigator.imageOfStep refs step ↔
      ∃ ref ∈ refs, target ∈ navigator.follow ref step := by
  rw [imageOfStep, List.mem_eraseDups, List.mem_flatMap]

theorem image_append (refs : List TokenRef) (early late : List Step) :
    navigator.image refs (early ++ late) = navigator.image (navigator.image refs early) late :=
  List.foldl_append

theorem image_nil (steps : List Step) : navigator.image [] steps = [] := by
  induction steps with
  | nil => rfl
  | cons step further ih => exact ih

theorem leadsBy_nil_iff : navigator.LeadsBy [] ref target ↔ target = ref := by
  constructor
  · intro hleads
    cases hleads
    rfl
  · rintro rfl
    exact .stay target

theorem leadsBy_cons_iff {step : Step} {further : List Step} :
    navigator.LeadsBy (step :: further) ref target ↔
      ∃ middle ∈ navigator.follow ref step, navigator.LeadsBy further middle target := by
  constructor
  · intro hleads
    cases hleads with
    | step hstep hfurther => exact ⟨_, hstep, hfurther⟩
  · rintro ⟨middle, hstep, hfurther⟩
    exact .step hstep hfurther

theorem mem_image_iff {steps : List Step} :
    target ∈ navigator.image refs steps ↔ ∃ ref ∈ refs, navigator.LeadsBy steps ref target := by
  induction steps generalizing refs with
  | nil =>
      simp only [leadsBy_nil_iff, exists_eq_right']
      rfl
  | cons step further ih =>
      have hfirst : navigator.image refs (step :: further) =
          navigator.image (navigator.imageOfStep refs step) further := rfl
      rw [hfirst, ih]
      simp only [mem_imageOfStep, leadsBy_cons_iff]
      constructor
      · rintro ⟨middle, ⟨ref, href, hstep⟩, hfurther⟩
        exact ⟨ref, href, middle, hstep, hfurther⟩
      · rintro ⟨ref, href, middle, hstep, hfurther⟩
        exact ⟨middle, ⟨ref, href, hstep⟩, hfurther⟩

/-- Images depend on where steps lead and on nothing else. -/
theorem image_congr {other : Navigator} (hfollow : navigator.follow = other.follow)
    (refs : List TokenRef) (steps : List Step) :
    navigator.image refs steps = other.image refs steps := by
  have hstep : navigator.imageOfStep = other.imageOfStep := by
    funext refs step
    rw [imageOfStep, hfollow, imageOfStep]
  rw [image, hstep, image]

theorem nodup_image (hrefs : refs.Nodup) (steps : List Step) :
    (navigator.image refs steps).Nodup := by
  induction steps generalizing refs with
  | nil => exact hrefs
  | cons step further ih => exact ih (nodup_eraseDups _)

end Navigator

namespace Renderer

variable {renderer : Renderer}

/-- To take no further step from where one leads nowhere is to take all of them. -/
theorem reach_eq_image (refs : List TokenRef) (steps : List Step) :
    renderer.reach refs steps = renderer.navigator.image refs steps := by
  induction steps generalizing refs with
  | nil => rfl
  | cons step further ih =>
      have himage : renderer.navigator.image refs (step :: further) =
          renderer.navigator.image (renderer.navigator.imageOfStep refs step) further := rfl
      have hnext : (OrderedSet.ofList (refs.flatMap (renderer.navigator.follow · step))).toList =
          renderer.navigator.imageOfStep refs step := rfl
      rw [reach, himage, hnext, ih]
      split
      · next hnowhere => rw [List.isEmpty_iff.mp hnowhere, Navigator.image_nil]
      · rfl

variable (renderer) in
/-- What a column shows of the tokens that it comes to. -/
theorem value_column_of_shiftBy {ref start : TokenRef} {column : Column}
    (hshift : renderer.navigator.shiftBy ref column.adjacency = some start) :
    let reached := renderer.reach [start] column.steps
    let values := reached.filterMap fun target => (renderer.value column.feature target).value
    (renderer.column ref column).value =
      if reached = [] then some placeholder
      else if values = [] then none else some ("/".intercalate values) := by
  intro reached values
  unfold Renderer.column
  rw [hshift]
  cases hreached : renderer.reach [start] column.steps with
  | nil =>
      simp only [hreached]
      exact (if_pos hreached).symm
  | cons first rest =>
      have hsome : reached ≠ [] := hreached.trans_ne (List.cons_ne_nil first rest)
      have hvalues : ((first :: rest).map fun target =>
          (renderer.value column.feature target).value).filterMap id = values := by
        rw [List.filterMap_map, ← hreached]
        rfl
      simp only [hreached, Told.value_bind, Told.value_traverse, Told.value_pure, hvalues,
        if_neg hsome, List.isEmpty_iff]

end Renderer

/-! ## Steps stay in the sentence -/

namespace Treebank

variable {treebank : Treebank} {navigator : Navigator} {filter : WordFilter} {lexicon : Lexicon}
  {ref target : TokenRef}

/-- The second token is visible and stands in the sentence of the first. -/
structure VisiblyIn (navigator : Navigator) (ref target : TokenRef) : Prop where
  sentence_eq : target.sentence = ref.sentence
  shows : navigator.visible.shows target = true

theorem VisiblyIn.trans {middle : TokenRef} (hfirst : VisiblyIn navigator ref middle)
    (hsecond : VisiblyIn navigator middle target) : VisiblyIn navigator ref target :=
  ⟨hsecond.sentence_eq.trans hfirst.sentence_eq, hsecond.shows⟩

section

variable (hvisible : navigator.visible = treebank.visible filter lexicon)

include hvisible

theorem visiblyIn_of_next? (hnext : navigator.next? ref = some target) :
    VisiblyIn navigator ref target := by
  obtain ⟨visible, hfound, hnext⟩ := Option.bind_eq_some_iff.mp hnext
  obtain ⟨position, -, hat⟩ := Option.bind_eq_some_iff.mp hnext
  obtain ⟨hsentence, hindex⟩ := VisibleSentence.mem_refs.mp (VisibleSentence.mem_refs_of_at? hat)
  have hid : visible.sentence.id = ref.sentence := by
    rw [hvisible] at hfound
    exact VisibleCorpus.knowsIds_ofSentences filter lexicon _ _ _ _ hfound
  have hsame : target.sentence = ref.sentence := hsentence.trans hid
  refine ⟨hsame, Navigator.shows_iff.mpr ⟨visible, hsame ▸ hfound, ?_⟩⟩
  rw [hvisible, sentence?_visible_eq_parse?] at hfound
  obtain ⟨parse, -, rfl⟩ := Option.map_eq_some_iff.mp hfound
  exact (Parse.shows_visible_iff_mem filter lexicon).mpr (.inr hindex)

theorem visiblyIn_of_mem_follow {step : Step} (hstep : target ∈ navigator.follow ref step) :
    VisiblyIn navigator ref target := by
  have hrole : ∀ role, target ∈ navigator.resolve ref role → VisiblyIn navigator ref target := by
    intro role hmem
    obtain ⟨-, -, hsame, -⟩ := Navigator.mem_resolve.mp hmem
    exact ⟨hsame, Navigator.shows_of_mem_resolve hmem⟩
  cases step with
  | governor => exact hrole .governor hstep
  | dependent => exact hrole .dependent hstep
  | next => exact visiblyIn_of_next? hvisible (Option.mem_toList.mp hstep)

/-- From a visible token, steps lead to visible tokens of its sentence. -/
theorem visiblyIn_of_leadsBy {steps : List Step} (href : navigator.visible.shows ref = true)
    (hleads : navigator.LeadsBy steps ref target) : VisiblyIn navigator ref target := by
  induction hleads with
  | stay ref => exact ⟨rfl, href⟩
  | step hstep _ ih =>
      have hmiddle := visiblyIn_of_mem_follow hvisible hstep
      exact hmiddle.trans (ih hmiddle.shows)

omit hvisible in
theorem visiblyIn_of_shiftBy {adjacency : Option Int} (href : navigator.visible.shows ref = true)
    (hshift : navigator.shiftBy ref adjacency = some target) : VisiblyIn navigator ref target := by
  cases adjacency with
  | none =>
      obtain rfl := Option.some.inj hshift
      exact ⟨rfl, href⟩
  | some offset =>
      obtain ⟨-, hsame, -, -, visible, hfound, -, hshows⟩ :=
        Navigator.shift_eq_some_iff.mp hshift
      exact ⟨hsame, Navigator.shows_iff.mpr ⟨visible, hsame ▸ hfound, hshows⟩⟩

end

end Treebank

/-! ## The letter that stays -/

theorem StepsSpelling.insert_stay {before after : List Char} {steps : List Step}
    (hspelling : StepsSpelling (before ++ after) steps) :
    StepsSpelling (before ++ 'm' :: after) steps := by
  induction before generalizing steps with
  | nil => exact .stay hspelling
  | cons letter rest ih =>
      cases hspelling with
      | stay hrest => exact .stay (ih hrest)
      | governor hrest => exact .governor (ih hrest)
      | dependent hrest => exact .dependent (ih hrest)
      | next hrest => exact .next (ih hrest)

theorem ColumnSpelling.ne_count {text : String} {column : Column}
    (hspelling : ColumnSpelling text.toList column) : text ≠ "c" := by
  rintro rfl
  have hc : 'c' ∈ "c".toList := List.mem_singleton_self 'c'
  generalize "c".toList = letters at hspelling hc
  cases hspelling with
  | intro hexpansion hsign hsteps hfeature =>
      -- No part of a column is written with this letter.
      rcases List.mem_append.mp hc with hc | hc
      · cases hexpansion <;> exact absurd hc (by decide)
      rcases List.mem_append.mp hc with hc | hc
      · cases hsign with
        | none => cases hc
        | right hdigits =>
            have hdigit := hdigits.decimal 'c' (List.mem_of_ne_of_mem (by decide) hc)
            cases hdigit
        | left hdigits =>
            have hdigit := hdigits.decimal 'c' (List.mem_of_ne_of_mem (by decide) hc)
            cases hdigit
      rcases List.mem_append.mp hc with hc | hc
      · have hother := hsteps.forall_letters (p := (· ≠ 'c')) (by decide) (by decide) (by decide)
          (by decide)
        exact hother 'c' hc rfl
      · cases hfeature <;> exact absurd hc (by decide)

section

variable {letter sign before after featureLetter : List Char} {column : Column}

/-- With `m` among the letters of steps, a text stands for the same column.  These letters begin
with none that can be that of an expansion. -/
theorem columnMeaning_insert_stay (hexpansion : ExpansionSpelling letter column.expansion)
    (hsign : Descriptor.AdjacencySpelling sign column.adjacency)
    (hsteps : StepsSpelling (before ++ after) column.steps)
    (hfeature : FeatureSpelling featureLetter column.feature) :
    ColumnMeaning (letter ++ (sign ++ ((before ++ 'm' :: after) ++ featureLetter))) column := by
  refine columnMeaning_iff.mpr ⟨.intro hexpansion hsign hsteps.insert_stay hfeature, ?_⟩
  obtain ⟨expansion, adjacency, steps, feature⟩ := column
  cases hexpansion with
  | gram => rfl
  | window => rfl
  | none =>
      cases hsign with
      | right _ => rfl
      | left _ => rfl
      | none =>
          have hletters := hsteps.insert_stay.forall_letters
            (p := fun c => Expansion.ofLetter? c = none) rfl rfl rfl rfl
          cases before with
          | nil => rfl
          | cons first rest => exact hletters first List.mem_cons_self

end

namespace Layout

/-- A descriptor adds the column that it stands for. -/
theorem addText_of_columnMeaning {layout : Layout} {text : String} {column : Column}
    (hmeaning : ColumnMeaning text.toList column) :
    layout.addText text = .ok { layout with columns := layout.columns ++ [column] } :=
  addText_eq_ok_iff.mpr (.inr ⟨hmeaning.spelled.ne_count, column, hmeaning, rfl⟩)

/-- Of two descriptors that stand for one column, either may stand among others. -/
theorem compile_eq_of_columnMeaning {first second : List Char} {column : Column}
    (hfirst : ColumnMeaning first column) (hsecond : ColumnMeaning second column)
    (earlier later : List String) :
    compile (earlier ++ String.ofList first :: later) =
      compile (earlier ++ String.ofList second :: later) := by
  rw [← String.toList_ofList (l := first)] at hfirst
  rw [← String.toList_ofList (l := second)] at hsecond
  have hsame : ∀ layout : Layout,
      layout.addText (String.ofList first) = layout.addText (String.ofList second) := fun layout =>
    (addText_of_columnMeaning hfirst).trans (addText_of_columnMeaning hsecond).symm
  simp only [compile_eq_foldlM, List.foldlM_append, List.foldlM_cons, hsame]

end Layout

/-! ## What is shown -/

namespace Treebank

/-- **A column shows the image of its steps.**  In every treebank, under any filter, let a column
show a visible token.  If its shift leads nowhere, it shows nothing.  Otherwise its steps lead from
where the shift leads to certain tokens: to each once, in the order in which they are reached, and
all of them visible and in the same sentence.  Where there is none, `none` is shown; where none has
a value, nothing is; and else the values are, in this order, with slashes between them.

The image of steps is that of the later ones over that of the earlier ones, and to stop where
there is nothing left is to take all steps.  The letter `m` may be put anywhere among the letters of
steps, in any descriptor of any list. -/
theorem column_eq_image (treebank : Treebank) (filter : WordFilter) (lexicon : Lexicon)
    (distanceLimit : Nat) (columns : List Column) :
    let navigator : Navigator := ⟨treebank.visible filter lexicon, lexicon, distanceLimit⟩
    let renderer : Renderer := ⟨navigator, columns⟩
    (∀ ref (column : Column), navigator.visible.shows ref = true →
      (navigator.shiftBy ref column.adjacency = none → (renderer.column ref column).value = none) ∧
      ∀ start, navigator.shiftBy ref column.adjacency = some start →
        let reached := navigator.image [start] column.steps
        let values := reached.filterMap fun target => (renderer.value column.feature target).value
        (renderer.column ref column).value =
            (if reached = [] then some "none"
            else if values = [] then none else some ("/".intercalate values)) ∧
          reached.Nodup ∧ ∀ target,
            (target ∈ reached ↔ navigator.LeadsBy column.steps start target) ∧
            (target ∈ reached →
              target.sentence = ref.sentence ∧ navigator.visible.shows target = true)) ∧
    (∀ refs early late,
      navigator.image refs (early ++ late) = navigator.image (navigator.image refs early) late ∧
      (navigator.image refs early = [] → navigator.image refs (early ++ late) = [])) ∧
    (∀ refs steps, renderer.reach refs steps = navigator.image refs steps) ∧
    ∀ (letter sign before after featureLetter : List Char) (column : Column),
      ExpansionSpelling letter column.expansion →
      Descriptor.AdjacencySpelling sign column.adjacency →
      StepsSpelling (before ++ after) column.steps →
      FeatureSpelling featureLetter column.feature →
      ColumnMeaning (letter ++ (sign ++ ((before ++ after) ++ featureLetter))) column →
      ∀ earlier later,
        Layout.compile (earlier ++
            String.ofList (letter ++ (sign ++ ((before ++ 'm' :: after) ++ featureLetter))) ::
              later) =
          Layout.compile (earlier ++
            String.ofList (letter ++ (sign ++ ((before ++ after) ++ featureLetter))) :: later) := by
  intro navigator renderer
  have hreach : ∀ refs steps, renderer.reach refs steps = navigator.image refs steps :=
    Renderer.reach_eq_image
  refine ⟨fun ref column href => ⟨?_, ?_⟩, fun refs early late => ⟨?_, ?_⟩, hreach, ?_⟩
  · intro hshift
    unfold Renderer.column
    rw [hshift]
    rfl
  · intro start hshift reached values
    have hstart := visiblyIn_of_shiftBy href hshift
    have hleads : ∀ target, target ∈ reached ↔ navigator.LeadsBy column.steps start target := by
      intro target
      simp only [reached, Navigator.mem_image_iff, List.mem_singleton, exists_eq_left]
    refine ⟨?_, Navigator.nodup_image (List.nodup_singleton start) _, fun target =>
      ⟨hleads target, fun htarget => ?_⟩⟩
    · refine (Renderer.value_column_of_shiftBy renderer hshift).trans ?_
      rw [hreach]
      rfl
    · -- Where the shift leads is in the sentence of the token, and steps do not leave it.
      have hwhere := hstart.trans
        (visiblyIn_of_leadsBy rfl hstart.shows ((hleads target).mp htarget))
      exact ⟨hwhere.sentence_eq, hwhere.shows⟩
  · exact Navigator.image_append refs early late
  · intro hnowhere
    rw [Navigator.image_append, hnowhere, Navigator.image_nil]
  · -- Both texts stand for one column, so that either may stand in the list.
    intro letter sign before after featureLetter column hexpansion hsign hsteps hfeature hmeaning
    exact Layout.compile_eq_of_columnMeaning
      (columnMeaning_insert_stay hexpansion hsign hsteps hfeature) hmeaning

/-- One after *cat* is *sat*; its governor is *cat*, whose dependents are *sat* and *the*, which is
hidden.  After *sat* no number is taken, and nothing depends on the comma. -/
theorem column_eq_image_sample :
    let lexicon := Lexicon.empty.addClosedClass ["the"]
    let navigator : Navigator := ⟨sample.visible ⟨none, true⟩ lexicon, lexicon, 30⟩
    let renderer : Renderer := ⟨navigator, [.word]⟩
    let column : Column := ⟨none, some 1, [.governor, .dependent], .word⟩
    navigator.visible.shows ⟨7, 2⟩ = true ∧
      navigator.shiftBy ⟨7, 2⟩ column.adjacency = some ⟨7, 3⟩ ∧
      navigator.image [⟨7, 3⟩] column.steps = [⟨7, 3⟩] ∧
      navigator.LeadsBy column.steps ⟨7, 3⟩ ⟨7, 3⟩ ∧
      (renderer.column ⟨7, 2⟩ column).value = some "sat" ∧
      navigator.visible.shows ⟨7, 3⟩ = true ∧
      navigator.shiftBy ⟨7, 3⟩ column.adjacency = none ∧
      (renderer.column ⟨7, 3⟩ column).value = none ∧
      navigator.image [⟨7, 6⟩] [.dependent] = [] ∧
      navigator.image [⟨7, 6⟩] ([.dependent] ++ [.governor]) = [] ∧
      Layout.compile (["c"] ++ "bdmgw" :: ["n"]) = Layout.compile (["c"] ++ "bdgw" :: ["n"]) := by
  intro lexicon navigator renderer column
  obtain ⟨hcolumn, happend, -, hstay⟩ := column_eq_image sample ⟨none, true⟩ lexicon 30 [.word]
  have hcat : navigator.visible.shows ⟨7, 2⟩ = true := by decide +kernel
  have hsat : navigator.visible.shows ⟨7, 3⟩ = true := by decide +kernel
  have hshift : navigator.shiftBy ⟨7, 2⟩ column.adjacency = some ⟨7, 3⟩ := by decide +kernel
  have hnone : navigator.shiftBy ⟨7, 3⟩ column.adjacency = none := by decide +kernel
  have himage : navigator.image [⟨7, 3⟩] column.steps = [⟨7, 3⟩] := by decide +kernel
  have hcomma : navigator.image [⟨7, 6⟩] [.dependent] = [] := by decide +kernel
  obtain ⟨hvalue, -, hreached⟩ := (hcolumn ⟨7, 2⟩ column hcat).2 ⟨7, 3⟩ hshift
  refine ⟨hcat, hshift, himage, ?_, ?_, hsat, hnone, (hcolumn ⟨7, 3⟩ column hsat).1 hnone, hcomma,
    (happend _ _ _).2 hcomma, ?_⟩
  · exact (hreached ⟨7, 3⟩).1.mp (by decide +kernel)
  · exact hvalue.trans (by decide +kernel)
  · have hexpansion : ExpansionSpelling ['b'] (some .window) := .window
    have hsteps : StepsSpelling (['d'] ++ ['g']) [.dependent, .governor] :=
      .dependent (.governor .nil)
    exact hstay ['b'] [] ['d'] ['g'] ['w'] ⟨some .window, none, [.dependent, .governor], .word⟩
      hexpansion .none hsteps .word
      (columnMeaning_iff.mpr ⟨.intro hexpansion .none hsteps .word, rfl⟩) ["c"] ["n"]

end Treebank

end Concordancer
