import Concordancer.Proofs.Corpus.Rewording
import Concordancer.Proofs.Presentation.Columns
import Concordancer.Proofs.Presentation.Fragments

/-!
# Fields of a rendered token

A rendered token has fields, with slashes between them.  `Renderer.fields` lists them together with
where they come from: a column, and the token that it comes to, or none where its steps lead
nowhere.  `token_splitOn_slash` says that a rendered token, cut at slashes, is these fields and
nothing else.

So no value moves the border of a field.  Neither does it make a field or take one away: where all
texts of a treebank are others, and those of the lexicon too, each field comes from where it came
from (`map_origin_fields_congr`), as long as the same words are visible.

## Strategy

A field is shown as what it has to say with slashes written out, also where this is no value
(`text_eq_clean_source`).  So no field has a slash, and joining is taken back by cutting.
Where a field comes from is read off the moves of a navigator and off which features are there,
which a rewording keeps.
-/

namespace Concordancer

namespace Fragment

/-- What a fragment stands for, before slashes are written out. -/
def source : Fragment → String
  | placeholder => Concordancer.placeholder
  | rootLabel => Concordancer.rootLabel
  | rootNumber number => toString number
  | value read => read

/-- A fragment is shown with slashes written out; what is not a value has none. -/
theorem text_eq_clean_source (fragment : Fragment) :
    fragment.text = Renderer.clean fragment.source := by
  cases fragment with
  | value read => rfl
  | placeholder => exact (Text.replaceChar_of_not_mem placeholder.slash_not_mem_text).symm
  | rootLabel => exact (Text.replaceChar_of_not_mem rootLabel.slash_not_mem_text).symm
  | rootNumber number =>
      exact (Text.replaceChar_of_not_mem (rootNumber number).slash_not_mem_text).symm

/-- Fragments with slashes between them, cut at slashes, are the fragments. -/
theorem splitOn_joinedText {fragments : List Fragment} (hsome : fragments ≠ []) :
    ((joinedText fragments).toList.splitOn '/').map String.ofList =
      fragments.map fun fragment => Renderer.clean fragment.source := by
  have hslash : ∀ letters ∈ (fragments.map text).map String.toList, '/' ∉ letters := by
    simp only [List.mem_map]
    rintro _ ⟨_, ⟨fragment, -, rfl⟩, rfl⟩
    exact fragment.slash_not_mem_text
  have hjoined : (joinedText fragments).toList =
      ['/'].intercalate ((fragments.map text).map String.toList) := by
    rw [joinedText, String.toList_intercalate]
    rfl
  rw [hjoined, List.splitOn_intercalate _ hslash (by simpa using hsome), List.map_map,
    List.map_map]
  refine List.map_congr_left fun fragment _ => ?_
  simp only [Function.comp_apply, String.ofList_toList, text_eq_clean_source]

end Fragment

/-! ## Fields -/

/-- What a column shows of a token that it comes to.  Without such a token, its steps lead
nowhere. -/
structure Field where
  column : Column
  token : Option TokenRef
  fragment : Fragment

namespace Field

/-- What the field stands for, before slashes are written out. -/
def source (field : Field) : String := field.fragment.source

/-- The column and the token that the field comes from. -/
def origin (field : Field) : Column × Option TokenRef := (field.column, field.token)

end Field

namespace Renderer

variable (renderer : Renderer)

/-- What a column shows of one token, unless there is nothing to show. -/
def field? (column : Column) (target : TokenRef) : Option Field :=
  (renderer.fragment? column.feature target).map (⟨column, some target, ·⟩)

/-- The fields of one column, in the order in which it comes to tokens. -/
def fieldsOfColumn (ref : TokenRef) (column : Column) : List Field :=
  match renderer.navigator.shiftBy ref column.adjacency with
  | none => []
  | some start =>
    match renderer.reach [start] column.steps with
    | [] => [⟨column, none, .placeholder⟩]
    | reached => reached.filterMap (renderer.field? column)

/-- The fields of a token, column by column. -/
def fields (ref : TokenRef) : List Field :=
  renderer.columns.flatMap (renderer.fieldsOfColumn ref)

variable {renderer}

theorem map_fragment_fieldsOfColumn (ref : TokenRef) (column : Column) :
    (renderer.fieldsOfColumn ref column).map Field.fragment =
      renderer.fragmentsOfColumn ref column := by
  unfold fieldsOfColumn fragmentsOfColumn
  cases renderer.navigator.shiftBy ref column.adjacency with
  | none => rfl
  | some start =>
      cases hreached : renderer.reach [start] column.steps with
      | nil => simp only [hreached, List.map_cons, List.map_nil]
      | cons first rest =>
          simp only [hreached, List.map_filterMap]
          refine List.filterMap_congr fun target _ => ?_
          rw [field?, Option.map_map]
          exact Option.map_id_apply

theorem map_fragment_fields (ref : TokenRef) :
    (renderer.fields ref).map Field.fragment = renderer.fragments ref := by
  rw [fields, List.map_flatMap, fragments]
  exact List.flatMap_congr fun column _ => map_fragment_fieldsOfColumn ref column

theorem value_column_eq_none_iff (ref : TokenRef) (column : Column) :
    (renderer.column ref column).value = none ↔ renderer.fieldsOfColumn ref column = [] := by
  have hempty : (renderer.fragmentsOfColumn ref column).isEmpty =
      (renderer.fieldsOfColumn ref column).isEmpty := by
    rw [← map_fragment_fieldsOfColumn, List.isEmpty_map]
  simp only [value_column, hempty, ← List.isEmpty_iff]
  cases (renderer.fieldsOfColumn ref column).isEmpty with
  | true => exact iff_of_true rfl rfl
  | false => exact iff_of_false (Option.some_ne_none _) Bool.false_ne_true

theorem fields_ne_nil {ref : TokenRef}
    (hcontributes : ∃ column ∈ renderer.columns, (renderer.column ref column).value ≠ none) :
    renderer.fields ref ≠ [] := by
  obtain ⟨column, hcolumn, hvalue⟩ := hcontributes
  intro hnone
  exact hvalue ((value_column_eq_none_iff ref column).mpr
    (List.flatMap_eq_nil_iff.mp hnone column hcolumn))

/-- A token that has fields, cut at slashes, is what they stand for with slashes written out. -/
theorem splitOn_token {ref : TokenRef} (hsome : renderer.fields ref ≠ []) :
    ((renderer.token ref).value.toList.splitOn '/').map String.ofList =
      (renderer.fields ref).map fun field => clean field.source := by
  rw [value_token, ← map_fragment_fields, Fragment.splitOn_joinedText (by simpa using hsome),
    List.map_map]
  rfl

theorem splitOn_column {ref : TokenRef} {column : Column} {text : String}
    (htext : (renderer.column ref column).value = some text) :
    (text.toList.splitOn '/').map String.ofList =
      (renderer.fieldsOfColumn ref column).map fun field => clean field.source := by
  rw [value_column, ← map_fragment_fieldsOfColumn] at htext
  split at htext
  · cases htext
  · next hsome =>
      obtain rfl := Option.some.inj htext
      rw [Fragment.splitOn_joinedText (by simpa using hsome), List.map_map]
      rfl

/-! ## Where fields come from -/

/-- The origin of a field does not tell what the field shows. -/
theorem map_origin_field? (column : Column) (target : TokenRef) :
    (renderer.field? column target).map Field.origin =
      if (renderer.fragment? column.feature target).isSome then some (column, some target)
      else none := by
  rw [field?]
  cases renderer.fragment? column.feature target with
  | none => rfl
  | some fragment => rfl

section

variable {first second : Renderer}

theorem isSome_fragment?_congr (hcolumns : first.columns = second.columns)
    (hread : ∀ ref feature, (first.navigator.read ref feature).value.isSome =
      (second.navigator.read ref feature).value.isSome) (feature : Feature) (ref : TokenRef) :
    (first.fragment? feature ref).isSome = (second.fragment? feature ref).isSome := by
  have hvalue : ∀ renderer : Renderer, (renderer.tokenValue? feature ref).isSome =
      (renderer.navigator.read ref feature).value.isSome := by
    intro renderer
    cases feature with
    | baseForm => exact Option.isSome_map
    | _ => rfl
  unfold fragment?
  cases ref.isRoot with
  | true =>
      unfold rootFragment?
      rw [hcolumns]
      rfl
  | false =>
      rw [if_neg Bool.false_ne_true, if_neg Bool.false_ne_true, Option.isSome_map,
        Option.isSome_map, hvalue, hvalue, hread]

/-- Fields come from where moves lead and from which features are there. -/
theorem map_origin_fields_congr (hcolumns : first.columns = second.columns)
    (hshift : first.navigator.shiftBy = second.navigator.shiftBy)
    (hfollow : first.navigator.follow = second.navigator.follow)
    (hread : ∀ ref feature, (first.navigator.read ref feature).value.isSome =
      (second.navigator.read ref feature).value.isSome) (ref : TokenRef) :
    (first.fields ref).map Field.origin = (second.fields ref).map Field.origin := by
  rw [fields, fields, hcolumns, List.map_flatMap, List.map_flatMap]
  refine List.flatMap_congr fun column _ => ?_
  have hreach : ∀ refs steps, first.reach refs steps = second.reach refs steps := by
    intro refs steps
    rw [reach_eq_image, reach_eq_image, Navigator.image_congr hfollow]
  unfold fieldsOfColumn
  rw [hshift]
  cases second.navigator.shiftBy ref column.adjacency with
  | none => rfl
  | some start =>
      -- Both reach the same tokens; of these, fields are made where there is a value.
      simp only [hreach]
      cases second.reach [start] column.steps with
      | nil => rfl
      | cons target others =>
          simp only [List.map_filterMap]
          refine List.filterMap_congr fun target _ => ?_
          rw [map_origin_field?, map_origin_field?,
            isSome_fragment?_congr hcolumns hread column.feature target]

end

end Renderer

namespace Treebank

/-- **No text moves the border of a field.**  In every treebank, under any filter, with any lexicon
and any columns, consider a token.  If a column contributes, the rendered token, cut at slashes, is
what its fields stand for, column by column and in a column in the order in which it comes to
tokens, each with its own slashes written out; if none does, it is empty.  One column alone is cut
in the same way.

Whatever texts the treebank and the lexicon have instead, a token has as many fields, and each comes
from the same column and the same token, as long as the same words are visible. -/
theorem token_splitOn_slash (treebank : Treebank) (filter : WordFilter) (lexicon : Lexicon)
    (distanceLimit : Nat) (columns : List Column) (ref : TokenRef) :
    let renderer : Renderer := ⟨⟨treebank.visible filter lexicon, lexicon, distanceLimit⟩, columns⟩
    let shown (field : Field) : String := Text.replaceChar '/' "-slash-".toList field.source
    ((∃ column ∈ columns, (renderer.column ref column).value ≠ none) →
      ((renderer.token ref).value.toList.splitOn '/').map String.ofList =
        (renderer.fields ref).map shown) ∧
    ((∀ column ∈ columns, (renderer.column ref column).value = none) →
      renderer.fields ref = [] ∧ (renderer.token ref).value = "") ∧
    (∀ column text, (renderer.column ref column).value = some text →
      (text.toList.splitOn '/').map String.ofList =
        (renderer.fieldsOfColumn ref column).map shown) ∧
    ∀ (rewording : Rewording) (otherFilter : WordFilter) (otherLexicon : Lexicon),
      (∀ row ∈ treebank.rows,
        otherFilter.keeps otherLexicon (rewording.reword row).word =
          filter.keeps lexicon row.word) →
      let other : Renderer := ⟨⟨(treebank.reworded rewording).visible otherFilter otherLexicon,
        otherLexicon, distanceLimit⟩, columns⟩
      (other.fields ref).map Field.origin = (renderer.fields ref).map Field.origin := by
  intro renderer shown
  refine ⟨fun hcontributes => ?_, fun hnothing => ?_, fun column text htext => ?_, ?_⟩
  · exact Renderer.splitOn_token (Renderer.fields_ne_nil hcontributes)
  · have hnone : renderer.fields ref = [] := List.flatMap_eq_nil_iff.mpr fun column hcolumn =>
      (Renderer.value_column_eq_none_iff ref column).mp (hnothing column hcolumn)
    refine ⟨hnone, ?_⟩
    rw [Renderer.value_token, ← Renderer.map_fragment_fields, hnone]
    rfl
  · exact Renderer.splitOn_column htext
  · intro rewording otherFilter otherLexicon hkeeps other
    have hcolumns : other.columns = renderer.columns := rfl
    exact Renderer.map_origin_fields_congr hcolumns (shiftBy_reworded rfl rfl hkeeps)
      (follow_reworded rfl rfl hkeeps) (isSome_read_reworded rfl rfl rfl) ref

/-- The dependents of *cat* are *the* and *sat*, whose base form is listed with a slash; the word
class of *cat* has two.  There is no token nine further on, and no governor of the comma.  If all
texts are slashes, each field comes from where it came from. -/
theorem token_splitOn_slash_sample :
    let lexicon := (Lexicon.empty.addListedForms [("sit", "s/t")]).addWordClasses [("nn", "/N/")]
    let beyond : Column := ⟨none, some 9, [], .word⟩
    let columns : List Column := [⟨none, none, [.dependent], .baseForm⟩, beyond,
      ⟨none, none, [], .wordClass⟩, ⟨none, some 4, [.governor], .word⟩]
    let renderer : Renderer := ⟨⟨sample.visible .none lexicon, lexicon, 30⟩, columns⟩
    let alone : Renderer := ⟨⟨sample.visible .none lexicon, lexicon, 30⟩, [beyond]⟩
    let rewording : Rewording := .ofTexts fun _ => "/"
    let other : Renderer :=
      ⟨⟨(sample.reworded rewording).visible .none .empty, .empty, 30⟩, columns⟩
    (∃ column ∈ columns, (renderer.column ⟨7, 2⟩ column).value ≠ none) ∧
      (renderer.token ⟨7, 2⟩).value = "the/s-slash-t/-slash-N-slash-/none" ∧
      ((renderer.token ⟨7, 2⟩).value.toList.splitOn '/').map String.ofList =
        ["the", "s-slash-t", "-slash-N-slash-", "none"] ∧
      (∀ column ∈ [beyond], (alone.column ⟨7, 2⟩ column).value = none) ∧
      (alone.token ⟨7, 2⟩).value = "" ∧
      (renderer.column ⟨7, 2⟩ ⟨none, none, [], .wordClass⟩).value = some "-slash-N-slash-" ∧
      ("-slash-N-slash-".toList.splitOn '/').map String.ofList = ["-slash-N-slash-"] ∧
      (∀ row ∈ sample.rows, WordFilter.none.keeps .empty (rewording.reword row).word =
        WordFilter.none.keeps lexicon row.word) ∧
      (other.token ⟨7, 2⟩).value = "-slash-/-slash-/-slash-/none" ∧
      (other.fields ⟨7, 2⟩).map Field.origin = (renderer.fields ⟨7, 2⟩).map Field.origin := by
  intro lexicon beyond columns renderer alone rewording other
  obtain ⟨hsplit, -, hcolumn, hreworded⟩ :=
    token_splitOn_slash sample .none lexicon 30 columns ⟨7, 2⟩
  have hcontributes : ∃ column ∈ columns, (renderer.column ⟨7, 2⟩ column).value ≠ none := by
    decide +kernel
  have hnothing : ∀ column ∈ [beyond], (alone.column ⟨7, 2⟩ column).value = none := by
    decide +kernel
  have hclass : (renderer.column ⟨7, 2⟩ ⟨none, none, [], .wordClass⟩).value =
      some "-slash-N-slash-" := by
    decide +kernel
  have hkeeps : ∀ row ∈ sample.rows, WordFilter.none.keeps .empty (rewording.reword row).word =
      WordFilter.none.keeps lexicon row.word := fun _ _ => rfl
  refine ⟨hcontributes, by decide +kernel, (hsplit hcontributes).trans (by decide +kernel),
    hnothing, ?_, hclass, (hcolumn _ _ hclass).trans (by decide +kernel), hkeeps,
    by decide +kernel, hreworded rewording .none .empty hkeeps⟩
  exact ((token_splitOn_slash sample .none lexicon 30 [beyond] ⟨7, 2⟩).2.1 hnothing).2

end Treebank

end Concordancer
