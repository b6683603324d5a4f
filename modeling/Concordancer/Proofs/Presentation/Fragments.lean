import Concordancer.Proofs.Presentation.Surroundings
import Concordancer.Proofs.Text.Pieces

/-!
# The fragments of a rendered text

A rendered text is joined from fragments: placeholders for what is not there, labels of roots,
and values of tokens.  Once they are joined it cannot be told any more which is which.  This
module keeps them apart.  `Renderer.fragments` lists the fragments of a token, each with where it
comes from, and `value_token` says that the rendered token is these fragments with slashes
between them.

Whether a text is taken for placeholders is decided from the text.  What is decided is
whether each of its fragments can be taken for one (`isAllPlaceholders_joined_iff`).  Labels of
roots cannot; a value can, if it reads as a placeholder.

## Strategy

Fragments have no slashes, and no separator but those inside of values.  So cutting a text where
either stands gives the pieces of its fragments, cut at separators, one fragment after the other
(`pieces_joined`); this uses only that texts are joined by the characters at which they are cut.
-/

namespace Concordancer

/-! ## Fragments -/

/-- What a column shows of one token, by where it comes from. -/
inductive Fragment
  /-- Stands for a token that is not there, or for the word of a root. -/
  | placeholder
  /-- Stands for what a root has no value of. -/
  | rootLabel
  /-- The number of a root, or of its sentence. -/
  | rootNumber (number : Nat)
  /-- What a token has for a feature. -/
  | value (read : String)
deriving DecidableEq, Repr

/-- The character between the tokens of one span. -/
def separatorChar : Option Expansion → Char
  | some .window => '_'
  | _ => ' '

theorem tokenSeparator_eq (expansion : Option Expansion) :
    tokenSeparator expansion = String.singleton (separatorChar expansion) := by
  rcases expansion with _ | _ | _ <;> rfl

theorem separatorChar_eq_or (expansion : Option Expansion) :
    separatorChar expansion = ' ' ∨ separatorChar expansion = '_' := by
  rcases expansion with _ | _ | _
  · exact .inl rfl
  · exact .inl rfl
  · exact .inr rfl

namespace Fragment

/-- A fragment as it is shown. -/
def text : Fragment → String
  | placeholder => Concordancer.placeholder
  | rootLabel => Concordancer.rootLabel
  | rootNumber number => toString number
  | value read => Renderer.clean read

/-- Can a fragment be taken for placeholders?  One that stands for something else can, if it is a
value that reads as they do. -/
def PassesFor (separator : Char) : Fragment → Prop
  | placeholder => True
  | rootLabel => False
  | rootNumber _ => False
  | value read => ReadsAsPlaceholder separator read

instance (separator : Char) : DecidablePred (PassesFor separator)
  | placeholder => inferInstanceAs (Decidable True)
  | rootLabel => inferInstanceAs (Decidable False)
  | rootNumber _ => inferInstanceAs (Decidable False)
  | value read => inferInstanceAs (Decidable (ReadsAsPlaceholder separator read))

/-- Fragments with slashes between them. -/
def joinedText (fragments : List Fragment) : String := "/".intercalate (fragments.map text)

theorem isDigit_of_mem_toString {number : Nat} {c : Char} (hc : c ∈ (toString number).toList) :
    c.isDigit = true := by
  have hdigits : (toString number).toList = Nat.toDigits 10 number := Nat.toList_repr
  rw [hdigits] at hc
  exact Nat.isDigit_of_mem_toDigits (by omega) le_rfl hc

theorem slash_not_mem_text (fragment : Fragment) : '/' ∉ fragment.text.toList := by
  cases fragment with
  | placeholder => decide
  | rootLabel => decide
  | rootNumber number =>
      intro hslash
      exact absurd (isDigit_of_mem_toString hslash) (by decide)
  | value read => exact Renderer.slash_not_mem_clean read

private theorem not_readsAsPlaceholder_toString {separator : Char}
    (hseparator : separator = ' ' ∨ separator = '_') (number : Nat) :
    ¬ ReadsAsPlaceholder separator (toString number) := by
  intro hreads
  cases hdigits : (toString number).toList with
  | nil =>
      have hpiece : [] ∈ (toString number).toList.splitOn separator := by
        rw [hdigits, List.splitOn_nil]
        exact List.mem_singleton.mpr rfl
      cases hreads [] hpiece
  | cons c rest =>
      have hc : c ∈ (toString number).toList := hdigits ▸ List.mem_cons_self
      have hdigit := isDigit_of_mem_toString hc
      rcases hreads.eq_or_mem hc with rfl | hletter
      · rcases hseparator with rfl | rfl
        · cases hdigit
        · cases hdigit
      · have hletters : Concordancer.placeholder.toList.all (!·.isDigit) = true := rfl
        have hother := List.all_eq_true.mp hletters c hletter
        rw [hdigit] at hother
        cases hother

/-- The text of a fragment reads as a placeholder if the fragment can be taken for one. -/
theorem readsAsPlaceholder_text_iff {separator : Char}
    (hseparator : separator = ' ' ∨ separator = '_') (fragment : Fragment) :
    ReadsAsPlaceholder separator fragment.text ↔ fragment.PassesFor separator := by
  cases fragment with
  | placeholder =>
      refine iff_of_true ?_ trivial
      rcases hseparator with rfl | rfl <;> decide
  | rootLabel =>
      refine iff_of_false ?_ id
      rcases hseparator with rfl | rfl <;> decide
  | rootNumber number => exact iff_of_false (not_readsAsPlaceholder_toString hseparator number) id
  | value read =>
      apply readsAsPlaceholder_clean
      · rcases hseparator with rfl | rfl <;> decide
      · rcases hseparator with rfl | rfl <;> decide

end Fragment

/-! ## The fragments of a token -/

namespace Renderer

variable (renderer : Renderer)

/-- What a token has for a feature, in the form in which it is listed. -/
def tokenValue? (feature : Feature) (ref : TokenRef) : Option String :=
  let value := (renderer.navigator.read ref feature).value
  match feature with
  | .baseForm => value.map renderer.navigator.lexicon.listedForm
  | _ => value

/-- What is shown of a root.  A word column that stands alone shows nothing. -/
def rootFragment? (root : TokenRef) : Feature → Option Fragment
  | .word => if renderer.columns.length = 1 then none else some .placeholder
  | .index => some (.rootNumber root.index)
  | .sentenceId => some (.rootNumber root.sentence)
  | _ => some .rootLabel

def fragment? (feature : Feature) (ref : TokenRef) : Option Fragment :=
  if ref.isRoot then renderer.rootFragment? ref feature
  else (renderer.tokenValue? feature ref).map .value

/-- The fragments of one column: a placeholder if its steps lead nowhere. -/
def fragmentsOfColumn (ref : TokenRef) (column : Column) : List Fragment :=
  match renderer.navigator.shiftBy ref column.adjacency with
  | none => []
  | some start =>
    match renderer.reach [start] column.steps with
    | [] => [.placeholder]
    | reached => reached.filterMap (renderer.fragment? column.feature)

/-- The fragments of a token in all columns. -/
def fragments (ref : TokenRef) : List Fragment :=
  renderer.columns.flatMap (renderer.fragmentsOfColumn ref)

variable {renderer}

theorem value_value (feature : Feature) (ref : TokenRef) :
    (renderer.value feature ref).value = (renderer.fragment? feature ref).map Fragment.text := by
  unfold value fragment?
  cases ref.isRoot with
  | true =>
      have hroot : renderer.rootValue ref feature =
          (renderer.rootFragment? ref feature).map Fragment.text := by
        cases feature with
        | word =>
            rw [rootValue, rootFragment?]
            split <;> rfl
        | _ => rfl
      exact hroot
  | false =>
      have hvalue : (renderer.tokenValue? feature ref).map clean =
          ((renderer.tokenValue? feature ref).map Fragment.value).map Fragment.text := by
        rw [Option.map_map]
        rfl
      exact hvalue

theorem value_column (ref : TokenRef) (column : Column) :
    (renderer.column ref column).value =
      if (renderer.fragmentsOfColumn ref column).isEmpty then none
      else some (Fragment.joinedText (renderer.fragmentsOfColumn ref column)) := by
  unfold Renderer.column fragmentsOfColumn
  cases renderer.navigator.shiftBy ref column.adjacency with
  | none => rfl
  | some start =>
      cases hreached : renderer.reach [start] column.steps with
      | nil =>
          simp only [hreached]
          exact congrArg some String.intercalate_singleton.symm
      | cons first rest =>
          simp only [hreached, Told.value_bind, Told.value_traverse, Told.value_pure, value_value]
          have htexts : ((first :: rest).map fun other =>
              (renderer.fragment? column.feature other).map Fragment.text).filterMap id =
                ((first :: rest).filterMap (renderer.fragment? column.feature)).map
                  Fragment.text := by
            rw [List.filterMap_map, List.map_filterMap]
            rfl
          rw [htexts, List.isEmpty_map]
          rfl

end Renderer

/-- Texts that are joined in groups and then with each other are joined at once. -/
private theorem intercalate_groups (separator : String) (groups : List (List String)) :
    separator.intercalate (groups.filterMap fun group =>
        if group.isEmpty then none else some (separator.intercalate group)) =
      separator.intercalate groups.flatten := by
  induction groups with
  | nil => rfl
  | cons group rest ih =>
      cases group with
      | nil => exact ih
      | cons text further =>
          show separator.intercalate (separator.intercalate (text :: further) ::
            rest.filterMap _) = separator.intercalate ((text :: further) ++ rest.flatten)
          -- A separator follows the group only if some later group is not empty.
          by_cases hrest : rest.flatten = []
          · have hempty : ∀ other ∈ rest, other = [] := List.flatten_eq_nil_iff.mp hrest
            have hnone : (rest.filterMap fun group => if group.isEmpty then none
                else some (separator.intercalate group)) = [] := by
              refine List.filterMap_eq_nil_iff.mpr fun other hother => ?_
              rw [hempty other hother]
              rfl
            rw [hnone, hrest, List.append_nil, String.intercalate_singleton]
          · have hsome : (rest.filterMap fun group => if group.isEmpty then none
                else some (separator.intercalate group)) ≠ [] := by
              intro hnone
              apply hrest
              refine List.flatten_eq_nil_iff.mpr fun other hother => ?_
              have hother := List.filterMap_eq_nil_iff.mp hnone other hother
              cases other with
              | nil => rfl
              | cons _ _ => cases hother
            rw [String.intercalate_cons_of_ne_nil hsome, ih,
              String.intercalate_append_of_ne_nil (List.cons_ne_nil _ _) hrest]

namespace Renderer

variable {renderer : Renderer}

theorem value_token (ref : TokenRef) :
    (renderer.token ref).value = Fragment.joinedText (renderer.fragments ref) := by
  have htexts : (renderer.columns.map fun column => (renderer.column ref column).value).filterMap
      id = (renderer.columns.map fun column =>
        (renderer.fragmentsOfColumn ref column).map Fragment.text).filterMap fun group =>
          if group.isEmpty then none else some ("/".intercalate group) := by
    rw [List.filterMap_map, List.filterMap_map]
    refine List.filterMap_congr fun column _ => ?_
    simp only [Function.comp_apply, id, value_column, List.isEmpty_map]
    rfl
  have hflatten : (renderer.columns.map fun column =>
      (renderer.fragmentsOfColumn ref column).map Fragment.text).flatten =
        (renderer.fragments ref).map Fragment.text := by
    rw [fragments, List.map_flatMap, List.flatMap_def]
  calc
    (renderer.token ref).value = "/".intercalate ((renderer.columns.map fun column =>
        (renderer.column ref column).value).filterMap id) := by
      simp only [token, Told.value_bind, Told.value_traverse, Told.value_pure]
    _ = Fragment.joinedText (renderer.fragments ref) := by
      rw [htexts, intercalate_groups, hflatten]
      rfl

end Renderer

/-! ## The fragments of a text -/

/-- Fragments with slashes between them, cut at slashes and separators, are the fragments cut at
separators. -/
private theorem pieces_joinedText (separator : Char) {fragments : List Fragment}
    (hnonempty : fragments ≠ []) :
    ((Fragment.joinedText fragments).toList.splitOnP fun c => c == separator || c == '/') =
      fragments.flatMap fun fragment => fragment.text.toList.splitOn separator := by
  have hslash : ('/' == separator || '/' == '/') = true := by
    rw [beq_self_eq_true, Bool.or_true]
  have htexts : (fragments.map Fragment.text).map String.toList ≠ [] := by
    simpa using hnonempty
  have hjoin : "/".toList = ['/'] := rfl
  rw [Fragment.joinedText, String.toList_intercalate, hjoin,
    Text.splitOnP_intercalate hslash htexts, List.map_map, List.flatMap_map]
  refine List.flatMap_congr fun fragment _ => ?_
  exact splitOnP_of_slash_not_mem fragment.slash_not_mem_text

/-- A joined text, cut at slashes and separators, is its fragments cut at separators. -/
private theorem pieces_joined (separator : Char) {groups : List (List Fragment)}
    (hnonempty : groups ≠ []) (hgroups : ∀ group ∈ groups, group ≠ []) :
    (((String.singleton separator).intercalate (groups.map Fragment.joinedText)).toList.splitOnP
        fun c => c == separator || c == '/') =
      groups.flatten.flatMap fun fragment => fragment.text.toList.splitOn separator := by
  have hseparator : (separator == separator || separator == '/') = true := by
    rw [beq_self_eq_true, Bool.true_or]
  have htexts : (groups.map Fragment.joinedText).map String.toList ≠ [] := by
    simpa using hnonempty
  rw [String.toList_intercalate, String.toList_singleton,
    Text.splitOnP_intercalate hseparator htexts, List.map_map, List.flatMap_map,
    ← List.flatMap_id, List.flatMap_assoc]
  refine List.flatMap_congr fun group hgroup => ?_
  exact pieces_joinedText separator (hgroups group hgroup)

/-- A text with something in it is taken for placeholders if each of its fragments can be. -/
theorem isAllPlaceholders_joined_iff {separator : Char}
    (hseparator : separator = ' ' ∨ separator = '_') {groups : List (List Fragment)}
    (htext : joined (String.singleton separator) (groups.map Fragment.joinedText) ≠ "") :
    isAllPlaceholders (joined (String.singleton separator) (groups.map Fragment.joinedText))
        (String.singleton separator) = true ↔
      ∀ group ∈ groups, Fragment.joinedText group ≠ "" →
        ∀ fragment ∈ group, fragment.PassesFor separator := by
  have hfilter : (groups.map Fragment.joinedText).filter (!·.isEmpty) =
      (groups.filter fun group => !(Fragment.joinedText group).isEmpty).map Fragment.joinedText :=
    List.filter_map
  -- Groups without a text leave no trace in the joined one.
  have hmem : ∀ group, group ∈ groups.filter (fun group => !(Fragment.joinedText group).isEmpty) ↔
      group ∈ groups ∧ Fragment.joinedText group ≠ "" := by
    intro group
    rw [List.mem_filter, Bool.not_eq_true', ← Bool.not_eq_true, String.isEmpty_iff]
  have hnonempty : groups.filter (fun group => !(Fragment.joinedText group).isEmpty) ≠ [] := by
    intro hempty
    apply htext
    rw [joined_eq_empty_iff, hfilter, hempty, List.map_nil]
  have hgroups : ∀ group ∈ groups.filter (fun group => !(Fragment.joinedText group).isEmpty),
      group ≠ [] := by
    rintro group hgroup rfl
    exact ((hmem []).mp hgroup).2 rfl
  rw [isAllPlaceholders_eq, joined, hfilter, pieces_joined separator hnonempty hgroups,
    List.all_eq_true]
  simp only [List.mem_flatMap, List.mem_flatten, hmem, beq_iff_eq]
  constructor
  · intro hall group hgroup hshown fragment hfragment
    rw [← Fragment.readsAsPlaceholder_text_iff hseparator]
    intro piece hpiece
    exact hall piece ⟨fragment, ⟨group, ⟨hgroup, hshown⟩, hfragment⟩, hpiece⟩
  · rintro hall piece ⟨fragment, ⟨group, ⟨hgroup, hshown⟩, hfragment⟩, hpiece⟩
    exact (Fragment.readsAsPlaceholder_text_iff hseparator fragment).mpr
      (hall group hgroup hshown fragment hfragment) piece hpiece

end Concordancer
