import Concordancer.Rendering
import Mathlib.Data.List.Basic

/-!
# The pieces of a text

Cutting at a separator of one character is what `List.splitOn` does
(`splitOn_singleton`), and cutting pieces again at another character cuts the text at both
(`flatMap_splitOnP`).  Texts that are joined by a separator have, cut at it, their own pieces
one after the other (`splitOnP_intercalate`).

Rendered texts are looked at piece by piece: a text is taken for placeholders if each piece of
it between separators and slashes is one.  `ReadsAsPlaceholder` says this of a text without
slashes, such as a rendered value (`isAllPlaceholders_eq_all`); writing out the slashes of a
value does not change the answer (`readsAsPlaceholder_clean`).
-/

namespace Concordancer

namespace Text

variable {c : Char} {text piece : List Char}

private theorem cut_singleton (c : Char) (text piece : List Char) :
    cut [c] 0 piece text = text.splitOnPPrepend (· == c) piece := by
  induction text generalizing piece with
  | nil => rw [cut, List.splitOnPPrepend_nil]
  | cons d rest ih =>
      have hprefix : [c].isPrefixOf (d :: rest) = (d == c) := by
        rw [List.isPrefixOf_cons_cons, List.isPrefixOf_nil_left, Bool.and_true, BEq.comm]
      rw [cut, hprefix, List.splitOnPPrepend_cons_eq_if, ih, ← List.splitOnPPrepend_nil_right]
      exact congrArg (fun further => if (d == c) = true then piece.reverse :: further else _)
        (ih [])

theorem splitOn_singleton (c : Char) (text : List Char) : splitOn [c] text = text.splitOn c := by
  rw [splitOn, cut_singleton, List.splitOnPPrepend_nil_right, List.splitOn_eq_splitOnP]

/-- Cutting the pieces again cuts the text where either of the two cuts. -/
theorem flatMap_splitOnP (p q : Char → Bool) (text : List Char) :
    (text.splitOnP p).flatMap (List.splitOnP q) = text.splitOnP fun c => p c || q c := by
  induction text with
  | nil => simp only [List.splitOnP_nil, List.flatMap_cons, List.flatMap_nil, List.append_nil]
  | cons c rest ih =>
      rw [List.splitOnP_cons_eq_if_modifyHead, List.splitOnP_cons_eq_if_modifyHead, ← ih]
      cases hp : p c with
      | true => simp only [if_true, Bool.true_or, List.flatMap_cons, List.splitOnP_nil,
          List.singleton_append]
      | false =>
          -- The first piece gets one more character, which its first piece gets, or which cuts.
          obtain ⟨first, others, hsplit⟩ :=
            List.exists_cons_of_ne_nil (List.splitOnP_ne_nil p rest)
          obtain ⟨head, further, hhead⟩ :=
            List.exists_cons_of_ne_nil (List.splitOnP_ne_nil q first)
          rw [hsplit, if_neg Bool.false_ne_true, Bool.false_or, List.modifyHead_cons,
            List.flatMap_cons, List.flatMap_cons, List.splitOnP_cons_eq_if_modifyHead, hhead]
          cases q c with
          | true => rfl
          | false => rfl

/-- Joined texts, cut at the separator, have their own pieces one after the other. -/
theorem splitOnP_intercalate {p : Char → Bool} {separator : Char} (hcuts : p separator = true)
    {texts : List (List Char)} (hnonempty : texts ≠ []) :
    ([separator].intercalate texts).splitOnP p = texts.flatMap (List.splitOnP p) := by
  induction texts with
  | nil => contradiction
  | cons first rest ih =>
      cases rest with
      | nil => rw [List.intercalate_singleton, List.flatMap_cons, List.flatMap_nil,
          List.append_nil]
      | cons second further =>
          rw [List.intercalate_cons_cons, List.append_assoc, List.singleton_append,
            List.splitOnP_append_cons _ _ hcuts, ih (List.cons_ne_nil _ _)]
          rfl

theorem exists_mem_splitOn (separator : Char) (hc : c ∈ text) :
    c = separator ∨ ∃ piece ∈ text.splitOn separator, c ∈ piece := by
  rw [List.splitOn_eq_splitOnP]
  induction text with
  | nil => contradiction
  | cons d rest ih =>
      obtain ⟨first, others, hsplit⟩ :=
        List.exists_cons_of_ne_nil (List.splitOnP_ne_nil (· == separator) rest)
      rw [List.splitOnP_cons_eq_if_modifyHead]
      rw [hsplit] at ih ⊢
      by_cases hseparator : d = separator
      · rw [if_pos (beq_iff_eq.mpr hseparator)]
        rcases List.mem_cons.mp hc with rfl | hrest
        · exact .inl hseparator
        · refine (ih hrest).imp_right ?_
          rintro ⟨piece, hpiece, hmem⟩
          exact ⟨piece, List.mem_cons_of_mem _ hpiece, hmem⟩
      · rw [if_neg (by simpa using hseparator), List.modifyHead_cons]
        rcases List.mem_cons.mp hc with rfl | hrest
        · exact .inr ⟨c :: first, List.mem_cons_self, List.mem_cons_self⟩
        · refine (ih hrest).imp_right ?_
          rintro ⟨piece, hpiece, hmem⟩
          rcases List.mem_cons.mp hpiece with rfl | hpiece
          · exact ⟨d :: piece, List.mem_cons_self, List.mem_cons_of_mem d hmem⟩
          · exact ⟨piece, List.mem_cons_of_mem _ hpiece, hmem⟩

theorem not_mem_replaceChar {new : List Char} (hnew : c ∉ new) (text : String) :
    c ∉ (replaceChar c new text).toList := by
  rw [replaceChar, String.toList_ofList, List.mem_flatMap]
  rintro ⟨d, -, hd⟩
  split at hd
  · exact hnew hd
  · next hne => exact hne (List.mem_singleton.mp hd).symm

theorem replaceChar_of_not_mem {new : List Char} {text : String} (hc : c ∉ text.toList) :
    replaceChar c new text = text := by
  have hkeeps : (text.toList.flatMap fun d => if d = c then new else [d]) =
      text.toList.flatMap fun d => [d] := by
    refine List.flatMap_congr fun d hd => if_neg ?_
    rintro rfl
    exact hc hd
  rw [replaceChar, hkeeps, List.flatMap_singleton', String.ofList_toList]

theorem subset_replaceChar {new : List Char} {text : String} (hc : c ∈ text.toList) :
    new ⊆ (replaceChar c new text).toList := by
  intro d hd
  rw [replaceChar, String.toList_ofList, List.mem_flatMap]
  exact ⟨c, hc, by rwa [if_pos rfl]⟩

end Text

/-! ## Texts that are taken for placeholders -/

theorem Renderer.slash_not_mem_clean (value : String) : '/' ∉ (clean value).toList :=
  Text.not_mem_replaceChar (by decide) value

/-- Does a text without slashes have nothing but placeholders between its separators? -/
def ReadsAsPlaceholder (separator : Char) (text : String) : Prop :=
  ∀ piece ∈ text.toList.splitOn separator, piece = placeholder.toList

instance (separator : Char) : DecidablePred (ReadsAsPlaceholder separator) := fun text =>
  inferInstanceAs (Decidable (∀ piece ∈ text.toList.splitOn separator, piece = placeholder.toList))

example : ReadsAsPlaceholder '_' "none_none" ∧ ¬ ReadsAsPlaceholder ' ' "none_none" := by decide

variable {separator : Char}

/-- Separators and slashes cut a rendered text at once. -/
theorem isAllPlaceholders_eq (text : String) (separator : Char) :
    isAllPlaceholders text (String.singleton separator) =
      (text.toList.splitOnP fun c => c == separator || c == '/').all (· == placeholder.toList) := by
  have hslashes : Text.splitOn ['/'] = List.splitOnP (· == '/') := by
    funext piece
    rw [Text.splitOn_singleton, List.splitOn_eq_splitOnP]
  rw [isAllPlaceholders, String.toList_singleton, Text.splitOn_singleton, hslashes,
    List.splitOn_eq_splitOnP, Text.flatMap_splitOnP]

theorem splitOnP_of_slash_not_mem {text : List Char} (hslash : '/' ∉ text) :
    (text.splitOnP fun c => c == separator || c == '/') = text.splitOn separator := by
  have horder : (fun c : Char => c == separator || c == '/') =
      fun c => c == '/' || c == separator := funext fun c => Bool.or_comm _ _
  rw [horder, ← Text.flatMap_splitOnP (· == '/'), ← List.splitOn_eq_splitOnP,
    List.splitOn_eq_singleton hslash, List.flatMap_singleton, List.splitOn_eq_splitOnP]

/-- Without slashes, a text is made of placeholders only if its pieces between blanks are. -/
theorem isAllPlaceholders_eq_all {text : String} (hslash : '/' ∉ text.toList) :
    isAllPlaceholders text " " = (text.toList.splitOn ' ').all (· == placeholder.toList) := by
  rw [← splitOnP_of_slash_not_mem hslash]
  exact isAllPlaceholders_eq text ' '

/-- What reads as a placeholder has no other characters than placeholders and separators. -/
theorem ReadsAsPlaceholder.eq_or_mem {text : String} (hreads : ReadsAsPlaceholder separator text)
    {c : Char} (hc : c ∈ text.toList) : c = separator ∨ c ∈ placeholder.toList := by
  rcases Text.exists_mem_splitOn separator hc with hseparator | ⟨piece, hpiece, hmem⟩
  · exact .inl hseparator
  · exact .inr (hreads piece hpiece ▸ hmem)

/-- Writing out slashes makes no placeholder, and undoes none. -/
theorem readsAsPlaceholder_clean (hslash : separator ≠ '/') (hdash : separator ≠ '-')
    (value : String) :
    ReadsAsPlaceholder separator (Renderer.clean value) ↔ ReadsAsPlaceholder separator value := by
  by_cases hmem : '/' ∈ value.toList
  · -- Neither the slash nor the dashes around its name are in a placeholder.
    have hdashes : '-' ∈ (Renderer.clean value).toList :=
      Text.subset_replaceChar hmem (by decide)
    apply iff_of_false
    · intro hreads
      rcases hreads.eq_or_mem hdashes with heq | hother
      · exact hdash heq.symm
      · exact absurd hother (by decide)
    · intro hreads
      rcases hreads.eq_or_mem hmem with heq | hother
      · exact hslash heq.symm
      · exact absurd hother (by decide)
  · rw [Renderer.clean, Text.replaceChar_of_not_mem hmem]

end Concordancer
