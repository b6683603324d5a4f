import Concordancer.Unicode.CaseMap
import Concordancer.Unicode.Property

/-!
# Lower-casing a text

Case is ignored by comparing texts in lower case.  Every character has a lower case of its
own except the capital sigma, whose lower case depends on its neighbours: at the end of a
word it is the final form.
-/

namespace Concordancer.Text

open Unicode

/-- Is the nearest character that case rules do not pass over a cased one? -/
private def startsCased (text : List Char) : Bool :=
  ((text.dropWhile isCaseIgnorable).head?.map isCased).getD false

/-- A sigma ends a word when a cased letter precedes it and none follows.  The text before
it is given from right to left. -/
private def endsWord (before after : List Char) : Bool :=
  startsCased before && !startsCased after

def capitalSigma : Char := Char.ofNat 0x3A3
def smallSigma : Char := Char.ofNat 0x3C3
def finalSigma : Char := Char.ofNat 0x3C2

/-- The lower case of a text that follows `before`, which is given from right to left. -/
def lowercaseAfter (before : List Char) : List Char → List Char
  | [] => []
  | c :: after =>
    (if c = capitalSigma then [if endsWord before after then finalSigma else smallSigma]
      else toLowercase c) ++ lowercaseAfter (c :: before) after

/-- A text in lower case. -/
def lowercase (text : String) : String :=
  String.ofList (lowercaseAfter [] text.toList)

/-- ASCII without capitals is in lower case already. -/
theorem lowercase_eq_self {text : String}
    (hplain : ∀ c ∈ text.toList, c.toNat < 128 ∧ c.toLower = c) : lowercase text = text := by
  have hafter : ∀ (characters before : List Char),
      (∀ c ∈ characters, c.toNat < 128 ∧ c.toLower = c) →
        lowercaseAfter before characters = characters := by
    intro characters
    induction characters with
    | nil => intros; rfl
    | cons c rest ih =>
      intro before hall
      obtain ⟨hascii, hlower⟩ := hall c List.mem_cons_self
      have hsigma : c ≠ capitalSigma := by
        rintro rfl
        exact absurd hascii (by decide)
      rw [lowercaseAfter, if_neg hsigma, ih _ fun d hd => hall d (List.mem_cons_of_mem _ hd)]
      simp [toLowercase, hascii, hlower]
  rw [lowercase, hafter _ _ hplain, String.ofList_toList]

end Concordancer.Text
