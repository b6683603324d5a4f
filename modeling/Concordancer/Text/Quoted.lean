import Concordancer.Unicode.Property

/-!
# Quoted texts

Messages show a text between double quotes, in a form in which every character can be seen:
quotes and backslashes are escaped, the common control characters have their short escapes,
and whatever leaves no mark of its own is written by its code point.
-/

namespace Concordancer.Text

open Unicode

/-- A character by the hexadecimal digits of its code point, in braces. -/
private def byCodePoint (c : Char) : List Char :=
  ['\\', 'u', '\x7b'] ++ Nat.toDigits 16 c.toNat ++ ['\x7d']

/-- A character as it stands between the quotes. -/
def escape (c : Char) : List Char :=
  match c with
  | '\x00' => ['\\', '0']
  | '\t' => ['\\', 't']
  | '\n' => ['\\', 'n']
  | '\r' => ['\\', 'r']
  | '"' => ['\\', '"']
  | '\\' => ['\\', '\\']
  | _ => if isPrintable c && !extendsGrapheme c then [c] else byCodePoint c

/-- A text in quotes. -/
def quoted (text : String) : String :=
  String.ofList ('"' :: text.toList.flatMap escape ++ ['"'])

end Concordancer.Text
