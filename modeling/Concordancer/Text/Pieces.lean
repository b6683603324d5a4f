/-!
# Cutting and joining texts

The few operations on texts that rendering needs: cutting a text at a separator, dropping a
repeated last character, and replacing a character by a text.  They work on the characters
of a text, so that each is a plain recursion on a list.
-/

namespace Concordancer.Text

/-- Cuts a text at the non-empty separator, after `skipped` characters that belong to a
separator already found.  `piece` holds the current piece from right to left. -/
def cut (separator : List Char) : (skipped : Nat) → (piece : List Char) →
    List Char → List (List Char)
  | _, piece, [] => [piece.reverse]
  | skipped + 1, piece, _ :: rest => cut separator skipped piece rest
  | 0, piece, c :: rest =>
    if separator.isPrefixOf (c :: rest) then
      piece.reverse :: cut separator (separator.length - 1) [] rest
    else cut separator 0 (c :: piece) rest

/-- The pieces between the occurrences of a separator, from left to right.  The empty
separator stands before every character and at the end, and so cuts off an empty piece at
both ends. -/
def splitOn (separator text : List Char) : List (List Char) :=
  match separator with
  | [] => [] :: text.map (fun c => [c]) ++ [[]]
  | _ :: _ => cut separator 0 [] text

/-- A text without the occurrences of `last` that end it. -/
def dropTrailing (last : Char) (text : String) : String :=
  String.ofList (text.toList.reverse.dropWhile (· == last)).reverse

/-- A text with every occurrence of a character replaced. -/
def replaceChar (old : Char) (new : List Char) (text : String) : String :=
  String.ofList (text.toList.flatMap fun c => if c = old then new else [c])

end Concordancer.Text
