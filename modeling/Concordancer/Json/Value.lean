/-!
# JSON values

The values that JSON texts stand for, as far as queries can tell them apart.  Numbers are
either integers of at most 64 bits, signed or unsigned, or of another kind; nothing in a
query may be a number of another kind, so its value is not kept.  The members of an object
keep their order, and names may repeat.
-/

namespace Concordancer

inductive Json
  | null
  | bool (value : Bool)
  | integer (value : Int)
  /-- A number with a fraction or an exponent, the negative zero, or one of more bits. -/
  | real
  | string (text : String)
  | array (items : List Json)
  | object (members : List (String × Json))

end Concordancer
