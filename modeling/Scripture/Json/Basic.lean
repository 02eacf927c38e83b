import Scripture.Failure
import Scripture.Text.Classes
import Scripture.Text.Quote

/-!
# JSON values

The values that the stored tables, the web answers and the loosely typed arguments of the
library are made of. A number with a fraction or an exponent is a `dec`, kept as an exact
decimal, and is told apart from an integer even when its value is whole. Objects keep
their fields in the order they were written.

Loosely typed arguments are read the way the program reads them: `toInteger` accepts an
integer, a decimal (cut toward zero), a truth value (as 0 or 1) or a text holding an
integer, and names the kind of anything else in its failure.
-/

namespace Scripture

/-- A JSON value. `dec m e` is the number `m × 10 ^ e`, written with a fraction or an
exponent. -/
inductive Json where
  | null
  | bool (b : Bool)
  | int (n : Int)
  | dec (mantissa : Int) (exponent : Int)
  | str (s : String)
  | arr (items : List Json)
  | obj (fields : List (String × Json))
deriving Inhabited, Repr

namespace Json

/-- The name of the kind of a value, as failures name it. -/
def kindName : Json → String
  | .null => "NoneType"
  | .bool _ => "bool"
  | .int _ => "int"
  | .dec _ _ => "float"
  | .str _ => "str"
  | .arr _ => "list"
  | .obj _ => "dict"

/-- The value of a field of an object, the last one written when a name repeats. -/
def field? (j : Json) (name : String) : Option Json :=
  match j with
  | .obj fields => (fields.reverse.find? (·.1 == name)).map (·.2)
  | _ => none

/-- The text of a value that is a text. -/
def str? : Json → Option String
  | .str s => some s
  | _ => none

/-- The integer of a value that is an integer. -/
def int? : Json → Option Int
  | .int n => some n
  | _ => none

/-- The truth of a value that is a truth value. -/
def bool? : Json → Option Bool
  | .bool b => some b
  | _ => none

/-- The items of a value that is a list. -/
def arr? : Json → Option (List Json)
  | .arr xs => some xs
  | _ => none

/-- The fields of a value that is an object. -/
def obj? : Json → Option (List (String × Json))
  | .obj fs => some fs
  | _ => none

/-- Whether a value is `null`. -/
def isNull : Json → Bool
  | .null => true
  | _ => false

/-! ### Reading integers -/

/-- The digits of an integer text with single underscores allowed between digits, as
their value; digits of any script count. -/
def digitsValue (cs : List Char) : Option Nat :=
  go cs 0 false false
where
  /-- `afterDigit`: the last character was a digit; `seen`: some digit was read. -/
  go : List Char → Nat → Bool → Bool → Option Nat
    | [], acc, afterDigit, _ => if afterDigit then some acc else none
    | c :: rest, acc, afterDigit, seen =>
      if c == '_' then
        if afterDigit then go rest acc false seen else none
      else match Text.digitValue? c with
        | some d => go rest (acc * 10 + d) true true
        | none => none

/-- The integer a text holds: blanks around it, an optional sign, then decimal digits. -/
def parseInteger? (s : String) : Option Int :=
  let cs := ((s.toList.dropWhile Text.isBlank).reverse.dropWhile Text.isBlank).reverse
  match cs with
  | '-' :: rest => (digitsValue rest).map fun n => -(n : Int)
  | '+' :: rest => (digitsValue rest).map fun n => (n : Int)
  | _ => (digitsValue cs).map fun n => (n : Int)

/-- A decimal cut toward zero. -/
def truncate (m e : Int) : Int :=
  if 0 ≤ e then m * Int.pow 10 e.toNat else m.tdiv (Int.pow 10 (-e).toNat)

/-- The integer that a loosely typed argument stands for. -/
def toInteger : Json → Except Failure Int
  | .int n => .ok n
  | .bool b => .ok (if b then 1 else 0)
  | .dec m e => .ok (truncate m e)
  | .str s => match parseInteger? s with
    | some n => .ok n
    | none => .error ⟨.badValue, "invalid literal for int() with base 10: " ++ Text.quote s⟩
  | j => .error ⟨.wrongType,
      "int() argument must be a string, a bytes-like object or a real number, not '" ++
        j.kindName ++ "'"⟩

end Json

end Scripture
