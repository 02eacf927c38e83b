import Scripture.Json.Basic
import Scripture.Text.Quote

/-!
# Writing JSON

Writes a `Json` value as text in the program's one layout: a comma and a blank between
items, a colon and a blank between a field name and its value, fields in their order.
Texts are written in ASCII: the quote, the backslash and the control characters are
escaped, and every character past ASCII is written as `\uXXXX`, a character past the
basic plane as two such escapes for its surrogate pair.

A decimal is written with its shortest digits, in positional notation when its leading
digit stands between the fourth place after the point and the sixteenth before it, and
in scientific notation (`1e+20`, `1.5e-07`) otherwise; a positional decimal always shows a
point and a digit after it.
-/

namespace Scripture.Json

/-- The escaped form of one character inside a JSON text. -/
def escapeChar (c : Char) : String :=
  if c == '"' then "\\\""
  else if c == '\\' then "\\\\"
  else if c == '\n' then "\\n"
  else if c == '\r' then "\\r"
  else if c == '\t' then "\\t"
  else if c.toNat == 8 then "\\b"
  else if c.toNat == 12 then "\\f"
  else if c.toNat < 0x20 then "\\u" ++ Text.hexDigits 4 c.toNat
  else if c.toNat < 0x7f then c.toString
  else if c.toNat < 0x10000 then "\\u" ++ Text.hexDigits 4 c.toNat
  else
    let v := c.toNat - 0x10000
    "\\u" ++ Text.hexDigits 4 (0xD800 + v / 0x400) ++ "\\u" ++ Text.hexDigits 4 (0xDC00 + v % 0x400)

/-- A text as a JSON string literal. -/
def quoteText (s : String) : String :=
  "\"" ++ String.join (s.toList.map escapeChar) ++ "\""

/-- The shortest digits of a positive integer mantissa and its exponent: trailing zeros
are moved into the exponent. -/
def trimZeros : Nat → Nat → Int → Nat × Int
  | 0, m, e => (m, e)
  | fuel + 1, m, e => if m ≠ 0 ∧ m % 10 = 0 then trimZeros fuel (m / 10) (e + 1) else (m, e)

/-- The text of the decimal `m × 10 ^ e`. -/
def decimalText (m e : Int) : String :=
  let sign := if m < 0 then "-" else ""
  if m = 0 then "0.0" else
  let (digits, e) := trimZeros (toString m.natAbs).length m.natAbs e
  let ds := toString digits
  let lead : Int := ds.length - 1 + e
  if -4 ≤ lead ∧ lead < 16 then
    if 0 ≤ e then sign ++ ds ++ String.ofList (List.replicate e.toNat '0') ++ ".0"
    else if 0 ≤ lead then
      let k := (lead + 1).toNat
      sign ++ String.ofList (ds.toList.take k) ++ "." ++ String.ofList (ds.toList.drop k)
    else sign ++ "0." ++ String.ofList (List.replicate ((-lead).toNat - 1) '0') ++ ds
  else
    let rest := ds.toList.drop 1
    let mant := String.ofList (ds.toList.take 1) ++ (if rest.isEmpty then "" else "." ++ String.ofList rest)
    let expSign := if lead < 0 then "-" else "+"
    let expDigits := toString lead.natAbs
    let expDigits := if expDigits.length < 2 then "0" ++ expDigits else expDigits
    sign ++ mant ++ "e" ++ expSign ++ expDigits

mutual

/-- The text of a value. -/
def render : Json → String
  | .null => "null"
  | .bool b => if b then "true" else "false"
  | .int n => toString n
  | .dec m e => decimalText m e
  | .str s => quoteText s
  | .arr items => "[" ++ renderItems items ++ "]"
  | .obj fields => "\x7b" ++ renderFields fields ++ "\x7d"

/-- The text of the items of a list, separated by commas. -/
def renderItems : List Json → String
  | [] => ""
  | [x] => render x
  | x :: xs => render x ++ ", " ++ renderItems xs

/-- The text of the fields of an object, separated by commas. -/
def renderFields : List (String × Json) → String
  | [] => ""
  | [(k, v)] => quoteText k ++ ": " ++ render v
  | (k, v) :: fs => quoteText k ++ ": " ++ render v ++ ", " ++ renderFields fs

end

/-! ### Display text

The text a value shows when it is formatted into a message: a text as itself, `None`,
`True` and `False`, numbers as written above, and lists and objects with their texts
quoted (see `Scripture.Text.quote`). -/

mutual

/-- The text a value shows inside a list or object: texts are quoted. -/
def shown : Json → String
  | .str s => Text.quote s
  | .null => "None"
  | .bool b => if b then "True" else "False"
  | .int n => toString n
  | .dec m e => decimalText m e
  | .arr items => "[" ++ shownItems items ++ "]"
  | .obj fields => "\x7b" ++ shownFields fields ++ "\x7d"

/-- The shown items of a list, separated by commas. -/
def shownItems : List Json → String
  | [] => ""
  | [x] => shown x
  | x :: xs => shown x ++ ", " ++ shownItems xs

/-- The shown fields of an object, separated by commas. -/
def shownFields : List (String × Json) → String
  | [] => ""
  | [(k, v)] => Text.quote k ++ ": " ++ shown v
  | (k, v) :: fs => Text.quote k ++ ": " ++ shown v ++ ", " ++ shownFields fs

end

/-- The text a value shows when formatted on its own: a text is itself. -/
def display : Json → String
  | .str s => s
  | j => shown j

end Scripture.Json
