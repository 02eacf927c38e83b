import Scripture.Text.Classes

/-!
# Quoted texts

The quoted form of a text, as messages show a text: between single quotes, or between
double quotes when the text holds a single quote and no double quote. Inside, the
backslash and the chosen quote are escaped, tab, line feed and carriage return are
written `\t`, `\n`, `\r`, and every other character that is not printable is written by
its code in hexadecimal: `\xNN` below 256, `\uNNNN` below 65536 and `\UNNNNNNNN` above.
-/

namespace Scripture.Text

/-- The hexadecimal digits of `n`, in lower case, padded with zeros to `width`. -/
def hexDigits (width n : Nat) : String :=
  let ds := Nat.toDigits 16 n
  String.ofList (List.replicate (width - ds.length) '0' ++ ds)

/-- The quoted form of one character inside quotes `q`. -/
def quoteChar (q : Char) (c : Char) : String :=
  if c == '\\' then "\\\\"
  else if c == q then "\\" ++ c.toString
  else if c == '\t' then "\\t"
  else if c == '\n' then "\\n"
  else if c == '\r' then "\\r"
  else if isPrintable c then c.toString
  else if c.toNat < 256 then "\\x" ++ hexDigits 2 c.toNat
  else if c.toNat < 65536 then "\\u" ++ hexDigits 4 c.toNat
  else "\\U" ++ hexDigits 8 c.toNat

/-- The quoted form of a text. -/
def quote (s : String) : String :=
  let q := if s.contains '\'' && !s.contains '"' then '"' else '\''
  q.toString ++ String.join (s.toList.map (quoteChar q)) ++ q.toString

/-- The quoted form of a text in ASCII only: as `quote`, with every character past ASCII
written by its code. -/
def quoteAscii (s : String) : String :=
  String.join ((quote s).toList.map fun c =>
    if c.toNat < 128 then c.toString
    else if c.toNat < 256 then "\\x" ++ hexDigits 2 c.toNat
    else if c.toNat < 65536 then "\\u" ++ hexDigits 4 c.toNat
    else "\\U" ++ hexDigits 8 c.toNat)

end Scripture.Text
