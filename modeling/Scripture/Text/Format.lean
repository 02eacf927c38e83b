import Scripture.Text.Quote
import Scripture.Failure

/-!
# Filling a format with one text

`fill fmt arg` fills the conversions of `fmt` with the one text `arg`, as markup is put
around verse text. A conversion is `%`, then flags (`-` puts the padding on the right; the
others change nothing for text), a width, a precision after `.`, an ignored length letter
(`h`, `l` or `L`), and the kind: `s` gives the text, `r` its quoted form and `a` its quoted
form in ASCII, `c` the text when it is one character. The precision cuts the result and
the width pads it with blanks. `%%` gives `%` and takes no text.

The one text fills exactly one conversion. A second conversion, or none at all, fails; so
do the kinds for numbers, a width or precision `*`, a named conversion, an unknown kind
and a conversion cut off by the end of the format. The text is taken before the kind is
looked at, so a second conversion fails for want of a text whatever its kind.
-/

namespace Scripture.Text

/-- The state of filling: the text written so far, reversed, and whether the text has been
used. -/
structure FillState where
  out : List Char := []
  used : Bool := false

/-- The value of the digits of `fmt` from index `i`, and the index after them. -/
def digitsAt (fmt : Array Char) : Nat → Nat → Nat → Nat × Nat
  | 0, i, acc => (acc, i)
  | fuel + 1, i, acc =>
    match fmt[i]? with
    | some c => if '0' ≤ c && c ≤ '9' then digitsAt fmt fuel (i + 1) (acc * 10 + (c.toNat - 48)) else (acc, i)
    | none => (acc, i)

/-- The index of the first character from `i` that is not a conversion flag. -/
def flagsEnd (fmt : Array Char) : Nat → Nat → Nat
  | 0, i => i
  | fuel + 1, i =>
    match fmt[i]? with
    | some c => if "-+ #0".contains c then flagsEnd fmt fuel (i + 1) else i
    | none => i

/-- Fills the conversion whose `%` stands just before index `i`; gives the new state and
the index after the conversion. -/
def fillConversion (fmt : Array Char) (arg : String) (st : FillState) (i : Nat) :
    Except Failure (FillState × Nat) := do
  let incomplete : Failure := ⟨.badValue, "incomplete format"⟩
  let noArg : Failure := ⟨.wrongType, "not enough arguments for format string"⟩
  match fmt[i]? with
  | none => throw incomplete
  | some '%' => return ({ st with out := '%' :: st.out }, i + 1)
  | some '(' => throw ⟨.wrongType, "format requires a mapping"⟩
  | some _ => pure ()
  let star : Failure := if st.used then noArg else ⟨.wrongType, "* wants int"⟩
  let j := flagsEnd fmt fmt.size i
  let leftAlign := (fmt.extract i j).contains '-'
  if fmt[j]? == some '*' then throw star
  let (width, j) := digitsAt fmt fmt.size j 0
  let (precision, j) ←
    if fmt[j]? == some '.' then
      if fmt[j + 1]? == some '*' then throw star
      else pure (let (p, k) := digitsAt fmt fmt.size (j + 1) 0; (some p, k))
    else pure (none, j)
  let j := match fmt[j]? with
    | some c => if c == 'h' || c == 'l' || c == 'L' then j + 1 else j
    | none => j
  let some kind := fmt[j]? | throw incomplete
  if st.used then throw noArg
  let body ← match kind with
    | 's' => pure arg
    | 'r' => pure (quote arg)
    | 'a' => pure (quoteAscii arg)
    | 'c' => if arg.length == 1 then pure arg else throw ⟨.wrongType, "%c requires int or char"⟩
    | 'd' | 'i' | 'u' =>
      throw ⟨.wrongType, "%" ++ kind.toString ++ " format: a real number is required, not str"⟩
    | 'o' | 'x' | 'X' =>
      throw ⟨.wrongType, "%" ++ kind.toString ++ " format: an integer is required, not str"⟩
    | 'e' | 'E' | 'f' | 'F' | 'g' | 'G' => throw ⟨.wrongType, "must be real number, not str"⟩
    | c =>
      let shown := if c.toNat < 128 then c.toString else "?"
      throw ⟨.badValue, "unsupported format character '" ++ shown ++ "' (0x" ++
        String.ofList (Nat.toDigits 16 c.toNat) ++ ") at index " ++ toString j⟩
  let cut := match precision with
    | some p => if kind == 'c' then body else String.ofList (body.toList.take p)
    | none => body
  let pad := String.ofList (List.replicate (width - cut.length) ' ')
  let shown := if leftAlign then cut ++ pad else pad ++ cut
  pure ({ out := shown.toList.reverse ++ st.out, used := true }, j + 1)

/-- Fills the format from index `i` on. -/
def fillFrom (fmt : Array Char) (arg : String) : Nat → Nat → FillState → Except Failure String
  | 0, _, st => finish st
  | fuel + 1, i, st =>
    match fmt[i]? with
    | none => finish st
    | some '%' => do
      let (st, j) ← fillConversion fmt arg st (i + 1)
      fillFrom fmt arg fuel j st
    | some c => fillFrom fmt arg fuel (i + 1) { st with out := c :: st.out }
where
  /-- The filled text, once the text has been used. -/
  finish (st : FillState) : Except Failure String :=
    if st.used then pure (String.ofList st.out.reverse)
    else throw ⟨.wrongType, "not all arguments converted during string formatting"⟩

/-- Fills the conversions of a format with one text. -/
def fill (fmt : String) (arg : String) : Except Failure String :=
  let cs := fmt.toList.toArray
  fillFrom cs arg (cs.size + 1) 0 {}

end Scripture.Text
