import Scripture.Json.Basic

/-!
# Reading JSON

Reads a JSON text into a `Json` value. Blanks are the space, tab, line feed and carriage
return. Integers, decimals and the words `NaN`, `Infinity` and `-Infinity` are numbers;
a fraction needs a digit after its point and an exponent a digit after its sign, and
otherwise the number ends before them. Texts may not hold control characters. A field
name that repeats keeps its first place and its last value.

A failure names its cause and the place where it was found, counted in characters from
zero and also as a line and column from one.
-/

namespace Scripture.Json

/-- The causes of a failure to read JSON. -/
inductive ReadProblem where
  | expectingValue
  | expectingComma
  | expectingColon
  | expectingName
  | unterminated
  | controlCharacter
  | badEscape
  | badUnicodeEscape
  | extraData
  | byteOrderMark
deriving DecidableEq, Repr

/-- A failure to read JSON: its cause and where, in characters from the start. -/
structure ReadError where
  problem : ReadProblem
  pos : Nat
deriving Repr

/-- The words of a cause. -/
def ReadProblem.text : ReadProblem → String
  | .expectingValue => "Expecting value"
  | .expectingComma => "Expecting ',' delimiter"
  | .expectingColon => "Expecting ':' delimiter"
  | .expectingName => "Expecting property name enclosed in double quotes"
  | .unterminated => "Unterminated string starting at"
  | .controlCharacter => "Invalid control character at"
  | .badEscape => "Invalid \\escape"
  | .badUnicodeEscape => "Invalid \\uXXXX escape"
  | .extraData => "Extra data"
  | .byteOrderMark => "Unexpected UTF-8 BOM (decode using utf-8-sig)"

/-- The message of a failure in the text `doc`: the cause, then line, column and place. -/
def ReadError.message (doc : String) (e : ReadError) : String :=
  let before := doc.toList.take e.pos
  let line := before.count '\n' + 1
  let col := (before.reverse.takeWhile (· ≠ '\n')).length + 1
  e.problem.text ++ ": line " ++ toString line ++ " column " ++ toString col ++
    " (char " ++ toString e.pos ++ ")"

/-- A JSON blank. -/
def isJsonBlank (c : Char) : Bool := c == ' ' || c == '\t' || c == '\n' || c == '\r'

/-- An ASCII decimal digit. -/
def isAsciiDigit (c : Char) : Bool := '0' ≤ c && c ≤ '9'

/-- The value of a hexadecimal digit. -/
def hexValue? (c : Char) : Option Nat :=
  if '0' ≤ c && c ≤ '9' then some (c.toNat - 48)
  else if 'a' ≤ c && c ≤ 'f' then some (c.toNat - 87)
  else if 'A' ≤ c && c ≤ 'F' then some (c.toNat - 55)
  else none

section
variable (cs : Array Char)

/-- The first place at or after `i` that is not a blank. -/
def skipBlank (i : Nat) : Nat :=
  if h : i < cs.size then
    if isJsonBlank cs[i] then skipBlank (i + 1) else i
  else i
  termination_by cs.size - i

/-- The first place at or after `i` that is not an ASCII digit. -/
def skipDigits (i : Nat) : Nat :=
  if h : i < cs.size then
    if isAsciiDigit cs[i] then skipDigits (i + 1) else i
  else i
  termination_by cs.size - i

/-- The value of four hexadecimal digits from `i`. -/
def hex4 (i : Nat) : Option Nat := do
  let a ← hexValue? (cs.getD i ' ')
  let b ← hexValue? (cs.getD (i + 1) ' ')
  let c ← hexValue? (cs.getD (i + 2) ' ')
  let d ← hexValue? (cs.getD (i + 3) ' ')
  pure (((a * 16 + b) * 16 + c) * 16 + d)

/-- Whether the characters from `i` spell `w`. -/
def spells (i : Nat) (w : String) : Bool :=
  (w.toList.zipIdx.all fun (c, k) => cs[i + k]? == some c)

/-- Reads the rest of a text whose opening quote is at `start`, from `i`, after the
characters `acc`; gives the text and the place after the closing quote. -/
def readText (start i : Nat) (acc : List Char) : Except ReadError (String × Nat) :=
  if h : i < cs.size then
    let c := cs[i]
    if c == '"' then .ok (String.ofList acc.reverse, i + 1)
    else if c.toNat ≤ 0x1f then .error ⟨.controlCharacter, i⟩
    else if c == '\\' then
      if h2 : i + 1 < cs.size then
        let e := cs[i + 1]
        if e == 'u' then
          if i + 6 ≥ cs.size then .error ⟨.badUnicodeEscape, i + 1⟩
          else match hex4 cs (i + 2) with
            | none => .error ⟨.badUnicodeEscape, i + 1⟩
            | some u =>
              if 0xD800 ≤ u ∧ u < 0xDC00 ∧ i + 12 < cs.size ∧ cs.getD (i + 6) ' ' == '\\' ∧
                  cs.getD (i + 7) ' ' == 'u' then
                match hex4 cs (i + 8) with
                | none => .error ⟨.badUnicodeEscape, i + 7⟩
                | some l =>
                  if 0xDC00 ≤ l ∧ l < 0xE000 then
                    let joined := 0x10000 + (u - 0xD800) * 0x400 + (l - 0xDC00)
                    readText start (i + 12) (Char.ofNat joined :: acc)
                  else readText start (i + 6) (Char.ofNat u :: acc)
              else readText start (i + 6) (Char.ofNat u :: acc)
        else
          let decoded := match e with
            | '"' => some '"' | '\\' => some '\\' | '/' => some '/'
            | 'b' => some (Char.ofNat 8) | 'f' => some (Char.ofNat 12)
            | 'n' => some '\n' | 'r' => some '\r' | 't' => some '\t'
            | _ => none
          match decoded with
          | some d => readText start (i + 2) (d :: acc)
          | none => .error ⟨.badEscape, i⟩
      else .error ⟨.unterminated, start⟩
    else readText start (i + 1) (c :: acc)
  else .error ⟨.unterminated, start⟩
  termination_by cs.size - i

/-- The digits between two places, as a natural number. -/
def digitsBetween (i j : Nat) : Nat :=
  ((cs.extract i j).toList.foldl (fun acc c => acc * 10 + (c.toNat - 48)) 0)

/-- Reads a number at `i`: an optional minus, an integer part without leading zeros, then
perhaps a fraction and an exponent. -/
def readNumber (i : Nat) : Option (Json × Nat) :=
  let neg := cs[i]? == some '-'
  let j := if neg then i + 1 else i
  match cs[j]? with
  | none => none
  | some c =>
    if !isAsciiDigit c then none
    else
      let k := if c == '0' then j + 1 else skipDigits cs (j + 1)
      let intPart := digitsBetween cs j k
      let (fracDigits, k2) :=
        if cs[k]? == some '.' && (cs[k + 1]?.map isAsciiDigit).getD false then
          let e := skipDigits cs (k + 1)
          ((cs.extract (k + 1) e).toList, e)
        else ([], k)
      let (expo, k3, hasExp) :=
        if cs[k2]? == some 'e' || cs[k2]? == some 'E' then
          let s := k2 + 1
          let (sign, s2) := if cs[s]? == some '-' then (-1, s + 1)
            else if cs[s]? == some '+' then (1, s + 1) else (1, s)
          let e := skipDigits cs s2
          if e > s2 then ((sign * (digitsBetween cs s2 e : Int)), e, true) else (0, k2, false)
        else (0, k2, false)
      let mant : Nat := intPart * Nat.pow 10 fracDigits.length +
        fracDigits.foldl (fun acc d => acc * 10 + (d.toNat - 48)) 0
      let mant : Int := if neg then -(mant : Int) else mant
      if fracDigits.isEmpty && !hasExp then some (.int mant, k3)
      else some (.dec mant (expo - fracDigits.length), k3)

mutual

/-- Reads one value at `i` (no blanks before it); `fuel` bounds the nesting. -/
def readValue : Nat → Nat → Except ReadError (Json × Nat)
  | 0, i => .error ⟨.expectingValue, i⟩
  | fuel + 1, i =>
    match cs[i]? with
    | some '"' => (readText cs i (i + 1) []).map fun (s, j) => (.str s, j)
    | some '{' => readFields fuel (skipBlank cs (i + 1)) [] true
    | some '[' => readItems fuel (skipBlank cs (i + 1)) [] true
    | some c =>
      if c == 'n' && spells cs i "null" then .ok (.null, i + 4)
      else if c == 't' && spells cs i "true" then .ok (.bool true, i + 4)
      else if c == 'f' && spells cs i "false" then .ok (.bool false, i + 5)
      else match readNumber cs i with
        | some r => .ok r
        | none => .error ⟨.expectingValue, i⟩
    | none => .error ⟨.expectingValue, i⟩

/-- Reads the items of a list from `i`, after the items `acc` (in reverse). -/
def readItems : Nat → Nat → List Json → Bool → Except ReadError (Json × Nat)
  | 0, i, _, _ => .error ⟨.expectingValue, i⟩
  | fuel + 1, i, acc, first =>
    if first && cs[i]? == some ']' then .ok (.arr [], i + 1)
    else do
      let (v, j) ← readValue fuel i
      let j := skipBlank cs j
      match cs[j]? with
      | some ']' => .ok (.arr (v :: acc).reverse, j + 1)
      | some ',' => readItems fuel (skipBlank cs (j + 1)) (v :: acc) false
      | _ => .error ⟨.expectingComma, j⟩

/-- Reads the fields of an object from `i`, after the fields `acc` (in reverse). -/
def readFields : Nat → Nat → List (String × Json) → Bool → Except ReadError (Json × Nat)
  | 0, i, _, _ => .error ⟨.expectingValue, i⟩
  | fuel + 1, i, acc, first =>
    if first && cs[i]? == some '}' then .ok (.obj [], i + 1)
    else if cs[i]? != some '"' then .error ⟨.expectingName, i⟩
    else do
      let (name, j) ← readText cs i (i + 1) []
      let j := skipBlank cs j
      if cs[j]? != some ':' then .error ⟨.expectingColon, j⟩
      else
        let (v, k) ← readValue fuel (skipBlank cs (j + 1))
        let k := skipBlank cs k
        match cs[k]? with
        | some '}' => .ok (.obj (addField (name, v) acc).reverse, k + 1)
        | some ',' => readFields fuel (skipBlank cs (k + 1)) (addField (name, v) acc) false
        | _ => .error ⟨.expectingComma, k⟩

/-- Adds a field to fields kept in reverse: a repeated name keeps its place and takes the
new value. -/
def addField (f : String × Json) (acc : List (String × Json)) : List (String × Json) :=
  if acc.any (·.1 == f.1) then acc.map fun g => if g.1 == f.1 then f else g else f :: acc

end

end

/-- Reads a whole JSON text: one value with blanks around it. -/
def parse (doc : String) : Except ReadError Json :=
  let cs := doc.toList.toArray
  if cs[0]? == some (Char.ofNat 0xFEFF) then .error ⟨.byteOrderMark, 0⟩
  else do
    let (v, j) ← readValue cs (2 * cs.size + 2) (skipBlank cs 0)
    let j := skipBlank cs j
    if j < cs.size then .error ⟨.extraData, j⟩ else .ok v

/-- Reads a whole JSON text, failing with the message the program gives. -/
def parseText (doc : String) : Except Failure Json :=
  (parse doc).mapError fun e => ⟨.badJson, e.message doc⟩

end Scripture.Json
