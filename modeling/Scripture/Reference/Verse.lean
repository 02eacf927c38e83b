import Scripture.Canon.Normalize
import Scripture.Canon.Names
import Scripture.Json.Basic

/-!
# Verses

A verse is a place in the Bible, kept as its offset, together with the book, chapter and
verse it was named by. A verse read from a reference text is named by the place the text
comes to; a verse made from an offset, or by arithmetic, is named Genesis 1:1 whatever
its offset. The name matters for `maxVerse` and `maxChapter`, which look at the named
chapter and book.

## Reading a reference

The reference starts at the first character that is neither a digit nor a hyphen, or at
the digits just before it. The book is those digits and every character after them up to
the next digit or hyphen; then come the chapter (an optional minus and digits), an
optional colon and the verse (again an optional minus and digits). A text with no such
start is read as `Genesis 1:1`. A missing chapter or verse is 1; a chapter or verse that
is a lone minus is a failure. The book is named by `Canon.bookIndex` after blanks are
trimmed from both ends.

A text that is exactly the reference text of a verse lies at that verse's offset and is
named by the book, chapter and verse read from it as above. Any other text is carried to a
verse by `Canon.normalizeVerse`, so `John 3:99` runs on into John 4 and `Exodus 1:0` falls
back into Genesis.

## Arithmetic

Adding to, subtracting from, multiplying and dividing (rounding down) a verse's offset
gives the verse at the result, held between the first and the last verse of the Bible.
Division by zero is a failure.
-/

namespace Scripture

/-- A book, chapter and verse, as positions counted from zero (the book) and one (the
chapter and verse). -/
structure Position where
  book : Nat
  chapter : Nat
  verse : Nat
deriving DecidableEq, Repr

/-- A verse of the Bible: its offset and the position it was named by. -/
structure Verse where
  offset : Nat
  named : Position
  offset_lt : offset < Canon.verseTotal
deriving Repr

namespace Verse

/-! ### Reading references -/

/-- The parts of a reference text: the book, the chapter and the verse, as written. -/
structure Parts where
  book : List Char
  chapter : List Char
  verse : List Char
deriving Repr

/-- The text from where a reference starts: the first character that is neither a digit
nor a hyphen, or the digits just before it; `run` is the text from the start of the
digits just passed, if any. -/
def refStart : List Char → Option (List Char) → Option (List Char)
  | [], _ => none
  | c :: rest, run =>
    if Text.isDigit c then refStart rest (run.getD (c :: rest) |> some)
    else if c == '-' then refStart rest none
    else some (run.getD (c :: rest))

/-- An optional minus followed by digits, and the rest of the text. -/
def signedDigits (cs : List Char) : List Char × List Char :=
  let (sign, rest) := match cs with
    | '-' :: rest => (['-'], rest)
    | _ => ([], cs)
  (sign ++ rest.takeWhile Text.isDigit, rest.dropWhile Text.isDigit)

/-- Splits a reference text into its parts, if it has a start. -/
def parts? (s : String) : Option Parts := do
  let m ← refStart s.toList none
  let digits := m.takeWhile Text.isDigit
  let afterDigits := m.dropWhile Text.isDigit
  let inBook := fun c => !(Text.isDigit c || c == '-')
  let body := afterDigits.takeWhile inBook
  let rest := afterDigits.dropWhile inBook
  let (chapter, rest) := signedDigits rest
  let rest := match rest with
    | ':' :: r => r
    | r => r
  let (verse, _) := signedDigits rest
  pure ⟨digits ++ body, chapter, verse⟩

/-- The number written as a chapter or verse: 1 when nothing is written. -/
def partNumber (cs : List Char) : Except Failure Int :=
  if cs.isEmpty then .ok 1 else Json.toInteger (.str (String.ofList cs))

/-- The place that a text equal to a verse's reference text names: its book, chapter and
verse, when the text is exactly such a reference text. -/
def exactPosition? (s : String) : Option Position :=
  (List.range Canon.bookCount).findSome? fun b =>
    let name := Canon.bookName b ++ " "
    if s.startsWith name then
      match (s.drop name.length).toString.splitOn ":" with
      | [c, v] =>
        let canonical := fun (t : String) => !t.isEmpty && t.all Char.isDigit &&
          (t.length == 1 || !t.startsWith "0")
        if canonical c && canonical v then
          match Canon.books[b]? with
          | some bk =>
            let c := c.toNat?.getD 0
            let v := v.toNat?.getD 0
            if 1 ≤ c ∧ c ≤ bk.chapterCount ∧ 1 ≤ v ∧ v ≤ bk.verseCounts.getD (c - 1) 0 then
              some ⟨b, c, v⟩
            else none
          | none => none
        else none
      | _ => none
    else none

/-- The offset of a valid position. -/
def positionOffset (p : Position) : Nat :=
  Canon.chapterStarts.getD (Canon.bookStarts.getD p.book 0 + p.chapter - 1) 0 + p.verse - 1

/-- The offset held between the first and the last verse of the Bible. -/
def clampOffset (n : Int) : Nat :=
  if n < 0 then 0 else min n.toNat (Canon.verseTotal - 1)

theorem clampOffset_lt (n : Int) : clampOffset n < Canon.verseTotal := by
  unfold clampOffset Canon.verseTotal
  split <;> omega

/-- The verse at an offset, named Genesis 1:1; an offset outside the Bible gives the first
verse. -/
def ofOffset (n : Int) : Verse :=
  if h : 0 ≤ n ∧ n < Canon.verseTotal then
    ⟨n.toNat, ⟨0, 1, 1⟩, by unfold Canon.verseTotal at *; omega⟩
  else ⟨0, ⟨0, 1, 1⟩, by decide⟩

/-- The verse at a position, named by it. -/
def atPosition (p : Position) : Verse :=
  ⟨clampOffset (positionOffset p), p, clampOffset_lt _⟩

/-- The verse that a reference text names. -/
def ofText (s : String) : Except Failure Verse := do
  let (s, parts) := match parts? s with
    | some p => (s, p)
    | none => ("Genesis 1:1", ⟨"Genesis ".toList, ['1'], ['1']⟩)
  let chapter ← partNumber parts.chapter
  let verse ← partNumber parts.verse
  let book := Canon.bookIndex (Text.trimBlank (String.ofList parts.book))
  match exactPosition? s with
  | some p => .ok ⟨clampOffset (positionOffset p), ⟨book, chapter.toNat, verse.toNat⟩, clampOffset_lt _⟩
  | none =>
    match Canon.normalizeVerse book chapter verse with
    | .ok (b, c, v) =>
      match Canon.offsetOf b c v with
      | .ok o => .ok ⟨clampOffset o, ⟨b.toNat, c.toNat, v.toNat⟩, clampOffset_lt _⟩
      | .error e => .error e.toFailure
    | .error e => .error e.toFailure

/-- The verse that a loosely typed argument names: a text is read as a reference, an
integer is an offset, and anything else is a failure. -/
def ofJson : Json → Except Failure Verse
  | .str s => ofText s
  | .int n => .ok (ofOffset n)
  | j => .error ⟨.wrongType, "expected string or bytes-like object, got '" ++ j.kindName ++ "'"⟩

/-! ### Views -/

/-- The reference text of a verse, such as `John 3:16`. -/
def text (v : Verse) : String := Canon.refText v.offset

/-- The form that rebuilds a verse from its reference text. -/
def repr (v : Verse) : String := "Verse(reference='" ++ v.text ++ "')"

/-- The same verse read again from its reference text, so named by its own place. -/
def copy (v : Verse) : Verse :=
  let (b, c, k) := Canon.locate v.offset
  { v with named := ⟨b, c, k⟩ }

@[simp] theorem copy_offset (v : Verse) : v.copy.offset = v.offset := rfl

/-- The last verse of the named chapter. -/
def maxVerse (v : Verse) : Verse :=
  let count := ((Canon.books[v.named.book]?.map (·.verseCounts)).getD []).getD (v.named.chapter - 1) 1
  atPosition ⟨v.named.book, v.named.chapter, count⟩

/-- The first verse of the last chapter of the named book. -/
def maxChapter (v : Verse) : Verse :=
  let count := (Canon.books[v.named.book]?.map (·.chapterCount)).getD 1
  atPosition ⟨v.named.book, count, 1⟩

/-! ### Arithmetic -/

/-- The verse `n` verses after this one, held at the last verse. -/
def add (v : Verse) (n : Int) : Verse := ofOffset (min (v.offset + n) (Canon.verseTotal - 1))

/-- The verse `n` verses before this one, held at the first verse. -/
def sub (v : Verse) (n : Int) : Verse := ofOffset (max (v.offset - n) 0)

/-- The verse at the offset times `n`, held at the last verse. -/
def mul (v : Verse) (n : Int) : Verse := ofOffset (min (v.offset * n) (Canon.verseTotal - 1))

/-- The verse at the offset divided by `n`, rounded down and held at the first verse. -/
def div (v : Verse) (n : Int) : Except Failure Verse :=
  if n = 0 then .error ⟨.divisionByZero, "integer division or modulo by zero"⟩
  else .ok (ofOffset (max (Int.fdiv v.offset n) 0))

end Verse

end Scripture
