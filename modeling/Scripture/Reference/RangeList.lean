import Scripture.Reference.Range

/-!
# Lists of references

A reference list such as `Gen 1:1-3;Exod 20,22:4` is read as a collection of verses and
ranges.

## Pieces

The text is cut into pieces from left to right. A piece starts, after an optional
semicolon, with a book: an optional digit and then characters that are neither digits nor
hyphens (so the book takes the blanks and punctuation after the name); then come blanks
and hyphens, the chapters (digits, commas and hyphens), an optional colon and the verses
(digits and the characters from the comma to the colon). Characters where no piece starts
are passed over.

## Meaning of the pieces

* A piece with neither chapters nor verses opens a book span, which the next piece closes:
  the span runs from the first verse of the opening book to the last verse of the book of
  the closing piece, whatever else that piece holds. A book span left open adds nothing.
* Otherwise the chapters are split at commas. With verses, the last chapter is the
  chapter of the verses, and the verses are split at commas and read in order, stopping at
  an empty one: `a-b` is a range in the chapter (`a-c:b` ends in chapter `c`), `a-` opens a
  range that the first verse of the next piece closes, `c:a` is a verse of chapter `c`
  (which stays the chapter for the verses after it), and a plain number is a verse. Each
  remaining chapter is the range of that whole chapter.

Every verse is read as the reference `<book> <chapter>:<verse>` (see `Verse.ofText`), so
numbers past the end of a chapter run on. Verses that come to the same offset count once;
ranges all count.
-/

namespace Scripture

/-- An item of a reference list: a single verse or a range. -/
inductive RangeItem where
  | verse (v : Verse)
  | range (r : VerseRange)

namespace RangeList

/-- A piece of a reference list: its book, chapters and verses as written. -/
structure Piece where
  book : String
  chapters : String
  verses : String
deriving Repr

/-- A character that may stand in a book name. -/
def isBookChar (c : Char) : Bool := !(Text.isDigit c || c == '-')

/-- A character of the chapters of a piece. -/
def isChapterChar (c : Char) : Bool := Text.isDigit c || c == ',' || c == '-'

/-- A character of the verses of a piece: a digit or one from the comma to the colon. -/
def isVerseChar (c : Char) : Bool := Text.isDigit c || (',' ≤ c && c ≤ ':')

/-- The book at the front of a text: an optional digit, then book characters. -/
def bookPart? : List Char → Option (List Char × List Char)
  | [] => none
  | c :: rest =>
    if Text.isDigit c then
      match rest with
      | d :: _ => if isBookChar d then
          some (c :: rest.takeWhile isBookChar, rest.dropWhile isBookChar) else none
      | [] => none
    else if isBookChar c then some ((c :: rest).takeWhile isBookChar, (c :: rest).dropWhile isBookChar)
    else none

/-- A piece at the front of a text, without a leading semicolon, and the characters it
takes. -/
def pieceAfter (cs : List Char) : Option (Piece × Nat) := do
  let (book, rest) ← bookPart? cs
  let sep := rest.takeWhile fun c => Text.isBlank c || c == '-'
  let rest := rest.drop sep.length
  let chapters := rest.takeWhile isChapterChar
  let rest := rest.drop chapters.length
  let colon := match rest with
    | ':' :: _ => 1
    | _ => 0
  let verses := (rest.drop colon).takeWhile isVerseChar
  pure (⟨String.ofList book, String.ofList chapters, String.ofList verses⟩,
    book.length + sep.length + chapters.length + colon + verses.length)

/-- A piece at the front of a text and the characters it takes; a leading semicolon is
taken when a piece follows it. -/
def pieceAt (cs : List Char) : Option (Piece × Nat) :=
  match cs with
  | ';' :: rest => match pieceAfter rest with
    | some (p, n) => some (p, n + 1)
    | none => pieceAfter cs
  | _ => pieceAfter cs

/-- The pieces of a text, from left to right. -/
def pieces (cs : List Char) : List Piece :=
  match _h : cs with
  | [] => []
  | _ :: rest =>
    match pieceAt cs with
    | some (p, n) => if 0 < n then p :: pieces (cs.drop n) else pieces rest
    | none => pieces rest
  termination_by cs.length
  decreasing_by all_goals (simp_all; try omega)

/-- The failure of splitting a text into two parts that has more. -/
def tooMany : Failure := ⟨.badValue, "too many values to unpack (expected 2)"⟩

/-- A text split at its only occurrence of a separator. -/
def splitTwo (s : String) (sep : String) : Except Failure (String × String) :=
  match s.splitOn sep with
  | [a, b] => .ok (a, b)
  | [_] => .error ⟨.badValue, "not enough values to unpack (expected 2, got 1)"⟩
  | _ => .error tooMany

/-- The reference text `<book> <chapter>:<verse>`. -/
def refText (book chapter verse : String) : String := book ++ " " ++ chapter ++ ":" ++ verse

/-- The range between two reference texts. -/
def rangeOf (a b : String) : Except Failure VerseRange := do
  let lo ← Verse.ofText a
  let hi ← Verse.ofText b
  pure (VerseRange.make lo hi)

/-- The range of a whole chapter, read as `<book> <chapter>:1`. -/
def chapterRange (book chapter : String) : Except Failure RangeItem := do
  let start ← Verse.ofText (refText book chapter "1")
  pure (.range (VerseRange.make start start.maxVerse))

/-- What reading a list has gathered: the items, the start of an open range and the
start of an open book span. -/
structure State where
  items : List RangeItem := []
  openRange : String := ""
  openBook : String := ""

/-- Reads the verses of a piece in the given chapter, stopping at an empty verse or where a
range is opened or closed. -/
def readVerses (book : String) : String → List String → State → Except Failure State
  | _, [], st => .ok st
  | chapter, v :: vs, st =>
    if v.isEmpty then .ok st
    else if !st.openRange.isEmpty then do
      let r ← rangeOf st.openRange (refText book chapter v)
      .ok { st with items := st.items ++ [.range r], openRange := "" }
    else if v.endsWith "-" then
      .ok { st with openRange := refText book chapter (String.ofList (v.toList.dropLast)) }
    else if v.contains '-' then do
      let (startV, endV) ← splitTwo v "-"
      let (endC, endV) ← if endV.contains ':' then splitTwo endV ":" else pure (chapter, endV)
      let r ← rangeOf (refText book chapter startV) (refText book endC endV)
      readVerses book chapter vs { st with items := st.items ++ [.range r], openRange := "" }
    else do
      let (chapter, v) ← if v.contains ':' then splitTwo v ":" else pure (chapter, v)
      let verse ← Verse.ofText (refText book chapter v)
      readVerses book chapter vs { st with items := st.items ++ [.verse verse] }

/-- Reads one piece. -/
def readPiece (st : State) (p : Piece) : Except Failure State := do
  if !st.openBook.isEmpty then
    let last ← Verse.ofText (p.book ++ " 1:1")
    let r ← rangeOf st.openBook last.maxChapter.maxVerse.text
    pure { st with items := st.items ++ [.range r], openBook := "" }
  else if p.chapters.isEmpty && p.verses.isEmpty then
    pure { st with openBook := p.book ++ " 1:1" }
  else
    let chapters := p.chapters.splitOn ","
    let (chapters, st) ← if p.verses.isEmpty then pure (chapters, st)
      else do
        let st ← readVerses p.book (chapters.getLastD "") (p.verses.splitOn ",") st
        pure (chapters.dropLast, st)
    chapters.foldlM (fun st c => do
      let item ← chapterRange p.book c
      pure { st with items := st.items ++ [item] }) st

/-- The items of a reference list. Verses that come to the same offset are kept once. -/
def parse (s : String) : Except Failure (List RangeItem) := do
  let st ← (pieces s.toList).foldlM readPiece {}
  pure (st.items.foldl (fun acc it => match it with
    | .verse v => if acc.any (fun x => match x with
        | .verse w => w.offset == v.offset
        | .range _ => false) then acc else acc ++ [it]
    | .range _ => acc ++ [it]) [])

/-- The offsets of the verses that a reference list covers, in order and each once. -/
def offsets (s : String) : Except Failure (List Nat) := do
  let items ← parse s
  let all := items.flatMap fun it => match it with
    | .verse v => [v.offset]
    | .range r => r.offsets
  pure (dedupSorted (all.mergeSort (· ≤ ·)))
where
  /-- Drops repeats from a sorted list. -/
  dedupSorted : List Nat → List Nat
    | a :: b :: rest => if a = b then dedupSorted (b :: rest) else a :: dedupSorted (b :: rest)
    | l => l

/-- The verses within `count` of each verse of a reference list, as sorted offsets:
each verse widens to the range from `count` verses before it to `count` verses after it
(a negative count leaves the single verse `count` before it). A list holding a range has no
such widening. -/
def withContext (s : String) (count : Json) : Except Failure (List Nat) := do
  let items ← parse s
  if items.any (fun it => match it with
      | .range _ => true
      | .verse _ => false) then
    throw ⟨.wrongType, "unsupported operand type(s) for -: 'VerseRange' and 'int'"⟩
  let mut all : List Nat := []
  for it in items do
    match it with
    | .verse v =>
      let n ← Json.toInteger count
      all := all ++ (VerseRange.make (v.sub n) (v.add n)).offsets
    | .range _ => pure ()
  pure (offsets.dedupSorted (all.mergeSort (· ≤ ·)))

end RangeList

end Scripture
