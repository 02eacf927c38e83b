import Scripture.Canon.Books
import Scripture.Failure

/-!
# Normalising book, chapter and verse numbers

A book position, chapter and verse given as arbitrary integers are carried to a verse of
the Bible: chapters past the end of a book run on into the next book, chapter zero and
negative chapters count back into the books before, and verses likewise run across
chapters. Everything is clamped at the first and the last verse of the Bible.

Book positions follow the rule of sequences that a negative position counts from the
end: `-1` is the last book. Positions that no book has are failures.

The carrying is done step by step, one book or one chapter at a time, so a chapter of
zero (or a verse of zero) moves to the end of the chapter before, with the odd
consequence that verse zero of the first chapter of a book lands one chapter too early
(the verse count of the chapter crossed is not added). The main functions are
`normalizeChapter`, `normalizeVerse` and `offsetOf`.
-/

namespace Scripture.Canon

/-- The ways a book position can miss the tables. -/
inductive TableError where
  /-- The table of books has no book at the position. -/
  | noBook
  /-- The table of book starts has no entry at the position. -/
  | noBookStart
  /-- Carrying chapters began past the last book, so there is no book to settle in. -/
  | noBookToSettle
deriving DecidableEq, Repr

namespace TableError

/-- The failure that a missed table gives. -/
def toFailure : TableError → Failure
  | .noBook => ⟨.outOfRange, "tuple index out of range"⟩
  | .noBookStart => ⟨.outOfRange, "list index out of range"⟩
  | .noBookToSettle =>
    ⟨.unsetName, "cannot access local variable 'chapter_list' where it is not associated with a value"⟩

end TableError

/-- The position in a sequence of `n` entries that an integer index names: itself when
non-negative, counted from the end when negative. -/
def seqIndex? (n : Nat) (i : Int) : Option Nat :=
  if 0 ≤ i then (if i.toNat < n then some i.toNat else none)
  else if n + i ≥ 0 then some (n + i).toNat else none

/-- The book at an integer position, counting from the end when negative. -/
def bookAt (i : Int) : Except TableError Book :=
  match seqIndex? bookCount i with
  | some k => match books[k]? with
    | some b => .ok b
    | none => .error .noBook
  | none => .error .noBook

/-- The verse count of a chapter (counted from one) of the book at an integer position. -/
def versesIn (book chapter : Int) : Except TableError Nat := do
  let b ← bookAt book
  match seqIndex? b.chapterCount (chapter - 1) with
  | some k => match b.verseCounts[k]? with
    | some n => .ok n
    | none => .error .noBook
  | none => .error .noBook

/-- Where the books to carry chapters across begin, for a book position: the position
itself, counted from the end when negative, and never before the first book. -/
def carryStart (i : Int) : Nat :=
  if 0 ≤ i then i.toNat else (bookCount + i).toNat

/-- Carries a positive chapter forward through the books `rest`; `num` books have been
passed, and `last` is the last book passed. A chapter that fits its book settles there;
past the last book the chapter is the last chapter of the Bible. -/
def carryForward (start : Int) :
    Nat → List Book → Int → Option Book → Except TableError (Int × Int)
  | _, [], _, none => .error .noBookToSettle
  | num, [], chapter, some last =>
    .ok (start + (num - 1 : Nat), min chapter last.chapterCount)
  | num, b :: rest, chapter, _ =>
    if chapter ≤ b.chapterCount then .ok (start + num, chapter)
    else if start + num ≥ 65 then .ok (65, 22)
    else carryForward start (num + 1) rest (chapter - b.chapterCount) (some b)

/-- Carries a chapter of zero or less back through the books before `book`, adding each
book's chapters, until it is positive; before the first book it is Genesis 1. -/
def carryBack (book chapter : Int) : Except TableError (Int × Int) :=
  if chapter ≤ 0 then
    if 0 ≤ book - 1 then do
      let b ← bookAt (book - 1)
      carryBack (book - 1) (chapter + b.chapterCount)
    else .ok (0, 1)
  else .ok (book, chapter)
  termination_by book.toNat

/-- The book and chapter that a book position and any chapter number come to. -/
def normalizeChapter (book chapter : Int) : Except TableError (Int × Int) := do
  let (book, chapter) ← carryBack book chapter
  if 0 < chapter then
    carryForward book 0 (books.toList.drop (carryStart book)) chapter none
  else .ok (book, chapter)

/-- Moves a verse of zero or less back through the chapters before, one chapter a step,
adding the verses of each chapter that stays positive; at Genesis 1 the verse becomes 1.
`fuel` bounds the steps: each step moves back one chapter, so the number of chapters of the
Bible is enough. -/
def carryVerseBack : Nat → Int → Int → Int → Except TableError (Int × Int × Int)
  | 0, book, chapter, verse => .ok (book, chapter, verse)
  | fuel + 1, book, chapter, verse =>
    if verse ≤ 0 ∨ chapter ≤ 0 then
      if book = 0 ∧ chapter = 1 then .ok (book, chapter, 1)
      else do
        let chapter := chapter - 1
        let verse ← if 0 < chapter then do
            let n ← versesIn book chapter
            pure (verse + n)
          else pure verse
        let (book, chapter) ← normalizeChapter book chapter
        carryVerseBack fuel book chapter verse
    else .ok (book, chapter, verse)

/-- Moves a verse past the end of its chapter forward through the chapters after it,
stopping at the last chapter of the Bible, where the verse is clamped to its last verse.
`count` is the verse count of the current chapter (never zero in the tables). -/
def carryVerseForward (book chapter verse : Int) (count : Nat) :
    Except TableError (Int × Int × Int) :=
  if _h : count < verse ∧ count ≠ 0 then do
    let atEnd ← if book ≥ 65 then do
        let b ← bookAt book
        pure (decide (chapter ≥ b.chapterCount))
      else pure false
    if atEnd then .ok (book, chapter, count)
    else
      let (book', chapter') ← normalizeChapter book (chapter + 1)
      let count' ← versesIn book' chapter'
      carryVerseForward book' chapter' (verse - count) count'
  else .ok (book, chapter, verse)
  termination_by verse.toNat
  decreasing_by omega

/-- The book, chapter and verse that a book position and any chapter and verse numbers
come to. -/
def normalizeVerse (book chapter verse : Int) : Except TableError (Int × Int × Int) := do
  let (book, chapter) ← normalizeChapter book chapter
  let (book, chapter, verse) ← carryVerseBack (chapterTotal + 1) book chapter verse
  let count ← versesIn book chapter
  carryVerseForward book chapter verse count

/-- The offset of a book, chapter and verse: the verses before the chapter plus the verse,
with the chapter held to the chapters of the Bible and the result held below the total.
Nothing holds the result above zero, so verse zero or less of the first chapter gives a
negative offset. -/
def offsetOf (book chapter verse : Int) : Except TableError Int :=
  match seqIndex? bookStarts.size book with
  | none => .error .noBookStart
  | some k =>
    let start := (bookStarts.getD k 0 : Int) - 1 + chapter
    let k := if start ≥ chapterStarts.size then chapterStarts.size - 2
      else if start < 0 then 0 else start.toNat
    let offset := (chapterStarts.getD k 0 : Int) + verse - 1
    .ok (if offset ≥ verseTotal then verseTotal - 1 else offset)

end Scripture.Canon
