import Scripture.Reference.Range
import Scripture.Json.Write

/-!
# Walking verses

Walks through the verses of a stretch of the Bible: between two references (taken in
order), through one chapter, or through one book. Each is a walk through a range (see
`VerseRange.walk`), so a stretch that reaches the last verse of the Bible repeats it.

A chapter is named by a book and a chapter number, and read as the reference
`<book> <chapter>:1`; the walk then runs to the last verse of the chapter that reference
comes to. A book is read as `<book> 1:1`, and its walk runs to the last verse of the last
chapter of the book that reference comes to.
-/

namespace Scripture.Walk

/-- The range between two verses, in order. -/
def between (a b : Verse) : VerseRange :=
  if b.offset < a.offset then VerseRange.make b a else VerseRange.make a b

/-- The range from a reference to another, in order. -/
def verses (start stop : Json) : Except Failure VerseRange := do
  let a ← Verse.ofJson start
  let b ← Verse.ofJson stop
  pure (between a b)

/-- The range of one chapter. -/
def chapter (book chapter : Json) : Except Failure VerseRange := do
  let start ← Verse.ofText (book.display ++ " " ++ chapter.display ++ ":1")
  pure (between (Verse.ofOffset start.offset |>.copy) start.maxVerse)

/-- The range of one book. -/
def book (book : Json) : Except Failure VerseRange := do
  let start ← Verse.ofText (book.display ++ " 1:1")
  pure (between (Verse.ofOffset start.offset |>.copy) start.maxChapter.maxVerse)

end Scripture.Walk
