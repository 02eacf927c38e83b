import Scripture.Reference.Verse

/-!
# Verse ranges

A range of verses runs from a lower to an upper verse, both included; when the upper verse
given comes before the lower one, the range holds the lower verse alone. Its length is the
number of offsets it spans.

Walking a range steps from a fresh copy of the lower verse one verse at a time while the
step is not past the upper verse. The step is verse addition, which holds at the last verse
of the Bible, so a range that ends at the last verse never ends: its walk repeats that
verse. `walk` gives the first `n` steps of a walk and says whether it goes on.

Indexing counts from the lower verse, or back from the upper verse for negative positions,
with verse arithmetic (so far negative positions hold at the first verses of the Bible
rather than failing); only positions at or past the length fail. A slice keeps the range
itself when its two ends add up, in size, to more than its length.
-/

namespace Scripture

/-- A range of verses from `lower` to `upper`, both included. -/
structure VerseRange where
  lower : Verse
  upper : Verse
  ordered : lower.offset ≤ upper.offset

namespace VerseRange

/-- The range between two verses; when `upper` comes first, the range holds a copy of
`lower` as its upper verse. -/
def make (lower upper : Verse) : VerseRange :=
  if h : lower.offset ≤ upper.offset then ⟨lower, upper, h⟩
  else ⟨lower, lower.copy, by simp⟩

/-- The upper verse a range has when none is given: the last verse of the Bible. -/
def defaultUpper : Verse := Verse.atPosition ⟨65, 22, 21⟩

/-- The text of a range: its two verses joined by a hyphen. -/
def text (r : VerseRange) : String := r.lower.text ++ "-" ++ r.upper.text

/-- The form that rebuilds a range from its two verses. -/
def repr (r : VerseRange) : String :=
  "VerseRange(start='" ++ r.lower.text ++ "', end='" ++ r.upper.text ++ "')"

/-- The number of verses a range spans. -/
def length (r : VerseRange) : Nat := r.upper.offset - r.lower.offset + 1

/-- Whether a verse lies in a range. -/
def contains (r : VerseRange) (v : Verse) : Bool :=
  r.lower.offset ≤ v.offset && v.offset ≤ r.upper.offset

/-- The place of a verse in a range, counted from zero. -/
def indexOf (r : VerseRange) (v : Verse) : Except Failure Nat :=
  if r.contains v then .ok (v.offset - r.lower.offset)
  else .error ⟨.badValue, v.text ++ " not in range"⟩

/-- The verse at a position of a range: from the lower verse when the position is not
negative, back from the upper verse otherwise. -/
def get (r : VerseRange) (k : Int) : Except Failure Verse :=
  if k ≥ r.length then .error ⟨.outOfRange, "index out of range: " ++ toString k⟩
  else if 0 ≤ k then .ok (r.lower.add k)
  else .ok ((r.upper.add k).add 1)

/-- The verse at one end of a slice. -/
def sliceEnd (r : VerseRange) (k : Int) : Verse :=
  if 0 ≤ k then r.lower.add k else (r.upper.add k).add 1

/-- The slice of a range between two positions; a missing position counts as zero. -/
def slice (r : VerseRange) (start stop : Int) : VerseRange :=
  if (start + stop).natAbs > r.length then r
  else make (r.sliceEnd start) (r.sliceEnd stop)

/-- The offsets of the verses of a range, in order. -/
def offsets (r : VerseRange) : List Nat :=
  List.range' r.lower.offset r.length

/-- The reference texts of the verses of a range, in order. -/
def refs (r : VerseRange) : List String := r.offsets.map Canon.refText

/-- The first `n` offsets of a walk that starts at `cur` and stops past `upper`, and
whether the walk goes on after them. -/
def walkFrom (upper : Nat) : Nat → Nat → List Nat × Bool
  | 0, cur => ([], decide (cur ≤ upper))
  | n + 1, cur =>
    if cur ≤ upper then
      let (rest, more) := walkFrom upper n (min (cur + 1) (Canon.verseTotal - 1))
      (cur :: rest, more)
    else ([], false)

/-- The first `n` verses (as reference texts) of a walk through a range, and whether the
walk goes on. -/
def walk (r : VerseRange) (n : Nat) : List String × Bool :=
  let (os, more) := walkFrom r.upper.offset n r.lower.offset
  (os.map Canon.refText, more)

end VerseRange

end Scripture
