/-!
# Similarity of texts

How alike two texts are, as the share of characters that a greedy alignment matches: the
longest common block is matched first, then the same is done on the parts to its left and
to its right, and the similarity is twice the matched count over the total length.

When the second text is long (200 characters or more), characters that occur in it more
than one time in a hundred (plus one) are too common to start a block with; a block may
still grow over them. Of several longest blocks the one that starts first in the first
text wins, and then the one that starts first in the second.

`closeMatches` keeps the candidates whose similarity to a word reaches a cutoff and gives
the best few, most similar first and, among equals, the greater text first.
-/

namespace Scripture.Text

/-- A block common to two texts: where it starts in each and its length. -/
structure Block where
  start1 : Nat
  start2 : Nat
  size : Nat
deriving Repr

/-- The positions in `b` where each character may start or continue a block: its
occurrences in order, or none when the character is too common in a long `b`. -/
def blockStarts (b : Array Char) (c : Char) : List Nat :=
  let places := (List.range b.size).filter (fun j => b[j]? == some c)
  if b.size ≥ 200 ∧ places.length > b.size / 100 + 1 then [] else places

/-- One row of the block search: extends the runs ending at the previous character of `a`
(`runs` maps a position of `b` to the length of the run ending there) by the character
`a[i]`, and keeps the best block so far. -/
def blockRow (starts : List Nat) (blo bhi i : Nat) (runs : List (Nat × Nat)) (best : Block) :
    List (Nat × Nat) × Block :=
  go starts [] best
where
  /-- Walks the positions of `b` that match `a[i]`. -/
  go : List Nat → List (Nat × Nat) → Block → List (Nat × Nat) × Block
    | [], acc, best => (acc, best)
    | j :: js, acc, best =>
      if j < blo then go js acc best
      else if j ≥ bhi then (acc, best)
      else
        let before := if j = 0 then 0 else ((runs.lookup (j - 1)).getD 0)
        let k := before + 1
        let best := if k > best.size then ⟨i + 1 - k, j + 1 - k, k⟩ else best
        go js ((j, k) :: acc) best

/-- Grows a block to the left while the characters before it agree. -/
def growLeft (a b : Array Char) (alo blo : Nat) : Nat → Block → Block
  | 0, blk => blk
  | fuel + 1, blk =>
    if alo < blk.start1 ∧ blo < blk.start2 ∧ a[blk.start1 - 1]? == b[blk.start2 - 1]? then
      growLeft a b alo blo fuel ⟨blk.start1 - 1, blk.start2 - 1, blk.size + 1⟩
    else blk

/-- Grows a block to the right while the characters after it agree. -/
def growRight (a b : Array Char) (ahi bhi : Nat) : Nat → Block → Block
  | 0, blk => blk
  | fuel + 1, blk =>
    if blk.start1 + blk.size < ahi ∧ blk.start2 + blk.size < bhi ∧
        a[blk.start1 + blk.size]? == b[blk.start2 + blk.size]? then
      growRight a b ahi bhi fuel ⟨blk.start1, blk.start2, blk.size + 1⟩
    else blk

/-- The longest block common to `a[alo, ahi)` and `b[blo, bhi)`; of equals, the first. -/
def longestBlock (a b : Array Char) (alo ahi blo bhi : Nat) : Block :=
  let (_, best) := (List.range' alo (ahi - alo)).foldl
    (fun (runs, best) i =>
      match a[i]? with
      | some c => blockRow (blockStarts b c) blo bhi i runs best
      | none => ([], best))
    (([] : List (Nat × Nat)), (⟨alo, blo, 0⟩ : Block))
  growRight a b ahi bhi (ahi - alo) (growLeft a b alo blo (ahi - alo) best)

/-- The number of characters matched in `a[alo, ahi)` and `b[blo, bhi)`: the longest
block, then the same on each side of it. -/
def matchedIn (a b : Array Char) (alo ahi blo bhi : Nat) : Nat :=
  match longestBlock a b alo ahi blo bhi with
  | ⟨i, j, k⟩ =>
    if _h : 0 < k ∧ alo ≤ i ∧ i + k ≤ ahi then
      let left := if alo < i ∧ blo < j then matchedIn a b alo i blo j else 0
      let right := if i + k < ahi ∧ j + k < bhi then matchedIn a b (i + k) ahi (j + k) bhi else 0
      k + left + right
    else 0
  termination_by ahi - alo

/-- The number of characters that the alignment of two texts matches. -/
def matchedCount (a b : String) : Nat :=
  let a := a.toList.toArray
  let b := b.toList.toArray
  matchedIn a b 0 a.size 0 b.size

/-- The similarity of two texts as a fraction: twice the matched count, over the sum of
the lengths (one when both are empty). -/
def similarity (a b : String) : Nat × Nat :=
  let total := a.length + b.length
  if total = 0 then (1, 1) else (2 * matchedCount a b, total)

/-- Whether the fraction `p` is below the fraction `q`. -/
def fracLt (p q : Nat × Nat) : Bool := p.1 * q.2 < q.1 * p.2

/-- The candidates whose similarity to `word` is at least `cutoff` (a fraction), the `n`
best of them: the most similar first and, among equals, the greater text first. -/
def closeMatches (word : String) (candidates : List String) (n : Nat) (cutoff : Nat × Nat) :
    List String :=
  let scored := candidates.filterMap fun x =>
    let s := similarity x word
    if fracLt s cutoff then none else some (s, x)
  let better := fun (p q : (Nat × Nat) × String) =>
    fracLt q.1 p.1 || (!fracLt p.1 q.1 && decide (q.2 < p.2))
  ((scored.mergeSort better).take n).map (·.2)

end Scripture.Text
