import Mathlib
import Scripture.Proofs.RangeIndex

/-!
# Slicing a verse range

A slice of a range takes its two ends by position, as indexing does: a position from zero counts
from the lower verse, a negative one back from the upper verse, and both go through verse
addition. The stop is a verse of the slice, not the first one past it, a missing position counts
as zero, and the range itself comes back only when the two positions add up, in size, to more
than its length. When the stop's verse comes before the start's, the slice is the start's verse
alone.

So a slice need not stay inside its range. The stop at the length, which would end a slice at
the upper verse if it were left out, reaches the verse after it; a start far past the length
with a negative stop that brings the sum back under the length gives one verse past the range;
and a position at minus the length in a range that starts at the first verse of the Bible lands
on the second verse, as indexing does.

* `VerseRange.sliceEnd_eq_get` — an end of a slice below the length is the verse indexing gives.
* `VerseRange.contains_subset_iff` — one range lies in another when its ends do.
* `VerseRange.slice_within_iff` — exactly when a slice lies in its range: the two positions add
  up past the length, or the start's verse lies in the range and the stop's verse is not past its
  upper verse.
* `VerseRange.slice_within_of_places` — a slice between two places of the range lies in it.
* `VerseRange.slice_zero_length` — the slice from zero to the length runs one verse past the
  upper verse, unless that is the last verse of the Bible.
-/

namespace Scripture.VerseRange

variable (r : VerseRange)

/-! ### Ranges in ranges -/

@[simp] theorem make_lower (a b : Verse) : (make a b).lower = a := by
  unfold make
  split <;> rfl

/-- The upper verse of a range made from two verses is the later of them. -/
theorem make_upper_offset (a b : Verse) : (make a b).upper.offset = max a.offset b.offset := by
  unfold make
  split
  · rename_i h
    simp [h]
  · rename_i h
    simp only [Verse.copy_offset]
    omega

/-- A range lies in another, verse for verse, exactly when its two ends do. -/
theorem contains_subset_iff (r' : VerseRange) :
    (∀ v, r'.contains v = true → r.contains v = true) ↔
      r.lower.offset ≤ r'.lower.offset ∧ r'.upper.offset ≤ r.upper.offset := by
  have hord := r'.ordered
  constructor
  · intro h
    -- the two ends of a range are verses of it
    have hlo := (r.contains_iff _).mp (h r'.lower ((r'.contains_iff _).mpr ⟨le_refl _, hord⟩))
    have hhi := (r.contains_iff _).mp (h r'.upper ((r'.contains_iff _).mpr ⟨hord, le_refl _⟩))
    exact ⟨hlo.1, hhi.2⟩
  · rintro ⟨hlo, hhi⟩ v hv
    rw [contains_iff] at hv ⊢
    omega

/-! ### The ends of a slice -/

/-- Inside the Bible, the verse at an offset is at that offset. -/
theorem offset_ofOffset_natCast (n : Nat) (h : n < Canon.verseTotal) :
    (Verse.ofOffset n).offset = n := by
  unfold Verse.ofOffset
  rw [dif_pos ⟨Int.natCast_nonneg n, by omega⟩]
  simp

/-- A position below the length is one end of a slice exactly as it is a verse of the range. -/
theorem sliceEnd_eq_get {k : Int} (hk : k < r.length) : r.get k = .ok (r.sliceEnd k) := by
  unfold get sliceEnd
  rw [if_neg (by omega)]
  split <;> rfl

/-- A position that names a verse of the range: from minus the length up to the length, but for
minus the length when the range starts at the first verse of the Bible, where indexing lands on
the second verse. -/
def IsPlace (k : Int) : Prop :=
  -(r.length : Int) ≤ k ∧ k < r.length ∧ (k = -(r.length : Int) → 0 < r.lower.offset)

/-- An end of a slice at a place of the range is a verse of the range. -/
theorem contains_sliceEnd {k : Int} (hk : r.IsPlace k) : r.contains (r.sliceEnd k) = true := by
  obtain ⟨hlo, hlt, hstart⟩ := hk
  obtain ⟨v, hv, hin, -⟩ := r.get_within hlo hlt hstart
  rw [sliceEnd_eq_get r hlt, Except.ok.injEq] at hv
  rwa [hv]

/-! ### Slices -/

theorem slice_of_length_lt {start stop : Int} (h : r.length < (start + stop).natAbs) :
    r.slice start stop = r := by
  rw [slice, if_pos h]

theorem slice_of_le_length {start stop : Int} (h : (start + stop).natAbs ≤ r.length) :
    r.slice start stop = make (r.sliceEnd start) (r.sliceEnd stop) := by
  rw [slice, if_neg (by omega)]

/-- **When a slice lies in its range.** Exactly when the two positions add up, in size, to more
than the length, so that the range itself comes back, or the start's verse is a verse of the range
and the stop's verse is not past its upper verse. A stop's verse before the lower verse is
harmless: the slice is then the start's verse alone. -/
theorem slice_within_iff (start stop : Int) :
    (∀ v, (r.slice start stop).contains v = true → r.contains v = true) ↔
      r.length < (start + stop).natAbs ∨
        r.contains (r.sliceEnd start) = true ∧ (r.sliceEnd stop).offset ≤ r.upper.offset := by
  by_cases hsum : r.length < (start + stop).natAbs
  · rw [r.slice_of_length_lt hsum]
    exact iff_of_true (fun _ hv => hv) (.inl hsum)
  · rw [r.slice_of_le_length (not_lt.mp hsum), contains_subset_iff, make_lower,
      make_upper_offset, contains_iff]
    simp only [hsum, false_or]
    omega

/-- **A slice between two places lies in its range.** -/
theorem slice_within_of_places {start stop : Int} (hstart : r.IsPlace start)
    (hstop : r.IsPlace stop) (v : Verse) (hv : (r.slice start stop).contains v = true) :
    r.contains v = true := by
  have hend := (r.contains_iff _).mp (r.contains_sliceEnd hstop)
  exact (r.slice_within_iff start stop).mpr (.inr ⟨r.contains_sliceEnd hstart, hend.2⟩) v hv

/-- **The stop at the length overshoots.** Read as the first verse past the slice, the length
would end the slice from zero at the upper verse; read as a verse of the slice, as it is, it
reaches the verse after the upper verse, wherever that is not past the end of the Bible. -/
theorem slice_zero_length (hlast : r.upper.offset + 1 < Canon.verseTotal) :
    (r.slice 0 r.length).lower.offset = r.lower.offset ∧
      (r.slice 0 r.length).upper.offset = r.upper.offset + 1 := by
  have hup := r.upper_eq_lower_add_length
  rw [r.slice_of_le_length (by omega), make_lower, make_upper_offset]
  unfold sliceEnd
  rw [if_pos le_rfl, if_pos (by omega), Verse.add_offset, Verse.add_offset]
  unfold Verse.clampOffset
  simp only [Canon.verseTotal] at hlast ⊢
  split <;> split <;> omega

/-- **Slices and their range.** A slice lies in its range exactly when the two positions add up,
in size, past the length, or the start's verse is a verse of the range and the stop's verse is
not past its upper verse. So a slice between two places of the range lies in it; but the slice
from zero to the length, the whole range in the usual reading of a stop, holds a verse after the
range wherever the range does not end the Bible. -/
theorem slice_within_range (start stop : Int) :
    ((∀ v, (r.slice start stop).contains v = true → r.contains v = true) ↔
      r.length < (start + stop).natAbs ∨
        r.contains (r.sliceEnd start) = true ∧ (r.sliceEnd stop).offset ≤ r.upper.offset) ∧
    (r.IsPlace start → r.IsPlace stop →
      ∀ v, (r.slice start stop).contains v = true → r.contains v = true) ∧
    (r.upper.offset + 1 < Canon.verseTotal →
      ∃ v, (r.slice 0 r.length).contains v = true ∧ r.contains v = false) := by
  refine ⟨r.slice_within_iff start stop, r.slice_within_of_places, fun hlast => ?_⟩
  obtain ⟨hlo, hhi⟩ := r.slice_zero_length hlast
  -- the verse after the upper verse is the upper end of the slice
  have hnext : (Verse.ofOffset (r.upper.offset + 1)).offset = r.upper.offset + 1 :=
    offset_ofOffset_natCast _ hlast
  have hord := (r.slice 0 r.length).ordered
  refine ⟨Verse.ofOffset (r.upper.offset + 1), ?_, ?_⟩
  · rw [contains_iff, hnext]
    omega
  · simp only [contains, hnext, Bool.and_eq_false_iff, decide_eq_false_iff_not]
    omega

/-- Genesis 1:1 to Genesis 1:5 sliced between its places 1 and 3 stays within it, and sliced
from zero to its length reaches past it. -/
theorem genesisOneFive_slice_within :
    (make (Verse.ofOffset 0) (Verse.ofOffset 4)).IsPlace 1 ∧
      (make (Verse.ofOffset 0) (Verse.ofOffset 4)).IsPlace 3 ∧
      (∀ v, ((make (Verse.ofOffset 0) (Verse.ofOffset 4)).slice 1 3).contains v = true →
        (make (Verse.ofOffset 0) (Verse.ofOffset 4)).contains v = true) ∧
      (make (Verse.ofOffset 0) (Verse.ofOffset 4)).upper.offset + 1 < Canon.verseTotal ∧
      ∃ v, ((make (Verse.ofOffset 0) (Verse.ofOffset 4)).slice 0
          (make (Verse.ofOffset 0) (Verse.ofOffset 4)).length).contains v = true ∧
        (make (Verse.ofOffset 0) (Verse.ofOffset 4)).contains v = false := by
  have hfirst : (Verse.ofOffset 0).offset = 0 := offset_ofOffset_natCast 0 (by decide)
  have hfifth : (Verse.ofOffset 4).offset = 4 := offset_ofOffset_natCast 4 (by decide)
  have hupper : (make (Verse.ofOffset 0) (Verse.ofOffset 4)).upper.offset = 4 := by
    rw [make_upper_offset, hfirst, hfifth]
    rfl
  have hlen : (make (Verse.ofOffset 0) (Verse.ofOffset 4)).length = 5 := by
    rw [length, hupper, make_lower, hfirst]
  have hplace : ∀ k : Int, 0 ≤ k → k < 5 → (make (Verse.ofOffset 0) (Verse.ofOffset 4)).IsPlace k :=
    fun k h0 h5 => ⟨by omega, by omega, fun h => by omega⟩
  have hlast : (make (Verse.ofOffset 0) (Verse.ofOffset 4)).upper.offset + 1 < Canon.verseTotal := by
    rw [hupper]
    decide
  have hrange := slice_within_range (make (Verse.ofOffset 0) (Verse.ofOffset 4)) 1 3
  exact ⟨hplace 1 (by decide) (by decide), hplace 3 (by decide) (by decide),
    hrange.2.1 (hplace 1 (by decide) (by decide)) (hplace 3 (by decide) (by decide)), hlast,
    hrange.2.2 hlast⟩

/-- Genesis 1:1 to Genesis 1:5 sliced from 0 to 5 holds Genesis 1:6, which the range does not. -/
theorem genesisOneFive_slice_past_upper :
    ((make (Verse.ofOffset 0) (Verse.ofOffset 4)).slice 0 5).contains (Verse.ofOffset 5) = true ∧
      (make (Verse.ofOffset 0) (Verse.ofOffset 4)).contains (Verse.ofOffset 5) = false := by
  have hfirst : (Verse.ofOffset 0).offset = 0 := offset_ofOffset_natCast 0 (by decide)
  have hfifth : (Verse.ofOffset 4).offset = 4 := offset_ofOffset_natCast 4 (by decide)
  have hsixth : (Verse.ofOffset 5).offset = 5 := offset_ofOffset_natCast 5 (by decide)
  have hupper : (make (Verse.ofOffset 0) (Verse.ofOffset 4)).upper.offset = 4 := by
    rw [make_upper_offset, hfirst, hfifth]
    rfl
  have hlen : ((make (Verse.ofOffset 0) (Verse.ofOffset 4)).length : Int) = 5 := by
    rw [length, hupper, make_lower, hfirst]
    rfl
  obtain ⟨hlo, hhi⟩ := slice_zero_length (make (Verse.ofOffset 0) (Verse.ofOffset 4))
    (by rw [hupper]; decide)
  rw [hlen, make_lower, hfirst] at hlo
  rw [hlen, hupper] at hhi
  simp only [contains, hlo, hhi, hsixth, hupper, make_lower, hfirst]
  decide

end Scripture.VerseRange
