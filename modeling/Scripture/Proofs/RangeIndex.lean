import Mathlib
import Scripture.Proofs.VerseArithmetic
import Scripture.Reference.Range

/-!
# Indexing a verse range

A position of a range counts from its lower verse, and a negative position counts back from its
upper verse, both with verse addition. Only a position at or past the length fails. A negative
position is first added to the upper verse and the result then moved on by one, and the first
addition falls to the first verse of the Bible when it runs below it. So a negative position
never fails: one before the start of the range gives a verse before it, or Genesis 1:2 when the
sum runs below the first verse; and in a range that starts at Genesis 1:1 the position minus the
length, which should be the first verse, is Genesis 1:2. Every other position from minus the
length up to the length is a verse of the range, the one its place names.

* `VerseRange.get_offset_of_nonneg`, `VerseRange.get_offset_of_neg` — where a position lands.
* `VerseRange.get_of_le_length` — a position at or past the length fails.
* `VerseRange.get_within` — a position from minus the length up to the length, but for the one
  case at the start of the Bible, is the verse of the range at its place.
* `VerseRange.indexOf_get` — the place of a verse of the range gives the verse back.
* `VerseRange.get_indexOf_sequence` — all of it together.
-/

namespace Scripture.VerseRange

variable (r : VerseRange)

theorem contains_iff (v : Verse) :
    r.contains v = true ↔ r.lower.offset ≤ v.offset ∧ v.offset ≤ r.upper.offset := by
  simp [contains]

theorem length_pos : 0 < r.length := by
  unfold length
  omega

/-- The upper verse of a range is its lower verse moved on by one less than the length. -/
theorem upper_eq_lower_add_length : (r.upper.offset : Int) = r.lower.offset + r.length - 1 := by
  have := r.ordered
  unfold length
  omega

/-- A position at or past the length fails. -/
theorem get_of_le_length {k : Int} (hk : r.length ≤ k) :
    r.get k = .error ⟨.outOfRange, "index out of range: " ++ toString k⟩ := by
  rw [get, if_pos hk]

/-- A position from zero up to the length lands that many verses after the lower verse. -/
theorem get_offset_of_nonneg {k : Int} (h0 : 0 ≤ k) (hk : k < r.length) :
    ∃ v, r.get k = .ok v ∧ (v.offset : Int) = r.lower.offset + k := by
  refine ⟨r.lower.add k, by rw [get, if_neg (by omega), if_pos h0], ?_⟩
  -- the verse reached is at most the upper verse, so addition does not hold it back
  have hup := r.upper_eq_lower_add_length
  have := r.upper.offset_lt
  rw [Verse.add_offset]
  unfold Verse.clampOffset
  split <;> omega

/-- A negative position lands one verse after the upper verse moved back by it, where moving
back stops at the first verse of the Bible. -/
theorem get_offset_of_neg {k : Int} (hk : k < 0) :
    ∃ v, r.get k = .ok v ∧ (v.offset : Int) = max (r.upper.offset + k) 0 + 1 := by
  have hlen := r.length_pos
  refine ⟨(r.upper.add k).add 1, by rw [get, if_neg (by omega), if_neg (by omega)], ?_⟩
  have hlt := r.upper.offset_lt
  rw [Verse.add_offset, Verse.add_offset]
  unfold Verse.clampOffset
  simp only [Canon.verseTotal] at hlt ⊢
  split <;> split <;> omega

/-- A negative position from minus the length on, but for minus the length in a range that
starts at the first verse of the Bible, lands where the position plus the length does. -/
theorem get_offset_of_neg_within {k : Int} (hk : k < 0) (hlo : -(r.length : Int) ≤ k)
    (hstart : k = -(r.length : Int) → 0 < r.lower.offset) :
    ∃ v, r.get k = .ok v ∧ (v.offset : Int) = r.lower.offset + (k + r.length) := by
  obtain ⟨v, hv, hoff⟩ := r.get_offset_of_neg hk
  refine ⟨v, hv, ?_⟩
  have hup := r.upper_eq_lower_add_length
  -- the sum falls below the first verse only at minus the length with the range at the start
  have hsum : 0 ≤ (r.upper.offset : Int) + k := by
    rcases lt_or_eq_of_le hlo with hlt | heq
    · omega
    · have := hstart heq.symm
      omega
  omega

/-- **A position within the range.** A position from minus the length up to the length, but for
minus the length in a range that starts at the first verse of the Bible, is the verse of the
range at the position taken modulo the length, and that is its place. -/
theorem get_within {k : Int} (hlo : -(r.length : Int) ≤ k) (hk : k < r.length)
    (hstart : k = -(r.length : Int) → 0 < r.lower.offset) :
    ∃ v, r.get k = .ok v ∧ r.contains v ∧ (v.offset : Int) = r.lower.offset + k % r.length ∧
      r.indexOf v = .ok (k % r.length).toNat := by
  have hlen := r.length_pos
  -- both signs land at the position taken modulo the length
  obtain ⟨v, hv, hoff⟩ : ∃ v, r.get k = .ok v ∧ (v.offset : Int) = r.lower.offset + k % r.length := by
    rcases le_or_gt 0 k with h0 | hneg
    · obtain ⟨v, hv, hoff⟩ := r.get_offset_of_nonneg h0 hk
      exact ⟨v, hv, by rw [hoff, Int.emod_eq_of_lt h0 hk]⟩
    · obtain ⟨v, hv, hoff⟩ := r.get_offset_of_neg_within hneg hlo hstart
      have hmod : k % r.length = k + r.length := by
        rw [← Int.add_mul_emod_self_right k 1 r.length, one_mul,
          Int.emod_eq_of_lt (by omega) (by omega)]
      exact ⟨v, hv, by rw [hoff, hmod]⟩
  have hmod0 : 0 ≤ k % r.length := Int.emod_nonneg k (by omega)
  have hmodlt : k % r.length < r.length := Int.emod_lt_of_pos k (by omega)
  have hup := r.upper_eq_lower_add_length
  have hin : r.contains v = true := (r.contains_iff v).mpr ⟨by omega, by omega⟩
  refine ⟨v, hv, hin, hoff, ?_⟩
  rw [indexOf, if_pos hin]
  congr 1
  omega

/-- **The place of a verse gives it back.** A verse of the range has a place, and the verse at
that place is at the same offset. -/
theorem indexOf_get {v : Verse} (hv : r.contains v = true) :
    ∃ i w, r.indexOf v = .ok i ∧ r.get i = .ok w ∧ w.offset = v.offset := by
  obtain ⟨hlo, hhi⟩ := (r.contains_iff v).mp hv
  obtain ⟨w, hw, hoff⟩ := r.get_offset_of_nonneg (k := (v.offset - r.lower.offset : Nat))
    (by omega) (by unfold length; omega)
  refine ⟨v.offset - r.lower.offset, w, by rw [indexOf, if_pos hv], hw, ?_⟩
  omega

/-- A verse outside the range has no place. -/
theorem indexOf_of_not_contains {v : Verse} (hv : r.contains v = false) :
    r.indexOf v = .error ⟨.badValue, v.text ++ " not in range"⟩ := by
  rw [indexOf, if_neg (by simp [hv])]

/-- **Indexing a range.** A position fails exactly when it is at or past the length. Any other
position lands that many verses after the lower verse, or, when negative, one verse after the
upper verse moved back by it and held at the first verse of the Bible, so a position before
minus the length gives a verse instead of failing. A position from minus the length up to the
length, but for minus the length in a range that starts at the first verse of the Bible, is a
verse of the range, the same as the position plus the length when negative, and its place is
the position modulo the length. The place of every verse of the range gives the verse back, and a
verse outside the range has no place. -/
theorem get_indexOf_sequence (r : VerseRange) (k : Int) :
    (r.length ≤ k → r.get k = .error ⟨.outOfRange, "index out of range: " ++ toString k⟩) ∧
    (k < r.length → ∃ v, r.get k = .ok v ∧ (v.offset : Int) =
      if 0 ≤ k then r.lower.offset + k else max (r.upper.offset + k) 0 + 1) ∧
    (-(r.length : Int) ≤ k → k < r.length → (k = -(r.length : Int) → 0 < r.lower.offset) →
      ∃ v, r.get k = .ok v ∧ r.contains v ∧ (v.offset : Int) = r.lower.offset + k % r.length ∧
        r.indexOf v = .ok (k % r.length).toNat) ∧
    (∀ v, r.contains v = true →
      ∃ i w, r.indexOf v = .ok i ∧ r.get i = .ok w ∧ w.offset = v.offset) ∧
    (∀ v, r.contains v = false → r.indexOf v = .error ⟨.badValue, v.text ++ " not in range"⟩) := by
  refine ⟨r.get_of_le_length, fun hk => ?_, fun hlo hk hstart => r.get_within hlo hk hstart,
    fun _ => r.indexOf_get, fun _ => r.indexOf_of_not_contains⟩
  rcases le_or_gt 0 k with h0 | hneg
  · obtain ⟨v, hv, hoff⟩ := r.get_offset_of_nonneg h0 hk
    exact ⟨v, hv, by rw [if_pos h0, hoff]⟩
  · obtain ⟨v, hv, hoff⟩ := r.get_offset_of_neg hneg
    exact ⟨v, hv, by rw [if_neg (by omega), hoff]⟩

/-- The range of Genesis 1:1 alone: its position `-1` is Genesis 1:2, outside the range, where
the position `0` is Genesis 1:1; and its position `-2` gives a verse instead of failing. -/
theorem firstVerse_get_negative :
    (make (Verse.ofOffset 0) (Verse.ofOffset 0)).length = 1 ∧
      (∃ v, (make (Verse.ofOffset 0) (Verse.ofOffset 0)).get (-1) = .ok v ∧ v.offset = 1 ∧
        (make (Verse.ofOffset 0) (Verse.ofOffset 0)).contains v = false) ∧
      ∃ v, (make (Verse.ofOffset 0) (Verse.ofOffset 0)).get (-2) = .ok v := by
  have hfirst : (Verse.ofOffset 0).offset = 0 := by
    rw [Verse.offset_ofOffset_of_lt (by decide)]
    rfl
  have hmake : make (Verse.ofOffset 0) (Verse.ofOffset 0) =
      ⟨Verse.ofOffset 0, Verse.ofOffset 0, le_refl _⟩ := by
    rw [make, dif_pos (le_refl _)]
  rw [hmake]
  obtain ⟨v, hv, hoff⟩ := get_offset_of_neg ⟨Verse.ofOffset 0, Verse.ofOffset 0, le_refl _⟩
    (k := -1) (by decide)
  obtain ⟨w, hw, -⟩ := get_offset_of_neg ⟨Verse.ofOffset 0, Verse.ofOffset 0, le_refl _⟩
    (k := -2) (by decide)
  simp only [hfirst] at hoff
  refine ⟨by simp [length, hfirst], ⟨v, hv, by omega, ?_⟩, w, hw⟩
  simp [contains, hfirst]
  omega

end Scripture.VerseRange
