import Scripture.Reference.Verse

/-!
# Verse arithmetic holds at the ends of the Bible, but for one

Each operation on a verse works on its offset and holds the result at one end of the Bible
itself, leaving the other end to `Verse.ofOffset`, which gives the first verse for every offset
outside the Bible. A sum and a product are held at the last verse, and fall to the first verse
when they run below it; a quotient by a number other than zero never passes the verse divided.
All three are the exact result held between the first and the last verse. A difference is held
only at the first verse: subtracting a negative number near the end of the Bible runs past the
last verse, and the difference comes out as the first verse.

* `Verse.offset_ofOffset_of_lt`, `Verse.offset_ofOffset_of_ge` — the verse at an offset below
  the end of the Bible is the offset held at the first verse; past it, the first verse.
* `Verse.add_offset`, `Verse.mul_offset`, `Verse.div_offset` — the sum, product and quotient
  held between the two ends.
* `Verse.sub_offset` — the difference held at the first verse, or the first verse when it is
  past the last.
* `Verse.arithmetic_saturates` — all of these together, and a difference agrees with the sum of
  the negated number exactly when it is not past the last verse.
* `Verse.lastVerse_sub_wraps` — the last verse less `-1` is the first verse.
-/

namespace Scripture.Verse

/-- Holding an offset at the last verse first changes nothing. -/
theorem clampOffset_min_last (n : Int) :
    clampOffset (min n (Canon.verseTotal - 1)) = clampOffset n := by
  unfold clampOffset Canon.verseTotal
  split <;> split <;> omega

/-- Holding an offset at the first verse first changes nothing. -/
theorem clampOffset_max_zero (n : Int) : clampOffset (max n 0) = clampOffset n := by
  unfold clampOffset
  split <;> split <;> omega

/-- Below the end of the Bible, the verse at an offset is at the offset held at the first
verse. -/
theorem offset_ofOffset_of_lt {n : Int} (h : n < Canon.verseTotal) :
    (ofOffset n).offset = clampOffset n := by
  unfold ofOffset clampOffset
  split
  · rename_i hin
    rw [if_neg (by omega)]
    simp only [Canon.verseTotal] at hin ⊢
    omega
  · rename_i hout
    -- an offset outside the Bible but below its end is below the first verse
    have hneg : n < 0 := by
      simp only [Canon.verseTotal] at h hout
      omega
    simp [hneg]

/-- Past the end of the Bible, the verse at an offset is the first verse. -/
theorem offset_ofOffset_of_ge {n : Int} (h : Canon.verseTotal ≤ n) : (ofOffset n).offset = 0 := by
  unfold ofOffset
  rw [dif_neg (by omega)]

/-- A quotient of an offset by a number other than zero is at most the offset. -/
theorem fdiv_le_of_nonneg {o n : Int} (ho : 0 ≤ o) (hn : n ≠ 0) : Int.fdiv o n ≤ o := by
  rcases Int.lt_or_gt_of_ne hn with h | h
  · have := Int.fdiv_nonpos_of_nonneg_of_nonpos ho (Int.le_of_lt h)
    omega
  · rw [Int.fdiv_eq_ediv_of_nonneg _ (Int.le_of_lt h)]
    exact Int.ediv_le_self n ho

section

variable (v : Verse) (n : Int)

theorem add_offset : (v.add n).offset = clampOffset (v.offset + n) := by
  rw [add, offset_ofOffset_of_lt (by omega), clampOffset_min_last]

theorem mul_offset : (v.mul n).offset = clampOffset (v.offset * n) := by
  rw [mul, offset_ofOffset_of_lt (by omega), clampOffset_min_last]

/-- Division fails by zero, and otherwise gives the quotient rounded down, held between the
two ends. -/
theorem div_offset : (v.div n).toOption.map offset =
    if n = 0 then none else some (clampOffset (Int.fdiv v.offset n)) := by
  unfold div
  split
  · rfl
  · rename_i hn
    -- the quotient is at most the verse divided, so below the end of the Bible
    have hle : Int.fdiv v.offset n ≤ v.offset := fdiv_le_of_nonneg (by omega) hn
    have hlt : max (Int.fdiv v.offset n) 0 < Canon.verseTotal := by
      have := v.offset_lt
      omega
    simp only [Except.toOption, Option.map_some]
    rw [offset_ofOffset_of_lt hlt, clampOffset_max_zero]

/-- A difference is held at the first verse, and is the first verse when it is past the
last. -/
theorem sub_offset : (v.sub n).offset =
    if v.offset - n < Canon.verseTotal then clampOffset (v.offset - n) else 0 := by
  unfold sub
  split
  · rename_i hlt
    have := v.offset_lt
    rw [offset_ofOffset_of_lt (by omega), clampOffset_max_zero]
  · rename_i hge
    exact offset_ofOffset_of_ge (by omega)

/-- A difference agrees with the sum of the negated number exactly when it is not past the
last verse; past it, the sum holds at the last verse and the difference is the first. -/
theorem sub_offset_eq_add_neg_iff :
    (v.sub n).offset = (v.add (-n)).offset ↔ v.offset - n < Canon.verseTotal := by
  rw [sub_offset, add_offset, ← Int.sub_eq_add_neg]
  split
  · rename_i hlt
    exact iff_of_true rfl hlt
  · rename_i hge
    refine iff_of_false ?_ hge
    unfold clampOffset
    simp only [Canon.verseTotal] at hge ⊢
    split <;> omega

end

/-- **Verse arithmetic holds at the ends of the Bible, but for a difference past the last
verse.** A sum, a product and a quotient by a number other than zero are the exact result held
between the first and the last verse; division by zero fails. A difference is held at the
first verse, but one past the last verse is the first verse, so it agrees with the sum of the
negated number exactly when it is not past the last verse. -/
theorem arithmetic_saturates (v : Verse) (n : Int) :
    (v.add n).offset = clampOffset (v.offset + n) ∧
    (v.mul n).offset = clampOffset (v.offset * n) ∧
    (v.div n).toOption.map offset =
      (if n = 0 then none else some (clampOffset (Int.fdiv v.offset n))) ∧
    (v.sub n).offset =
      (if v.offset - n < Canon.verseTotal then clampOffset (v.offset - n) else 0) ∧
    ((v.sub n).offset = (v.add (-n)).offset ↔ v.offset - n < Canon.verseTotal) :=
  ⟨add_offset v n, mul_offset v n, div_offset v n, sub_offset v n,
    sub_offset_eq_add_neg_iff v n⟩

/-- The last verse less `-1` is the first verse, where the difference held at the last verse
would be the last verse. -/
theorem lastVerse_sub_wraps :
    ((ofOffset (Canon.verseTotal - 1)).sub (-1)).offset = 0 ∧
      clampOffset ((ofOffset (Canon.verseTotal - 1)).offset - (-1)) = Canon.verseTotal - 1 := by
  have hlast : (ofOffset (Canon.verseTotal - 1)).offset = Canon.verseTotal - 1 := by
    rw [offset_ofOffset_of_lt (by decide)]
    decide
  rw [sub_offset, hlast]
  decide

end Scripture.Verse
