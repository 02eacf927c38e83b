import Mathlib
import Scripture.Reference.Walk

/-!
# Walking a range of verses

A walk steps from the lower verse of a range one verse at a time while the step is not past
the upper verse; the step is verse addition, which holds at the last verse of the Bible.

* `walkFrom_below` — when the range ends before the last verse, the walk gives the offsets of
  the range in order, each once, and stops after the last of them.
* `walkFrom_last` — when the range ends at the last verse, the walk gives the offsets of the
  range and then repeats the last verse for ever.
* `walk_exact_iff` — a walk is exactly the reference texts of its range, and ends, if and only
  if the range ends before the last verse of the Bible; the ranges the walkers build run
  between their two end points in order.
-/

namespace Scripture

namespace VerseRange

variable {upper : Nat}

/-- The offsets from `cur` to `upper`, both included. -/
abbrev span (cur upper : Nat) : List Nat := List.range' cur (upper + 1 - cur)

theorem span_succ {cur : Nat} (h : cur ≤ upper) : span cur upper = cur :: span (cur + 1) upper := by
  rw [span, span, show upper + 1 - cur = (upper + 1 - (cur + 1)) + 1 by omega, List.range'_succ]

/-- **A walk that ends before the last verse.** Its first `n` steps are the first `n` offsets
of the span, and it goes on exactly while offsets are left. -/
theorem walkFrom_below (hup : upper < Canon.verseTotal - 1) (n : Nat) {cur : Nat}
    (hcur : cur ≤ upper + 1) :
    walkFrom upper n cur = ((span cur upper).take n, decide (n < upper + 1 - cur)) := by
  induction n generalizing cur with
  | zero =>
    simp only [walkFrom, List.take_zero, Prod.mk.injEq, true_and]
    exact decide_eq_decide.mpr (by omega)
  | succ n ih =>
    by_cases hin : cur ≤ upper
    · -- one step: the next offset is held below the last verse, so it is `cur + 1`
      have hnext : min (cur + 1) (Canon.verseTotal - 1) = cur + 1 := by omega
      rw [walkFrom, if_pos hin, hnext, ih (by omega), span_succ hin, List.take_succ_cons]
      simp only [Prod.mk.injEq, true_and]
      exact decide_eq_decide.mpr (by omega)
    · -- past the upper verse: the walk is over
      have hend : cur = upper + 1 := by omega
      subst hend
      simp [walkFrom]

/-- **A walk that ends at the last verse.** Its first `n` steps are the first `n` offsets of
the span followed by the last verse as often as steps are left, and it never stops. -/
theorem walkFrom_last (hup : upper = Canon.verseTotal - 1) (n : Nat) {cur : Nat}
    (hcur : cur ≤ upper) :
    walkFrom upper n cur =
      ((span cur upper).take n ++ List.replicate (n - (upper + 1 - cur)) upper, true) := by
  induction n generalizing cur with
  | zero => simp [walkFrom, hcur]
  | succ n ih =>
    rw [walkFrom, if_pos hcur]
    by_cases hlast : cur < upper
    · -- before the last verse the walk steps on by one
      have hnext : min (cur + 1) (Canon.verseTotal - 1) = cur + 1 := by omega
      have hspan : span cur upper = cur :: span (cur + 1) upper := span_succ (by omega)
      rw [hnext, ih (by omega), hspan, List.take_succ_cons]
      simp only [List.cons_append, Prod.mk.injEq, List.cons.injEq, true_and, and_true]
      congr 2
      omega
    · -- at the last verse the step holds, and the walk stays there
      have hend : cur = upper := by omega
      subst hend
      have hnext : min (cur + 1) (Canon.verseTotal - 1) = cur := by omega
      rw [hnext, ih (le_refl _)]
      have hone : cur + 1 - cur = 1 := by omega
      cases n with
      | zero => simp [hone]
      | succ n => simp [hone, List.range'_one, List.replicate_succ]

/-- The offsets of a range are the span from its lower to its upper verse. -/
theorem offsets_eq_span (r : VerseRange) : r.offsets = span r.lower.offset r.upper.offset := by
  rw [offsets, span, length]
  congr 1
  have := r.ordered
  omega

/-- A range ending before the last verse is walked through its reference texts, in order, and
the walk stops after the last of them. -/
theorem walk_of_lt {r : VerseRange} (hup : r.upper.offset < Canon.verseTotal - 1) (n : Nat) :
    r.walk n = (r.refs.take n, decide (n < r.length)) := by
  have hlen : r.length = r.upper.offset + 1 - r.lower.offset := by
    have := r.ordered
    rw [length]
    omega
  rw [walk, walkFrom_below hup n (by have := r.ordered; omega), refs, offsets_eq_span, hlen]
  simp [List.map_take]

/-- A range ending at the last verse is never walked to its end. -/
theorem walk_goes_on_of_last {r : VerseRange} (hup : r.upper.offset = Canon.verseTotal - 1)
    (n : Nat) : (r.walk n).2 = true := by
  rw [walk, walkFrom_last hup n r.ordered]

/-- The range between two verses runs from the earlier to the later. -/
theorem between_offsets (a b : Verse) :
    (Walk.between a b).lower.offset = min a.offset b.offset ∧
      (Walk.between a b).upper.offset = max a.offset b.offset := by
  unfold Walk.between make
  by_cases hba : b.offset < a.offset
  · rw [if_pos hba, dif_pos (Nat.le_of_lt hba)]
    dsimp only
    exact ⟨(min_eq_right (Nat.le_of_lt hba)).symm, (max_eq_left (Nat.le_of_lt hba)).symm⟩
  · rw [if_neg hba, dif_pos (by omega)]
    dsimp only
    exact ⟨(min_eq_left (by omega)).symm, (max_eq_right (by omega)).symm⟩

/-- **A walk is exact exactly when its range ends before the last verse.** Every walk of a range
gives the reference texts of the range in order and then stops, if and only if the range ends
before the last verse of the Bible. The range that the verse, chapter and book walkers build
between two verses holds the verses between them, whichever comes first. -/
theorem walk_exact_iff (r : VerseRange) (a b : Verse) :
    ((∀ n, r.walk n = (r.refs.take n, decide (n < r.length))) ↔
        r.upper.offset < Canon.verseTotal - 1) ∧
      (Walk.between a b).refs =
        (span (min a.offset b.offset) (max a.offset b.offset)).map Canon.refText := by
  refine ⟨⟨fun hexact => ?_, walk_of_lt⟩, ?_⟩
  · -- a range ending at the last verse still goes on after all its verses
    by_contra hnot
    have hlast : r.upper.offset = Canon.verseTotal - 1 := by
      have := r.upper.offset_lt
      omega
    have hmore := walk_goes_on_of_last hlast r.length
    rw [hexact r.length] at hmore
    simp at hmore
  · obtain ⟨hlo, hhi⟩ := between_offsets a b
    rw [refs, offsets_eq_span, hlo, hhi]

/-- The range from the last verse of the Bible to itself is walked without end: three steps
give the last verse three times, and the walk goes on. -/
theorem lastVerse_walk_repeats :
    (Walk.between VerseRange.defaultUpper VerseRange.defaultUpper).walk 3 =
      (List.replicate 3 "Revelation of John 22:21", true) := by
  decide +kernel

end VerseRange

end Scripture
