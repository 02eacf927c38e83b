import Mathlib
import Scripture.Proofs.Ensures
import Scripture.Proofs.VerseArithmetic
import Scripture.Proofs.WrittenList

/-!
# Verses with their context

`RangeList.withContext` widens each verse of a reference list to the verses within a count of it:
from the verse that many before it, held at the first verse of the Bible, to the verse that many
after it, held at the last. The site writes the verses it has found as their reference texts
joined by commas and widens that list. Reading such a list back gives the verses written (see
`RangeList.read_written`), in whatever order they were written and however often, so the widened
list is the union of the windows of the verses written, each verse once and in order.

* `RangeList.mem_window` — the verses of one window.
* `RangeList.withContext_verses` — a list read as verses alone widens to the union of their
  windows.
* `RangeList.parse_refTexts` — reference texts joined by commas are read as verses at their
  offsets.
* `RangeList.withContext_window` — the widened list of reference texts.
-/

namespace Scripture.RangeList

/-- **One window.** Within a count that is not negative, the window of a verse runs from the
verse that many before it, held at the first verse, to the verse that many after it, held at the
last. -/
theorem mem_window (v : Verse) {n : Int} (hn : 0 ≤ n) (p : Nat) :
    p ∈ (VerseRange.make (v.sub n) (v.add n)).offsets ↔
      (v.offset : Int) - n ≤ p ∧ (p : Int) ≤ min (v.offset + n) (Canon.verseTotal - 1) := by
  have hlt := v.offset_lt
  -- neither end runs past the last verse, so both are the exact ends held at the two ends
  have hlo : ((v.sub n).offset : Int) = max ((v.offset : Int) - n) 0 := by
    rw [Verse.sub_offset, if_pos (by omega)]
    unfold Verse.clampOffset
    split <;> omega
  have hhi : ((v.add n).offset : Int) = min ((v.offset : Int) + n) (Canon.verseTotal - 1) := by
    rw [Verse.add_offset]
    unfold Verse.clampOffset
    simp only [Canon.verseTotal] at hlt ⊢
    split <;> omega
  obtain ⟨hlower, hupper⟩ := make_of_le (a := v.sub n) (b := v.add n) (by
    simp only [Canon.verseTotal] at hlt hhi
    omega)
  rw [VerseRange.offsets, List.mem_range'_1, VerseRange.length, hlower, hupper]
  simp only [Canon.verseTotal] at hlt hhi ⊢
  omega

/-- **Widening a list of verses.** A text read as verses alone, widened by a whole number, gives
the windows of the verses, sorted and each offset once. -/
theorem withContext_verses {s : String} {vs : List Verse} (h : parse s = .ok (vs.map .verse))
    (n : Int) :
    withContext s (.int n) = .ok (offsets.dedupSorted
      ((vs.flatMap fun v => (VerseRange.make (v.sub n) (v.add n)).offsets).mergeSort (· ≤ ·))) := by
  unfold withContext
  rw [h, Except.ok_bind]
  split
  · -- a list of verses holds no range
    rename_i hany
    simp at hany
  · -- each verse adds its window to what the loop has gathered
    dsimp only
    rw [List.forIn_map]
    dsimp only
    rw [forIn_yield_eq_foldl (m := Except Failure) vs _
        (fun (all : List Nat) (v : Verse) => all ++ (VerseRange.make (v.sub n) (v.add n)).offsets) ?_,
      List.flatMap_eq_foldl]
    · rfl
    · exact fun _ _ _ => rfl

/-- Reading back keeps only verses when only verses are read. -/
theorem mem_foldl_keepVerse_items (l acc : List RangeItem) {it : RangeItem}
    (h : it ∈ l.foldl keepVerse acc) : it ∈ acc ∨ it ∈ l := by
  induction l generalizing acc with
  | nil => exact Or.inl h
  | cons x l ih =>
    rcases ih _ h with h | h
    · -- a step keeps what it had, adding at most the item it reads
      have hstep : it ∈ acc ∨ it = x := by
        unfold keepVerse at h
        split at h
        · split at h
          · exact Or.inl h
          · simpa using h
        · simpa using h
      rcases hstep with h | rfl
      · exact Or.inl h
      · exact Or.inr List.mem_cons_self
    · exact Or.inr (List.mem_cons_of_mem _ h)

/-- A list of items that are all verses is a list of verses. -/
theorem exists_verses {l : List RangeItem} (h : ∀ it ∈ l, ∃ v, it = .verse v) :
    ∃ vs : List Verse, l = vs.map .verse := by
  induction l with
  | nil => exact ⟨[], rfl⟩
  | cons it l ih =>
    obtain ⟨v, rfl⟩ := h it List.mem_cons_self
    obtain ⟨vs, rfl⟩ := ih fun it' h' => h it' (List.mem_cons_of_mem _ h')
    exact ⟨v :: vs, rfl⟩

/-- Items read back with the same ends as verses are verses. -/
theorem verses_of_sameEnds {dec items : List RangeItem} (h : List.Forall₂ RangeItem.SameEnds dec items)
    (hitems : ∀ it ∈ items, ∃ v, it = .verse v) : ∀ it ∈ dec, ∃ v, it = .verse v := by
  induction h with
  | nil => exact fun _ h => absurd h List.not_mem_nil
  | @cons x y dec items hsame _ ih =>
    intro it hit
    rcases List.mem_cons.mp hit with rfl | hit
    · obtain ⟨w, rfl⟩ := hitems y List.mem_cons_self
      cases it with
      | verse v => exact ⟨v, rfl⟩
      | range r => exact hsame.elim
    · exact ih (fun it' h' => hitems it' (List.mem_cons_of_mem _ h')) it hit

/-- **Reading reference texts back.** Reference texts of verses joined by commas are read as
verses alone, at exactly the offsets written. -/
theorem parse_refTexts (os : List Nat) (hos : ∀ o ∈ os, o < Canon.verseTotal) :
    ∃ vs : List Verse, parse (",".intercalate (os.map Canon.refText)) = .ok (vs.map .verse) ∧
      ∀ o, o ∈ vs.map Verse.offset ↔ o ∈ os := by
  let items := os.map fun o : Nat => RangeItem.verse (Verse.ofOffset o)
  have htexts : items.map RangeItem.text = os.map Canon.refText := by
    simp only [items, List.map_map]
    refine List.map_congr_left fun o ho => ?_
    simp [Verse.text, Verse.ofOffset_offset (hos o ho)]
  have hoffsets : items.flatMap RangeItem.offsets = os := by
    simp only [items, List.flatMap_map, RangeItem.offsets_verse]
    rw [← List.map_eq_flatMap, List.map_congr_left fun o ho => Verse.ofOffset_offset (hos o ho),
      List.map_id']
  obtain ⟨dec, hdec, hall⟩ := read_written (show ',' = ',' ∨ ',' = ';' from Or.inl rfl) items []
  rw [htexts, ← comma_eq] at hdec
  -- what is read back is one verse for each verse written
  have hdecVerses : ∀ it ∈ dec, ∃ v, it = .verse v :=
    verses_of_sameEnds hall fun it hit => by
      obtain ⟨o, -, rfl⟩ := List.mem_map.mp hit
      exact ⟨_, rfl⟩
  obtain ⟨vs, hvs⟩ := exists_verses fun it hit =>
    (mem_foldl_keepVerse_items dec [] hit).elim (fun h => absurd h List.not_mem_nil)
      (hdecVerses it)
  refine ⟨vs, ?_, fun o => ?_⟩
  · rw [parse_eq, show ({} : State) = { items := [] } from rfl, hdec, ← hvs]
    rfl
  · have hkept := mem_foldl_keepVerse dec [] o
    rw [hvs, flatMap_offsets_of_sameEnds hall, hoffsets] at hkept
    simpa [List.flatMap_map, eq_comm] using hkept

/-- **Verses with their context.** Reference texts of verses, joined by commas in any order and
with any repeats, widened by a count of at least one that does not reach the last verse of the
Bible from any of them, give the offsets of the verses within the count of one of them, in order
and each once: their reference texts are the entries of the reference list within that window
of a verse written. -/
theorem withContext_window (os : List Nat) (hos : ∀ o ∈ os, o < Canon.verseTotal) (n : Int)
    (hn : 1 ≤ n) (hend : ∀ o ∈ os, (o : Int) + n < Canon.verseTotal - 1) :
    ∃ out, withContext (",".intercalate (os.map Canon.refText)) (.int n) = .ok out ∧
      out.Pairwise (· < ·) ∧
      (∀ p, p ∈ out ↔ ∃ o ∈ os, (o : Int) - n ≤ p ∧ (p : Int) ≤ o + n) ∧
      ∀ t, t ∈ out.map Canon.refText ↔ ∃ p < Canon.verseTotal, Canon.refText p = t ∧
        ∃ o ∈ os, (o : Int) - n ≤ p ∧ (p : Int) ≤ o + n := by
  obtain ⟨vs, hparse, hvs⟩ := parse_refTexts os hos
  obtain ⟨hsorted, hmem⟩ := dedupSorted_mergeSort
    (vs.flatMap fun v => (VerseRange.make (v.sub n) (v.add n)).offsets)
  -- a window ends at the verse the count after its verse, which is not held back
  have hwindow : ∀ p, p ∈ vs.flatMap (fun v => (VerseRange.make (v.sub n) (v.add n)).offsets) ↔
      ∃ o ∈ os, (o : Int) - n ≤ p ∧ (p : Int) ≤ o + n := by
    intro p
    simp only [List.mem_flatMap, mem_window _ (show (0 : Int) ≤ n by omega)]
    constructor
    · rintro ⟨v, hv, hlo, hhi⟩
      have ho : v.offset ∈ os := (hvs _).mp (List.mem_map_of_mem hv)
      exact ⟨v.offset, ho, hlo, le_trans hhi (min_le_left _ _)⟩
    · rintro ⟨o, ho, hlo, hhi⟩
      obtain ⟨v, hv, rfl⟩ := List.mem_map.mp ((hvs o).mpr ho)
      have := hend _ ho
      exact ⟨v, hv, hlo, le_min hhi (by omega)⟩
  have hout : ∀ p, p ∈ offsets.dedupSorted
      ((vs.flatMap fun v => (VerseRange.make (v.sub n) (v.add n)).offsets).mergeSort (· ≤ ·)) ↔
      ∃ o ∈ os, (o : Int) - n ≤ p ∧ (p : Int) ≤ o + n := fun p => (hmem p).trans (hwindow p)
  refine ⟨_, withContext_verses hparse n, hsorted, hout, fun t => ?_⟩
  rw [List.mem_map]
  constructor
  · rintro ⟨p, hp, rfl⟩
    obtain ⟨o, ho, hlo, hhi⟩ := (hout p).mp hp
    have := hend o ho
    exact ⟨p, by omega, rfl, o, ho, hlo, hhi⟩
  · rintro ⟨p, -, rfl, hwin⟩
    exact ⟨p, (hout p).mpr hwin, rfl⟩

/-- Genesis 1:1 widened by one verse: the window of the first verse of the Bible. -/
theorem firstVerse_withContext_window :
    (∀ o ∈ ([0] : List Nat), o < Canon.verseTotal) ∧ (1 : Int) ≤ 1 ∧
      (∀ o ∈ ([0] : List Nat), (o : Int) + 1 < Canon.verseTotal - 1) ∧
      ∃ out, withContext (",".intercalate (([0] : List Nat).map Canon.refText)) (.int 1) = .ok out ∧
        out.Pairwise (· < ·) ∧
        (∀ p, p ∈ out ↔ ∃ o ∈ ([0] : List Nat), (o : Int) - 1 ≤ p ∧ (p : Int) ≤ o + 1) ∧
        ∀ t, t ∈ out.map Canon.refText ↔ ∃ p < Canon.verseTotal, Canon.refText p = t ∧
          ∃ o ∈ ([0] : List Nat), (o : Int) - 1 ≤ p ∧ (p : Int) ≤ o + 1 := by
  have hlt : ∀ o ∈ ([0] : List Nat), o < Canon.verseTotal := by decide
  have hend : ∀ o ∈ ([0] : List Nat), (o : Int) + 1 < Canon.verseTotal - 1 := by decide
  exact ⟨hlt, le_refl _, hend, withContext_window [0] hlt 1 (le_refl _) hend⟩

end Scripture.RangeList
