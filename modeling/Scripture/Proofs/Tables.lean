import Mathlib
import Scripture.Canon.Normalize

/-!
# The canon tables as running totals

`bookStarts` and `chapterStarts` are running totals: each entry is the one before plus
the size of the book or chapter between them. This module reads them that way once, so
that what is later proved about carrying chapters and verses across books never looks
into the tables again.

* `bookStart_succ`, `chapterStart_succ` — one step of each running total.
* `chapterSize_chapterIndex` — the chapter sizes, read at the place of chapter `c` of
  book `b`, give the verse count of that chapter: the flattened table and the table of
  books agree.
* `bookStart_lt_bookStart`, `chapterStart_le_chapterStart` — both totals grow.

A chapter is named by a book position and a chapter counted from one (`IsChapter`), and
sits at `chapterIndex` among the 1189 chapters of the Bible.
-/

namespace Scripture.Canon

/-- The chapters before the book at a position. -/
def bookStart (b : Nat) : Nat := bookStarts.getD b 0

/-- The verses before the chapter at a place among all chapters, counted from zero. -/
def chapterStart (k : Nat) : Nat := chapterStarts.getD k 0

/-- The number of chapters of the book at a position; none past the last book. -/
def chaptersOf (b : Nat) : Nat := (books[b]?.map Book.chapterCount).getD 0

/-- The number of verses of chapter `c` (counted from one) of the book at `b`. -/
def versesOf (b c : Nat) : Nat := ((books[b]?.map Book.verseCounts).getD []).getD (c - 1) 0

/-- Chapter `c`, counted from one, of the book at position `b` is a chapter of the Bible. -/
structure IsChapter (b c : Nat) : Prop where
  book_lt : b < bookCount
  chapter_pos : 0 < c
  chapter_le : c ≤ chaptersOf b

/-- The place of a chapter among all the chapters of the Bible, counted from zero. -/
def chapterIndex (b c : Nat) : Nat := bookStart b + c - 1

/-! ### The tables themselves -/

theorem books_size : books.size = bookCount := by decide

/-- A list read at a place it has. -/
theorem listGetD_of_lt {l : List Nat} {i : Nat} (hi : i < l.length) (d : Nat) :
    l.getD i d = l[i] := by
  rw [List.getD_eq_getElem?_getD, List.getElem?_eq_getElem hi, Option.getD_some]

theorem chapterSizes_length : chapterSizes.length = chapterTotal := by decide +kernel

theorem chaptersOf_pos {b : Nat} (hb : b < bookCount) : 0 < chaptersOf b := by
  have table : ∀ b : Fin 66, 0 < chaptersOf b := by decide +kernel
  exact table ⟨b, hb⟩

theorem verseCount_pos : ∀ bk ∈ books.toList, ∀ n ∈ bk.verseCounts, 0 < n := by
  decide +kernel

theorem chapterSize_pos {k : Nat} (hk : k < chapterTotal) : 0 < chapterSizes.getD k 0 := by
  rw [← chapterSizes_length] at hk
  rw [listGetD_of_lt hk]
  obtain ⟨bk, hbk, hmem⟩ := List.mem_flatMap.mp (List.getElem_mem hk)
  exact verseCount_pos bk hbk _ hmem

theorem bookStart_bookCount : bookStart bookCount = chapterTotal := by decide +kernel

theorem chapterStart_chapterTotal : chapterStart chapterTotal = verseTotal := by
  decide +kernel

theorem bookStart_last : bookStart (bookCount - 1) = 1167 := by decide +kernel

theorem chaptersOf_last : chaptersOf (bookCount - 1) = 22 := by decide +kernel

/-! ### Running totals -/

/-- An entry of a running total is the sum of the sizes before it. -/
theorem scanl_add_getD {l : List Nat} {i : Nat} (hi : i ≤ l.length) :
    (l.scanl (· + ·) 0).getD i 0 = (l.take i).sum := by
  rw [listGetD_of_lt (by simp; omega), List.getElem_scanl, List.sum_eq_foldl]

theorem bookStart_eq_sum {b : Nat} (hb : b ≤ bookCount) :
    bookStart b = ((books.toList.map Book.chapterCount).take b).sum := by
  unfold bookStart bookStarts
  rw [Array.getD_eq_getD_getElem?, List.getElem?_toArray, ← List.getD_eq_getElem?_getD]
  exact scanl_add_getD (by simp [books_size]; omega)

theorem chapterStart_eq_sum {k : Nat} (hk : k ≤ chapterTotal) :
    chapterStart k = (chapterSizes.take k).sum := by
  unfold chapterStart chapterStarts
  rw [Array.getD_eq_getD_getElem?, List.getElem?_toArray, ← List.getD_eq_getElem?_getD]
  exact scanl_add_getD (by rw [chapterSizes_length]; omega)

@[simp] theorem bookStart_zero : bookStart 0 = 0 := by
  rw [bookStart_eq_sum (by decide)]
  simp

@[simp] theorem chapterStart_zero : chapterStart 0 = 0 := by
  rw [chapterStart_eq_sum (by decide)]
  simp

theorem bookStart_succ {b : Nat} (hb : b < bookCount) :
    bookStart (b + 1) = bookStart b + chaptersOf b := by
  have hlen : b < books.size := by rw [books_size]; exact hb
  rw [bookStart_eq_sum hb, bookStart_eq_sum (by omega), List.take_add_one, List.sum_append]
  simp [chaptersOf, hlen]

theorem chapterStart_succ {k : Nat} (hk : k < chapterTotal) :
    chapterStart (k + 1) = chapterStart k + chapterSizes.getD k 0 := by
  have hlen : k < chapterSizes.length := by rw [chapterSizes_length]; exact hk
  rw [chapterStart_eq_sum hk, chapterStart_eq_sum (by omega), List.take_add_one,
    List.sum_append, List.getElem?_eq_getElem hlen, listGetD_of_lt hlen]
  simp

theorem bookStart_lt_bookStart {b b' : Nat} (hlt : b < b') (hb' : b' ≤ bookCount) :
    bookStart b < bookStart b' := by
  induction b' with
  | zero => omega
  | succ n ih =>
    have step := bookStart_succ (b := n) (by omega)
    have pos := chaptersOf_pos (b := n) (by omega)
    rcases Nat.lt_succ_iff_lt_or_eq.mp hlt with hlt | rfl
    · have := ih hlt (by omega)
      omega
    · omega

theorem bookStart_le_bookStart {b b' : Nat} (hle : b ≤ b') (hb' : b' ≤ bookCount) :
    bookStart b ≤ bookStart b' := by
  rcases Nat.lt_or_eq_of_le hle with hlt | rfl
  · exact Nat.le_of_lt (bookStart_lt_bookStart hlt hb')
  · exact Nat.le_refl _

theorem chapterStart_le_chapterStart {k k' : Nat} (hle : k ≤ k') (hk' : k' ≤ chapterTotal) :
    chapterStart k ≤ chapterStart k' := by
  induction k' with
  | zero => simp_all
  | succ n ih =>
    rcases Nat.lt_succ_iff_lt_or_eq.mp (Nat.lt_succ_of_le hle) with hlt | rfl
    · have := ih (by omega) (by omega)
      have := chapterStart_succ (k := n) (by omega)
      omega
    · exact Nat.le_refl _

/-! ### Chapters of books -/

/-- A flattened list read in its `b`-th part is that part. -/
theorem flatten_getD_of_part {L : List (List Nat)} {b c : Nat} {part : List Nat}
    (hpart : L[b]? = some part) (hc : c < part.length) :
    L.flatten.getD (((L.take b).map List.length).sum + c) 0 = part[c] := by
  induction L generalizing b with
  | nil => simp at hpart
  | cons first rest ih =>
    cases b with
    | zero =>
      have hfirst : first = part := by simpa using hpart
      subst hfirst
      rw [List.flatten_cons, List.getD_eq_getElem?_getD, List.getElem?_append_left (by simpa using hc)]
      simp [List.getElem?_eq_getElem hc]
    | succ b =>
      rw [List.flatten_cons, List.take_succ_cons, List.map_cons, List.sum_cons,
        List.getD_eq_getElem?_getD, Nat.add_assoc,
        List.getElem?_append_right (by omega), Nat.add_sub_cancel_left,
        ← List.getD_eq_getElem?_getD]
      exact ih (by simpa using hpart)

theorem chapterIndex_lt {b c : Nat} (h : IsChapter b c) :
    chapterIndex b c < bookStart (b + 1) := by
  have := bookStart_succ h.book_lt
  have := h.chapter_le
  have := h.chapter_pos
  unfold chapterIndex
  omega

theorem chapterIndex_lt_chapterTotal {b c : Nat} (h : IsChapter b c) :
    chapterIndex b c < chapterTotal := by
  have := chapterIndex_lt h
  have := bookStart_le_bookStart (show b + 1 ≤ bookCount from h.book_lt) (Nat.le_refl _)
  rw [bookStart_bookCount] at this
  omega

/-- The chapter sizes of all books, flattened, read at the place of a chapter of a book give
that chapter's verse count. -/
theorem chapterSize_chapterIndex {b c : Nat} (h : IsChapter b c) :
    chapterSizes.getD (chapterIndex b c) 0 = versesOf b c := by
  obtain ⟨hb, hc, hcb⟩ := h
  have hbl : b < books.size := by rw [books_size]; exact hb
  have hpart : (books.toList.map Book.verseCounts)[b]? = some books[b].verseCounts := by
    simp [hbl]
  have hbefore : (((books.toList.map Book.verseCounts).take b).map List.length).sum =
      bookStart b := by
    rw [bookStart_eq_sum (by omega), List.map_take, List.map_map]
    rfl
  have hcount : c - 1 < books[b].verseCounts.length := by
    simp only [chaptersOf, Array.getElem?_eq_getElem hbl, Option.map_some, Option.getD_some,
      Book.chapterCount] at hcb
    omega
  have hidx : chapterIndex b c =
      (((books.toList.map Book.verseCounts).take b).map List.length).sum + (c - 1) := by
    rw [hbefore, chapterIndex]
    omega
  have hsizes : chapterSizes = (books.toList.map Book.verseCounts).flatten := List.flatMap_def
  rw [hidx, hsizes, flatten_getD_of_part hpart hcount]
  simp only [versesOf, Array.getElem?_eq_getElem hbl, Option.map_some, Option.getD_some]
  rw [listGetD_of_lt hcount]

theorem versesOf_pos {b c : Nat} (h : IsChapter b c) : 0 < versesOf b c := by
  rw [← chapterSize_chapterIndex h]
  exact chapterSize_pos (chapterIndex_lt_chapterTotal h)

/-- The verses of a chapter end where the next chapter's begin. -/
theorem chapterStart_succ_chapterIndex {b c : Nat} (h : IsChapter b c) :
    chapterStart (chapterIndex b c + 1) = chapterStart (chapterIndex b c) + versesOf b c := by
  rw [chapterStart_succ (chapterIndex_lt_chapterTotal h), chapterSize_chapterIndex h]

end Scripture.Canon
