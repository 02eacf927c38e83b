import Scripture.Proofs.Tables

/-!
# Carrying chapters and verses across books

What `normalizeChapter` and `normalizeVerse` do, step by step and then as a whole.

* `carryBack_spec`, `carryForward_spec`, `normalizeChapter_spec` — chapters are carried
  exactly: the chapter a book position and any chapter number come to sits at the plain
  count of chapters, held between the first and the last chapter of the Bible.
* `carryVerseForward_spec` — a verse past the end of its chapter runs on into the
  chapters after it and keeps its offset, held at the last verse of the Bible.
* `carryVerseBack_spec` — a verse of zero or less runs back into the chapters before it
  and keeps its offset while it stays in its book; when it runs back past the first
  chapter of a book, the last chapter of the book before is passed over, so the offset
  falls short of the plain count.

Verses are followed by `countedOffset`: the offset a verse number names when counted on
from the first verse of a chapter, before anything holds it to the Bible.
-/

namespace Scripture

@[simp] theorem Except.ok_bind {ε α β : Type} (a : α) (f : α → Except ε β) :
    (Except.ok a >>= f) = f a := rfl

@[simp] theorem Except.error_bind {ε α β : Type} (e : ε) (f : α → Except ε β) :
    (Except.error e >>= f) = Except.error e := rfl

namespace Canon

/-- The chapter that a book position and a chapter number name on the plain count of the
chapters of the Bible, held between its first and its last chapter. -/
def heldChapter (b : Nat) (c : Int) : Nat :=
  (min (max ((bookStart b : Int) + c - 1) 0) (chapterTotal - 1)).toNat

/-- The offset that verse `v` names when counted on from the first verse of chapter `c` of
book `b`. -/
def countedOffset (b c : Nat) (v : Int) : Int := chapterStart (chapterIndex b c) + v - 1

/-! ### Looking up the tables -/

theorem seqIndex?_of_lt {n i : Nat} (h : i < n) : seqIndex? n i = some i := by
  simp [seqIndex?, h]

theorem exists_book {b : Nat} (hb : b < bookCount) : ∃ bk, books[b]? = some bk :=
  ⟨_, Array.getElem?_eq_getElem (by rw [books_size]; exact hb)⟩

theorem chaptersOf_of_getElem? {b : Nat} {bk : Book} (h : books[b]? = some bk) :
    chaptersOf b = bk.chapterCount := by
  simp [chaptersOf, h]

theorem bookAt_of_getElem? {b : Nat} {bk : Book} (h : books[b]? = some bk) :
    bookAt b = .ok bk := by
  have hb : b < bookCount := by
    rw [← books_size]
    exact (Array.getElem?_eq_some_iff.mp h).1
  simp [bookAt, seqIndex?_of_lt hb, h]

theorem versesIn_of_isChapter {b c : Nat} (h : IsChapter b c) :
    versesIn b c = .ok (versesOf b c) := by
  obtain ⟨bk, hbk⟩ := exists_book h.book_lt
  have hcount := chaptersOf_of_getElem? hbk
  have hc := h.chapter_le
  have hk : c - 1 < bk.verseCounts.length := by
    rw [hcount] at hc
    unfold Book.chapterCount at hc
    have := h.chapter_pos
    omega
  have hidx : seqIndex? bk.chapterCount ((c : Int) - 1) = some (c - 1) := by
    have := h.chapter_pos
    rw [show ((c : Int) - 1) = ((c - 1 : Nat) : Int) by omega]
    exact seqIndex?_of_lt hk
  simp [versesIn, bookAt_of_getElem? hbk, hidx, List.getElem?_eq_getElem hk, versesOf, hbk]

/-! ### Chapters -/

/-- Two chapters of the Bible at the same place are the same chapter. -/
theorem IsChapter.eq_of_chapterIndex_eq {b c b' c' : Nat} (h : IsChapter b c)
    (h' : IsChapter b' c') (heq : chapterIndex b c = chapterIndex b' c') : b = b' ∧ c = c' := by
  have below : ∀ {x y z w : Nat}, IsChapter x y → IsChapter z w → x < z →
      chapterIndex x y < chapterIndex z w := by
    intro x y z w hxy hzw hlt
    have := chapterIndex_lt hxy
    have := bookStart_le_bookStart (by omega : x + 1 ≤ z) (Nat.le_of_lt hzw.book_lt)
    have := hzw.chapter_pos
    unfold chapterIndex at *
    omega
  rcases Nat.lt_trichotomy b b' with hlt | rfl | hgt
  · exact absurd heq (Nat.ne_of_lt (below h h' hlt))
  · have := h.chapter_pos
    have := h'.chapter_pos
    unfold chapterIndex at heq
    omega
  · exact absurd heq.symm (Nat.ne_of_lt (below h' h hgt))

theorem carryBack_of_pos {b c : Int} (hc : 0 < c) : carryBack b c = .ok (b, c) := by
  rw [carryBack, if_neg (by omega)]

/-- Carrying back adds the chapters of each book passed, so the plain count of chapters is
kept, until the count falls before the Bible and the chapter is Genesis 1. -/
theorem carryBack_spec {b : Nat} (hb : b < bookCount) (c : Int) :
    ∃ b' c' : Nat, carryBack b c = .ok (b', c') ∧ b' ≤ b ∧ 0 < c' ∧
      (bookStart b' : Int) + c' - 1 = max ((bookStart b : Int) + c - 1) 0 ∧
      (c ≤ 0 → c' ≤ chaptersOf b') := by
  induction b generalizing c with
  | zero =>
    by_cases hc : c ≤ 0
    · rw [carryBack, if_pos hc, if_neg (by omega)]
      refine ⟨0, 1, rfl, Nat.le_refl _, Nat.one_pos, ?_, fun _ => chaptersOf_pos hb⟩
      simp only [bookStart_zero, Nat.cast_zero, Nat.cast_one]
      omega
    · rw [carryBack_of_pos (by omega)]
      refine ⟨0, c.toNat, by simp; omega, Nat.le_refl _, by omega, ?_, fun hc' => absurd hc' hc⟩
      simp only [bookStart_zero, Nat.cast_zero]
      omega
  | succ n ih =>
    obtain ⟨bk, hbk⟩ := exists_book (b := n) (by omega)
    have hstart := bookStart_succ (b := n) (by omega)
    have hcount := chaptersOf_of_getElem? hbk
    by_cases hc : c ≤ 0
    · have hback : ((n + 1 : Nat) : Int) - 1 = n := by omega
      rw [carryBack, if_pos hc, if_pos (by omega), hback, bookAt_of_getElem? hbk]
      simp only [Except.ok_bind]
      by_cases hc' : c + bk.chapterCount ≤ 0
      · -- still before book `n`: carry on back
        obtain ⟨b', c', heq, hle, hpos, hsum, hlast⟩ := ih (by omega) (c + bk.chapterCount)
        refine ⟨b', c', heq, by omega, hpos, ?_, fun _ => hlast hc'⟩
        rw [hsum, hstart, hcount]
        push_cast
        omega
      · -- the chapter lands in book `n`
        rw [carryBack_of_pos (by omega)]
        refine ⟨n, (c + bk.chapterCount).toNat, by simp; omega, by omega, by omega, ?_,
          fun _ => by rw [hcount]; omega⟩
        rw [hstart, hcount]
        push_cast
        omega
    · rw [carryBack_of_pos (by omega)]
      refine ⟨n + 1, c.toNat, by simp; omega, Nat.le_refl _, by omega, ?_, fun hc' => absurd hc' hc⟩
      omega

/-- A plain count of chapters inside the Bible is not held. -/
theorem heldChapter_of_lt {b : Nat} {c : Int} (h0 : 0 ≤ (bookStart b : Int) + c - 1)
    (h1 : (bookStart b : Int) + c - 1 < chapterTotal) :
    (heldChapter b c : Int) = bookStart b + c - 1 := by
  unfold heldChapter
  omega

theorem isChapter_last : IsChapter (bookCount - 1) 22 :=
  ⟨by decide, by decide, by rw [chaptersOf_last]⟩

theorem chapterIndex_last : chapterIndex (bookCount - 1) 22 = chapterTotal - 1 := by
  simp [chapterIndex, bookStart_last, chapterTotal]

/-- Carrying forward takes off the chapters of each book passed, so the plain count of
chapters is kept, until it runs past the Bible and the chapter is its last. -/
theorem carryForward_spec {s n : Nat} (hsn : s + n < bookCount) {c : Int}
    (hc : 0 < c) (last : Option Book) :
    ∃ b' c' : Nat, carryForward s n (books.toList.drop (s + n)) c last = .ok (b', c') ∧
      IsChapter b' c' ∧
      (chapterIndex b' c' : Int) = min ((bookStart (s + n) : Int) + c - 1) (chapterTotal - 1) := by
  obtain ⟨bk, hbk⟩ := exists_book hsn
  have hcount := chaptersOf_of_getElem? hbk
  have hstart := bookStart_succ hsn
  have hdrop : books.toList.drop (s + n) = bk :: books.toList.drop (s + n + 1) := by
    rw [List.drop_eq_getElem_cons (by simpa [books_size] using hsn)]
    simp [Array.getElem_toList, (Array.getElem?_eq_some_iff.mp hbk).2]
  have hend := bookStart_le_bookStart (show s + n + 1 ≤ bookCount from hsn) (Nat.le_refl _)
  rw [bookStart_bookCount] at hend
  rw [hdrop, carryForward]
  by_cases hfit : c ≤ bk.chapterCount
  · -- the chapter lies in this book
    rw [if_pos hfit]
    refine ⟨s + n, c.toNat, by simp; omega, ⟨hsn, by omega, by omega⟩, ?_⟩
    unfold chapterIndex
    omega
  · rw [if_neg hfit]
    by_cases hlast : (s : Int) + n ≥ 65
    · -- past the end of the last book
      rw [if_pos hlast]
      have hs : s + n = bookCount - 1 := by unfold bookCount at *; omega
      refine ⟨bookCount - 1, 22, rfl, isChapter_last, ?_⟩
      rw [chapterIndex_last, hs, bookStart_last]
      rw [hs, chaptersOf_last] at hcount
      unfold chapterTotal
      omega
    · rw [if_neg hlast]
      obtain ⟨b', c', heq, hchap, hidx⟩ :=
        carryForward_spec (s := s) (n := n + 1) (by unfold bookCount at *; omega)
          (c := c - bk.chapterCount) (by omega) (some bk)
      refine ⟨b', c', by simpa [Nat.add_assoc] using heq, hchap, ?_⟩
      rw [hidx, ← Nat.add_assoc, hstart, hcount]
      push_cast
      omega
termination_by bookCount - (s + n)

/-- **The chapter a book position and any chapter number come to** sits at the plain count
of chapters, held between the first and the last chapter of the Bible. -/
theorem normalizeChapter_spec {b : Nat} (hb : b < bookCount) (c : Int) :
    ∃ b' c' : Nat, normalizeChapter b c = .ok (b', c') ∧ IsChapter b' c' ∧
      chapterIndex b' c' = heldChapter b c := by
  obtain ⟨b₁, c₁, hback, hle, hpos, hsum, -⟩ := carryBack_spec hb c
  have hstart : carryStart b₁ = b₁ := by simp [carryStart]
  obtain ⟨b', c', hfwd, hchap, hidx⟩ :=
    carryForward_spec (s := b₁) (n := 0) (by omega) (c := c₁) (by omega) none
  refine ⟨b', c', ?_, hchap, ?_⟩
  · simp only [normalizeChapter, hback, Except.ok_bind, if_pos (show (0 : Int) < c₁ by omega),
      hstart]
    simpa using hfwd
  · have := hidx
    simp only [Nat.add_zero] at this
    unfold heldChapter
    omega

/-- Chapters of the Bible are left as they are. -/
theorem normalizeChapter_eq {b c b' c' : Nat} (hb : b < bookCount) (h' : IsChapter b' c')
    (hidx : chapterIndex b' c' = heldChapter b c) : normalizeChapter b c = .ok (b', c') := by
  obtain ⟨b₂, c₂, heq, hchap, hidx₂⟩ := normalizeChapter_spec hb c
  obtain ⟨rfl, rfl⟩ := hchap.eq_of_chapterIndex_eq h' (hidx₂.trans hidx.symm)
  exact heq

theorem normalizeChapter_of_isChapter {b c : Nat} (h : IsChapter b c) :
    normalizeChapter b c = .ok (b, c) := by
  have := chapterIndex_lt_chapterTotal h
  have := h.chapter_pos
  refine normalizeChapter_eq h.book_lt h ?_
  have held := heldChapter_of_lt (b := b) (c := c) (by omega) (by unfold chapterIndex at *; omega)
  unfold chapterIndex
  omega

/-- Chapter zero of a book is the last chapter of the book before. -/
theorem normalizeChapter_zero {b : Nat} (hb : b < bookCount) (hpos : 0 < b) :
    normalizeChapter b 0 = .ok ((b - 1 : Nat), (chaptersOf (b - 1) : Nat)) := by
  have hprev : IsChapter (b - 1) (chaptersOf (b - 1)) :=
    ⟨by omega, chaptersOf_pos (by omega), Nat.le_refl _⟩
  have hstart := bookStart_succ (b := b - 1) (by omega)
  rw [show b - 1 + 1 = b by omega] at hstart
  have := chapterIndex_lt_chapterTotal hprev
  have := chaptersOf_pos (b := b - 1) (by omega)
  have held := heldChapter_of_lt (b := b) (c := 0) (by unfold chapterIndex at *; omega)
    (by unfold chapterIndex at *; omega)
  have := normalizeChapter_eq (c := 0) hb hprev
    (by simp only [Nat.cast_zero]; unfold chapterIndex at *; omega)
  simpa using this

/-- The last chapter of the Bible is the only chapter at the last place. -/
theorem chapterIndex_eq_last_iff {b c : Nat} (h : IsChapter b c) :
    chapterIndex b c = chapterTotal - 1 ↔ b = bookCount - 1 ∧ c = 22 := by
  constructor
  · intro hidx
    exact h.eq_of_chapterIndex_eq isChapter_last (hidx.trans chapterIndex_last.symm)
  · rintro ⟨rfl, rfl⟩
    exact chapterIndex_last

/-- The chapter after a chapter that is not the last of the Bible. -/
theorem normalizeChapter_succ {b c : Nat} (h : IsChapter b c)
    (hlast : chapterIndex b c ≠ chapterTotal - 1) :
    ∃ b' c' : Nat, normalizeChapter b ((c : Int) + 1) = .ok (b', c') ∧ IsChapter b' c' ∧
      chapterIndex b' c' = chapterIndex b c + 1 := by
  have := chapterIndex_lt_chapterTotal h
  have := h.chapter_pos
  obtain ⟨b', c', heq, hchap, hidx⟩ := normalizeChapter_spec h.book_lt ((c : Int) + 1)
  refine ⟨b', c', heq, hchap, ?_⟩
  have held := heldChapter_of_lt (b := b) (c := (c : Int) + 1) (by omega)
    (by unfold chapterIndex at *; omega)
  unfold chapterIndex at *
  omega

/-- One step of carrying a verse forward: past the end of the last chapter of the Bible the
verse is held at its last verse; past the end of any other chapter it moves on to the next
chapter with that chapter's verses taken off. -/
theorem carryVerseForward_step {b c : Nat} (h : IsChapter b c) {v : Int}
    (hover : (versesOf b c : Int) < v) :
    carryVerseForward b c v (versesOf b c) =
      if chapterIndex b c = chapterTotal - 1 then .ok ((b : Int), (c : Int), (versesOf b c : Int))
      else normalizeChapter b ((c : Int) + 1) >>= fun next =>
        versesIn next.1 next.2 >>= fun n => carryVerseForward next.1 next.2 (v - versesOf b c) n := by
  rw [carryVerseForward, dif_pos ⟨hover, (versesOf_pos h).ne'⟩]
  simp only []
  have hc := h.chapter_le
  by_cases hb : (b : Int) ≥ 65
  · have hb65 : b = bookCount - 1 := by have := h.book_lt; unfold bookCount at *; omega
    obtain ⟨bk, hbk⟩ := exists_book h.book_lt
    have hcount := chaptersOf_of_getElem? hbk
    rw [hb65, chaptersOf_last] at hcount hc
    rw [if_pos hb, bookAt_of_getElem? hbk, Except.ok_bind, pure_bind, ← hcount]
    by_cases hc22 : c = 22
    · rw [if_pos ((chapterIndex_eq_last_iff h).mpr ⟨hb65, hc22⟩)]
      subst hc22
      simp
    · have hlast : chapterIndex b c ≠ chapterTotal - 1 :=
        fun hh => hc22 ((chapterIndex_eq_last_iff h).mp hh).2
      rw [if_neg hlast]
      simp only [show decide ((c : Int) ≥ ((22 : Nat) : Int)) = false by simp; omega]
      rfl
  · have hlast : chapterIndex b c ≠ chapterTotal - 1 := by
      intro hh
      have := ((chapterIndex_eq_last_iff h).mp hh).1
      unfold bookCount at this
      omega
    rw [if_neg hb, if_neg hlast, pure_bind]
    rfl

/-- **Carrying a verse forward** past the end of its chapter keeps its offset, held at the
last verse of the Bible. -/
theorem carryVerseForward_spec {b c : Nat} (h : IsChapter b c) {v : Int} (hv : 0 < v) :
    ∃ b' c' : Nat, ∃ v' : Int, carryVerseForward b c v (versesOf b c) = .ok (b', c', v') ∧
      IsChapter b' c' ∧ 0 < v' ∧ v' ≤ versesOf b' c' ∧
      countedOffset b' c' v' = min (countedOffset b c v) (verseTotal - 1) := by
  have hnext := chapterStart_succ_chapterIndex h
  have hidx := chapterIndex_lt_chapterTotal h
  have hall := chapterStart_le_chapterStart (by omega : chapterIndex b c + 1 ≤ chapterTotal)
    (Nat.le_refl _)
  rw [chapterStart_chapterTotal] at hall
  by_cases hover : (versesOf b c : Int) < v
  · rw [carryVerseForward_step h hover]
    by_cases hlast : chapterIndex b c = chapterTotal - 1
    · -- the last chapter of the Bible: the verse is its last verse
      rw [if_pos hlast]
      refine ⟨b, c, versesOf b c, rfl, h, by exact_mod_cast versesOf_pos h, le_refl _, ?_⟩
      rw [hlast, show chapterTotal - 1 + 1 = chapterTotal by decide] at hnext
      rw [chapterStart_chapterTotal] at hnext
      unfold countedOffset
      rw [hlast]
      omega
    · rw [if_neg hlast]
      obtain ⟨b₁, c₁, hnorm, hchap, hidx₁⟩ := normalizeChapter_succ h hlast
      rw [hnorm, Except.ok_bind, versesIn_of_isChapter hchap, Except.ok_bind]
      obtain ⟨b', c', v', heq, hchap', hpos, hle, hoff⟩ :=
        carryVerseForward_spec hchap (v := v - versesOf b c) (by omega)
      refine ⟨b', c', v', heq, hchap', hpos, hle, ?_⟩
      rw [hoff]
      unfold countedOffset
      rw [hidx₁, hnext]
      push_cast
      ring_nf
  · rw [carryVerseForward, dif_neg (fun hh => hover hh.1)]
    refine ⟨b, c, v, rfl, h, hv, by omega, ?_⟩
    unfold countedOffset
    rw [min_eq_left (by omega)]
termination_by v.toNat
decreasing_by
  have := versesOf_pos h
  omega

/-! ### Verses of zero or less -/

theorem carryVerseBack_of_pos {fuel : Nat} {b c v : Int} (hc : 0 < c) (hv : 0 < v) :
    carryVerseBack fuel b c v = .ok (b, c, v) := by
  cases fuel with
  | zero => rfl
  | succ fuel => rw [carryVerseBack, if_neg (by omega)]

/-- Inside a book, a verse of zero or less moves back one chapter and gains that
chapter's verses. -/
theorem carryVerseBack_within {fuel b c : Nat} (h : IsChapter b c) (hc : 1 < c) {v : Int}
    (hv : v ≤ 0) :
    carryVerseBack (fuel + 1) b c v =
      carryVerseBack fuel b (c - 1 : Nat) (v + versesOf b (c - 1)) := by
  have hprev : IsChapter b (c - 1) := ⟨h.book_lt, by omega, by have := h.chapter_le; omega⟩
  have hcast : (c : Int) - 1 = ((c - 1 : Nat) : Int) := by omega
  rw [carryVerseBack, if_pos (Or.inl hv), if_neg (by omega)]
  simp only []
  rw [hcast, if_pos (by omega), versesIn_of_isChapter hprev, normalizeChapter_of_isChapter hprev]
  rfl

/-- At the first chapter of a book, a verse of zero or less moves to the last chapter of
the book before and gains nothing: the verses of that chapter are passed over. -/
theorem carryVerseBack_across {fuel b : Nat} (hb : b < bookCount) (hpos : 0 < b) {v : Int}
    (hv : v ≤ 0) :
    carryVerseBack (fuel + 1) b 1 v =
      carryVerseBack fuel (b - 1 : Nat) (chaptersOf (b - 1) : Nat) v := by
  rw [carryVerseBack, if_pos (Or.inl hv), if_neg (by omega)]
  simp only []
  rw [if_neg (by omega), show (1 : Int) - 1 = 0 by rfl, normalizeChapter_zero hb hpos]
  rfl

/-- At Genesis 1 a verse of zero or less is its first verse. -/
theorem carryVerseBack_first {fuel : Nat} {v : Int} (hv : v ≤ 0) :
    carryVerseBack (fuel + 1) 0 1 v = .ok (0, 1, 1) := by
  rw [carryVerseBack, if_pos (Or.inl hv), if_pos (by omega)]

theorem isChapter_first : IsChapter 0 1 := ⟨by decide, Nat.one_pos, chaptersOf_pos (by decide)⟩

/-- The chapter before a chapter that is not the first of its book sits one place earlier. -/
theorem IsChapter.pred {b c : Nat} (h : IsChapter b c) (hc : 1 < c) :
    IsChapter b (c - 1) ∧ chapterIndex b (c - 1) + 1 = chapterIndex b c := by
  refine ⟨⟨h.book_lt, by omega, by have := h.chapter_le; omega⟩, ?_⟩
  unfold chapterIndex
  omega

/-- The last chapter of the book before a book that is not the first sits one place before
the book's first chapter. -/
theorem isChapter_lastOfPrev {b : Nat} (hb : b < bookCount) (hpos : 0 < b) :
    IsChapter (b - 1) (chaptersOf (b - 1)) ∧
      chapterIndex (b - 1) (chaptersOf (b - 1)) + 1 = chapterIndex b 1 := by
  have hcount := chaptersOf_pos (b := b - 1) (by omega)
  have hstart := bookStart_succ (b := b - 1) (by omega)
  rw [show b - 1 + 1 = b by omega] at hstart
  refine ⟨⟨by omega, hcount, Nat.le_refl _⟩, ?_⟩
  unfold chapterIndex
  omega

/-- **Carrying a verse of zero or less back.** While the verse stays in the book of its
chapter its offset is kept; once it runs back past the book's first verse it ends up
short of the plain count (or at the first verse of the Bible). -/
theorem carryVerseBack_spec {fuel b c : Nat} (h : IsChapter b c) (hfuel : chapterIndex b c < fuel)
    {v : Int} (hv : v ≤ 0) :
    ∃ b' c' : Nat, ∃ v' : Int, carryVerseBack fuel b c v = .ok (b', c', v') ∧
      IsChapter b' c' ∧ 0 < v' ∧ v' ≤ versesOf b' c' ∧
      (chapterStart (bookStart b) ≤ countedOffset b c v →
        countedOffset b' c' v' = countedOffset b c v) ∧
      (countedOffset b c v < chapterStart (bookStart b) →
        countedOffset b' c' v' < max (countedOffset b c v) 1) := by
  induction fuel generalizing b c v with
  | zero => omega
  | succ fuel ih =>
    by_cases hfirst : b = 0 ∧ c = 1
    · -- Genesis 1: the verse becomes the first verse of the Bible
      obtain ⟨rfl, rfl⟩ := hfirst
      refine ⟨0, 1, 1, by simpa using carryVerseBack_first hv, isChapter_first, Int.one_pos,
        by exact_mod_cast versesOf_pos isChapter_first, fun hafter => ?_, fun _ => ?_⟩
      · simp [countedOffset, chapterIndex] at hafter
        omega
      · simp [countedOffset, chapterIndex]
    by_cases hc : 1 < c
    · -- back one chapter inside the book: the offset is kept
      have hprev : IsChapter b (c - 1) := ⟨h.book_lt, by omega, by have := h.chapter_le; omega⟩
      have hidx : chapterIndex b (c - 1) + 1 = chapterIndex b c := by
        unfold chapterIndex
        omega
      have hkeep : countedOffset b (c - 1) (v + versesOf b (c - 1)) = countedOffset b c v := by
        have := chapterStart_succ_chapterIndex hprev
        rw [hidx] at this
        unfold countedOffset
        rw [this]
        push_cast
        ring
      rw [carryVerseBack_within h hc hv]
      by_cases hv' : v + versesOf b (c - 1) ≤ 0
      · obtain ⟨b', c', v', heq, hchap, hpos, hle, hstay, hpast⟩ :=
          ih hprev (by omega) hv'
        refine ⟨b', c', v', heq, hchap, hpos, hle, fun hin => ?_, fun hbefore => ?_⟩
        · rw [hstay (by rwa [hkeep]), hkeep]
        · rw [← hkeep]
          exact hpast (by rwa [hkeep])
      · refine ⟨b, c - 1, v + versesOf b (c - 1), carryVerseBack_of_pos (by omega) (by omega),
          hprev, by omega, by omega, fun _ => hkeep, fun hbefore => ?_⟩
        -- a verse at or after the chapter's first verse is not before the book's first verse
        have hin : chapterStart (bookStart b) ≤ chapterStart (chapterIndex b (c - 1)) :=
          chapterStart_le_chapterStart (by unfold chapterIndex; omega)
            (Nat.le_of_lt (chapterIndex_lt_chapterTotal hprev))
        rw [← hkeep] at hbefore
        unfold countedOffset at hbefore
        omega
    · -- back from the first chapter of a book into the last chapter of the book before
      have hc1 : c = 1 := by have := h.chapter_pos; omega
      subst hc1
      have hb0 : 0 < b := by omega
      have hprev : IsChapter (b - 1) (chaptersOf (b - 1)) :=
        ⟨by have := h.book_lt; omega, chaptersOf_pos (by have := h.book_lt; omega), Nat.le_refl _⟩
      have hstart := bookStart_succ (b := b - 1) (by have := h.book_lt; omega)
      rw [show b - 1 + 1 = b by omega] at hstart
      have hsize := chapterStart_succ_chapterIndex hprev
      have hidx : chapterIndex (b - 1) (chaptersOf (b - 1)) + 1 = chapterIndex b 1 := by
        have := chaptersOf_pos (b := b - 1) (by have := h.book_lt; omega)
        unfold chapterIndex
        omega
      rw [hidx] at hsize
      have hskip : countedOffset (b - 1) (chaptersOf (b - 1)) v =
          countedOffset b 1 v - versesOf (b - 1) (chaptersOf (b - 1)) := by
        unfold countedOffset
        rw [hsize]
        push_cast
        ring
      have hgap := versesOf_pos hprev
      rw [show ((1 : Nat) : Int) = 1 by rfl, carryVerseBack_across h.book_lt hb0 hv]
      obtain ⟨b', c', v', heq, hchap, hpos, hle, hstay, hpast⟩ :=
        ih hprev (by omega) hv
      refine ⟨b', c', v', heq, hchap, hpos, hle, fun hafter => ?_, fun _ => ?_⟩
      · -- a verse of zero or less of a book's first chapter is before the book's first verse
        unfold countedOffset chapterIndex at hafter
        simp only [Nat.add_sub_cancel] at hafter
        omega
      · by_cases hin : chapterStart (bookStart (b - 1)) ≤
            countedOffset (b - 1) (chaptersOf (b - 1)) v
        · rw [hstay hin, hskip]
          omega
        · have := hpast (by omega)
          rw [hskip] at this
          omega

/-- **Counting a verse back ends on its own.** Each step moves back one chapter, and the
count stops at Genesis 1 at the latest, so any fuel above the place of the chapter gives the
same result: the fuel never cuts the loop short. -/
theorem carryVerseBack_fuel_eq {fuel fuel' b c : Nat} (h : IsChapter b c)
    (hfuel : chapterIndex b c < fuel) (hfuel' : chapterIndex b c < fuel') (v : Int) :
    carryVerseBack fuel b c v = carryVerseBack fuel' b c v := by
  induction fuel generalizing fuel' b c v with
  | zero => omega
  | succ fuel ih =>
    obtain ⟨fuel', rfl⟩ : ∃ f, fuel' = f + 1 := ⟨fuel' - 1, by omega⟩
    by_cases hv : 0 < v
    · -- the loop does not start
      have hc : (0 : Int) < c := by exact_mod_cast h.chapter_pos
      rw [carryVerseBack_of_pos hc hv, carryVerseBack_of_pos hc hv]
    by_cases hfirst : b = 0 ∧ c = 1
    · obtain ⟨rfl, rfl⟩ := hfirst
      simp only [Nat.cast_zero, Nat.cast_one]
      rw [carryVerseBack_first (by omega), carryVerseBack_first (by omega)]
    by_cases hc : 1 < c
    · obtain ⟨hprev, hidx⟩ := h.pred hc
      rw [carryVerseBack_within h hc (by omega), carryVerseBack_within h hc (by omega)]
      exact ih hprev (by omega) (by omega) _
    · have hc1 : c = 1 := by have := h.chapter_pos; omega
      subst hc1
      have hb0 : 0 < b := by omega
      obtain ⟨hprev, hidx⟩ := isChapter_lastOfPrev h.book_lt hb0
      rw [show ((1 : Nat) : Int) = 1 by rfl, carryVerseBack_across h.book_lt hb0 (by omega),
        carryVerseBack_across h.book_lt hb0 (by omega)]
      exact ih hprev (by omega) (by omega) _

theorem carryVerseForward_of_le {b c v : Int} {count : Nat} (hle : v ≤ count) :
    carryVerseForward b c v count = .ok (b, c, v) := by
  rw [carryVerseForward, dif_neg (fun hh => by omega)]

/-! ### Whole references -/

theorem bookStarts_size : bookStarts.size = bookCount + 1 := by decide +kernel

theorem chapterStarts_size : chapterStarts.size = chapterTotal + 1 := by decide +kernel

/-- The offset of a verse of a chapter is counted on from the chapter's first verse. -/
theorem offsetOf_of_isChapter {b c : Nat} (h : IsChapter b c) {v : Int}
    (hle : v ≤ versesOf b c) : offsetOf b c v = .ok (countedOffset b c v) := by
  have hidx := chapterIndex_lt_chapterTotal h
  have hnext := chapterStart_succ_chapterIndex h
  have hall := chapterStart_le_chapterStart (by omega : chapterIndex b c + 1 ≤ chapterTotal)
    (Nat.le_refl _)
  rw [chapterStart_chapterTotal] at hall
  have hstart : (bookStarts.getD b 0 : Int) - 1 + c = chapterIndex b c := by
    have : bookStarts.getD b 0 = bookStart b := rfl
    have := h.chapter_pos
    unfold chapterIndex
    omega
  have hb : b < bookStarts.size := by rw [bookStarts_size]; have := h.book_lt; omega
  have hin : ¬ ((chapterIndex b c : Int) ≥ chapterStarts.size) := by
    rw [chapterStarts_size]
    omega
  have hbelow : ¬ ((chapterStarts.getD (chapterIndex b c) 0 : Int) + v - 1 ≥ verseTotal) := by
    unfold chapterStart at *
    omega
  simp only [offsetOf, seqIndex?_of_lt hb, hstart]
  rw [if_neg hin, if_neg (show ¬ ((chapterIndex b c : Int) < 0) by omega), Int.toNat_natCast,
    if_neg hbelow]
  rfl

/-- A verse of a chapter lies in the Bible. -/
theorem countedOffset_mem {b c : Nat} (h : IsChapter b c) {v : Int} (hpos : 0 < v)
    (hle : v ≤ versesOf b c) : 0 ≤ countedOffset b c v ∧ countedOffset b c v < verseTotal := by
  have hnext := chapterStart_succ_chapterIndex h
  have hall := chapterStart_le_chapterStart
    (show chapterIndex b c + 1 ≤ chapterTotal from chapterIndex_lt_chapterTotal h) (Nat.le_refl _)
  rw [chapterStart_chapterTotal] at hall
  unfold countedOffset
  omega

/-- **Normalising a reference.** A verse number above zero is counted on from the first verse
of the chapter that the book and chapter come to, and held at the last verse of the Bible;
one of zero or less is counted back as `carryVerseBack_spec` says. -/
theorem normalizeVerse_spec {b : Nat} (hb : b < bookCount) (c v : Int) :
    ∃ b₁ c₁ b' c' : Nat, ∃ v' : Int, normalizeChapter b c = .ok (b₁, c₁) ∧ IsChapter b₁ c₁ ∧
      chapterIndex b₁ c₁ = heldChapter b c ∧
      normalizeVerse b c v = .ok (b', c', v') ∧ IsChapter b' c' ∧ 0 < v' ∧ v' ≤ versesOf b' c' ∧
      (0 < v → countedOffset b' c' v' = min (countedOffset b₁ c₁ v) (verseTotal - 1)) ∧
      (v ≤ 0 → (chapterStart (bookStart b₁) ≤ countedOffset b₁ c₁ v →
          countedOffset b' c' v' = countedOffset b₁ c₁ v) ∧
        (countedOffset b₁ c₁ v < chapterStart (bookStart b₁) →
          countedOffset b' c' v' < max (countedOffset b₁ c₁ v) 1)) := by
  obtain ⟨b₁, c₁, hnorm, hchap, hidx⟩ := normalizeChapter_spec hb c
  have hfuel : chapterIndex b₁ c₁ < chapterTotal + 1 := by
    have := chapterIndex_lt_chapterTotal hchap
    omega
  by_cases hv : 0 < v
  · obtain ⟨b', c', v', hfwd, hchap', hpos, hle, hoff⟩ := carryVerseForward_spec hchap hv
    refine ⟨b₁, c₁, b', c', v', hnorm, hchap, hidx, ?_, hchap', hpos, hle, fun _ => hoff,
      fun hv' => absurd hv' (by omega)⟩
    have hback : carryVerseBack (chapterTotal + 1) b₁ c₁ v = .ok (b₁, c₁, v) :=
      carryVerseBack_of_pos (by have := hchap.chapter_pos; omega) hv
    simp only [normalizeVerse, hnorm, Except.ok_bind, hback, versesIn_of_isChapter hchap, hfwd]
  · obtain ⟨b', c', v', hback, hchap', hpos, hle, hstay, hpast⟩ :=
      carryVerseBack_spec hchap hfuel (v := v) (by omega)
    refine ⟨b₁, c₁, b', c', v', hnorm, hchap, hidx, ?_, hchap', hpos, hle,
      fun hv' => absurd hv' hv, fun _ => ⟨hstay, hpast⟩⟩
    simp only [normalizeVerse, hnorm, Except.ok_bind, hback, versesIn_of_isChapter hchap',
      carryVerseForward_of_le hle]

/-- **Every book position and any chapter and verse numbers come to a verse of the Bible.**
However large or negative the numbers, the chapter comes to a chapter of the Bible and the
reference to a verse of one; no table is read outside its entries, since a missed entry is a
failure. The loop that counts a verse back ends on its own: any fuel above the place of the
chapter it starts from gives the same result. -/
theorem normalizeVerse_total {b : Nat} (hb : b < bookCount) (c v : Int) :
    (∃ b₁ c₁ : Nat, normalizeChapter b c = .ok (b₁, c₁) ∧ IsChapter b₁ c₁ ∧
      ∀ fuel, chapterIndex b₁ c₁ < fuel →
        carryVerseBack fuel b₁ c₁ v = carryVerseBack (chapterTotal + 1) b₁ c₁ v) ∧
    ∃ b' c' : Nat, ∃ v' : Int, normalizeVerse b c v = .ok (b', c', v') ∧
      IsChapter b' c' ∧ 0 < v' ∧ v' ≤ versesOf b' c' := by
  obtain ⟨b₁, c₁, b', c', v', hnorm, hchap, -, hverse, hchap', hpos, hle, -, -⟩ :=
    normalizeVerse_spec hb c v
  have hlt := chapterIndex_lt_chapterTotal hchap
  exact ⟨⟨b₁, c₁, hnorm, hchap, fun fuel hfuel => carryVerseBack_fuel_eq hchap hfuel (by omega) v⟩,
    b', c', v', hverse, hchap', hpos, hle⟩

/-- Revelation of John 1000:-5000 comes to a verse of the Bible. -/
theorem revelation_far_out_total : 65 < bookCount ∧
    ((∃ b₁ c₁ : Nat, normalizeChapter 65 1000 = .ok (b₁, c₁) ∧ IsChapter b₁ c₁ ∧
      ∀ fuel, chapterIndex b₁ c₁ < fuel →
        carryVerseBack fuel b₁ c₁ (-5000) = carryVerseBack (chapterTotal + 1) b₁ c₁ (-5000)) ∧
    ∃ b' c' : Nat, ∃ v' : Int, normalizeVerse 65 1000 (-5000) = .ok (b', c', v') ∧
      IsChapter b' c' ∧ 0 < v' ∧ v' ≤ versesOf b' c') :=
  ⟨by decide, normalizeVerse_total (b := 65) (by decide) 1000 (-5000)⟩

/-! ### The offset a reference comes to -/

/-- The offset that a book, chapter and verse come to: normalised, then counted. -/
def normalizedOffset (b c v : Int) : Except TableError Int := do
  let (b, c, v) ← normalizeVerse b c v
  offsetOf b c v

/-- A normalised reference lies in the Bible. -/
theorem normalizedOffset_mem {b : Nat} (hb : b < bookCount) {c v o : Int}
    (h : normalizedOffset b c v = .ok o) : 0 ≤ o ∧ o < verseTotal := by
  obtain ⟨-, -, b', c', v', -, -, -, hnorm, hchap', hpos, hle, -, -⟩ := normalizeVerse_spec hb c v
  simp only [normalizedOffset, hnorm, Except.ok_bind, offsetOf_of_isChapter hchap' hle,
    Except.ok.injEq] at h
  subst h
  exact countedOffset_mem hchap' hpos hle

/-- A verse of a chapter is left where it is: its offset is counted on from the chapter. -/
theorem normalizedOffset_of_isChapter {b c : Nat} (h : IsChapter b c) {v : Int} (hpos : 0 < v)
    (hle : v ≤ versesOf b c) : normalizedOffset b c v = .ok (countedOffset b c v) := by
  have hback : carryVerseBack (chapterTotal + 1) b c v = .ok (b, c, v) :=
    carryVerseBack_of_pos (by have := h.chapter_pos; omega) hpos
  simp only [normalizedOffset, normalizeVerse, normalizeChapter_of_isChapter h, Except.ok_bind,
    hback, versesIn_of_isChapter h, carryVerseForward_of_le hle, offsetOf_of_isChapter h hle]

/-- The offset a verse number names on the plain count: counted on from the first verse of
the chapter that `heldChapter` gives. -/
def plainOffset (b : Nat) (c v : Int) : Int := chapterStart (heldChapter b c) + v - 1

/-- The linear rule: the plain count of verses held between the first and the last verse
of the Bible. -/
def linearOffset (b : Nat) (c v : Int) : Int := min (max (plainOffset b c v) 0) (verseTotal - 1)

/-- A verse number of zero or less that counts back past the first verse of a book that
begins at or before the held chapter, but not back to the first verse of the Bible. -/
def CountsBackAcrossBook (b : Nat) (c v : Int) : Prop :=
  v ≤ 0 ∧ 0 < plainOffset b c v ∧
    ∃ B < bookCount, bookStart B ≤ heldChapter b c ∧ plainOffset b c v < chapterStart (bookStart B)

/-- Some book that begins at or before a chapter begins after an offset exactly when the
chapter's own book does. -/
theorem exists_bookStart_iff {b c : Nat} (h : IsChapter b c) (p : Int) :
    (∃ B < bookCount, bookStart B ≤ chapterIndex b c ∧ p < chapterStart (bookStart B)) ↔
      p < chapterStart (bookStart b) := by
  constructor
  · rintro ⟨B, hB, hle, hlt⟩
    have hBb : B ≤ b := by
      by_contra hgt
      have := bookStart_le_bookStart (show b + 1 ≤ B by omega) (Nat.le_of_lt hB)
      have := chapterIndex_lt h
      omega
    have hend : bookStart b ≤ bookStart bookCount :=
      bookStart_le_bookStart (Nat.le_of_lt h.book_lt) (Nat.le_refl _)
    rw [bookStart_bookCount] at hend
    have := chapterStart_le_chapterStart (bookStart_le_bookStart hBb (Nat.le_of_lt h.book_lt)) hend
    omega
  · intro hlt
    refine ⟨b, h.book_lt, ?_, hlt⟩
    have := h.chapter_pos
    unfold chapterIndex
    omega

/-- **Normalising is linear exactly when no book start is crossed backwards.** For every
book and all chapter and verse numbers the offset is found, and it is the linear count held
to the Bible unless a verse of zero or less counts back past the start of a book (and not to
the start of the Bible): there the last chapter of the book before is passed over. -/
theorem normalizedOffset_linear_iff {b : Nat} (hb : b < bookCount) (c v : Int) :
    ∃ o, normalizedOffset b c v = .ok o ∧
      (o = linearOffset b c v ↔ ¬ CountsBackAcrossBook b c v) := by
  obtain ⟨b₁, c₁, b', c', v', -, hchap, hidx, hnorm, hchap', hpos, hle, hup, hdown⟩ :=
    normalizeVerse_spec hb c v
  have hplain : plainOffset b c v = countedOffset b₁ c₁ v := by
    rw [plainOffset, countedOffset, hidx]
  have hoff : normalizedOffset b c v = .ok (countedOffset b' c' v') := by
    simp only [normalizedOffset, hnorm, Except.ok_bind, offsetOf_of_isChapter hchap' hle]
  refine ⟨_, hoff, ?_⟩
  have hfloor : 0 ≤ countedOffset b' c' v' := by
    unfold countedOffset
    omega
  have hback : CountsBackAcrossBook b c v ↔
      v ≤ 0 ∧ 0 < countedOffset b₁ c₁ v ∧ countedOffset b₁ c₁ v < chapterStart (bookStart b₁) := by
    rw [CountsBackAcrossBook, ← hidx, exists_bookStart_iff hchap, hplain]
  rw [hback, linearOffset, hplain]
  by_cases hv : 0 < v
  · -- counting on: held at the last verse only
    have hcount := hup hv
    have : 0 ≤ countedOffset b₁ c₁ v := by
      unfold countedOffset
      omega
    rw [hcount, max_eq_left this]
    exact iff_of_true rfl (fun hh => absurd hh.1 (by omega))
  · -- counting back
    obtain ⟨hstay, hpast⟩ := hdown (by omega)
    have hbelow : countedOffset b₁ c₁ v < chapterStart (chapterIndex b₁ c₁) := by
      unfold countedOffset
      omega
    have hall := chapterStart_le_chapterStart
      (Nat.le_of_lt (chapterIndex_lt_chapterTotal hchap)) (Nat.le_refl _)
    rw [chapterStart_chapterTotal] at hall
    have htotal : 0 < verseTotal := by decide
    rw [min_eq_left (max_le (by omega) (by omega))]
    by_cases hin : chapterStart (bookStart b₁) ≤ countedOffset b₁ c₁ v
    · -- the verse stays in its book: the offset is the plain count
      rw [hstay hin, max_eq_left (by omega)]
      exact iff_of_true rfl (fun hh => absurd hh.2.2 (by omega))
    · have hshort := hpast (by omega)
      by_cases hzero : countedOffset b₁ c₁ v ≤ 0
      · -- counted back to the start of the Bible: both are its first verse
        rw [max_eq_right hzero]
        exact iff_of_true (by rw [max_eq_right (by omega)] at hshort; omega)
          (fun hh => absurd hh.2.1 (by omega))
      · -- a book start was crossed: the offset falls short
        rw [max_eq_left (by omega)]
        rw [max_eq_left (by omega)] at hshort
        exact iff_of_false (by omega) (fun hh => hh ⟨by omega, by omega, by omega⟩)

end Canon

end Scripture
