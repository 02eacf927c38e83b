import Mathlib
import Scripture.Proofs.WrittenReference

/-!
# The reference text of a verse

Every verse of the Bible has a reference text `<book> <chapter>:<verse>`, found by `locate`
with two binary searches over the running totals. This module shows that the search finds
the chapter and the book that hold the verse, and that the text, read back with the blanks
after its book doubled, comes to the verse again.

* `lastAtMost_spec` — the binary search keeps an entry at most the target at its lower end
  and one above it at its upper end, so it ends between two neighbours.
* `locate_spec` — the book, chapter and verse of an offset name a chapter of the Bible, and
  counting on from that chapter gives the offset back.
* `exactPosition?_spaced` — a reference text whose book is followed by two blanks is not
  itself a reference text.
* `ofText_spaced` — such a text is read back as the verse it names.
-/

namespace Scripture

/-! ### Splitting a text at a character -/

namespace Text

open String in
/-- Splitting at a one-character separator is splitting at each character equal to it. -/
theorem splitOnAux_singleton (s : String) (c : Char) (b i : Pos.Raw) (r : List String) :
    s.splitOnAux (String.singleton c) b i 0 r = s.splitAux (· == c) b i r := by
  rw [splitOnAux.eq_1, splitAux.eq_1]
  by_cases h : Pos.Raw.atEnd s i = true
  · simp [h]
  · rw [if_neg h, dif_neg h]
    -- the separator is matched by one character, after which it is at its end
    have hget : Pos.Raw.get (String.singleton c) 0 = c := by
      simp [Pos.Raw.get, Pos.Raw.utf8GetAux]
    have hnext : (Pos.Raw.next (String.singleton c) 0).byteIdx = c.utf8Size := by
      simp [Pos.Raw.next, hget]
    have hend : Pos.Raw.atEnd (String.singleton c) (Pos.Raw.next (String.singleton c) 0) := by
      simp [Pos.Raw.atEnd, hnext]
    simp only [hget, hend, if_true]
    by_cases hc : (Pos.Raw.get s i == c) = true
    · rw [if_pos hc, if_pos hc]
      have hback : (Pos.Raw.next s i).unoffsetBy (Pos.Raw.next (String.singleton c) 0) = i := by
        have : Pos.Raw.get s i = c := by simpa using hc
        ext
        simp [Pos.Raw.unoffsetBy, Pos.Raw.next, this, hget]
      rw [hback, splitOnAux_singleton]
    · rw [if_neg hc, if_neg hc]
      have hzero : i.unoffsetBy 0 = i := by
        ext
        simp [Pos.Raw.unoffsetBy]
      rw [hzero, splitOnAux_singleton]
termination_by s.rawEndPos.1 - i.1
decreasing_by
  all_goals
    have := Pos.Raw.lt_next s i
    simp only [Pos.Raw.atEnd, decide_eq_true_eq, not_le] at h
    simp only [Pos.Raw.lt_iff, String.byteIdx_rawEndPos] at this h ⊢
    omega

/-- A text split at a one-character separator: the lists of characters between its
occurrences. -/
theorem splitOn_singleton (s : String) (c : Char) :
    s.splitOn (String.singleton c) = (s.toList.splitOn c).map String.ofList := by
  rw [String.splitOn, if_neg (by simp [← String.toList_inj]), splitOnAux_singleton]
  exact String.splitToList_of_valid s (· == c)

end Text

namespace Canon

/-! ### Binary search over the running totals -/

/-- **The binary search ends between two neighbours.** Started with an entry at most `x` at
its lower end and an entry above `x` at its upper end, it returns a place whose entry is at
most `x` while the next entry is above it. -/
theorem lastAtMost_spec (a : Array Nat) (x : Nat) {lo hi : Nat} (hlt : lo < hi)
    (hlo : a.getD lo 0 ≤ x) (hhi : x < a.getD hi 0) :
    lo ≤ lastAtMost a x lo hi ∧ lastAtMost a x lo hi < hi ∧
      a.getD (lastAtMost a x lo hi) 0 ≤ x ∧ x < a.getD (lastAtMost a x lo hi + 1) 0 := by
  induction lo, hi using lastAtMost.induct a x with
  | case1 lo hi hsplit mid hmid ih =>
    -- the middle entry is at most `x`: the search goes on above it
    have hm : mid = (lo + hi) / 2 := rfl
    rw [hm] at hmid ih
    rw [lastAtMost, if_pos hsplit, if_pos hmid]
    have := ih (by omega) hmid hhi
    omega
  | case2 lo hi hsplit mid hmid ih =>
    -- the middle entry is above `x`: the search goes on below it
    have hm : mid = (lo + hi) / 2 := rfl
    rw [hm] at hmid ih
    rw [lastAtMost, if_pos hsplit, if_neg hmid]
    have := ih (by omega) hlo (by omega)
    omega
  | case3 lo hi hsplit =>
    have hnext : hi = lo + 1 := by omega
    subst hnext
    rw [lastAtMost, if_neg hsplit]
    omega

/-- The chapter found for a verse holds it. -/
theorem chapterOf_spec {o : Nat} (ho : o < verseTotal) :
    chapterOf o < chapterTotal ∧ chapterStart (chapterOf o) ≤ o ∧
      o < chapterStart (chapterOf o + 1) := by
  have hend : o < chapterStarts.getD chapterTotal 0 := by
    rw [show chapterStarts.getD chapterTotal 0 = chapterStart chapterTotal from rfl,
      chapterStart_chapterTotal]
    exact ho
  obtain ⟨-, hlt, hle, habove⟩ :=
    lastAtMost_spec chapterStarts o (by decide : 0 < chapterTotal) (show chapterStart 0 ≤ o by rw [chapterStart_zero]; omega) hend
  exact ⟨hlt, hle, habove⟩

/-- The book found for a chapter holds it. -/
theorem bookOfChapter_spec {k : Nat} (hk : k < chapterTotal) :
    bookOfChapter k < bookCount ∧ bookStart (bookOfChapter k) ≤ k ∧
      k < bookStart (bookOfChapter k + 1) := by
  have hend : k < bookStarts.getD bookCount 0 := by
    rw [show bookStarts.getD bookCount 0 = bookStart bookCount from rfl, bookStart_bookCount]
    exact hk
  obtain ⟨-, hlt, hle, habove⟩ :=
    lastAtMost_spec bookStarts k (by decide : 0 < bookCount) (show bookStart 0 ≤ k by rw [bookStart_zero]; omega) hend
  exact ⟨hlt, hle, habove⟩

/-- **Locating a verse.** The book, chapter and verse found for an offset name a chapter of the
Bible and a verse of it, and counting on from the chapter's first verse gives the offset. -/
theorem locate_spec {o : Nat} (ho : o < verseTotal) :
    IsChapter (locate o).1 (locate o).2.1 ∧ 0 < (locate o).2.2 ∧
      (locate o).2.2 ≤ versesOf (locate o).1 (locate o).2.1 ∧
      countedOffset (locate o).1 (locate o).2.1 (locate o).2.2 = o := by
  have hloc : locate o = (bookOfChapter (chapterOf o),
      chapterOf o - bookStart (bookOfChapter (chapterOf o)) + 1,
      o - chapterStart (chapterOf o) + 1) := rfl
  obtain ⟨hk, hks, hke⟩ := chapterOf_spec ho
  obtain ⟨hb, hbs, hbe⟩ := bookOfChapter_spec hk
  rw [hloc]
  -- name the chapter `k` and its book `b`
  generalize chapterOf o = k at *
  generalize bookOfChapter k = b at *
  have hsucc := bookStart_succ hb
  have hchap : IsChapter b (k - bookStart b + 1) := ⟨hb, by omega, by omega⟩
  have hidx : chapterIndex b (k - bookStart b + 1) = k := by
    unfold chapterIndex
    omega
  have hverses := chapterStart_succ_chapterIndex hchap
  rw [hidx] at hverses
  dsimp only
  refine ⟨hchap, by omega, by omega, ?_⟩
  rw [countedOffset, hidx]
  omega

/-! ### Books as runs of verses -/

/-- The first verse of the book at a position: the first verse of its first chapter. -/
def firstVerse (b : Nat) : Nat := chapterStart (bookStart b)

theorem firstVerse_le_firstVerse {b b' : Nat} (hle : b ≤ b') (hb' : b' ≤ bookCount) :
    firstVerse b ≤ firstVerse b' := by
  have hstart := bookStart_le_bookStart hle hb'
  have htotal := bookStart_le_bookStart hb' (le_refl _)
  rw [bookStart_bookCount] at htotal
  exact chapterStart_le_chapterStart hstart (by omega)

/-- **The verses of a book.** A verse lies from the first verse of the book found for it to
before the first verse of the next book. -/
theorem firstVerse_le_of_locate {o : Nat} (ho : o < verseTotal) :
    firstVerse (locate o).1 ≤ o ∧ o < firstVerse ((locate o).1 + 1) := by
  obtain ⟨hk, hks, hke⟩ := chapterOf_spec ho
  obtain ⟨hb, hbs, hbe⟩ := bookOfChapter_spec hk
  have hnext := bookStart_le_bookStart (show bookOfChapter (chapterOf o) + 1 ≤ bookCount by omega)
    (le_refl _)
  rw [bookStart_bookCount] at hnext
  have hlow := chapterStart_le_chapterStart hbs hk.le
  have hhigh := chapterStart_le_chapterStart (show chapterOf o + 1 ≤ _ from hbe) hnext
  exact ⟨hlow.trans hks, lt_of_lt_of_le hke hhigh⟩

/-- A verse between the first verse of a book and the first verse of the next lies in that
book. -/
theorem locate_book_eq {o b : Nat} (ho : o < verseTotal) (hb : b < bookCount)
    (hlo : firstVerse b ≤ o) (hhi : o < firstVerse (b + 1)) : (locate o).1 = b := by
  obtain ⟨hfirst, hnext⟩ := firstVerse_le_of_locate ho
  have hbook := (locate_spec ho).1.book_lt
  rcases Nat.lt_trichotomy (locate o).1 b with hlt | heq | hgt
  · have := firstVerse_le_firstVerse (show (locate o).1 + 1 ≤ b from hlt) hb.le
    omega
  · exact heq
  · have := firstVerse_le_firstVerse (show b + 1 ≤ (locate o).1 from hgt) hbook.le
    omega

/-- Later verses lie in the same book or a later one. -/
theorem locate_book_mono {p q : Nat} (hpq : p ≤ q) (hq : q < verseTotal) :
    (locate p).1 ≤ (locate q).1 := by
  by_contra hlt
  have hp := firstVerse_le_of_locate (lt_of_le_of_lt hpq hq)
  have hq' := firstVerse_le_of_locate hq
  have := firstVerse_le_firstVerse (show (locate q).1 + 1 ≤ (locate p).1 by omega)
    (locate_spec (lt_of_le_of_lt hpq hq)).1.book_lt.le
  omega

/-! ### Reference texts with the blanks after the book doubled -/

/-- No book name followed by a blank begins another's followed by two blanks, nor the other
way round. -/
theorem bookNames_not_prefix : ∀ b b' : Fin 66, b ≠ b' →
    (bookName b' ++ " ").toList.isPrefixOf (bookName b ++ "  ").toList = false ∧
      (bookName b ++ "  ").toList.isPrefixOf (bookName b' ++ " ").toList = false := by
  decide +kernel

/-- A number printed as a natural number or as an integer is the same text. -/
theorem toString_natCast (n : Nat) : toString (n : Int) = toString n := rfl

/-- A printed natural number holds no colon. -/
theorem colon_not_mem_toString (n : Nat) : ':' ∉ (toString n).toList := by
  intro h
  rw [← toString_natCast, Json.toList_toString, if_pos (Int.natCast_nonneg n),
    List.nil_append] at h
  have := Json.isDigit_of_mem_toDigits h
  revert this
  decide

/-- **A reference text with two blanks after its book is no reference text.** Only its own
book's name begins it, and what follows that name is not a chapter and verse. -/
theorem exactPosition?_spaced {b : Nat} (hb : b < bookCount) (c v : Nat) :
    Verse.exactPosition? (bookName b ++ "  " ++ toString c ++ ":" ++ toString v) = none := by
  have htext : (bookName b ++ "  " ++ toString c ++ ":" ++ toString v).toList =
      (bookName b ++ "  ").toList ++ ((toString c).toList ++ ':' :: (toString v).toList) := by
    simp
  unfold Verse.exactPosition?
  rw [List.findSome?_eq_none_iff]
  intro b' hb'
  rw [List.mem_range] at hb'
  by_cases hsame : b' = b
  · -- its own book: what follows the name and a blank starts with the second blank
    subst hsame
    have hrest : ((bookName b' ++ "  " ++ toString c ++ ":" ++ toString v).drop
        (bookName b' ++ " ").length).toString.splitOn ":" =
        [String.ofList (' ' :: (toString c).toList), String.ofList (toString v).toList] := by
      have hdrop : ((bookName b' ++ "  " ++ toString c ++ ":" ++ toString v).drop
          (bookName b' ++ " ").length).toString.toList =
          ' ' :: ((toString c).toList ++ ':' :: (toString v).toList) := by
        rw [show ∀ t : String.Slice, t.toString = t.copy from fun _ => rfl,
          String.toList_copy_drop, htext, ← String.length_toList]
        simp
      have hsplit : ∀ t : String, t.splitOn ":" = (t.toList.splitOn ':').map String.ofList :=
        fun t => Text.splitOn_singleton t ':'
      rw [hsplit, hdrop,
        ← List.cons_append, List.splitOn_append_cons_self_of_not_mem (by
          simpa using colon_not_mem_toString c),
        List.splitOn_eq_singleton (colon_not_mem_toString v)]
      rfl
    -- the chapter part starts with a blank, so it is not a number
    dsimp only
    rw [hrest]
    simp [String.all_bool_eq]
  · -- another book: its name and a blank do not begin the text
    rw [if_neg]
    rw [String.startsWith_string_iff, htext]
    intro hpre
    obtain ⟨hnot, hnot'⟩ := bookNames_not_prefix ⟨b, hb⟩ ⟨b', hb'⟩
      (fun h => hsame (congrArg Fin.val h).symm)
    rcases List.prefix_or_prefix_of_prefix hpre (List.prefix_append _ _) with h | h
    · have hyes := List.isPrefixOf_iff_prefix.mpr h
      rw [hnot] at hyes
      exact Bool.false_ne_true hyes
    · have hyes := List.isPrefixOf_iff_prefix.mpr h
      rw [hnot'] at hyes
      exact Bool.false_ne_true hyes

/-- **A reference text with two blanks after its book is read as the verse it names.** It is no
reference text itself, so it is read by normalising its book, chapter and verse, and a verse
of a chapter is left where it is. -/
theorem ofText_spaced {b c v : Nat} (h : IsChapter b c) (hpos : 0 < v) (hle : v ≤ versesOf b c) :
    ∃ w, Verse.ofText (bookName b ++ "  " ++ toString c ++ ":" ++ toString v) = .ok w ∧
      (w.offset : Int) = countedOffset b c v := by
  obtain ⟨hwritten, hindex⟩ :=
    Verse.bookName_written h.book_lt (g := "  ") (by decide +kernel) (by decide +kernel)
  have hbook : bookIndex (Text.trimBlank (String.ofList (bookName b ++ "  ").toList)) = b := by
    rw [String.ofList_toList, hindex]
  have hoff := normalizedOffset_of_isChapter h (v := v) (by omega) (by exact_mod_cast hle)
  obtain ⟨hlow, hhigh⟩ := countedOffset_mem h (v := v) (by omega) (by exact_mod_cast hle)
  have hnone := exactPosition?_spaced h.book_lt c v
  rw [← toString_natCast c, ← toString_natCast v] at hnone ⊢
  obtain ⟨w, hw, hwo⟩ := Verse.ofText_offset (Verse.parts?_written hwritten c v) hnone
    (Json.partNumber_toString c) (Json.partNumber_toString v) (by rw [hbook]; exact hoff)
  exact ⟨w, hw, by rw [hwo, Verse.clampOffset_of_mem hlow hhigh]⟩

/-- Every verse of the Bible is read back from its reference text with the blanks after the
book doubled. -/
theorem ofText_spaced_locate {o : Nat} (ho : o < verseTotal) :
    ∃ w, Verse.ofText (bookName (locate o).1 ++ "  " ++ toString (locate o).2.1 ++ ":" ++
      toString (locate o).2.2) = .ok w ∧ w.offset = o := by
  obtain ⟨hchap, hpos, hle, hcount⟩ := locate_spec ho
  obtain ⟨w, hw, hwo⟩ := ofText_spaced hchap hpos hle
  exact ⟨w, hw, by rw [hcount] at hwo; exact_mod_cast hwo⟩

end Canon

end Scripture
