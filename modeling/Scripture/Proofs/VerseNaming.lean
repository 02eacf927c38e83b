import Mathlib
import Scripture.Proofs.SpelledReference

/-!
# The two names of a verse agree

A verse keeps two names of one place: its offset among the verses of the Bible, and the book,
chapter and verse it was named by. A verse read from a text is named either by the reference
text it equals or by the place that normalising the text's book, chapter and verse comes to.
This module shows that both ways give a verse whose two names agree.

* `Position.IsVerse` — a book of the Bible, a chapter of it and a verse of that chapter.
* `Canon.countedOffset_inj` — two verses of the Bible counted to the same offset are the same
  verse, so `locate` finds the verse a position names (`Canon.locate_countedOffset`).
* `Verse.Consistent` — a verse named by a verse of the Bible, lying at the offset that position
  counts to and written as its book's full name, chapter and verse.
* `Verse.ofText_of_exactPosition?` — a reference text is read at the place it names: the book
  matcher sends each book's full name to that book.
* `Verse.ofText_consistent` — every verse read from a text is consistent.
* `Verse.ofText_namesAgree` — and so are the last verse of its chapter and the first verse of
  its book's last chapter, which are named by that chapter and that book.
-/

namespace Scripture

namespace Position

/-- A position names a verse of the Bible: a chapter of its book, and a verse of that chapter. -/
structure IsVerse (p : Position) : Prop where
  chapter : Canon.IsChapter p.book p.chapter
  verse_pos : 0 < p.verse
  verse_le : p.verse ≤ Canon.versesOf p.book p.chapter

/-- The reference text of a position: its book's full name, its chapter and its verse. -/
def text (p : Position) : String :=
  Canon.bookName p.book ++ " " ++ toString p.chapter ++ ":" ++ toString p.verse

end Position

/-! ### Naming books -/

namespace Text

/-- The close matches of a word are among the candidates. -/
theorem mem_closeMatches {word x : String} {cands : List String} {n : Nat} {cutoff : Nat × Nat}
    (h : x ∈ closeMatches word cands n cutoff) : x ∈ cands := by
  unfold closeMatches at h
  obtain ⟨⟨s, y⟩, hmem, rfl⟩ := List.mem_map.mp h
  obtain ⟨z, hz, hf⟩ := List.mem_filterMap.mp (List.mem_mergeSort.mp (List.mem_of_mem_take hmem))
  simp only [Option.ite_none_left_eq_some, Option.some.injEq, Prod.mk.injEq] at hf
  obtain ⟨-, -, rfl⟩ := hf
  exact hz

end Text

namespace Canon

theorem allLowerNames_length : allLowerNames.length = 3 * bookCount := by
  simp [allLowerNames, lowerNames, List.length_flatMap, books_size, Nat.mul_comm]

/-- Every name stands for a book of the Bible: the first whose name it begins, the one with the
most similar name, or Genesis. -/
theorem bookIndex_lt (name : String) : bookIndex name < bookCount := by
  unfold bookIndex
  dsimp only
  split
  · rename_i i hi
    simpa [books_size] using (List.findIdx?_eq_some_iff_findIdx_eq.mp hi).1
  · split
    · rename_i best rest hbest
      -- the best match is one of the three names of some book
      have hmem : best ∈ allLowerNames := Text.mem_closeMatches (hbest ▸ List.mem_cons_self)
      have := List.idxOf_lt_length_of_mem hmem
      rw [allLowerNames_length] at this
      omega
    · decide

/-! ### One verse at each offset -/

/-- The verses of an earlier chapter come before those of a later one. -/
theorem countedOffset_lt {b c b' c' v v' : Nat} (h : IsChapter b c) (h' : IsChapter b' c')
    (hle : v ≤ versesOf b c) (hv' : 0 < v') (hlt : chapterIndex b c < chapterIndex b' c') :
    countedOffset b c v < countedOffset b' c' v' := by
  have hnext := chapterStart_succ_chapterIndex h
  have hmono := chapterStart_le_chapterStart (show chapterIndex b c + 1 ≤ chapterIndex b' c' by omega)
    (chapterIndex_lt_chapterTotal h').le
  unfold countedOffset
  omega

/-- Two verses of the Bible counted to the same offset are the same verse. -/
theorem countedOffset_inj {b c b' c' v v' : Nat} (h : IsChapter b c) (h' : IsChapter b' c')
    (hv : 0 < v) (hle : v ≤ versesOf b c) (hv' : 0 < v') (hle' : v' ≤ versesOf b' c')
    (heq : countedOffset b c v = countedOffset b' c' v') : b = b' ∧ c = c' ∧ v = v' := by
  have hidx : chapterIndex b c = chapterIndex b' c' := by
    rcases Nat.lt_trichotomy (chapterIndex b c) (chapterIndex b' c') with hlt | heq' | hgt
    · exact absurd heq (countedOffset_lt h h' hle hv' hlt).ne
    · exact heq'
    · exact absurd heq (countedOffset_lt h' h hle' hv hgt).ne'
  obtain ⟨rfl, rfl⟩ := h.eq_of_chapterIndex_eq h' hidx
  refine ⟨rfl, rfl, ?_⟩
  unfold countedOffset at heq
  omega

/-- Locating the offset of a verse of the Bible finds its book, chapter and verse. -/
theorem locate_countedOffset {p : Position} (hp : p.IsVerse) :
    locate (countedOffset p.book p.chapter p.verse).toNat = (p.book, p.chapter, p.verse) := by
  obtain ⟨h0, h1⟩ := countedOffset_mem hp.chapter (v := p.verse) (by exact_mod_cast hp.verse_pos)
    (by exact_mod_cast hp.verse_le)
  obtain ⟨hchap, hpos, hle, hcount⟩ := locate_spec (o := (countedOffset p.book p.chapter p.verse).toNat)
    (by omega)
  obtain ⟨hb, hc, hv⟩ := countedOffset_inj hchap hp.chapter hpos hle hp.verse_pos hp.verse_le
    (by rw [hcount]; omega)
  rw [Prod.ext_iff, Prod.ext_iff]
  exact ⟨hb, hc, hv⟩

/-- The reference text at the offset of a verse of the Bible spells its position. -/
theorem refText_countedOffset {p : Position} (hp : p.IsVerse) :
    refText (countedOffset p.book p.chapter p.verse).toNat = p.text := by
  rw [refText, locate_countedOffset hp, Position.text]

end Canon

/-! ### Consistent verses -/

namespace Verse

/-- A verse whose two names agree: it is named by a verse of the Bible, `_get_verse_offset` of
that position is its offset, and its reference text spells the position. -/
structure Consistent (w : Verse) : Prop where
  named : w.named.IsVerse
  offset : Canon.offsetOf w.named.book w.named.chapter w.named.verse = .ok (w.offset : Int)
  text : w.text = w.named.text

/-- A verse named by a position lying at the offset the position counts to is consistent. -/
theorem Consistent.of_countedOffset {w : Verse} (hp : w.named.IsVerse)
    (ho : (w.offset : Int) = Canon.countedOffset w.named.book w.named.chapter w.named.verse) :
    w.Consistent where
  named := hp
  offset := by
    rw [ho]
    exact Canon.offsetOf_of_isChapter hp.chapter (by exact_mod_cast hp.verse_le)
  text := by
    rw [Verse.text, ← Canon.refText_countedOffset hp, ← ho]
    rfl

/-- The verse at a position of the Bible is consistent. -/
theorem atPosition_consistent {p : Position} (hp : p.IsVerse) : (atPosition p).Consistent :=
  Consistent.of_countedOffset hp (atPosition_offset hp.chapter hp.verse_pos hp.verse_le)

/-- A text that is exactly a reference text names a chapter of a book and a verse of that
chapter. -/
theorem exactPosition?_bounds {s : String} {p : Position} (h : exactPosition? s = some p) :
    ∃ bk, Canon.books[p.book]? = some bk ∧ 1 ≤ p.chapter ∧ p.chapter ≤ bk.chapterCount ∧
      1 ≤ p.verse ∧ p.verse ≤ bk.verseCounts.getD (p.chapter - 1) 0 := by
  unfold exactPosition? at h
  obtain ⟨b, -, hf⟩ := List.exists_of_findSome?_eq_some h
  -- only a text that starts with the book's name and then a canonical chapter and verse of it
  -- names a position
  simp only [Option.ite_none_right_eq_some] at hf
  obtain ⟨-, hf⟩ := hf
  split at hf
  · simp only [Option.ite_none_right_eq_some] at hf
    obtain ⟨-, hf⟩ := hf
    cases hbk : Canon.books[b]? with
    | none => simp [hbk] at hf
    | some bk =>
      simp only [hbk, Option.ite_none_right_eq_some, Option.some.injEq] at hf
      obtain ⟨hrange, rfl⟩ := hf
      exact ⟨bk, hbk, hrange⟩
  · cases hf

theorem exactPosition?_isVerse {s : String} {p : Position} (h : exactPosition? s = some p) :
    p.IsVerse := by
  obtain ⟨bk, hbk, hc, hcle, hv, hvle⟩ := exactPosition?_bounds h
  have hchap : Canon.IsChapter p.book p.chapter :=
    ⟨by rw [← Canon.books_size]; exact (Array.getElem?_eq_some_iff.mp hbk).1, hc,
      by rw [Canon.chaptersOf_of_getElem? hbk]; exact hcle⟩
  refine ⟨hchap, hv, ?_⟩
  simpa [Canon.versesOf, hbk] using hvle

/-- **A reference text is read at its place.** Its book is found by the book matcher from the
book's full name, which sends each full name to its own book, and its chapter and verse are the
numbers it prints, so the verse read is named by the place the text names. -/
theorem ofText_of_exactPosition? {s : String} {p : Position} (h : exactPosition? s = some p) :
    ofText s = .ok (atPosition p) := by
  obtain ⟨hb, rfl⟩ := Canon.exactPosition?_text h
  obtain ⟨hwritten, hindex⟩ := bookName_written hb (g := " ") (by decide +kernel) (by decide +kernel)
  have hbook : Canon.bookIndex (Text.trimBlank (String.ofList (Canon.bookName p.book ++ " ").toList)) =
      p.book := by
    rw [String.ofList_toList, hindex]
  rw [← Canon.toString_natCast p.chapter, ← Canon.toString_natCast p.verse] at h ⊢
  simp only [ofText, parts?_written hwritten, Json.partNumber_toString, Except.ok_bind, h, hbook,
    Int.toNat_natCast]
  rfl

/-- A text that does not split into a book, a chapter and a verse is read as `Genesis 1:1`, which
does. -/
theorem ofText_eq_parts (s : String) :
    ∃ t parts, parts? t = some parts ∧ ofText s = ofText t := by
  cases hs : parts? s with
  | some parts => exact ⟨s, parts, hs, rfl⟩
  | none =>
    have hgenesis : parts? "Genesis 1:1" = some ⟨"Genesis ".toList, ['1'], ['1']⟩ := by
      have hwritten := (bookName_written (b := 0) (by decide) (g := " ") (by decide)
        (by decide)).1
      have hparts := parts?_written hwritten 1 1
      rwa [show Canon.bookName 0 ++ " " ++ toString (1 : Int) ++ ":" ++ toString (1 : Int) =
        "Genesis 1:1" by decide +kernel] at hparts
    refine ⟨"Genesis 1:1", _, hgenesis, ?_⟩
    simp only [ofText, hs, hgenesis]

/-- **Reading a verse keeps its names consistent.** Whether the text is a reference text, read
at its place, or any other text, normalised, the verse read is consistent. -/
theorem ofText_consistent {s : String} {w : Verse} (h : ofText s = .ok w) : w.Consistent := by
  obtain ⟨t, parts, hparts, ht⟩ := ofText_eq_parts s
  rw [ht] at h
  cases hx : exactPosition? t with
  | some p =>
    -- a reference text: the verse at the place it names
    rw [ofText_of_exactPosition? hx] at h
    cases h
    exact atPosition_consistent (exactPosition?_isVerse hx)
  | none =>
    -- any other text: normalised from the book it names
    cases hc : partNumber parts.chapter with
    | error e => simp only [ofText, hparts, hc, Except.error_bind, reduceCtorEq] at h
    | ok chapter =>
      cases hv : partNumber parts.verse with
      | error e => simp only [ofText, hparts, hc, hv, Except.ok_bind, Except.error_bind,
          reduceCtorEq] at h
      | ok verse =>
        simp only [ofText, hparts, hc, hv, hx, Except.ok_bind] at h
        obtain ⟨-, -, b', c', v', -, -, -, hnorm, hchap, hpos, hle, -, -⟩ :=
          Canon.normalizeVerse_spec (Canon.bookIndex_lt _) chapter verse
        obtain ⟨h0, h1⟩ := Canon.countedOffset_mem hchap hpos hle
        rw [hnorm] at h
        dsimp only at h
        rw [Canon.offsetOf_of_isChapter hchap hle] at h
        cases h
        have hv' : ((v'.toNat : Nat) : Int) = v' := by omega
        have hp : Position.IsVerse ⟨b', c', v'.toNat⟩ :=
          ⟨hchap, by dsimp only; omega, by dsimp only; omega⟩
        refine Consistent.of_countedOffset hp ?_
        dsimp only
        rw [clampOffset_of_mem h0 h1, hv', Int.toNat_natCast, Int.toNat_natCast]

/-- The last verse of the named chapter is named by that chapter's last verse and is
consistent. -/
theorem Consistent.maxVerse {w : Verse} (hw : w.Consistent) :
    w.maxVerse.named =
        ⟨w.named.book, w.named.chapter, Canon.versesOf w.named.book w.named.chapter⟩ ∧
      w.maxVerse.Consistent := by
  obtain ⟨hchap, -, -⟩ := hw.named
  obtain ⟨bk, hbk⟩ := Canon.exists_book hchap.book_lt
  have hcount : ((Canon.books[w.named.book]?.map (·.verseCounts)).getD []).getD
      (w.named.chapter - 1) 1 = Canon.versesOf w.named.book w.named.chapter := by
    have hk : w.named.chapter - 1 < bk.verseCounts.length := by
      have := hchap.chapter_le
      rw [Canon.chaptersOf_of_getElem? hbk] at this
      have := hchap.chapter_pos
      unfold Book.chapterCount at *
      omega
    simp [Canon.versesOf, hbk, List.getD_eq_getElem?_getD, List.getElem?_eq_getElem hk]
  have hp : Position.IsVerse ⟨w.named.book, w.named.chapter,
      Canon.versesOf w.named.book w.named.chapter⟩ :=
    ⟨hchap, Canon.versesOf_pos hchap, le_refl _⟩
  rw [Verse.maxVerse, hcount]
  exact ⟨rfl, atPosition_consistent hp⟩

/-- The first verse of the named book's last chapter is named by that chapter and is
consistent. -/
theorem Consistent.maxChapter {w : Verse} (hw : w.Consistent) :
    w.maxChapter.named = ⟨w.named.book, Canon.chaptersOf w.named.book, 1⟩ ∧
      w.maxChapter.Consistent := by
  obtain ⟨hchap, -, -⟩ := hw.named
  obtain ⟨bk, hbk⟩ := Canon.exists_book hchap.book_lt
  have hcount : (Canon.books[w.named.book]?.map (·.chapterCount)).getD 1 =
      Canon.chaptersOf w.named.book := by
    simp [Canon.chaptersOf, hbk]
  have hlast : Canon.IsChapter w.named.book (Canon.chaptersOf w.named.book) :=
    ⟨hchap.book_lt, Canon.chaptersOf_pos hchap.book_lt, le_refl _⟩
  have hp : Position.IsVerse ⟨w.named.book, Canon.chaptersOf w.named.book, 1⟩ :=
    ⟨hlast, Nat.one_pos, Canon.versesOf_pos hlast⟩
  rw [Verse.maxChapter, hcount]
  exact ⟨rfl, atPosition_consistent hp⟩

/-- **The names of a verse read from a text agree.** The verse is named by a book of the Bible,
a chapter of that book and a verse of that chapter; that position counts to its offset and its
reference text spells it. The last verse of its chapter and the first verse of its book's last
chapter are named by that chapter's last verse and that book's last chapter, and agree in the
same way. -/
theorem ofText_namesAgree {s : String} {w : Verse} (h : ofText s = .ok w) :
    w.Consistent ∧
      w.maxVerse.named =
        ⟨w.named.book, w.named.chapter, Canon.versesOf w.named.book w.named.chapter⟩ ∧
      w.maxVerse.Consistent ∧
      w.maxChapter.named = ⟨w.named.book, Canon.chaptersOf w.named.book, 1⟩ ∧
      w.maxChapter.Consistent := by
  have hw := ofText_consistent h
  obtain ⟨hvn, hvc⟩ := hw.maxVerse
  obtain ⟨hcn, hcc⟩ := hw.maxChapter
  exact ⟨hw, hvn, hvc, hcn, hcc⟩

/-- `jOhN 3:16`, its book's name in mixed case, is read as John 3:16, whose names agree, as do
those of John 3:36 and John 21:1. -/
theorem mixedCase_namesAgree :
    ∃ w, ofText "jOhN 3:16" = .ok w ∧ w.named = ⟨42, 3, 16⟩ ∧
      (w.Consistent ∧
        w.maxVerse.named =
          ⟨w.named.book, w.named.chapter, Canon.versesOf w.named.book w.named.chapter⟩ ∧
        w.maxVerse.Consistent ∧
        w.maxChapter.named = ⟨w.named.book, Canon.chaptersOf w.named.book, 1⟩ ∧
        w.maxChapter.Consistent) := by
  let john : BookText := ⟨42, "jOhN", by decide, Or.inl (by decide)⟩
  obtain ⟨x, hx, -, hnamed⟩ := john.ofText_spelled false (c := 3) (v := 16)
    ⟨by decide, by decide, by decide⟩ (by decide) (by decide)
  have htext : john.text ++ gapText false ++ " " ++ toString 3 ++ ":" ++ toString 16 =
      "jOhN 3:16" := by
    decide
  rw [htext] at hx
  exact ⟨x, hx, hnamed, ofText_namesAgree hx⟩

end Verse

end Scripture
