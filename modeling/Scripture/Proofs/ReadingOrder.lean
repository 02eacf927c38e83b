import Mathlib
import Scripture.Proofs.SearchRange
import Scripture.Proofs.Paragraph
import Scripture.Proofs.VerseNaming

/-!
# Reference lists in reading order

The site sorts every list of references by a sort key: the position of the book in two digits
and the chapter and the verse in three digits each, zeros in front (`Reference.sortKey`). This
module shows that on the reference texts of the verses of the Bible the key compares as the
offset does, so that sorting by key is sorting by offset, and that a reference list is given as
the verses it covers, each once, in reading order.

* `fixedDigits_lt_iff` — numbers written in the same number of digits compare as texts as they
  compare as numbers.
* `Canon.lt_iff_locate_lex` — offsets compare as their books, then chapters, then verses.
* `keyOf_lt_iff` — the keys of two verses compare as their offsets.
* `sortByKey_refText` — sorting the reference texts of any verses by key sorts them by offset.
* `readingRefs_bibleOrder` — a reference list is read as the verses it covers in increasing
  offset, and sorting their references by key, in whatever order they come, gives that list.
* `siteSearch_readingOrder` — the site's search lists what it finds in reading order.
-/

namespace Scripture

/-! ### Numbers in a fixed number of digits -/

namespace Reference

/-- The decimal digits of `n` in exactly `w` places, most significant first: missing places are
zeros and digits above the `w` places are dropped. -/
def fixedDigits : Nat → Nat → List Char
  | 0, _ => []
  | w + 1, n => fixedDigits w (n / 10) ++ [Nat.digitChar (n % 10)]

@[simp] theorem length_fixedDigits (w n : Nat) : (fixedDigits w n).length = w := by
  induction w generalizing n with
  | zero => rfl
  | succ w ih => simp [fixedDigits, ih]

theorem fixedDigits_zero (w : Nat) : fixedDigits w 0 = List.replicate w '0' := by
  induction w with
  | zero => rfl
  | succ w ih =>
    rw [fixedDigits, Nat.zero_div, ih, List.replicate_succ']
    rfl

/-- The digits of a number below `10 ^ w` with zeros put in front up to `w` places are its
`w` digits. -/
theorem replicate_toDigits {w n : Nat} (hw : 0 < w) (hn : n < 10 ^ w) :
    List.replicate (w - (Nat.toDigits 10 n).length) '0' ++ Nat.toDigits 10 n = fixedDigits w n := by
  induction w generalizing n with
  | zero => omega
  | succ w ih =>
    have hpow : 10 ^ (w + 1) = 10 ^ w * 10 := pow_succ 10 w
    by_cases hsmall : n < 10
    · rw [Nat.toDigits_of_lt_base hsmall, fixedDigits, Nat.div_eq_of_lt hsmall, fixedDigits_zero,
        Nat.mod_eq_of_lt hsmall, List.length_singleton, Nat.add_sub_cancel]
    · -- the last digit is written last, after the digits of the number without it
      have hw' : 0 < w := by
        rcases Nat.eq_zero_or_pos w with rfl | h
        · simp at hn
          omega
        · exact h
      rw [Nat.toDigits_of_base_le (by norm_num) (by omega), fixedDigits,
        ← ih hw' (by omega), List.length_append, List.length_singleton, Nat.add_sub_add_right,
        List.append_assoc]

/-- A number below `10 ^ w`, padded with zeros to `w` places, is written as its `w` digits. -/
theorem toList_padded {w n : Nat} (hw : 0 < w) (hn : n < 10 ^ w) :
    (padded w n).toList = fixedDigits w n := by
  have hds : (toString (n : Int).natAbs).toList = Nat.toDigits 10 n := by
    rw [Int.natAbs_natCast]
    exact Nat.toList_repr
  have hlen : (toString (n : Int).natAbs).length = (Nat.toDigits 10 n).length := by
    rw [← String.length_toList, hds]
  unfold padded
  rw [if_neg (by omega), String.toList_append, String.toList_ofList, hds, hlen]
  exact replicate_toDigits hw hn

/-- Two lists that begin with parts of the same length compare by those parts first. -/
theorem append_lt_append_iff {α : Type} [LT α] {a b c d : List α} (h : a.length = b.length) :
    a ++ c < b ++ d ↔ a < b ∨ a = b ∧ c < d := by
  induction a generalizing b with
  | nil =>
    obtain rfl := List.eq_nil_of_length_eq_zero h.symm
    simp
  | cons x a ih =>
    obtain ⟨y, b, rfl⟩ := List.exists_cons_of_length_eq_add_one h.symm
    rw [List.cons_append, List.cons_append, List.cons_lt_cons_iff, List.cons_lt_cons_iff,
      ih (by simpa using h), List.cons.injEq]
    tauto

theorem digitChar_lt_iff {a b : Nat} (ha : a < 10) (hb : b < 10) :
    a.digitChar < b.digitChar ↔ a < b := by
  have table : ∀ x y : Fin 10, ((x : Nat).digitChar < (y : Nat).digitChar ↔ x < y) := by decide
  exact table ⟨a, ha⟩ ⟨b, hb⟩

theorem digitChar_inj {a b : Nat} (ha : a < 10) (hb : b < 10) :
    a.digitChar = b.digitChar ↔ a = b := by
  have table : ∀ x y : Fin 10, ((x : Nat).digitChar = (y : Nat).digitChar ↔ x = y) := by decide
  simpa [Fin.ext_iff] using table ⟨a, ha⟩ ⟨b, hb⟩

/-- Numbers written in the same number of digits are the same exactly when the numbers are. -/
theorem fixedDigits_inj {w n m : Nat} (hn : n < 10 ^ w) (hm : m < 10 ^ w) :
    fixedDigits w n = fixedDigits w m ↔ n = m := by
  induction w generalizing n m with
  | zero =>
    simp only [pow_zero] at hn hm
    simp only [fixedDigits, true_iff]
    omega
  | succ w ih =>
    have hpow : 10 ^ (w + 1) = 10 ^ w * 10 := pow_succ 10 w
    refine ⟨fun h => ?_, fun h => h ▸ rfl⟩
    rw [fixedDigits, fixedDigits] at h
    obtain ⟨hhigh, hlast⟩ := List.append_inj h (by simp)
    have hdiv := (ih (by omega) (by omega)).mp hhigh
    have hmod := (digitChar_inj (Nat.mod_lt n (by omega)) (Nat.mod_lt m (by omega))).mp
      (List.singleton_inj.mp hlast)
    omega

/-- **Numbers written in the same number of digits compare as texts as they compare as
numbers.** -/
theorem fixedDigits_lt_iff {w n m : Nat} (hn : n < 10 ^ w) (hm : m < 10 ^ w) :
    fixedDigits w n < fixedDigits w m ↔ n < m := by
  induction w generalizing n m with
  | zero =>
    simp only [pow_zero] at hn hm
    simp only [fixedDigits, List.not_lt_nil, false_iff]
    omega
  | succ w ih =>
    have hpow : 10 ^ (w + 1) = 10 ^ w * 10 := pow_succ 10 w
    -- the digits above the last compare first, then the last digits
    rw [fixedDigits, fixedDigits, append_lt_append_iff (by simp), ih (by omega) (by omega),
      fixedDigits_inj (by omega) (by omega), List.cons_lt_cons_iff,
      digitChar_lt_iff (Nat.mod_lt n (by omega)) (Nat.mod_lt m (by omega))]
    simp only [List.not_lt_nil, and_false, or_false]
    omega

end Reference

/-! ### Offsets in the order of books, chapters and verses -/

namespace Canon

/-- No book has a thousand chapters. -/
theorem chaptersOf_lt_thousand (b : Nat) : chaptersOf b < 1000 := by
  by_cases hb : b < bookCount
  · have table : ∀ b : Fin 66, chaptersOf b < 1000 := by decide +kernel
    exact table ⟨b, hb⟩
  · have hnone : books[b]? = none := Array.getElem?_eq_none (by rw [books_size]; omega)
    simp [chaptersOf, hnone]

/-- No chapter has a thousand verses. -/
theorem versesOf_lt_thousand (b c : Nat) : versesOf b c < 1000 := by
  have table : ∀ bk ∈ books.toList, ∀ n ∈ bk.verseCounts, n < 1000 := by decide +kernel
  unfold versesOf
  cases hb : books[b]? with
  | none => simp
  | some bk =>
    rw [Option.map_some, Option.getD_some, List.getD_eq_getElem?_getD]
    cases hn : bk.verseCounts[c - 1]? with
    | none => simp
    | some n =>
      rw [Option.getD_some]
      exact table bk (Array.mem_toList_iff.mpr (Array.mem_of_getElem? hb)) n
        (List.mem_of_getElem? hn)

/-- The book, chapter and verse of a verse of the Bible fit in two, three and three digits. -/
theorem locate_lt_pow {o : Nat} (ho : o < verseTotal) :
    (locate o).1 < 10 ^ 2 ∧ (locate o).2.1 < 10 ^ 3 ∧ (locate o).2.2 < 10 ^ 3 := by
  obtain ⟨h, -, hle, -⟩ := locate_spec ho
  have := h.book_lt
  have := h.chapter_le
  have := chaptersOf_lt_thousand (locate o).1
  have := versesOf_lt_thousand (locate o).1 (locate o).2.1
  unfold bookCount at *
  norm_num
  omega

/-- A verse at an earlier place in the order of books, chapters and verses has a smaller
offset. -/
theorem countedOffset_lt_of_lex {b c v b' c' v' : Nat} (h : IsChapter b c) (h' : IsChapter b' c')
    (hle : v ≤ versesOf b c) (hv' : 0 < v')
    (hlex : b < b' ∨ b = b' ∧ (c < c' ∨ c = c' ∧ v < v')) :
    countedOffset b c v < countedOffset b' c' v' := by
  rcases hlex with hb | ⟨rfl, hc | ⟨rfl, hv⟩⟩
  · -- every chapter of an earlier book comes before every chapter of a later one
    refine countedOffset_lt h h' hle hv' ?_
    have := chapterIndex_lt h
    have := bookStart_le_bookStart (show b + 1 ≤ b' by omega) h'.book_lt.le
    have := h'.chapter_pos
    unfold chapterIndex at *
    omega
  · refine countedOffset_lt h h' hle hv' ?_
    have := h.chapter_pos
    unfold chapterIndex
    omega
  · unfold countedOffset
    omega

/-- **Offsets compare as their books, then their chapters, then their verses.** -/
theorem lt_iff_locate_lex {o o' : Nat} (ho : o < verseTotal) (ho' : o' < verseTotal) :
    o < o' ↔ (locate o).1 < (locate o').1 ∨ (locate o).1 = (locate o').1 ∧
      ((locate o).2.1 < (locate o').2.1 ∨
        (locate o).2.1 = (locate o').2.1 ∧ (locate o).2.2 < (locate o').2.2) := by
  obtain ⟨h, hpos, hle, hcount⟩ := locate_spec ho
  obtain ⟨h', hpos', hle', hcount'⟩ := locate_spec ho'
  refine ⟨fun hlt => ?_, fun hlex => ?_⟩
  · -- the place of `o'` is neither before nor at the place of `o`, so it is after it
    rcases Nat.lt_trichotomy (locate o).1 (locate o').1 with hb | hb | hb
    · exact .inl hb
    · rcases Nat.lt_trichotomy (locate o).2.1 (locate o').2.1 with hc | hc | hc
      · exact .inr ⟨hb, .inl hc⟩
      · rcases Nat.lt_trichotomy (locate o).2.2 (locate o').2.2 with hv | hv | hv
        · exact .inr ⟨hb, .inr ⟨hc, hv⟩⟩
        · rw [hb, hc, hv, hcount'] at hcount
          omega
        · have := countedOffset_lt_of_lex h' h hle' hpos (.inr ⟨hb.symm, .inr ⟨hc.symm, hv⟩⟩)
          omega
      · have := countedOffset_lt_of_lex h' h hle' hpos (.inr ⟨hb.symm, .inl hc⟩)
        omega
    · have := countedOffset_lt_of_lex h' h hle' hpos (.inl hb)
      omega
  · have := countedOffset_lt_of_lex h h' hle hpos' hlex
    omega

end Canon

/-! ### The sort key of a verse -/

namespace Reference

/-- The sort key of the verse at an offset: its book, chapter and verse, zero-padded to two,
three and three digits. -/
def keyOf (o : Nat) : String :=
  padded 2 (Canon.locate o).1 ++ padded 3 (Canon.locate o).2.1 ++ padded 3 (Canon.locate o).2.2

/-- The key of a verse is the digits of its book, its chapter and its verse in a row. -/
theorem toList_keyOf {o : Nat} (ho : o < Canon.verseTotal) :
    (keyOf o).toList = fixedDigits 2 (Canon.locate o).1 ++
      (fixedDigits 3 (Canon.locate o).2.1 ++ fixedDigits 3 (Canon.locate o).2.2) := by
  obtain ⟨hb, hc, hv⟩ := Canon.locate_lt_pow ho
  rw [keyOf, String.toList_append, String.toList_append, toList_padded (by norm_num) hb,
    toList_padded (by norm_num) hc, toList_padded (by norm_num) hv, List.append_assoc]

/-- **The keys of two verses compare as their offsets.** -/
theorem keyOf_lt_iff {o o' : Nat} (ho : o < Canon.verseTotal) (ho' : o' < Canon.verseTotal) :
    keyOf o < keyOf o' ↔ o < o' := by
  obtain ⟨hb, hc, hv⟩ := Canon.locate_lt_pow ho
  obtain ⟨hb', hc', hv'⟩ := Canon.locate_lt_pow ho'
  -- texts compare by their characters; the book digits first, then the chapter's, then the verse's
  change (keyOf o).toList < (keyOf o').toList ↔ o < o'
  rw [toList_keyOf ho, toList_keyOf ho', append_lt_append_iff (by simp),
    append_lt_append_iff (by simp), fixedDigits_lt_iff hb hb', fixedDigits_inj hb hb',
    fixedDigits_lt_iff hc hc', fixedDigits_inj hc hc', fixedDigits_lt_iff hv hv',
    Canon.lt_iff_locate_lex ho ho']

theorem keyOf_le_iff {o o' : Nat} (ho : o < Canon.verseTotal) (ho' : o' < Canon.verseTotal) :
    keyOf o ≤ keyOf o' ↔ o ≤ o' := by
  rw [← String.not_lt, keyOf_lt_iff ho' ho, Nat.not_lt]

/-- A text whose last blank has no blank after it splits there. -/
theorem splitLastSpace_append {a r : List Char} (hr : ' ' ∉ r) :
    splitLastSpace (String.ofList (a ++ ' ' :: r)) = some (String.ofList a, String.ofList r) := by
  have hnone : r.reverse.findIdx? (· == ' ') = none := by
    rw [List.findIdx?_eq_none_iff]
    intro x hx
    simp only [beq_eq_false_iff_ne, ne_eq]
    rintro rfl
    exact hr (List.mem_reverse.mp hx)
  have hfind : (a ++ ' ' :: r).reverse.findIdx? (· == ' ') = some r.length := by
    rw [List.reverse_append, List.reverse_cons, List.append_assoc, List.singleton_append,
      List.findIdx?_append, hnone]
    simp [List.findIdx?_cons]
  have hk : (a ++ ' ' :: r).length - 1 - r.length = a.length := by
    simp only [List.length_append, List.length_cons]
    omega
  unfold splitLastSpace
  simp only [String.toList_ofList, hfind, hk]
  simp

/-- A printed number holds no blank. -/
theorem space_not_mem_toString (n : Nat) : ' ' ∉ (toString n).toList := by
  intro hmem
  rw [show (toString n).toList = Nat.toDigits 10 n from Nat.toList_repr] at hmem
  have := Nat.isDigit_of_mem_toDigits (by decide) (by decide) hmem
  revert this
  decide

theorem bookNames_idxOf? {b : Nat} (hb : b < Canon.bookCount) :
    Canon.bookNames.idxOf? (Canon.bookName b) = some b := by
  have hlen : Canon.bookNames.length = Canon.bookCount := by decide
  have hget : ∀ i (hi : i < Canon.bookNames.length), Canon.bookNames[i] = Canon.bookName i := by
    intro i hi
    simp [Canon.bookNames, Canon.bookName,
      Array.getElem?_eq_getElem (by simpa [Canon.bookNames] using hi)]
  rw [List.idxOf?_eq_some_iff]
  refine ⟨by omega, hget b (by omega), fun j hj => ?_⟩
  rw [hget j (by omega)]
  exact fun h => Nat.ne_of_lt hj (Web.bookName_inj (by omega) hb h)

/-- **Every verse has a sort key**, read off its reference text. -/
theorem sortKey?_refText {o : Nat} (ho : o < Canon.verseTotal) :
    sortKey? (.str (Canon.refText o)) = some (keyOf o) := by
  obtain ⟨h, -, -, -⟩ := Canon.locate_spec ho
  have htext : Canon.refText o = String.ofList ((Canon.bookName (Canon.locate o).1).toList ++
      ' ' :: ((toString (Canon.locate o).2.1).toList ++ ':' :: (toString (Canon.locate o).2.2).toList)) := by
    rw [← String.ofList_toList (s := Canon.refText o), RangeList.refText_toList]
    simp
  have hgap : ' ' ∉ (toString (Canon.locate o).2.1).toList ++ ':' :: (toString (Canon.locate o).2.2).toList := by
    rw [List.mem_append, List.mem_cons, not_or, not_or]
    exact ⟨space_not_mem_toString _, by decide, space_not_mem_toString _⟩
  -- the chapter and the verse are split at their only colon
  have hsplit : (String.ofList ((toString (Canon.locate o).2.1).toList ++
      ':' :: (toString (Canon.locate o).2.2).toList)).splitOn ":" =
      [toString (Canon.locate o).2.1, toString (Canon.locate o).2.2] := by
    rw [show ":" = String.singleton ':' from rfl, Text.splitOn_singleton, String.toList_ofList,
      List.splitOn_append_cons_self_of_not_mem (Canon.colon_not_mem_toString _),
      List.splitOn_eq_singleton (Canon.colon_not_mem_toString _)]
    simp only [List.map_cons, List.map_nil, String.ofList_toList]
  have hc := Json.parseInteger?_toString ((Canon.locate o).2.1 : Int)
  have hv := Json.parseInteger?_toString ((Canon.locate o).2.2 : Int)
  rw [Canon.toString_natCast] at hc hv
  rw [htext]
  simp only [sortKey?, Json.str?, Option.bind_eq_bind, Option.bind_some,
    splitLastSpace_append hgap, String.ofList_toList, hsplit, bookNames_idxOf? h.book_lt, hc, hv]
  rfl

theorem sortKey_refText {o : Nat} (ho : o < Canon.verseTotal) :
    sortKey (.str (Canon.refText o)) = .ok (keyOf o) := by
  rw [sortKey, sortKey?_refText ho]

/-! ### Sorting by key -/

/-- Mapping by a step that succeeds on every item gives the values it gives them. -/
theorem mapM_eq_ok {α β ε : Type} {f : α → Except ε β} {g : α → β} {l : List α}
    (h : ∀ a ∈ l, f a = .ok (g a)) : l.mapM f = .ok (l.map g) := by
  induction l with
  | nil => rfl
  | cons a l ih =>
    rw [List.mapM_cons, h a List.mem_cons_self, ih fun a' ha' => h a' (List.mem_cons_of_mem _ ha')]
    rfl

/-- **Sorting reference texts by key sorts the verses by offset.** The reference texts of any
verses of the Bible, in whatever order they come, sorted by their keys, are the texts of the
same verses in increasing offset. -/
theorem sortByKey_refText {os : List Nat} (hos : ∀ o ∈ os, o < Canon.verseTotal) :
    sortByKey (os.map Canon.refText) = .ok ((os.mergeSort (· ≤ ·)).map Canon.refText) := by
  have hkeyed : (os.map Canon.refText).mapM (fun r => do
      let k ← sortKey (.str r)
      pure (k, r)) = .ok (os.map fun o => (keyOf o, Canon.refText o)) := by
    rw [List.mapM_map]
    refine mapM_eq_ok fun o ho => ?_
    simp only [Function.comp_apply, sortKey_refText (hos o ho)]
    rfl
  unfold sortByKey
  rw [hkeyed, Except.ok_bind]
  -- the keys of two verses compare as their offsets, so sorting by key is sorting by offset
  rw [← List.map_mergeSort (r := fun a b => decide (a ≤ b)) fun a ha b hb => by
      simp [keyOf_le_iff (hos a ha) (hos b hb)], List.map_map]
  rfl

/-- Offsets sorted by `mergeSort` are in increasing order. -/
theorem pairwise_mergeSort_le (l : List Nat) : (l.mergeSort (· ≤ ·)).Pairwise (· ≤ ·) :=
  (List.pairwise_mergeSort (fun a b c hab hbc => by simp at *; omega)
    (fun a b => by simpa using Nat.le_total a b) l).imp (by simp)

/-- Verses listed in increasing offset, sorted by key from any order they come in, are the
same list. -/
theorem sortByKey_perm {os ls : List Nat} (hsorted : os.Pairwise (· < ·))
    (hos : ∀ o ∈ os, o < Canon.verseTotal) (hperm : ls.Perm os) :
    sortByKey (ls.map Canon.refText) = .ok (os.map Canon.refText) := by
  rw [sortByKey_refText fun o ho => hos o (hperm.subset ho)]
  -- two arrangements of the same verses, both in increasing order, are the same list
  rw [List.Perm.eq_of_pairwise' (pairwise_mergeSort_le ls) (hsorted.imp Nat.le_of_lt)
    ((List.mergeSort_perm ls _).trans hperm)]

end Reference

/-! ### Reference lists and the site's search -/

namespace Web

/-- The verses a reference text is read as are the verses its items cover. -/
theorem listedOffsets_str {s : String} {os : List Nat} (h : listedOffsets (.str s) = .ok os) :
    ∃ items, RangeList.parse s = .ok items ∧ ∀ o, o ∈ os ↔ o ∈ items.flatMap RangeItem.offsets := by
  unfold listedOffsets at h
  by_cases hs : s.isEmpty
  · -- the empty text counts as false and names no verse; it is read as no item
    have hnil : s = "" := String.isEmpty_iff.mp hs
    subst hnil
    have hfalse : (Json.str "").truthy = false := rfl
    simp only [hfalse, Bool.not_false, ↓reduceIte] at h
    cases h
    refine ⟨[], ?_, by simp⟩
    simp [RangeList.parse, RangeList.pieces_nil]
    rfl
  · have htruthy : (Json.str s).truthy = true := by simpa [Json.truthy] using hs
    simp only [htruthy, Bool.not_true, Bool.false_eq_true, if_false, refListText] at h
    obtain ⟨-, -, items, hitems, hmem⟩ := RangeList.offsets_spec h
    exact ⟨items, hitems, hmem⟩

/-- A reference list is read as the verses its items cover, each once and in increasing offset,
and sorting their reference texts by key, from whatever order they come in, gives the same list. -/
theorem readingRefs_sorted {s : String} {out : List String} (h : readingRefs (.str s) = .ok out) :
    ∃ os : List Nat, out = os.map Canon.refText ∧ os.Pairwise (· < ·) ∧
      (∀ items, RangeList.parse s = .ok items →
        ∀ o, o ∈ os ↔ o ∈ items.flatMap RangeItem.offsets) ∧
      ∀ ls : List Nat, ls.Perm os → Reference.sortByKey (ls.map Canon.refText) = .ok out := by
  unfold readingRefs at h
  cases hl : listedOffsets (.str s) with
  | error e => rw [hl] at h; cases h
  | ok os =>
    rw [hl] at h
    cases h
    obtain ⟨hsorted, hlt⟩ := listedOffsets_sorted hl
    obtain ⟨items, hitems, hmem⟩ := listedOffsets_str hl
    refine ⟨os, rfl, hsorted, fun items' hitems' => ?_,
      fun ls hperm => Reference.sortByKey_perm hsorted hlt hperm⟩
    rw [hitems] at hitems'
    cases hitems'
    exact hmem

/-- **The context of a reference list is in increasing offset.** Whatever the list and the count,
the verses it widens to are verses of the Bible, each once and in increasing offset. -/
theorem withContext_sorted (s : String) (count : Json) :
    Ensures (RangeList.withContext s count) fun os =>
      os.Pairwise (· < ·) ∧ ∀ o ∈ os, o < Canon.verseTotal := by
  unfold RangeList.withContext
  refine ensures_bind (ensures_of_forall fun _ => trivial) fun items _ => ?_
  split
  · exact ensures_error _ _
  · -- the loop gathers offsets of ranges of verses, all of them verses of the Bible
    refine ensures_bind (ensures_forIn (fun all => ∀ o ∈ all, o < Canon.verseTotal) items [] _
      (by simp) fun it _ all hall => ?_) fun all hall => ensures_pure ?_
    · split
      · refine ensures_bind (ensures_of_forall fun _ => trivial) fun n _ => ensures_pure ?_
        intro o ho
        rcases List.mem_append.mp ho with ho | ho
        · exact hall o ho
        · exact RangeItem.offsets_lt (.range _) o ho
      · exact ensures_pure hall
    · obtain ⟨hsorted, hmem⟩ := RangeList.dedupSorted_mergeSort all
      exact ⟨hsorted, fun o ho => hall o ((hmem o).mp ho)⟩

/-- The references of a range are reference texts of verses of the Bible. -/
theorem rangeRefs_refText {t : String} {R : ValueSet} (hR : Search.rangeRefs (.str t) = .ok R)
    {ref : String} (href : Json.str ref ∈ R.items) :
    ∃ o < Canon.verseTotal, ref = Canon.refText o := by
  unfold Search.rangeRefs at hR
  by_cases ht : (Json.str t).truthy
  · simp only [ht, Bool.not_true, Bool.false_eq_true, if_false, pure_bind] at hR
    cases hos : RangeList.offsets t with
    | error e => rw [hos] at hR; cases hR
    | ok os =>
      rw [hos, Except.ok_bind] at hR
      cases hR
      obtain ⟨-, hlt, -⟩ := RangeList.offsets_spec hos
      simp only [ValueSet.ofTexts, List.map_map, List.mem_map, Function.comp_apply,
        Json.str.injEq] at href
      obtain ⟨o, ho, rfl⟩ := href
      exact ⟨o, hlt o ho, rfl⟩
  · simp only [ht, Bool.not_false, ↓reduceIte] at hR
    cases hR
    simp at href

/-- Texts each of which is the reference text of a verse are the texts of a list of verses. -/
theorem exists_offsets_of_refTexts {refs : List String}
    (h : ∀ r ∈ refs, ∃ o < Canon.verseTotal, r = Canon.refText o) :
    ∃ os : List Nat, refs = os.map Canon.refText ∧ ∀ o ∈ os, o < Canon.verseTotal := by
  induction refs with
  | nil => exact ⟨[], rfl, by simp⟩
  | cons r refs ih =>
    obtain ⟨o, ho, rfl⟩ := h r List.mem_cons_self
    obtain ⟨os, rfl, hos⟩ := ih fun r' hr' => h r' (List.mem_cons_of_mem _ hr')
    exact ⟨o :: os, rfl, by simpa using ⟨ho, hos⟩⟩

/-- **The site's search lists what it finds in reading order.** Within a range of books that
holds a verse, the references it gives are those of verses in increasing offset. -/
theorem siteSearch_readingOrder (s : Search.Searcher) (terms lowest highest : Json) {R : ValueSet}
    (hR : Search.rangeRefs (.str (lowest.display ++ "-" ++ highest.display)) = .ok R)
    (hne : R.isEmpty = false) :
    Ensures (siteSearch s terms lowest highest) fun found =>
      ∃ os : List Nat, found.1 = os.map Canon.refText ∧ os.Pairwise (· ≤ ·) := by
  unfold siteSearch
  refine ensures_bind (ensures_of_forall fun _ => trivial) fun text _ => ?_
  refine ensures_bind (s.mixedSearch_within _ {} hR hne) fun found hfound => ?_
  -- what the search finds lies in the range, so it is the texts of verses of the Bible
  obtain ⟨os, hos, hlt⟩ := @exists_offsets_of_refTexts (found.items.filterMap Json.str?)
    fun r hr => by
      obtain ⟨j, hj, hjr⟩ := List.mem_filterMap.mp hr
      cases j <;> simp [Json.str?] at hjr
      subst hjr
      exact rangeRefs_refText hR (hfound _ hj)
  rw [hos, Reference.sortByKey_refText hlt, Except.ok_bind]
  exact ensures_bind (ensures_of_forall fun _ => trivial) fun _ _ =>
    ensures_pure ⟨_, rfl, Reference.pairwise_mergeSort_le os⟩

/-- **Reference lists are listed in Bible order.** Every verse of the Bible has a sort key, and
the keys of two verses compare as their offsets. So a reference list is read as the verses its
items cover, each once and in increasing offset, and sorting their reference texts by key, from
whatever order they come in, gives that same list; the verses a lookup widens a list to are in
increasing offset and are what sorting them by key gives; and the site's search between two books
lists the verses it finds in increasing offset. -/
theorem readingRefs_bibleOrder :
    (∀ o o' : Nat, o < Canon.verseTotal → o' < Canon.verseTotal →
      ∃ k k' : String, Reference.sortKey (.str (Canon.refText o)) = .ok k ∧
        Reference.sortKey (.str (Canon.refText o')) = .ok k' ∧ (k < k' ↔ o < o')) ∧
    (∀ (s : String) (out : List String), readingRefs (.str s) = .ok out →
      ∃ os : List Nat, out = os.map Canon.refText ∧ os.Pairwise (· < ·) ∧
        (∀ items, RangeList.parse s = .ok items →
          ∀ o, o ∈ os ↔ o ∈ items.flatMap RangeItem.offsets) ∧
        ∀ ls : List Nat, ls.Perm os → Reference.sortByKey (ls.map Canon.refText) = .ok out) ∧
    (∀ (s : String) (count : Json), Ensures (RangeList.withContext s count) fun os =>
      os.Pairwise (· < ·) ∧ ∀ ls : List Nat, ls.Perm os →
        Reference.sortByKey (ls.map Canon.refText) = .ok (os.map Canon.refText)) ∧
    ∀ (s : Search.Searcher) (terms lowest highest : Json) (R : ValueSet),
      Search.rangeRefs (.str (lowest.display ++ "-" ++ highest.display)) = .ok R →
      R.isEmpty = false →
      Ensures (siteSearch s terms lowest highest) fun found =>
        ∃ os : List Nat, found.1 = os.map Canon.refText ∧ os.Pairwise (· ≤ ·) :=
  ⟨fun _ _ ho ho' => ⟨_, _, Reference.sortKey_refText ho, Reference.sortKey_refText ho',
      Reference.keyOf_lt_iff ho ho'⟩,
    fun _ _ h => readingRefs_sorted h,
    fun s count => (withContext_sorted s count).mono fun _ h =>
      ⟨h.1, fun _ hperm => Reference.sortByKey_perm h.1 h.2 hperm⟩,
    fun s terms lowest highest _ hR hne => siteSearch_readingOrder s terms lowest highest hR hne⟩

/-- The text of the range from one verse to another is read as the verses between them. -/
theorem offsets_rangeText {a b : Nat} (hab : a ≤ b) (hb : b < Canon.verseTotal) :
    RangeList.offsets (Canon.refText a ++ "-" ++ Canon.refText b) = .ok (List.range' a (b - a + 1)) := by
  have ha : (Verse.ofOffset a).offset = a := Verse.ofOffset_offset (by omega)
  have hb' : (Verse.ofOffset b).offset = b := Verse.ofOffset_offset hb
  let r : VerseRange := ⟨Verse.ofOffset a, Verse.ofOffset b, by rw [ha, hb']; exact hab⟩
  obtain ⟨os, hos, hsorted, hmem⟩ :=
    RangeList.offsets_written (show ',' = ',' ∨ ',' = ';' from Or.inl rfl) [.range r]
  have htext : String.intercalate (String.singleton ',') ([RangeItem.range r].map RangeItem.text) =
      Canon.refText a ++ "-" ++ Canon.refText b := by
    rw [List.map_singleton, String.intercalate_singleton, RangeItem.text_range, VerseRange.text,
      Verse.text, Verse.text, ha, hb']
  -- the list read is sorted and holds the verses of the range, so it is that range
  have hsame : os = List.range' a (b - a + 1) :=
    hsorted.eq_of_mem_iff List.pairwise_lt_range' fun p => by
      simp [hmem, r, VerseRange.offsets, VerseRange.length, ha, hb']
  rw [htext, hsame] at hos
  exact hos

/-- A reference list naming a range of verses is read as the verses of the range. -/
theorem listedOffsets_rangeText {a b : Nat} (hab : a ≤ b) (hb : b < Canon.verseTotal) :
    listedOffsets (.str (Canon.refText a ++ "-" ++ Canon.refText b)) =
      .ok (List.range' a (b - a + 1)) := by
  have htruthy : (Json.str (Canon.refText a ++ "-" ++ Canon.refText b)).truthy = true := by
    simp [Json.truthy]
  simp only [listedOffsets, htruthy, Bool.not_true, Bool.false_eq_true, if_false, refListText,
    pure_bind, offsets_rangeText hab hb]

/-- A range of verses holds a verse for the search. -/
theorem rangeRefs_rangeText {a b : Nat} (hab : a ≤ b) (hb : b < Canon.verseTotal) :
    ∃ R : ValueSet, Search.rangeRefs (.str (Canon.refText a ++ "-" ++ Canon.refText b)) = .ok R ∧
      R.isEmpty = false := by
  have htruthy : (Json.str (Canon.refText a ++ "-" ++ Canon.refText b)).truthy = true := by
    simp [Json.truthy]
  refine ⟨ValueSet.ofTexts ((List.range' a (b - a + 1)).map Canon.refText), ?_, ?_⟩
  · simp only [Search.rangeRefs, htruthy, Bool.not_true, Bool.false_eq_true, if_false, pure_bind,
      offsets_rangeText hab hb, Except.ok_bind]
    rfl
  · refine ValueSet.isEmpty_eq_false (x := .str (Canon.refText a)) ?_
    simp only [ValueSet.ofTexts, List.map_map, List.mem_map, List.mem_range']
    exact ⟨a, ⟨0, by omega, rfl⟩, rfl⟩

/-- An index of one word, `light`, that lists its verses out of reading order: Genesis 1:5, then
Genesis 1:3 and Genesis 1:4. -/
def lightIndex : Index :=
  ⟨"KJV", ⟨[("light", .arr [.str "Genesis 1:5", .str "Genesis 1:3", .str "Genesis 1:4"])]⟩⟩

/-- Genesis 1:5 comes after Genesis 1:3, and its key is the greater; the range from Genesis 1:3
to Genesis 1:5 is read as its three verses in order, which sorting them by key from any order
gives back; and the site's search in that range, on an index listing the verses out of order,
lists what it finds in reading order. -/
theorem genesisLight_bibleOrder :
    (4 < Canon.verseTotal ∧ 2 < Canon.verseTotal ∧
      ∃ k k' : String, Reference.sortKey (.str (Canon.refText 4)) = .ok k ∧
        Reference.sortKey (.str (Canon.refText 2)) = .ok k' ∧ (k < k' ↔ 4 < 2)) ∧
    (readingRefs (.str "Genesis 1:3-Genesis 1:5") = .ok ["Genesis 1:3", "Genesis 1:4", "Genesis 1:5"] ∧
      (∃ os : List Nat, ["Genesis 1:3", "Genesis 1:4", "Genesis 1:5"] = os.map Canon.refText ∧
        os.Pairwise (· < ·) ∧
        (∀ items, RangeList.parse "Genesis 1:3-Genesis 1:5" = .ok items →
          ∀ o, o ∈ os ↔ o ∈ items.flatMap RangeItem.offsets) ∧
        ∀ ls : List Nat, ls.Perm os → Reference.sortByKey (ls.map Canon.refText) =
          .ok ["Genesis 1:3", "Genesis 1:4", "Genesis 1:5"]) ∧
      Reference.sortByKey ["Genesis 1:5", "Genesis 1:3", "Genesis 1:4"] =
        .ok ["Genesis 1:3", "Genesis 1:4", "Genesis 1:5"]) ∧
    ∃ R : ValueSet, Search.rangeRefs (.str ((Json.str "Genesis 1:3").display ++ "-" ++
        (Json.str "Genesis 1:5").display)) = .ok R ∧ R.isEmpty = false ∧
      Ensures (siteSearch ⟨lightIndex, default, true⟩ (.str "light") (.str "Genesis 1:3")
        (.str "Genesis 1:5")) fun found =>
        ∃ os : List Nat, found.1 = os.map Canon.refText ∧ os.Pairwise (· ≤ ·) := by
  have htexts : Canon.refText 2 = "Genesis 1:3" ∧ Canon.refText 3 = "Genesis 1:4" ∧
      Canon.refText 4 = "Genesis 1:5" := by
    decide +kernel
  have hread : readingRefs (.str "Genesis 1:3-Genesis 1:5") =
      .ok ["Genesis 1:3", "Genesis 1:4", "Genesis 1:5"] := by
    have hname : "Genesis 1:3-Genesis 1:5" = Canon.refText 2 ++ "-" ++ Canon.refText 4 := by
      rw [htexts.1, htexts.2.2]
      rfl
    rw [hname, readingRefs, listedOffsets_rangeText (by decide) (by decide), Except.ok_bind]
    simp [List.range', htexts]
    rfl
  -- the three verses, listed out of order, sort back into reading order
  have hsorted : Reference.sortByKey ["Genesis 1:5", "Genesis 1:3", "Genesis 1:4"] =
      .ok ["Genesis 1:3", "Genesis 1:4", "Genesis 1:5"] := by
    have h : Reference.sortByKey ([4, 2, 3].map Canon.refText) = .ok ([2, 3, 4].map Canon.refText) :=
      Reference.sortByKey_perm (by decide) (by decide) (by decide)
    simpa [htexts] using h
  obtain ⟨R, hR, hne⟩ := rangeRefs_rangeText (show 2 ≤ 4 by decide) (by decide)
  rw [htexts.1, htexts.2.2] at hR
  exact ⟨⟨by decide, by decide, readingRefs_bibleOrder.1 4 2 (by decide) (by decide)⟩,
    ⟨hread, readingRefs_bibleOrder.2.1 _ _ hread, hsorted⟩, R, hR, hne,
    readingRefs_bibleOrder.2.2.2 _ _ _ _ R hR hne⟩

end Web

end Scripture
