import Mathlib
import Scripture.Proofs.ReferenceText
import Scripture.Web.Passages

/-!
# Reading back the lists the site writes

The site writes verses as their reference texts and ranges as two reference texts joined by a
hyphen, and lists of them with commas or semicolons between the items. This module shows that
reading such a list gives back exactly the verses it was written from.

The text is cut into pieces. A reference text `<book> <chapter>:<verse>` is one piece whose
verse field takes the verse characters after it along: a comma separator, or the hyphen of a
range. Read from a state with no range or book span open, a piece of a verse adds that verse,
the piece of a lower verse with its hyphen opens a range, and the next piece closes it. Each
bound is read back through its text with the blank after the book doubled
(`Canon.ofText_spaced_locate`).

* `pieces_refText` — a reference text is cut into one piece.
* `readItem` — the pieces of an item add one item of the same kind and ends.
* `read_written` — a written list is read item by item.
* `offsets_spec` — the offsets read from any text are verses of the Bible in increasing order,
  each once, and they are the offsets its items cover.
* `writtenItems_readBack` — a written list is read back as the verses it covers; a range text is
  read as one range with the same ends; and listing the reference texts that a reference list
  is read as gives the same texts again.
-/

namespace Scripture

namespace RangeItem

/-- The text an item is written as: a verse's reference text, or a range's two reference texts
joined by a hyphen. -/
def text : RangeItem → String
  | .verse v => v.text
  | .range r => r.text

/-- The offsets of the verses an item covers. -/
def offsets : RangeItem → List Nat
  | .verse v => [v.offset]
  | .range r => r.offsets

@[simp] theorem text_verse (v : Verse) : (verse v).text = v.text := rfl

@[simp] theorem text_range (r : VerseRange) : (range r).text = r.text := rfl

@[simp] theorem offsets_verse (v : Verse) : (verse v).offsets = [v.offset] := rfl

@[simp] theorem offsets_range (r : VerseRange) : (range r).offsets = r.offsets := rfl

/-- The offsets an item covers are verses of the Bible. -/
theorem offsets_lt (it : RangeItem) : ∀ o ∈ it.offsets, o < Canon.verseTotal := by
  intro o ho
  cases it with
  | verse v =>
    rw [offsets_verse, List.mem_singleton] at ho
    exact ho ▸ v.offset_lt
  | range r =>
    rw [offsets_range, VerseRange.offsets, List.mem_range'_1, VerseRange.length] at ho
    have := r.upper.offset_lt
    have := r.ordered
    omega

/-- An item read back has the kind of the item written and the same ends. -/
def SameEnds : RangeItem → RangeItem → Prop
  | .verse w, .verse v => w.offset = v.offset
  | .range r', .range r => r'.lower.offset = r.lower.offset ∧ r'.upper.offset = r.upper.offset
  | _, _ => False

theorem SameEnds.offsets_eq {x it : RangeItem} (h : SameEnds x it) : x.offsets = it.offsets := by
  cases x <;> cases it <;> simp_all [SameEnds, VerseRange.offsets, VerseRange.length]

end RangeItem

namespace RangeList

/-! ### Printed numbers and runs of characters -/

theorem isDigit_of_mem_toString {n : Nat} {c : Char} (h : c ∈ (toString n).toList) :
    c.isDigit :=
  Nat.isDigit_of_mem_toDigits (b := 10) (by decide) (by decide) (by rwa [← Nat.toList_repr])

theorem toString_ne_nil (n : Nat) : (toString n).toList ≠ [] := by
  rw [show toString n = Nat.repr n from rfl, Nat.toList_repr]
  exact Nat.toDigits_ne_nil

theorem not_mem_toString {n : Nat} {c : Char} (hc : c.isDigit = false) :
    c ∉ (toString n).toList := fun h => by
  rw [isDigit_of_mem_toString h] at hc
  exact Bool.noConfusion hc

/-- A decimal digit is no book character and no separator; it is a chapter and a verse
character. -/
theorem digit_classes {c : Char} (h : c.isDigit) :
    isBookChar c = false ∧ isChapterChar c ∧ isVerseChar c ∧
      (Text.isBlank c || c == '-') = false := by
  have hc := Text.toNat_of_isDigit h
  have hd := Text.isDigit_of_isDigit h
  have hhyphen : c ≠ '-' := by
    rintro rfl
    simp at hc
  refine ⟨by simp [isBookChar, hd], by simp [isChapterChar, hd], by simp [isVerseChar, hd],
    by simp [Text.isBlank_of_isDigit h, hhyphen]⟩

/-- A run that its first character already stops is empty. -/
theorem run_empty {p : Char → Bool} {l : List Char} (h : ∀ x ∈ l.head?, p x = false) :
    l.takeWhile p = [] ∧ l.dropWhile p = l := by
  simpa using @Text.run_exact p [] l (by simp) h

theorem drop_takeWhile_length (p : Char → Bool) (l : List Char) :
    l.drop (l.takeWhile p).length = l.dropWhile p := by
  have h := @List.drop_left _ (l.takeWhile p) (l.dropWhile p)
  rwa [List.takeWhile_append_dropWhile] at h

/-! ### Cutting reference texts into pieces -/

/-- Every book name is written in book characters and starts with one that is neither a verse
character nor a semicolon. -/
theorem bookName_chars : ∀ b : Fin 66,
    (Canon.bookName b).toList.all isBookChar ∧
      (Canon.bookName b).toList.head?.any (fun c => !isVerseChar c && c != ';') := by
  decide +kernel

/-- A book is read off the front of a text when it is a run of book characters that does not
start with a digit. -/
theorem bookPart?_run {body rest : List Char} (hne : body ≠ [])
    (hbody : ∀ c ∈ body, isBookChar c) (hrest : ∀ c ∈ rest.head?, isBookChar c = false) :
    bookPart? (body ++ rest) = some (body, rest) := by
  obtain ⟨c, body', rfl⟩ := List.exists_cons_of_ne_nil hne
  have hc : isBookChar c := hbody c List.mem_cons_self
  have hdigit : Text.isDigit c = false := by
    simp only [isBookChar, Bool.not_eq_true', Bool.or_eq_false_iff] at hc
    exact hc.1
  obtain ⟨htake, hdrop⟩ := Text.run_exact hbody hrest
  rw [List.cons_append]
  unfold bookPart?
  simp only [hdigit, Bool.false_eq_true, if_false, hc, if_true]
  rw [← List.cons_append, htake, hdrop]

/-- The piece that the reference text of the verse at an offset is cut into, when the verse
characters `trail` follow it. -/
def refPiece (o : Nat) (trail : List Char) : Piece :=
  ⟨Canon.bookName (Canon.locate o).1 ++ " ", toString (Canon.locate o).2.1,
    toString (Canon.locate o).2.2 ++ String.ofList trail⟩

theorem refText_toList (o : Nat) : (Canon.refText o).toList =
    ((Canon.bookName (Canon.locate o).1).toList ++ [' ']) ++
      ((toString (Canon.locate o).2.1).toList ++ ':' :: (toString (Canon.locate o).2.2).toList) := by
  simp [Canon.refText]

theorem refText_ne_nil (o : Nat) : (Canon.refText o).toList ≠ [] := by
  simp [refText_toList]

/-- A reference text starts with neither a verse character nor a semicolon. -/
theorem refText_head {o : Nat} (ho : o < Canon.verseTotal) (rest : List Char) :
    ∀ x ∈ ((Canon.refText o).toList ++ rest).head?, isVerseChar x = false ∧ x ≠ ';' := by
  have hb := (Canon.locate_spec ho).1.book_lt
  have hhead := (bookName_chars ⟨(Canon.locate o).1, hb⟩).2
  intro x hx
  rw [refText_toList] at hx
  generalize (Canon.bookName (Canon.locate o).1).toList = B at hhead hx
  cases B with
  | nil => simp at hhead
  | cons y ys =>
    simp only [List.cons_append, List.head?_cons, Option.mem_def, Option.some.injEq] at hx
    subst hx
    simpa using hhead

/-- The piece at a reference text: its book with the blank after it, its chapter, and its verse
with the verse characters that follow. -/
theorem pieceAfter_refText {o : Nat} (ho : o < Canon.verseTotal) (rest : List Char) :
    pieceAfter ((Canon.refText o).toList ++ rest) =
      some (refPiece o (rest.takeWhile isVerseChar),
        (Canon.refText o).length + (rest.takeWhile isVerseChar).length) := by
  have hb := (Canon.locate_spec ho).1.book_lt
  rw [← String.length_toList, refText_toList, refPiece, List.append_assoc,
    List.append_assoc (toString _).toList, List.cons_append]
  generalize Canon.locate o = loc at *
  obtain ⟨b, c, v⟩ := loc
  dsimp only at hb ⊢
  obtain ⟨hname, -⟩ := bookName_chars ⟨b, hb⟩
  have hC := toString_ne_nil c
  have hCd : ∀ x ∈ (toString c).toList, x.isDigit := fun x hx => isDigit_of_mem_toString hx
  have hVd : ∀ x ∈ (toString v).toList, x.isDigit := fun x hx => isDigit_of_mem_toString hx
  have hCfirst : ∀ (r : List Char), ∀ x ∈ ((toString c).toList ++ r).head?, x.isDigit := by
    intro r x hx
    rw [List.head?_append_of_ne_nil _ hC] at hx
    exact hCd x (List.mem_of_mem_head? hx)
  -- the book is the name and the blank after it, up to the chapter's first digit
  have hbody : ∀ x ∈ (Canon.bookName b).toList ++ [' '], isBookChar x := by
    intro x hx
    rcases List.mem_append.mp hx with h | h
    · exact List.all_eq_true.mp hname x h
    · rw [List.mem_singleton.mp h]
      decide
  rw [pieceAfter, bookPart?_run (by simp) hbody (fun x hx => (digit_classes (hCfirst _ x hx)).1)]
  -- no blanks or hyphens before the chapter, which runs up to the colon
  have hsep : ((toString c).toList ++ ':' :: ((toString v).toList ++ rest)).takeWhile
      (fun c => Text.isBlank c || c == '-') = [] :=
    (run_empty fun x hx => (digit_classes (hCfirst _ x hx)).2.2.2).1
  have hchap : ((toString c).toList ++ ':' :: ((toString v).toList ++ rest)).takeWhile
      isChapterChar = (toString c).toList :=
    (Text.run_exact (fun x hx => (digit_classes (hCd x hx)).2.1) (by
      simp only [List.head?_cons, Option.mem_def, Option.some.injEq, forall_eq']
      decide)).1
  have hverses : ((toString v).toList ++ rest).takeWhile isVerseChar =
      (toString v).toList ++ rest.takeWhile isVerseChar :=
    List.takeWhile_append_of_pos fun x hx => (digit_classes (hVd x hx)).2.2.1
  simp only [Option.bind_eq_bind, Option.bind_some, hsep, List.length_nil, List.drop_zero, hchap,
    List.drop_left, List.drop_succ_cons, hverses, String.ofList_append, String.ofList_toList,
    Option.pure_def, Option.some.injEq, Prod.mk.injEq, true_and]
  simp only [List.length_append, List.length_cons]
  omega

theorem pieceAt_refText {o : Nat} (ho : o < Canon.verseTotal) (rest : List Char) :
    pieceAt ((Canon.refText o).toList ++ rest) = pieceAfter ((Canon.refText o).toList ++ rest) := by
  have hhead := refText_head ho rest
  generalize (Canon.refText o).toList ++ rest = cs at hhead ⊢
  cases cs with
  | nil => rfl
  | cons x more =>
    have hx : x ≠ ';' := (hhead x rfl).2
    unfold pieceAt
    split
    · simp_all
    · rfl

theorem pieces_of_pieceAt {cs : List Char} {p : Piece} {n : Nat} (h : pieceAt cs = some (p, n))
    (hn : 0 < n) : pieces cs = p :: pieces (cs.drop n) := by
  cases cs with
  | nil => simp [pieceAt, pieceAfter, bookPart?] at h
  | cons c rest =>
    rw [pieces]
    simp only [h, if_pos hn]

theorem pieces_nil : pieces [] = [] := by
  rw [pieces]

/-- **The pieces of a reference text.** A reference text is cut into one piece, which takes the
verse characters after it along. -/
theorem pieces_refText {o : Nat} (ho : o < Canon.verseTotal) (rest : List Char) :
    pieces ((Canon.refText o).toList ++ rest) =
      refPiece o (rest.takeWhile isVerseChar) :: pieces (rest.dropWhile isVerseChar) := by
  have hlen : 0 < (Canon.refText o).length := by
    rw [← String.length_toList]
    exact List.length_pos_of_ne_nil (refText_ne_nil o)
  rw [pieces_of_pieceAt (by rw [pieceAt_refText ho, pieceAfter_refText ho]) (by omega),
    ← String.length_toList, List.drop_length_add_append, drop_takeWhile_length]

/-- A semicolon before a reference text is taken along with its piece. -/
theorem pieces_semicolon_refText {o : Nat} (ho : o < Canon.verseTotal) (rest : List Char) :
    pieces (';' :: ((Canon.refText o).toList ++ rest)) =
      pieces ((Canon.refText o).toList ++ rest) := by
  have hat : pieceAt (';' :: ((Canon.refText o).toList ++ rest)) =
      some (refPiece o (rest.takeWhile isVerseChar),
        (Canon.refText o).length + (rest.takeWhile isVerseChar).length + 1) := by
    simp only [pieceAt, pieceAfter_refText ho]
  rw [pieces_of_pieceAt hat (by omega), pieces_refText ho, List.drop_succ_cons,
    ← String.length_toList, List.drop_length_add_append, drop_takeWhile_length]

/-! ### Reading the pieces of reference texts -/

/-- A text split at a character it does not hold is itself. -/
theorem splitOn_of_not_mem {s : String} {c : Char} (h : c ∉ s.toList) :
    s.splitOn (String.singleton c) = [s] := by
  rw [Text.splitOn_singleton, List.splitOn_eq_singleton h, List.map_singleton, String.ofList_toList]

/-- A text followed by a character it does not hold, split at that character. -/
theorem splitOn_append_singleton {s : String} {c : Char} (h : c ∉ s.toList) :
    (s ++ String.singleton c).splitOn (String.singleton c) = [s, ""] := by
  rw [Text.splitOn_singleton, String.toList_append, String.toList_singleton,
    List.splitOn_append_cons_self_of_not_mem h, List.splitOn_nil]
  simp

theorem comma_eq : ("," : String) = String.singleton ',' := by decide

theorem toString_append_isEmpty (n : Nat) (s : String) : (toString n ++ s).isEmpty = false := by
  rw [Bool.eq_false_iff, ne_eq, String.isEmpty_iff, ← String.toList_inj, String.toList_append,
    String.toList_empty]
  exact fun h => toString_ne_nil n (List.append_eq_nil_iff.mp h).1

theorem toString_isEmpty (n : Nat) : (toString n).isEmpty = false := by
  have h := toString_append_isEmpty n ""
  rwa [String.append_empty] at h

theorem toString_contains {n : Nat} {c : Char} (hc : c.isDigit = false) :
    (toString n).contains c = false := by
  rw [String.contains_char_eq, decide_eq_false_iff_not]
  exact not_mem_toString hc

theorem toString_endsWith_hyphen (n : Nat) : (toString n).endsWith "-" = false := by
  rw [Bool.eq_false_iff, ne_eq, String.endsWith_eq_endsWith_toSlice,
    String.Slice.endsWith_string_iff, String.copy_toSlice]
  intro h
  obtain ⟨pre, hpre⟩ := h
  have hmem : '-' ∈ (toString n).toList := by rw [← hpre]; simp
  exact not_mem_toString (by decide) hmem

theorem endsWith_hyphen (s : String) : (s ++ "-").endsWith "-" = true := by
  rw [String.endsWith_eq_endsWith_toSlice, String.Slice.endsWith_string_iff, String.copy_toSlice,
    String.toList_append]
  exact List.suffix_append _ _

section Verses

variable (book chapter : String)

/-- A number read while no range is open is a verse of the chapter. -/
theorem readVerses_number (n : Nat) (vs : List String) {st : State} (hopen : st.openRange = "") :
    readVerses book chapter (toString n :: vs) st =
      Verse.ofText (refText book chapter (toString n)) >>= fun w =>
        readVerses book chapter vs { st with items := st.items ++ [.verse w] } := by
  rw [readVerses, if_neg (by rw [toString_isEmpty]; decide), if_neg (by simp [hopen]),
    if_neg (by rw [toString_endsWith_hyphen]; decide),
    if_neg (by rw [toString_contains (by decide)]; decide),
    if_neg (by rw [toString_contains (by decide)]; decide)]
  rfl

/-- A number with a hyphen after it, read while no range is open, opens a range at that verse. -/
theorem readVerses_opens (n : Nat) (vs : List String) {st : State} (hopen : st.openRange = "") :
    readVerses book chapter ((toString n ++ "-") :: vs) st =
      .ok { st with openRange := refText book chapter (toString n) } := by
  have hdrop : String.ofList (toString n ++ "-").toList.dropLast = toString n := by
    rw [String.toList_append, show "-".toList = ['-'] from rfl, List.dropLast_concat,
      String.ofList_toList]
  rw [readVerses, if_neg (by rw [toString_append_isEmpty]; decide), if_neg (by simp [hopen]),
    if_pos (endsWith_hyphen _), hdrop]

/-- A number read while a range is open closes the range there. -/
theorem readVerses_closes (n : Nat) (vs : List String) {st : State} (hopen : st.openRange ≠ "") :
    readVerses book chapter (toString n :: vs) st =
      rangeOf st.openRange (refText book chapter (toString n)) >>= fun r =>
        .ok { st with items := st.items ++ [.range r], openRange := "" } := by
  rw [readVerses, if_neg (by rw [toString_isEmpty]; decide),
    if_pos (by simpa [String.isEmpty_iff] using hopen)]

end Verses

/-- A piece of a reference text, read while no book span is open, is read as the verses in its
chapter. -/
theorem readPiece_refPiece (o : Nat) (trail : List Char) {st : State} (hbook : st.openBook = "") :
    readPiece st (refPiece o trail) =
      readVerses (refPiece o trail).book (toString (Canon.locate o).2.1)
        ((toString (Canon.locate o).2.2 ++ String.ofList trail).splitOn ",") st := by
  have hempty : ("" : String).isEmpty = true := rfl
  unfold readPiece
  simp only [hbook, hempty, Bool.not_true, Bool.false_eq_true, if_false, refPiece,
    toString_isEmpty, toString_append_isEmpty, Bool.and_false, comma_eq,
    splitOn_of_not_mem (not_mem_toString (show (',').isDigit = false by decide)),
    List.dropLast_singleton, pure_bind, List.foldlM_nil, bind_pure]
  rfl

/-- The reference text of the verse at an offset as its piece rebuilds it: the blank after the
book is doubled. -/
def spacedText (o : Nat) : String :=
  refText (Canon.bookName (Canon.locate o).1 ++ " ") (toString (Canon.locate o).2.1)
    (toString (Canon.locate o).2.2)

theorem ofText_spacedText {o : Nat} (ho : o < Canon.verseTotal) :
    ∃ w, Verse.ofText (spacedText o) = .ok w ∧ w.offset = o := by
  have hblanks : Canon.bookName (Canon.locate o).1 ++ " " ++ " " =
      Canon.bookName (Canon.locate o).1 ++ "  " := by
    rw [String.append_assoc, show (" " ++ " " : String) = "  " by decide]
  rw [spacedText, refText, hblanks]
  exact Canon.ofText_spaced_locate ho

theorem spacedText_ne (o : Nat) : spacedText o ≠ "" := by
  rw [ne_eq, ← String.toList_inj]
  simp [spacedText, refText]

/-- A piece of the reference text of a verse, followed by nothing or by a comma and read with
no range or book span open, adds that verse. -/
theorem readPiece_verse {o : Nat} (ho : o < Canon.verseTotal) {trail : List Char}
    (htrail : trail = [] ∨ trail = [',']) (acc : List RangeItem) :
    ∃ w, readPiece { items := acc } (refPiece o trail) = .ok { items := acc ++ [.verse w] } ∧
      w.offset = o := by
  obtain ⟨w, hw, hwo⟩ := ofText_spacedText ho
  have hcomma := not_mem_toString (n := (Canon.locate o).2.2) (show (',').isDigit = false by decide)
  refine ⟨w, ?_, hwo⟩
  rw [readPiece_refPiece o trail rfl, comma_eq]
  rcases htrail with rfl | rfl
  · rw [String.ofList_nil, String.append_empty, splitOn_of_not_mem hcomma,
      readVerses_number _ _ _ _ rfl]
    change Verse.ofText (spacedText o) >>= _ = _
    rw [hw]
    rfl
  · rw [show String.ofList [','] = String.singleton ',' from rfl, splitOn_append_singleton hcomma,
      readVerses_number _ _ _ _ rfl]
    change Verse.ofText (spacedText o) >>= _ = _
    rw [hw]
    rfl

/-- A piece of the reference text of a verse followed by a hyphen, read with no range or book
span open, opens a range at that verse. -/
theorem readPiece_open (o : Nat) (acc : List RangeItem) :
    readPiece { items := acc } (refPiece o ['-']) =
      .ok { items := acc, openRange := spacedText o } := by
  have hnot : ',' ∉ (toString (Canon.locate o).2.2 ++ "-").toList := by
    rw [String.toList_append]
    exact List.not_mem_append (not_mem_toString (by decide)) (by decide)
  rw [readPiece_refPiece o ['-'] rfl, comma_eq, show String.ofList ['-'] = "-" from rfl,
    splitOn_of_not_mem hnot, readVerses_opens _ _ _ _ rfl]
  rfl

/-- A range between two verses in order keeps them as its ends. -/
theorem make_of_le {a b : Verse} (h : a.offset ≤ b.offset) :
    (VerseRange.make a b).lower = a ∧ (VerseRange.make a b).upper = b := by
  unfold VerseRange.make
  rw [dif_pos h]
  exact ⟨rfl, rfl⟩

/-- A piece of the reference text of a verse, followed by nothing or by a comma and read while a
range opened at an earlier verse is open, closes that range. -/
theorem readPiece_close {lo hi : Nat} (hlo : lo < Canon.verseTotal) (hhi : hi < Canon.verseTotal)
    (hle : lo ≤ hi) {trail : List Char} (htrail : trail = [] ∨ trail = [','])
    (acc : List RangeItem) :
    ∃ r : VerseRange, readPiece { items := acc, openRange := spacedText lo } (refPiece hi trail) =
      .ok { items := acc ++ [.range r] } ∧ r.lower.offset = lo ∧ r.upper.offset = hi := by
  obtain ⟨a, ha, hao⟩ := ofText_spacedText hlo
  obtain ⟨b, hb, hbo⟩ := ofText_spacedText hhi
  obtain ⟨hlower, hupper⟩ := make_of_le (a := a) (b := b) (by omega)
  have hrange : rangeOf (spacedText lo) (spacedText hi) = .ok (VerseRange.make a b) := by
    rw [rangeOf, ha, hb]
    rfl
  have hcomma := not_mem_toString (n := (Canon.locate hi).2.2) (show (',').isDigit = false by decide)
  refine ⟨VerseRange.make a b, ?_, by rw [hlower, hao], by rw [hupper, hbo]⟩
  rw [readPiece_refPiece hi trail rfl, comma_eq]
  rcases htrail with rfl | rfl
  · rw [String.ofList_nil, String.append_empty, splitOn_of_not_mem hcomma,
      readVerses_closes _ _ _ _ (spacedText_ne lo)]
    change rangeOf (spacedText lo) (spacedText hi) >>= _ = _
    rw [hrange]
    rfl
  · rw [show String.ofList [','] = String.singleton ',' from rfl, splitOn_append_singleton hcomma,
      readVerses_closes _ _ _ _ (spacedText_ne lo)]
    change rangeOf (spacedText lo) (spacedText hi) >>= _ = _
    rw [hrange]
    rfl

/-! ### Items and lists of items -/

/-- The pieces an item's text is cut into, when the verse characters `trail` follow it. -/
def itemPieces (trail : List Char) : RangeItem → List Piece
  | .verse v => [refPiece v.offset trail]
  | .range r => [refPiece r.lower.offset ['-'], refPiece r.upper.offset trail]

theorem pieces_item (it : RangeItem) (rest : List Char) :
    pieces (it.text.toList ++ rest) =
      itemPieces (rest.takeWhile isVerseChar) it ++ pieces (rest.dropWhile isVerseChar) := by
  cases it with
  | verse v =>
    rw [RangeItem.text_verse, Verse.text, pieces_refText v.offset_lt]
    rfl
  | range r =>
    -- the hyphen goes with the lower verse's piece, and the upper verse's text starts the next
    obtain ⟨htake, hdrop⟩ :=
      run_empty fun x hx => (refText_head r.upper.offset_lt rest x hx).1
    have htext : (RangeItem.range r).text.toList ++ rest = (Canon.refText r.lower.offset).toList ++
        ('-' :: ((Canon.refText r.upper.offset).toList ++ rest)) := by
      simp [VerseRange.text, Verse.text]
    rw [htext, pieces_refText r.lower.offset_lt, List.takeWhile_cons_of_pos (by decide), htake,
      List.dropWhile_cons_of_pos (by decide), hdrop, pieces_refText r.upper.offset_lt]
    rfl

/-- **Reading an item back.** The pieces of an item's text, followed by nothing or by a comma and
read with no range or book span open, add one item of the same kind and ends. -/
theorem readItem (it : RangeItem) {trail : List Char} (htrail : trail = [] ∨ trail = [','])
    (acc : List RangeItem) :
    ∃ x, (itemPieces trail it).foldlM readPiece { items := acc } = .ok { items := acc ++ [x] } ∧
      RangeItem.SameEnds x it := by
  cases it with
  | verse v =>
    obtain ⟨w, hw, hwo⟩ := readPiece_verse v.offset_lt htrail acc
    refine ⟨.verse w, ?_, hwo⟩
    simp only [itemPieces, List.foldlM_cons, hw, List.foldlM_nil]
    rfl
  | range r =>
    obtain ⟨r', hr', hlo, hhi⟩ :=
      readPiece_close r.lower.offset_lt r.upper.offset_lt r.ordered htrail acc
    refine ⟨.range r', ?_, hlo, hhi⟩
    simp only [itemPieces, List.foldlM_cons, readPiece_open, Except.ok_bind, hr', List.foldlM_nil]
    rfl

/-- An item's text starts with a reference text. -/
theorem text_starts (it : RangeItem) :
    ∃ o < Canon.verseTotal, ∃ more, it.text.toList = (Canon.refText o).toList ++ more := by
  cases it with
  | verse v => exact ⟨v.offset, v.offset_lt, [], by simp [Verse.text]⟩
  | range r =>
    exact ⟨r.lower.offset, r.lower.offset_lt, '-' :: (Canon.refText r.upper.offset).toList,
      by simp [VerseRange.text, Verse.text]⟩

/-- A written list of items starts with a reference text. -/
theorem written_starts (sep : Char) (it : RangeItem) (items : List RangeItem) :
    ∃ o < Canon.verseTotal, ∃ more,
      (String.intercalate (String.singleton sep) ((it :: items).map RangeItem.text)).toList =
        (Canon.refText o).toList ++ more := by
  obtain ⟨o, ho, more, htext⟩ := text_starts it
  cases items with
  | nil => exact ⟨o, ho, more, by simp [htext]⟩
  | cons it' items =>
    refine ⟨o, ho, more ++ sep :: (String.intercalate (String.singleton sep)
      ((it' :: items).map RangeItem.text)).toList, ?_⟩
    rw [List.map_cons, List.map_cons, String.intercalate_cons_cons, String.toList_append,
      String.toList_append, htext, ← List.map_cons]
    simp

/-- **The pieces of a written list.** Each item but the last is cut into its pieces, taking the
separator after it along when the separator is a comma. -/
theorem pieces_written_cons {sep : Char} (hsep : sep = ',' ∨ sep = ';') (it it' : RangeItem)
    (items : List RangeItem) :
    ∃ trail : List Char, (trail = [] ∨ trail = [',']) ∧
      pieces (String.intercalate (String.singleton sep)
          ((it :: it' :: items).map RangeItem.text)).toList =
        itemPieces trail it ++ pieces (String.intercalate (String.singleton sep)
          ((it' :: items).map RangeItem.text)).toList := by
  obtain ⟨o, ho, more, hrest⟩ := written_starts sep it' items
  have htext : (String.intercalate (String.singleton sep)
      ((it :: it' :: items).map RangeItem.text)).toList = it.text.toList ++
        sep :: (String.intercalate (String.singleton sep)
          ((it' :: items).map RangeItem.text)).toList := by
    rw [List.map_cons, List.map_cons, String.intercalate_cons_cons, ← List.map_cons]
    simp
  obtain ⟨htake, hdrop⟩ := run_empty fun x hx => (refText_head ho more x hx).1
  rw [htext, pieces_item, hrest]
  rcases hsep with rfl | rfl
  · -- a comma is a verse character: it ends the item's last piece
    refine ⟨[','], Or.inr rfl, ?_⟩
    rw [List.takeWhile_cons_of_pos (by decide), htake, List.dropWhile_cons_of_pos (by decide),
      hdrop]
  · -- a semicolon is taken along with the next piece
    refine ⟨[], Or.inl rfl, ?_⟩
    rw [List.takeWhile_cons_of_neg (by decide), List.dropWhile_cons_of_neg (by decide),
      pieces_semicolon_refText ho]

/-- **Reading a written list back.** The pieces of items written one after another with a comma
or a semicolon between them, read with no range or book span open, add one item of the same
kind and ends for each. -/
theorem read_written {sep : Char} (hsep : sep = ',' ∨ sep = ';') (items acc : List RangeItem) :
    ∃ dec, (pieces (String.intercalate (String.singleton sep)
        (items.map RangeItem.text)).toList).foldlM readPiece { items := acc } =
        .ok { items := acc ++ dec } ∧ List.Forall₂ RangeItem.SameEnds dec items := by
  induction items generalizing acc with
  | nil =>
    refine ⟨[], ?_, List.Forall₂.nil⟩
    simp only [List.map_nil, String.intercalate_nil, String.toList_empty, pieces_nil,
      List.foldlM_nil, List.append_nil]
    rfl
  | cons it rest ih =>
    cases rest with
    | nil =>
      -- the last item: nothing follows it
      obtain ⟨x, hx, hsame⟩ := readItem it (Or.inl rfl) acc
      have hp := pieces_item it []
      simp only [List.takeWhile_nil, List.dropWhile_nil, pieces_nil, List.append_nil] at hp
      refine ⟨[x], ?_, List.Forall₂.cons hsame List.Forall₂.nil⟩
      simp only [List.map_cons, List.map_nil, String.intercalate_singleton, hp, hx]
    | cons it' rest =>
      obtain ⟨trail, htrail, hp⟩ := pieces_written_cons hsep it it' rest
      obtain ⟨x, hx, hsame⟩ := readItem it htrail acc
      obtain ⟨dec, hdec, hall⟩ := ih (acc ++ [x])
      refine ⟨x :: dec, ?_, List.Forall₂.cons hsame hall⟩
      rw [hp, List.foldlM_append, hx, Except.ok_bind, hdec, List.append_assoc,
        List.singleton_append]

/-! ### Repeated verses and the sorted offsets -/

/-- One step of the pass that ends reading a list: a verse whose offset a kept verse already has
is dropped, and everything else is kept. -/
def keepVerse (acc : List RangeItem) (it : RangeItem) : List RangeItem :=
  match it with
  | .verse v => if acc.any (fun x => match x with
      | .verse w => w.offset == v.offset
      | .range _ => false) then acc else acc ++ [it]
  | .range _ => acc ++ [it]

theorem parse_eq (s : String) :
    parse s = (pieces s.toList).foldlM readPiece {} >>= fun st =>
      pure (st.items.foldl keepVerse []) :=
  rfl

theorem offsets_eq (s : String) :
    offsets s = parse s >>= fun items =>
      pure (offsets.dedupSorted ((items.flatMap RangeItem.offsets).mergeSort (· ≤ ·))) :=
  rfl

/-- A verse is dropped only when a kept verse covers its offset. -/
theorem mem_keepVerse (acc : List RangeItem) (it : RangeItem) (o : Nat) :
    o ∈ (keepVerse acc it).flatMap RangeItem.offsets ↔
      o ∈ acc.flatMap RangeItem.offsets ∨ o ∈ it.offsets := by
  cases it with
  | range r => simp [keepVerse]
  | verse v =>
    by_cases hkept : acc.any (fun x => match x with
        | .verse w => w.offset == v.offset
        | .range _ => false)
    · -- a kept verse has the offset already
      simp only [keepVerse, hkept, if_true, RangeItem.offsets_verse, List.mem_singleton]
      refine ⟨Or.inl, fun h => h.elim id fun ho => ?_⟩
      obtain ⟨x, hx, hsame⟩ := List.any_eq_true.mp hkept
      cases x with
      | verse w =>
        simp only [beq_iff_eq] at hsame
        exact List.mem_flatMap.mpr ⟨.verse w, hx, by simp [hsame, ho]⟩
      | range r => simp at hsame
    · simp [keepVerse, hkept]

/-- The pass keeps the offsets covered: those of the items before it and of the list. -/
theorem mem_foldl_keepVerse (l acc : List RangeItem) (o : Nat) :
    o ∈ (l.foldl keepVerse acc).flatMap RangeItem.offsets ↔
      o ∈ acc.flatMap RangeItem.offsets ∨ o ∈ l.flatMap RangeItem.offsets := by
  induction l generalizing acc with
  | nil => simp
  | cons it l ih =>
    rw [List.foldl_cons, ih, mem_keepVerse, List.flatMap_cons, List.mem_append, or_assoc]

/-- Lists too short to hold a repeat are kept as they are. -/
theorem dedupSorted_short {l : List Nat} (hl : ∀ a b rest, l = a :: b :: rest → False) :
    offsets.dedupSorted l = l := by
  rcases l with _ | ⟨a, _ | ⟨b, rest⟩⟩
  · rfl
  · rfl
  · exact (hl a b rest rfl).elim

theorem mem_dedupSorted (l : List Nat) (x : Nat) : x ∈ offsets.dedupSorted l ↔ x ∈ l := by
  induction l using offsets.dedupSorted.induct with
  | case1 b rest ih =>
    rw [offsets.dedupSorted, if_pos rfl, ih]
    simp
  | case2 a b rest hab ih =>
    rw [offsets.dedupSorted, if_neg hab, List.mem_cons, ih, ← List.mem_cons]
  | case3 l hl => rw [dedupSorted_short hl]

/-- Dropping repeats from a sorted list leaves it strictly increasing. -/
theorem dedupSorted_pairwise {l : List Nat} (h : l.Pairwise (· ≤ ·)) :
    (offsets.dedupSorted l).Pairwise (· < ·) := by
  induction l using offsets.dedupSorted.induct with
  | case1 b rest ih =>
    rw [offsets.dedupSorted, if_pos rfl]
    exact ih (List.pairwise_cons.mp h).2
  | case2 a b rest hab ih =>
    rw [offsets.dedupSorted, if_neg hab]
    -- every offset kept after `a` is at least `b`, which is above `a`
    obtain ⟨ha, hrest⟩ := List.pairwise_cons.mp h
    have hab' : a < b := Nat.lt_of_le_of_ne (ha b List.mem_cons_self) hab
    refine List.Pairwise.cons (fun y hy => ?_) (ih hrest)
    rcases List.mem_cons.mp ((mem_dedupSorted _ y).mp hy) with rfl | hy
    · exact hab'
    · exact Nat.lt_of_lt_of_le hab' ((List.pairwise_cons.mp hrest).1 y hy)
  | case3 l hl =>
    rw [dedupSorted_short hl]
    rcases l with _ | ⟨a, _ | ⟨b, rest⟩⟩
    · exact List.Pairwise.nil
    · exact List.pairwise_singleton _ a
    · exact (hl a b rest rfl).elim

/-- Sorting and then dropping repeats gives the offsets in increasing order, each once. -/
theorem dedupSorted_mergeSort (l : List Nat) :
    (offsets.dedupSorted (l.mergeSort (· ≤ ·))).Pairwise (· < ·) ∧
      ∀ o, o ∈ offsets.dedupSorted (l.mergeSort (· ≤ ·)) ↔ o ∈ l := by
  have hsorted : (l.mergeSort (· ≤ ·)).Pairwise (· ≤ ·) :=
    (List.pairwise_mergeSort (fun a b c hab hbc => by simp at *; omega)
      (fun a b => by simpa using Nat.le_total a b) l).imp (by simp)
  exact ⟨dedupSorted_pairwise hsorted, fun o => by rw [mem_dedupSorted, List.mem_mergeSort]⟩

/-- **The offsets of any list.** Whatever the text, the offsets read from it are verses of the
Bible in increasing order, each once, and they are the offsets its items cover. -/
theorem offsets_spec {s : String} {os : List Nat} (h : offsets s = .ok os) :
    os.Pairwise (· < ·) ∧ (∀ o ∈ os, o < Canon.verseTotal) ∧
      ∃ items, parse s = .ok items ∧ ∀ o, o ∈ os ↔ o ∈ items.flatMap RangeItem.offsets := by
  rw [offsets_eq] at h
  cases hp : parse s with
  | error e => rw [hp] at h; cases h
  | ok items =>
    rw [hp] at h
    cases h
    obtain ⟨hsorted, hmem⟩ := dedupSorted_mergeSort (items.flatMap RangeItem.offsets)
    refine ⟨hsorted, fun o ho => ?_, items, rfl, hmem⟩
    obtain ⟨it, -, hit⟩ := List.mem_flatMap.mp ((hmem o).mp ho)
    exact it.offsets_lt o hit

theorem flatMap_offsets_of_sameEnds {dec items : List RangeItem}
    (h : List.Forall₂ RangeItem.SameEnds dec items) :
    dec.flatMap RangeItem.offsets = items.flatMap RangeItem.offsets := by
  induction h with
  | nil => rfl
  | cons hsame _ ih => rw [List.flatMap_cons, List.flatMap_cons, hsame.offsets_eq, ih]

/-- The offsets of a written list: the verses its items cover, in increasing order and each
once. -/
theorem offsets_written {sep : Char} (hsep : sep = ',' ∨ sep = ';') (items : List RangeItem) :
    ∃ os, offsets (String.intercalate (String.singleton sep) (items.map RangeItem.text)) = .ok os ∧
      os.Pairwise (· < ·) ∧ ∀ o, o ∈ os ↔ ∃ it ∈ items, o ∈ it.offsets := by
  obtain ⟨dec, hdec, hall⟩ := read_written hsep items []
  have hparse : parse (String.intercalate (String.singleton sep) (items.map RangeItem.text)) =
      .ok (dec.foldl keepVerse []) := by
    rw [parse_eq, show ({} : State) = { items := [] } from rfl, hdec]
    rfl
  obtain ⟨hsorted, hmem⟩ :=
    dedupSorted_mergeSort ((dec.foldl keepVerse []).flatMap RangeItem.offsets)
  refine ⟨_, by rw [offsets_eq, hparse]; rfl, hsorted, fun o => ?_⟩
  rw [hmem, mem_foldl_keepVerse, flatMap_offsets_of_sameEnds hall, List.mem_flatMap]
  simp

/-- A range text is read as one range with the same ends. -/
theorem parse_rangeText (r : VerseRange) :
    ∃ r' : VerseRange, parse r.text = .ok [.range r'] ∧
      r'.lower.offset = r.lower.offset ∧ r'.upper.offset = r.upper.offset := by
  obtain ⟨dec, hdec, hall⟩ :=
    read_written (show ',' = ',' ∨ ',' = ';' from Or.inl rfl) [.range r] []
  simp only [List.map_cons, List.map_nil, String.intercalate_singleton, RangeItem.text_range,
    List.nil_append] at hdec
  rcases hall with _ | ⟨hsame, hnil⟩
  cases hnil
  rename_i x
  cases x with
  | verse w => exact hsame.elim
  | range r' =>
    refine ⟨r', ?_, hsame⟩
    rw [parse_eq, show ({} : State) = { items := [] } from rfl, hdec]
    rfl

end RangeList

theorem Verse.ofOffset_offset {o : Nat} (ho : o < Canon.verseTotal) :
    (Verse.ofOffset o).offset = o := by
  unfold Verse.ofOffset
  rw [dif_pos ⟨Int.natCast_nonneg o, by exact_mod_cast ho⟩]
  simp

namespace Web

/-- Texts listed one by one are read as they are. -/
theorem mapM_zipIdx_strs {f : Json × Nat → Except Failure String}
    (hf : ∀ s i, f (.str s, i) = .ok s) (ss : List String) (k : Nat) :
    ((ss.map Json.str).zipIdx k).mapM f = .ok ss := by
  induction ss generalizing k with
  | nil => rfl
  | cons s ss ih =>
    rw [List.map_cons, List.zipIdx_cons, List.mapM_cons, hf, Except.ok_bind, ih]
    rfl

/-- A list of texts is read as the texts joined by commas. -/
theorem refListText_strs (ss : List String) :
    refListText (.arr (ss.map Json.str)) = .ok (",".intercalate ss) := by
  rw [refListText, mapM_zipIdx_strs (fun _ _ => rfl)]
  rfl

/-- The offsets of any reference list are verses of the Bible in increasing order. -/
theorem listedOffsets_sorted {refs : Json} {os : List Nat} (h : listedOffsets refs = .ok os) :
    os.Pairwise (· < ·) ∧ ∀ o ∈ os, o < Canon.verseTotal := by
  unfold listedOffsets at h
  by_cases htruthy : refs.truthy
  · simp only [htruthy, Bool.not_true, Bool.false_eq_true, if_false] at h
    cases ht : refListText refs with
    | error e => rw [ht] at h; cases h
    | ok t =>
      rw [ht, Except.ok_bind] at h
      obtain ⟨hsorted, hlt, -⟩ := RangeList.offsets_spec h
      exact ⟨hsorted, hlt⟩
  · simp only [htruthy, Bool.not_false, if_true] at h
    cases h
    exact ⟨List.Pairwise.nil, by simp⟩

/-- **Reading what reading gave changes nothing.** The reference texts that a reference list is
read as, listed again, are read as the same texts. -/
theorem readingRefs_readingRefs {refs : Json} {out : List String}
    (h : readingRefs refs = .ok out) : readingRefs (.arr (out.map Json.str)) = .ok out := by
  unfold readingRefs at h ⊢
  cases hl : listedOffsets refs with
  | error e => rw [hl] at h; cases h
  | ok os =>
    rw [hl] at h
    cases h
    obtain ⟨hsorted, hlt⟩ := listedOffsets_sorted hl
    cases os with
    | nil => rfl
    | cons o os' =>
      -- the texts are those of single verses, written with commas between them
      let items := (o :: os').map fun p : Nat => RangeItem.verse (Verse.ofOffset p)
      have htexts : items.map RangeItem.text = (o :: os').map Canon.refText := by
        simp only [items, List.map_map]
        refine List.map_congr_left fun p hp => ?_
        simp [Verse.text, Verse.ofOffset_offset (hlt p hp)]
      obtain ⟨os2, hos2, hsorted2, hmem2⟩ :=
        RangeList.offsets_written (show ',' = ',' ∨ ',' = ';' from Or.inl rfl) items
      have hsame : os2 = o :: os' := by
        refine hsorted2.eq_of_mem_iff hsorted fun p => ?_
        rw [hmem2]
        simp only [items, List.mem_map]
        constructor
        · rintro ⟨_, ⟨q, hq, rfl⟩, hp⟩
          rw [RangeItem.offsets_verse, List.mem_singleton, Verse.ofOffset_offset (hlt q hq)] at hp
          exact hp ▸ hq
        · intro hp
          refine ⟨_, ⟨p, hp, rfl⟩, ?_⟩
          rw [RangeItem.offsets_verse, List.mem_singleton, Verse.ofOffset_offset (hlt p hp)]
      rw [htexts, ← RangeList.comma_eq, hsame] at hos2
      have htruthy : (Json.arr (((o :: os').map Canon.refText).map Json.str)).truthy = true := rfl
      simp only [listedOffsets, htruthy, Bool.not_true, Bool.false_eq_true, if_false,
        refListText_strs, Except.ok_bind, hos2]
      rfl

end Web

namespace RangeList

/-- **Reading back what the site writes.** Reference texts of verses and texts of ranges,
written one after another with commas or semicolons between them, are read as exactly the
verses they cover, in increasing order and each once. A range text alone is read as one range
with the same ends, and listing the reference texts that a reference list is read as gives the
same texts again. -/
theorem writtenItems_readBack {sep : Char} (hsep : sep = ',' ∨ sep = ';')
    (items : List RangeItem) :
    (∃ os, offsets (String.intercalate (String.singleton sep) (items.map RangeItem.text)) = .ok os ∧
        os.Pairwise (· < ·) ∧ ∀ o, o ∈ os ↔ ∃ it ∈ items, o ∈ it.offsets) ∧
      (∀ r : VerseRange, ∃ r' : VerseRange, parse r.text = .ok [.range r'] ∧
        r'.lower.offset = r.lower.offset ∧ r'.upper.offset = r.upper.offset) ∧
      ∀ (refs : Json) (out : List String), Web.readingRefs refs = .ok out →
        Web.readingRefs (.arr (out.map Json.str)) = .ok out :=
  ⟨offsets_written hsep items, parse_rangeText, fun _ _ => Web.readingRefs_readingRefs⟩

/-- The last verse of the Bible followed by the range from it to itself, written with a
semicolon between them, is read back as that verse. -/
theorem lastVerse_list_readBack :
    (';' = ',' ∨ ';' = ';') ∧
      ((∃ os, offsets (String.intercalate (String.singleton ';')
          ([RangeItem.verse VerseRange.defaultUpper,
            RangeItem.range (VerseRange.make VerseRange.defaultUpper VerseRange.defaultUpper)].map
            RangeItem.text)) = .ok os ∧
          os.Pairwise (· < ·) ∧ ∀ o, o ∈ os ↔ ∃ it ∈ [RangeItem.verse VerseRange.defaultUpper,
            RangeItem.range (VerseRange.make VerseRange.defaultUpper VerseRange.defaultUpper)],
            o ∈ it.offsets) ∧
        (∀ r : VerseRange, ∃ r' : VerseRange, parse r.text = .ok [.range r'] ∧
          r'.lower.offset = r.lower.offset ∧ r'.upper.offset = r.upper.offset) ∧
        ∀ (refs : Json) (out : List String), Web.readingRefs refs = .ok out →
          Web.readingRefs (.arr (out.map Json.str)) = .ok out) :=
  ⟨Or.inr rfl, writtenItems_readBack (Or.inr rfl) _⟩

end RangeList

end Scripture
