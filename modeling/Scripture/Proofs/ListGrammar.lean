import Mathlib
import Scripture.Proofs.RangeWalk
import Scripture.Proofs.SpelledReference
import Scripture.Proofs.VerseNaming

/-!
# Reading reference lists written in the reference-list grammar

The reference-list grammar has items that name a verse (`B C:V`), a run of verses
(`B C:V1-V2`), a list of verses and runs (`B C:X1,X2,...`), a range across chapters
(`B C1:V1-C2:V2`), a chapter or a list of chapters (`B C`, `B C1,C2,...`), or the books from one
book to another (`B1-B2`); each book is written by its full or short name, in any case, with a
blank before the chapter or without.

Reading such a list cuts it into pieces whose book runs up to the first digit or hyphen and
whose chapters take every digit, comma and hyphen after it. So a comma after a chapter list is
taken as one more, empty, chapter, which is read as chapter 1; a comma before a book that starts
with a digit is taken as a verse of the item before; and the book that closes a range of books
runs on into the items after it. Items separated by semicolons, with a range of books only as
the last item and its second book not starting with a digit, are read as exactly the verses the
items name (`offsets_listed`).

* `ListItem` — the items of the grammar, with their texts, the pieces their texts are cut into,
  and the offsets of the verses they name.
* `ListItem.pieces_listed` — a list of items written with semicolons is cut into the items'
  pieces.
* `ListItem.read_pieces` — reading an item's pieces adds items of the reference list covering
  exactly the verses the item names.
* `RangeList.offsets_listed` — the verses read from a list are those its items name, in order
  and each once.
-/

namespace Scripture

open RangeList (Piece isBookChar isChapterChar isVerseChar)

/-- A verse of a verse list: one verse, or a run of verses from the first to the second. -/
inductive VerseEntry where
  | one (v : Nat)
  | run (a b : Nat)

namespace VerseEntry

/-- The text an entry is written as: its verse, or the two ends of its run joined by a
hyphen. -/
def text : VerseEntry → String
  | one v => toString v
  | run a b => toString a ++ "-" ++ toString b

/-- An entry names verses of chapter `c` of book `b`, the first of a run not after its last. -/
def Valid (b c : Nat) : VerseEntry → Prop
  | one v => 0 < v ∧ v ≤ Canon.versesOf b c
  | run v v' => 0 < v ∧ v ≤ v' ∧ v' ≤ Canon.versesOf b c

/-- The offsets of the verses an entry names in chapter `c` of book `b`. -/
def offsets (b c : Nat) : VerseEntry → List Nat
  | one v => [(Canon.countedOffset b c v).toNat]
  | run v v' =>
    VerseRange.span (Canon.countedOffset b c v).toNat (Canon.countedOffset b c v').toNat

end VerseEntry

/-- An item of a reference list in the reference-list grammar, its book spelled any way and
written with a blank before the chapter or without: verses of a chapter, a range across
chapters, whole chapters, or the books from one book to another. -/
inductive ListItem where
  | verses (w : BookText) (spaced : Bool) (c : Nat) (es : List VerseEntry)
  | across (w : BookText) (spaced : Bool) (c v c' v' : Nat)
  | chapters (w : BookText) (spaced : Bool) (cs : List Nat)
  | books (w w' : BookText)

namespace ListItem

/-- The entries of a verse list with commas between them. -/
def versesText (es : List VerseEntry) : String := ",".intercalate (es.map VerseEntry.text)

/-- The chapters of a chapter list with commas between them. -/
def chaptersText (cs : List Nat) : String := ",".intercalate (cs.map toString)

/-- The text an item is written as. -/
def text : ListItem → String
  | verses w sp c es => w.text ++ gapText sp ++ toString c ++ ":" ++ versesText es
  | across w sp c v c' v' =>
    w.text ++ gapText sp ++ toString c ++ ":" ++ toString v ++ "-" ++ toString c' ++ ":" ++
      toString v'
  | chapters w sp cs => w.text ++ gapText sp ++ chaptersText cs
  | books w w' => w.text ++ "-" ++ w'.text

/-- Whether an item is a range of books. -/
def IsBooks : ListItem → Prop
  | books _ _ => True
  | _ => False

/-- An item names verses of the Bible: its chapters are chapters of its book and its verses
verses of their chapters, each range runs forwards, and the second book of a range of books,
which does not start with a digit, is not before the first. -/
def Valid : ListItem → Prop
  | verses w _ c es => Canon.IsChapter w.book c ∧ es ≠ [] ∧ ∀ e ∈ es, e.Valid w.book c
  | across w _ c v c' v' =>
    Canon.IsChapter w.book c ∧ 0 < v ∧ v ≤ Canon.versesOf w.book c ∧
      Canon.IsChapter w.book c' ∧ 0 < v' ∧ v' ≤ Canon.versesOf w.book c' ∧
      Canon.countedOffset w.book c v ≤ Canon.countedOffset w.book c' v'
  | chapters w _ cs => cs ≠ [] ∧ ∀ c ∈ cs, Canon.IsChapter w.book c
  | books w w' => w.book ≤ w'.book ∧ ∀ x ∈ w'.text.toList.head?, Text.isDigit x = false

/-- The offsets of the verses an item names: its verses and runs, every verse between the ends
of its range, every verse of its chapters, or every verse from the first verse of its first book
to the last verse of its second. -/
def offsets : ListItem → List Nat
  | verses w _ c es => es.flatMap (·.offsets w.book c)
  | across w _ c v c' v' =>
    VerseRange.span (Canon.countedOffset w.book c v).toNat
      (Canon.countedOffset w.book c' v').toNat
  | chapters w _ cs => cs.flatMap fun c =>
    VerseRange.span (Canon.countedOffset w.book c 1).toNat
      (Canon.countedOffset w.book c (Canon.versesOf w.book c)).toNat
  | books w w' =>
    VerseRange.span (Canon.countedOffset w.book 1 1).toNat
      (Canon.countedOffset w'.book (Canon.chaptersOf w'.book)
        (Canon.versesOf w'.book (Canon.chaptersOf w'.book))).toNat

/-- The pieces an item's text is cut into: one, or for a range of books one for each book. -/
def pieces : ListItem → List Piece
  | verses w sp c es => [⟨w.text ++ gapText sp, toString c, versesText es⟩]
  | across w sp c v c' v' =>
    [⟨w.text ++ gapText sp, toString c, toString v ++ "-" ++ toString c' ++ ":" ++ toString v'⟩]
  | chapters w sp cs => [⟨w.text ++ gapText sp, chaptersText cs, ""⟩]
  | books w w' => [⟨w.text, "", ""⟩, ⟨w'.text, "", ""⟩]

end ListItem

/-! ### Cutting items into pieces -/

namespace RangeList

theorem toList_hyphen : "-".toList = ['-'] := rfl

theorem toList_colon : ":".toList = [':'] := rfl

theorem toList_comma : ",".toList = [','] := rfl

theorem toList_semicolon : ";".toList = [';'] := rfl

/-- A spelled book, a blank or none, and then a digit: the book is read up to the digit. -/
theorem bookPart?_spelled (w : BookText) (sp : Bool) {d : Char} (hd : d.isDigit)
    (rest : List Char) :
    bookPart? ((w.text ++ gapText sp).toList ++ d :: rest) =
      some ((w.text ++ gapText sp).toList, d :: rest) := by
  have hgap : ∀ c ∈ (gapText sp).toList, isBookChar c := by
    intro c hc
    have := (gapText_blank sp).2
    rw [String.toList_append, List.all_append, Bool.and_eq_true] at this
    exact List.all_eq_true.mp this.1 c hc
  rw [String.toList_append]
  exact bookPart?_of_nameShape w.shape hgap (by simpa using (digit_classes hd).1)

/-- **The piece of a book, chapter and verses.** A spelled book, a blank or none, a chapter,
a colon and verse characters, followed by no verse character, are one piece. -/
theorem pieceAfter_chapterVerses (w : BookText) (sp : Bool) (c : Nat) {vs more : List Char}
    (hvs : ∀ x ∈ vs, isVerseChar x) (hmore : ∀ x ∈ more.head?, isVerseChar x = false) :
    pieceAfter ((w.text ++ gapText sp).toList ++ ((toString c).toList ++ ':' :: (vs ++ more))) =
      some (⟨w.text ++ gapText sp, toString c, String.ofList vs⟩,
        (w.text ++ gapText sp).length + (toString c).length + 1 + vs.length) := by
  obtain ⟨d, ds, hds⟩ := List.exists_cons_of_ne_nil (toString_ne_nil c)
  have hCd : ∀ x ∈ (toString c).toList, x.isDigit := fun x hx => isDigit_of_mem_toString hx
  have hd : d.isDigit := hCd d (by rw [hds]; exact List.mem_cons_self)
  rw [pieceAfter, hds, List.cons_append, bookPart?_spelled w sp hd, ← List.cons_append, ← hds]
  have hsep : ((toString c).toList ++ ':' :: (vs ++ more)).takeWhile
      (fun c => Text.isBlank c || c == '-') = [] :=
    (run_empty fun x hx => by
      rw [hds, List.cons_append, List.head?_cons, Option.mem_def, Option.some.injEq] at hx
      exact hx ▸ (digit_classes hd).2.2.2).1
  have hchap : ((toString c).toList ++ ':' :: (vs ++ more)).takeWhile isChapterChar =
      (toString c).toList :=
    (Text.run_exact (fun x hx => (digit_classes (hCd x hx)).2.1) (by
      simp only [List.head?_cons, Option.mem_def, Option.some.injEq, forall_eq']
      decide)).1
  have hverses : (vs ++ more).takeWhile isVerseChar = vs := (Text.run_exact hvs hmore).1
  simp only [Option.bind_eq_bind, Option.bind_some, hsep, List.length_nil, List.drop_zero, hchap,
    List.drop_left, List.drop_succ_cons, hverses, String.ofList_toList, Option.pure_def,
    Option.some.injEq, Prod.mk.injEq, true_and]
  simp only [← String.length_toList]
  omega

/-- **The piece of a book and chapters.** A spelled book, a blank or none, and chapter
characters that start with a digit, followed by no chapter or verse character, are one
piece. -/
theorem pieceAfter_chapters (w : BookText) (sp : Bool) {d : Char} {ch more : List Char}
    (hd : d.isDigit) (hch : ∀ x ∈ ch, isChapterChar x)
    (hmore : ∀ x ∈ more.head?, isChapterChar x = false ∧ isVerseChar x = false) :
    pieceAfter ((w.text ++ gapText sp).toList ++ (d :: ch ++ more)) =
      some (⟨w.text ++ gapText sp, String.ofList (d :: ch), ""⟩,
        (w.text ++ gapText sp).length + (ch.length + 1)) := by
  rw [pieceAfter, List.cons_append, bookPart?_spelled w sp hd, ← List.cons_append]
  have hsep : (d :: ch ++ more).takeWhile (fun c => Text.isBlank c || c == '-') = [] :=
    (run_empty fun x hx => by
      rw [List.cons_append, List.head?_cons, Option.mem_def, Option.some.injEq] at hx
      exact hx ▸ (digit_classes hd).2.2.2).1
  have hall : ∀ x ∈ d :: ch, isChapterChar x := by
    intro x hx
    rcases List.mem_cons.mp hx with rfl | hx
    · exact (digit_classes hd).2.1
    · exact hch x hx
  have hchap : (d :: ch ++ more).takeWhile isChapterChar = d :: ch :=
    (Text.run_exact hall fun x hx => (hmore x hx).1).1
  have hverses : more.takeWhile isVerseChar = [] := (run_empty fun x hx => (hmore x hx).2).1
  simp only [Option.bind_eq_bind, Option.bind_some, hsep, List.length_nil, List.drop_zero, hchap,
    List.drop_left, Option.pure_def, Option.some.injEq, Prod.mk.injEq]
  -- no colon follows the chapters, and so no verses
  split
  · rename_i tail
    exact absurd (hmore ':' rfl).2 (by decide)
  · simp only [List.drop_zero, hverses, String.ofList_nil, List.length_nil, String.ofList_toList,
      ← String.length_toList, List.length_cons, true_and]
    omega

/-- A spelled book that does not start with a digit starts no run of blanks, hyphens, chapter
or verse characters. -/
theorem head_spelled (w : BookText) (hw : ∀ x ∈ w.text.toList.head?, Text.isDigit x = false)
    (more : List Char) : ∀ x ∈ (w.text.toList ++ more).head?,
      (Text.isBlank x || x == '-') = false ∧ isChapterChar x = false ∧
        isVerseChar x = false := by
  obtain ⟨x, body, hx, -, hclasses⟩ := head_of_nameShape w.shape
  intro y hy
  rw [hx, List.cons_append, List.head?_cons, Option.mem_def, Option.some.injEq] at hy
  obtain ⟨hverse, hchapter, hsep⟩ := hclasses (hw x (by rw [hx]; rfl))
  exact hy ▸ ⟨hsep, hchapter, hverse⟩

/-- **The first piece of a range of books.** A spelled book and a hyphen, followed by a spelled
book that does not start with a digit, are one piece with neither chapters nor verses. -/
theorem pieceAfter_bookRange (w w' : BookText)
    (hw' : ∀ x ∈ w'.text.toList.head?, Text.isDigit x = false) (more : List Char) :
    pieceAfter (w.text.toList ++ '-' :: (w'.text.toList ++ more)) =
      some (⟨w.text, "", ""⟩, w.text.length + 1) := by
  have hhead := head_spelled w' hw' more
  have hpart : bookPart? (w.text.toList ++ '-' :: (w'.text.toList ++ more)) =
      some (w.text.toList, '-' :: (w'.text.toList ++ more)) := by
    have h : bookPart? (w.text.toList ++ [] ++ '-' :: (w'.text.toList ++ more)) =
        some (w.text.toList ++ [], '-' :: (w'.text.toList ++ more)) :=
      bookPart?_of_nameShape w.shape (by simp)
        (by simp only [List.head?_cons, Option.mem_def, Option.some.injEq, forall_eq']; decide)
    rwa [List.append_nil] at h
  have hsep : ('-' :: (w'.text.toList ++ more)).takeWhile (fun c => Text.isBlank c || c == '-') =
      ['-'] := by
    rw [List.takeWhile_cons_of_pos (by decide), (run_empty fun x hx => (hhead x hx).1).1]
  have hchap : (w'.text.toList ++ more).takeWhile isChapterChar = [] :=
    (run_empty fun x hx => (hhead x hx).2.1).1
  have hverses : (w'.text.toList ++ more).takeWhile isVerseChar = [] :=
    (run_empty fun x hx => (hhead x hx).2.2).1
  rw [pieceAfter, hpart]
  simp only [Option.bind_eq_bind, Option.bind_some, hsep, List.length_singleton, List.drop_one,
    List.tail_cons, hchap, List.length_nil, List.drop_zero, Option.pure_def, Option.some.injEq,
    Prod.mk.injEq]
  -- no colon follows, and so no verses
  split
  · rename_i tail htail
    have := hhead ':' (by rw [htail]; rfl)
    exact absurd this.2.2 (by decide)
  · simp only [List.drop_zero, hverses, String.ofList_nil, String.ofList_toList, List.length_nil,
      ← String.length_toList, true_and]

/-- **The last piece of a range of books.** A spelled book alone is one piece with neither
chapters nor verses. -/
theorem pieceAfter_lastBook (w : BookText) :
    pieceAfter w.text.toList = some (⟨w.text, "", ""⟩, w.text.length) := by
  have hpart : bookPart? w.text.toList = some (w.text.toList, []) := by
    have h : bookPart? (w.text.toList ++ [] ++ []) = some (w.text.toList ++ [], []) :=
      bookPart?_of_nameShape w.shape (by simp) (by simp)
    rwa [List.append_nil, List.append_nil] at h
  rw [pieceAfter, hpart]
  simp [← String.length_toList]

/-- A text that does not start with a semicolon starts its piece at once. -/
theorem pieceAt_of_head {cs : List Char} (h : ∀ x ∈ cs.head?, x ≠ ';') :
    pieceAt cs = pieceAfter cs := by
  cases cs with
  | nil => rfl
  | cons x more =>
    have hx : x ≠ ';' := h x rfl
    unfold pieceAt
    split
    · simp_all
    · rfl

/-- A semicolon before a text that starts a piece is taken along with that piece. -/
theorem pieces_semicolon {cs : List Char} {p : Piece} {n : Nat} (h : pieceAfter cs = some (p, n))
    (hn : 0 < n) (hhead : ∀ x ∈ cs.head?, x ≠ ';') : pieces (';' :: cs) = pieces cs := by
  have hat : pieceAt (';' :: cs) = some (p, n + 1) := by simp only [pieceAt, h]
  have hcs : pieces cs = p :: pieces (cs.drop n) :=
    pieces_of_pieceAt (by rw [pieceAt_of_head hhead, h]) hn
  rw [pieces_of_pieceAt hat (by omega), List.drop_succ_cons, hcs]

/-- Every character of texts joined by a separator is one of the separator's or one of a
text's. -/
theorem chars_intercalate {p : Char → Bool} {sep : String} {l : List String}
    (hsep : ∀ x ∈ sep.toList, p x) (hl : ∀ s ∈ l, ∀ x ∈ s.toList, p x) :
    ∀ x ∈ (sep.intercalate l).toList, p x := by
  induction l with
  | nil => simp
  | cons s l ih =>
    cases l with
    | nil => simpa using hl s List.mem_cons_self
    | cons t l =>
      intro x hx
      rw [String.intercalate_cons_cons, String.toList_append, String.toList_append] at hx
      rcases List.mem_append.mp hx with hx | hx
      · rcases List.mem_append.mp hx with hx | hx
        · exact hl s List.mem_cons_self x hx
        · exact hsep x hx
      · exact ih (fun s' hs' => hl s' (List.mem_cons_of_mem _ hs')) x hx

/-- Texts joined by a separator start with the first text. -/
theorem toList_intercalate_cons (sep s : String) (l : List String) :
    ∃ rest, (sep.intercalate (s :: l)).toList = s.toList ++ rest := by
  cases l with
  | nil => exact ⟨[], by simp⟩
  | cons t l =>
    exact ⟨(sep ++ sep.intercalate (t :: l)).toList, by
      rw [String.intercalate_cons_cons, String.append_assoc, String.toList_append]⟩

end RangeList

namespace VerseEntry

open RangeList in
/-- An entry is written in verse characters. -/
theorem text_chars (e : VerseEntry) : ∀ x ∈ e.text.toList, isVerseChar x := by
  intro x hx
  cases e with
  | one v => exact (digit_classes (isDigit_of_mem_toString hx)).2.2.1
  | run a b =>
    simp only [text, String.toList_append, List.mem_append] at hx
    rcases hx with (hx | hx) | hx
    · exact (digit_classes (isDigit_of_mem_toString hx)).2.2.1
    · rw [toList_hyphen, List.mem_singleton] at hx
      subst hx
      decide
    · exact (digit_classes (isDigit_of_mem_toString hx)).2.2.1

/-- An entry holds no comma. -/
theorem comma_not_mem (e : VerseEntry) : ',' ∉ e.text.toList := by
  intro hx
  cases e with
  | one v => exact RangeList.not_mem_toString (by decide) hx
  | run a b =>
    simp only [text, String.toList_append, List.mem_append] at hx
    rcases hx with (hx | hx) | hx
    · exact RangeList.not_mem_toString (by decide) hx
    · exact absurd hx (by decide)
    · exact RangeList.not_mem_toString (by decide) hx

theorem text_ne_nil (e : VerseEntry) : e.text.toList ≠ [] := by
  cases e with
  | one v => exact RangeList.toString_ne_nil v
  | run a b =>
    rw [text, String.toList_append, String.toList_append]
    exact fun h => RangeList.toString_ne_nil a
      (List.append_eq_nil_iff.mp (List.append_eq_nil_iff.mp h).1).1

end VerseEntry

namespace ListItem

open RangeList

theorem versesText_chars (es : List VerseEntry) : ∀ x ∈ (versesText es).toList, isVerseChar x :=
  chars_intercalate (by simp only [toList_comma, List.mem_singleton, forall_eq]; decide)
    fun s hs => by
    obtain ⟨e, -, rfl⟩ := List.mem_map.mp hs
    exact e.text_chars

/-- A list of chapters is written in chapter characters, starting with a digit. -/
theorem chaptersText_chars {cs : List Nat} (hcs : cs ≠ []) :
    ∃ d ch, (chaptersText cs).toList = d :: ch ∧ d.isDigit ∧
      ∀ x ∈ ch, isChapterChar x := by
  have hall : ∀ x ∈ (chaptersText cs).toList, isChapterChar x :=
    chars_intercalate (by simp only [toList_comma, List.mem_singleton, forall_eq]; decide)
      fun s hs => by
      obtain ⟨c, -, rfl⟩ := List.mem_map.mp hs
      exact fun x hx => (digit_classes (isDigit_of_mem_toString hx)).2.1
  obtain ⟨c, cs', rfl⟩ := List.exists_cons_of_ne_nil hcs
  obtain ⟨d, ds, hds⟩ := List.exists_cons_of_ne_nil (toString_ne_nil c)
  -- the text starts with the first chapter's digits
  obtain ⟨rest, hrest⟩ := toList_intercalate_cons "," (toString c) (cs'.map toString)
  rw [← List.map_cons, ← chaptersText] at hrest
  rw [hrest, hds, List.cons_append] at hall ⊢
  exact ⟨d, ds ++ rest, rfl, isDigit_of_mem_toString (by rw [hds]; exact List.mem_cons_self),
    fun x hx => hall x (List.mem_cons_of_mem _ hx)⟩

/-- The text of an item starts with its first book. -/
theorem text_book (it : ListItem) :
    ∃ (w : BookText) (rest : List Char), it.text.toList = w.text.toList ++ rest := by
  cases it with
  | verses w sp c es =>
    exact ⟨w, _, by simp only [text, String.toList_append, List.append_assoc]; rfl⟩
  | across w sp c v c' v' =>
    exact ⟨w, _, by simp only [text, String.toList_append, List.append_assoc]; rfl⟩
  | chapters w sp cs =>
    exact ⟨w, _, by simp only [text, String.toList_append, List.append_assoc]; rfl⟩
  | books w w' => exact ⟨w, _, by simp only [text, String.toList_append, List.append_assoc]; rfl⟩

/-- The text of an item starts with a spelled book, and so with no semicolon. -/
theorem head_text (it : ListItem) (more : List Char) :
    ∀ x ∈ (it.text.toList ++ more).head?, x ≠ ';' := by
  obtain ⟨w, rest, htext⟩ := it.text_book
  obtain ⟨x, body, hx, hsemi, -⟩ := head_of_nameShape w.shape
  rw [htext, hx]
  simpa using hsemi

theorem text_length_pos (it : ListItem) : 0 < it.text.length := by
  obtain ⟨w, rest, htext⟩ := it.text_book
  obtain ⟨x, body, hx, -⟩ := head_of_nameShape w.shape
  rw [← String.length_toList, htext, hx]
  simp

/-- The verses of a range across chapters are written in verse characters. -/
theorem across_chars (v c' v' : Nat) :
    ∀ x ∈ (toString v ++ "-" ++ toString c' ++ ":" ++ toString v').toList, isVerseChar x := by
  intro x hx
  simp only [String.toList_append, List.mem_append, toList_hyphen,
    toList_colon, List.mem_singleton] at hx
  rcases hx with (((hx | rfl) | hx) | rfl) | hx
  all_goals first
    | exact (digit_classes (isDigit_of_mem_toString hx)).2.2.1
    | decide

section Pieces

variable (w : BookText) (sp : Bool) {more : List Char}

theorem pieceAfter_verses (c : Nat) (es : List VerseEntry)
    (hmore : ∀ x ∈ more.head?, isVerseChar x = false) :
    pieceAfter ((verses w sp c es).text.toList ++ more) =
      some (⟨w.text ++ gapText sp, toString c, versesText es⟩,
        (verses w sp c es).text.length) := by
  have htext : (verses w sp c es).text.toList ++ more = (w.text ++ gapText sp).toList ++
      ((toString c).toList ++ ':' :: ((versesText es).toList ++ more)) := by
    simp only [text, String.toList_append, List.append_assoc, toList_colon,
      List.cons_append, List.nil_append]
  rw [htext, pieceAfter_chapterVerses w sp c (versesText_chars es) hmore]
  simp [text, String.length_append, String.length_toList, show ":".length = 1 from rfl]

theorem pieceAfter_across (c v c' v' : Nat) (hmore : ∀ x ∈ more.head?, isVerseChar x = false) :
    pieceAfter ((across w sp c v c' v').text.toList ++ more) =
      some (⟨w.text ++ gapText sp, toString c,
        toString v ++ "-" ++ toString c' ++ ":" ++ toString v'⟩,
        (across w sp c v c' v').text.length) := by
  have htext : (across w sp c v c' v').text.toList ++ more = (w.text ++ gapText sp).toList ++
      ((toString c).toList ++
        ':' :: ((toString v ++ "-" ++ toString c' ++ ":" ++ toString v').toList ++ more)) := by
    simp only [text, String.toList_append, List.append_assoc, toList_colon,
      List.cons_append, List.nil_append]
  rw [htext, pieceAfter_chapterVerses w sp c (across_chars v c' v') hmore, String.ofList_toList,
    String.length_toList]
  simp only [text, String.length_append, show ":".length = 1 from rfl,
    show "-".length = 1 from rfl, Option.some.injEq, Prod.mk.injEq, true_and]
  omega

theorem pieceAfter_chapterList {cs : List Nat} (hcs : cs ≠ [])
    (hmore : ∀ x ∈ more.head?, isChapterChar x = false ∧ isVerseChar x = false) :
    pieceAfter ((chapters w sp cs).text.toList ++ more) =
      some (⟨w.text ++ gapText sp, chaptersText cs, ""⟩, (chapters w sp cs).text.length) := by
  obtain ⟨d, ch, hdc, hd, hch⟩ := chaptersText_chars hcs
  have htext : (chapters w sp cs).text.toList ++ more =
      (w.text ++ gapText sp).toList ++ (d :: ch ++ more) := by
    simp only [text, String.toList_append, hdc, List.append_assoc]
  rw [htext, pieceAfter_chapters w sp hd hch hmore, ← hdc, String.ofList_toList]
  simp only [text, String.length_append]
  rw [← String.length_toList (s := chaptersText cs), hdc, List.length_cons]

end Pieces

/-- **The piece of an item.** The text of an item other than a range of books, followed by
nothing or by a semicolon, is cut into the item's one piece. -/
theorem pieceAfter_item {it : ListItem} (hit : it.Valid) (hb : ¬ it.IsBooks) {more : List Char}
    (hmore : ∀ x ∈ more.head?, x = ';') :
    ∃ p, it.pieces = [p] ∧ pieceAfter (it.text.toList ++ more) = some (p, it.text.length) := by
  -- a semicolon ends the verses and the chapters of a piece
  have hstops : ∀ x ∈ more.head?, isChapterChar x = false ∧ isVerseChar x = false :=
    fun x hx => by
      rw [hmore x hx]
      decide
  have hverse : ∀ x ∈ more.head?, isVerseChar x = false := fun x hx => (hstops x hx).2
  cases it with
  | verses w sp c es => exact ⟨_, rfl, pieceAfter_verses w sp c es hverse⟩
  | across w sp c v c' v' => exact ⟨_, rfl, pieceAfter_across w sp c v c' v' hverse⟩
  | chapters w sp cs => exact ⟨_, rfl, pieceAfter_chapterList w sp hit.1 hstops⟩
  | books w w' => exact absurd trivial hb

/-- The text of an item, followed by nothing or, unless it is a range of books, by a semicolon,
starts a piece. -/
theorem pieceAfter_first {it : ListItem} (hit : it.Valid) {more : List Char}
    (hb : it.IsBooks → more = []) (hmore : ∀ x ∈ more.head?, x = ';') :
    ∃ p n, 0 < n ∧ pieceAfter (it.text.toList ++ more) = some (p, n) := by
  by_cases hbooks : it.IsBooks
  · obtain rfl := hb hbooks
    cases it with
    | books w w' =>
      have htext : (books w w').text.toList ++ [] =
          w.text.toList ++ '-' :: (w'.text.toList ++ []) := by
        simp [text, toList_hyphen]
      exact ⟨_, _, Nat.succ_pos _, by rw [htext, pieceAfter_bookRange w w' hit.2]⟩
    | _ => exact absurd hbooks id
  · obtain ⟨p, -, hp⟩ := pieceAfter_item hit hbooks hmore
    exact ⟨p, _, it.text_length_pos, hp⟩

/-- **The pieces of an item.** An item other than a range of books, followed by nothing or by a
semicolon and what comes after it, is cut into its piece and then the pieces of the rest. -/
theorem pieces_text {it : ListItem} (hit : it.Valid) (hb : ¬ it.IsBooks) {more : List Char}
    (hmore : ∀ x ∈ more.head?, x = ';') :
    RangeList.pieces (it.text.toList ++ more) = it.pieces ++ RangeList.pieces more := by
  obtain ⟨p, hp, hafter⟩ := pieceAfter_item hit hb hmore
  rw [pieces_of_pieceAt (by rw [pieceAt_of_head (head_text it more), hafter]) it.text_length_pos,
    hp, ← String.length_toList, List.drop_left]
  rfl

/-- A spelled book alone is cut into one piece. -/
theorem pieces_book (w : BookText) : RangeList.pieces w.text.toList = [⟨w.text, "", ""⟩] := by
  obtain ⟨x, body, hx, hsemi, -⟩ := head_of_nameShape w.shape
  have hhead : ∀ y ∈ w.text.toList.head?, y ≠ ';' := by
    rw [hx]
    simpa using hsemi
  have hpos : 0 < w.text.length := by
    rw [← String.length_toList, hx]
    simp
  rw [pieces_of_pieceAt (by rw [pieceAt_of_head hhead, pieceAfter_lastBook]) hpos,
    ← String.length_toList, List.drop_length, pieces_nil]

/-- **The pieces of a range of books.** A range of books alone is cut into one piece for each
book. -/
theorem pieces_books {w w' : BookText} (hit : (books w w').Valid) :
    RangeList.pieces (books w w').text.toList = (books w w').pieces := by
  have htext : (books w w').text.toList = w.text.toList ++ '-' :: (w'.text.toList ++ []) := by
    simp [text, toList_hyphen]
  have hhead : ∀ y ∈ (w.text.toList ++ '-' :: (w'.text.toList ++ [])).head?, y ≠ ';' := by
    rw [← htext, ← List.append_nil (books w w').text.toList]
    exact head_text _ []
  rw [htext, pieces_of_pieceAt (by rw [pieceAt_of_head hhead, pieceAfter_bookRange w w' hit.2])
    (Nat.succ_pos _)]
  rw [← String.length_toList, List.append_nil, Nat.succ_eq_add_one, List.drop_length_add_append,
    List.drop_one,
    List.tail_cons, pieces_book]
  rfl

/-- A list written with semicolons starts with its first item's text, followed by nothing when
the item is the only one and otherwise by a semicolon. -/
theorem listText_cons (it : ListItem) (rest : List ListItem) :
    ∃ more, (";".intercalate ((it :: rest).map text)).toList = it.text.toList ++ more ∧
      (rest = [] → more = []) ∧ ∀ x ∈ more.head?, x = ';' := by
  cases rest with
  | nil => exact ⟨[], by simp, fun _ => rfl, by simp⟩
  | cons it' rest =>
    refine ⟨';' :: (";".intercalate ((it' :: rest).map text)).toList, ?_,
      fun h => absurd h (List.cons_ne_nil _ _), by simp⟩
    rw [List.map_cons, List.map_cons, String.intercalate_cons_cons, String.toList_append,
      String.toList_append, ← List.map_cons]
    simp [toList_semicolon]

/-- **The pieces of a list.** Items written with semicolons between them, with a range of books
only as the last, are cut into the items' pieces, in order. -/
theorem pieces_listed : ∀ (items : List ListItem), (∀ it ∈ items, it.Valid) →
    (∀ it ∈ items.dropLast, ¬ it.IsBooks) →
    RangeList.pieces (";".intercalate (items.map text)).toList = items.flatMap pieces
  | [], _, _ => by simp [pieces_nil]
  | [it], hvalid, _ => by
    rw [List.map_singleton, String.intercalate_singleton, List.flatMap_singleton]
    by_cases hb : it.IsBooks
    · cases it with
      | books w w' => exact pieces_books (hvalid _ List.mem_cons_self)
      | _ => exact absurd hb id
    · have h := pieces_text (hvalid it List.mem_cons_self) hb
        (show ∀ x ∈ ([] : List Char).head?, x = ';' by simp)
      rwa [List.append_nil, pieces_nil, List.append_nil] at h
  | it :: it' :: rest, hvalid, hbooks => by
    have hb : ¬ it.IsBooks := hbooks it (by simp)
    have hit' : it'.Valid := hvalid it' (by simp)
    obtain ⟨more, hmore, hnil, hsemi⟩ := listText_cons it' rest
    -- a range of books as the second item is the last one, and nothing follows it
    have hb' : it'.IsBooks → more = [] := fun h => hnil (by
      cases rest with
      | nil => rfl
      | cons r rs => exact absurd h (hbooks it' (by simp)))
    obtain ⟨p, n, hn, hp⟩ := pieceAfter_first hit' hb' hsemi
    have htext : (";".intercalate ((it :: it' :: rest).map text)).toList =
        it.text.toList ++ ';' :: (";".intercalate ((it' :: rest).map text)).toList := by
      rw [List.map_cons, List.map_cons, String.intercalate_cons_cons, String.toList_append,
        String.toList_append, ← List.map_cons]
      simp [toList_semicolon]
    have hrest := pieces_listed (it' :: rest) (fun x hx => hvalid x (List.mem_cons_of_mem _ hx))
      (fun x hx => hbooks x (by rw [List.dropLast_cons_cons]; exact List.mem_cons_of_mem _ hx))
    rw [htext, pieces_text (hvalid it List.mem_cons_self) hb (by simp), hmore,
      pieces_semicolon hp hn (head_text it' more), ← hmore, hrest]
    exact List.flatMap_cons.symm

end ListItem

/-! ### Reading the pieces of items -/

namespace RangeList

/-- A text made of two parts joined by a character neither holds splits into the two parts. -/
theorem splitTwo_joined {a b : String} {c : Char} (ha : c ∉ a.toList) (hb : c ∉ b.toList) :
    splitTwo (a ++ String.singleton c ++ b) (String.singleton c) = .ok (a, b) := by
  rw [splitTwo, Text.splitOn_singleton, String.toList_append, String.toList_append,
    String.toList_singleton, List.append_assoc, List.singleton_append,
    List.splitOn_append_cons_self_of_not_mem ha, List.splitOn_eq_singleton hb]
  simp

/-- Texts with commas between them, none holding a comma, are split back at the commas. -/
theorem splitOn_intercalate_comma {l : List String} (hl : l ≠ [])
    (h : ∀ s ∈ l, ',' ∉ s.toList) : (",".intercalate l).splitOn "," = l := by
  rw [comma_eq, Text.splitOn_singleton, String.toList_intercalate, String.toList_singleton,
    List.splitOn_intercalate ',' (by simpa using h) (by simpa using hl), List.map_map]
  simp

/-- A text that ends in a number ends in no hyphen. -/
theorem append_toString_endsWith_hyphen (s : String) (n : Nat) :
    (s ++ toString n).endsWith "-" = false := by
  rw [Bool.eq_false_iff, ne_eq, String.endsWith_eq_endsWith_toSlice,
    String.Slice.endsWith_string_iff, String.copy_toSlice]
  rintro ⟨pre, hpre⟩
  have hlast := congrArg List.getLast? hpre
  rw [String.toList_append, List.getLast?_append_of_ne_nil _ (toString_ne_nil n),
    toList_hyphen, List.getLast?_concat] at hlast
  exact not_mem_toString (show ('-').isDigit = false by decide) (List.mem_of_getLast? hlast.symm)

theorem hyphen_eq : ("-" : String) = String.singleton '-' := by decide

theorem colon_eq : (":" : String) = String.singleton ':' := by decide

section Verses

variable (book chapter : String)

/-- A run of verses of the chapter, read while no range is open, is the range between them. -/
theorem readVerses_run (a b : Nat) (vs : List String) {st : State} (hopen : st.openRange = "") :
    readVerses book chapter ((toString a ++ "-" ++ toString b) :: vs) st =
      rangeOf (refText book chapter (toString a)) (refText book chapter (toString b)) >>= fun r =>
        readVerses book chapter vs
          { st with items := st.items ++ [.range r], openRange := "" } := by
  have hsplit : splitTwo (toString a ++ "-" ++ toString b) "-" = .ok (toString a, toString b) := by
    rw [hyphen_eq]
    exact splitTwo_joined (not_mem_toString (by decide)) (not_mem_toString (by decide))
  rw [readVerses, if_neg (by rw [String.append_assoc, toString_append_isEmpty]; decide),
    if_neg (by simp [hopen]), if_neg (by rw [append_toString_endsWith_hyphen]; decide),
    if_pos (by simp [String.contains_char_eq, toList_hyphen]), hsplit]
  simp only [Except.ok_bind, toString_contains (show (':').isDigit = false by decide),
    Bool.false_eq_true, if_false, pure_bind]

/-- A run from a verse of the chapter to verse `v'` of chapter `c'`, read while no range is open,
is the range between them. -/
theorem readVerses_across (a c' v' : Nat) (vs : List String) {st : State}
    (hopen : st.openRange = "") :
    readVerses book chapter ((toString a ++ "-" ++ toString c' ++ ":" ++ toString v') :: vs) st =
      rangeOf (refText book chapter (toString a)) (refText book (toString c') (toString v')) >>=
        fun r => readVerses book chapter vs
          { st with items := st.items ++ [.range r], openRange := "" } := by
  have hend : '-' ∉ (toString c' ++ ":" ++ toString v').toList := by
    simp only [String.toList_append, List.mem_append, not_or]
    exact ⟨⟨not_mem_toString (by decide), by decide⟩, not_mem_toString (by decide)⟩
  have hsplit : splitTwo (toString a ++ "-" ++ toString c' ++ ":" ++ toString v') "-" =
      .ok (toString a, toString c' ++ ":" ++ toString v') := by
    rw [show toString a ++ "-" ++ toString c' ++ ":" ++ toString v' =
      toString a ++ "-" ++ (toString c' ++ ":" ++ toString v') by simp only [String.append_assoc],
      hyphen_eq]
    exact splitTwo_joined (not_mem_toString (by decide)) hend
  have hsplit' : splitTwo (toString c' ++ ":" ++ toString v') ":" =
      .ok (toString c', toString v') := by
    rw [colon_eq]
    exact splitTwo_joined (not_mem_toString (by decide)) (not_mem_toString (by decide))
  have hcolon : (toString c' ++ ":" ++ toString v').contains ':' = true := by
    simp [String.contains_char_eq, toList_colon]
  rw [readVerses, if_neg (by rw [String.append_assoc, String.append_assoc, String.append_assoc,
      toString_append_isEmpty]; decide),
    if_neg (by simp [hopen]), if_neg (by rw [append_toString_endsWith_hyphen]; decide),
    if_pos (by simp [String.contains_char_eq, toList_hyphen]), hsplit]
  simp only [Except.ok_bind, hcolon, if_true, hsplit']

end Verses

/-- A piece with one chapter and verses, read while no book span is open, is read as its verses
in that chapter. -/
theorem readPiece_chapterVerses (book : String) (c : Nat) {vtext : String}
    (hv : vtext.isEmpty = false) (acc : List RangeItem) :
    readPiece { items := acc } ⟨book, toString c, vtext⟩ =
      readVerses book (toString c) (vtext.splitOn ",") { items := acc } := by
  have hempty : ("" : String).isEmpty = true := rfl
  unfold readPiece
  simp only [hempty, Bool.not_true, Bool.false_eq_true, if_false, toString_isEmpty, hv,
    Bool.and_false, comma_eq,
    splitOn_of_not_mem (not_mem_toString (show (',').isDigit = false by decide)),
    List.dropLast_singleton, pure_bind, List.foldlM_nil, bind_pure]
  rfl

/-- A piece of chapters without verses, read while no book span is open, is read as the whole
chapters. -/
theorem readPiece_chapters (book : String) {ctext : String} (hc : ctext.isEmpty = false)
    (acc : List RangeItem) :
    readPiece { items := acc } ⟨book, ctext, ""⟩ =
      (ctext.splitOn ",").foldlM (fun st c => do
        let item ← chapterRange book c
        pure { st with items := st.items ++ [item] }) { items := acc } := by
  have hempty : ("" : String).isEmpty = true := rfl
  unfold readPiece
  simp only [hempty, Bool.not_true, Bool.false_eq_true, if_false, hc, Bool.false_and, if_true,
    pure_bind]

/-- A piece with neither chapters nor verses, read while no book span is open, opens one at its
book. -/
theorem readPiece_openBook (book : String) (acc : List RangeItem) :
    readPiece { items := acc } ⟨book, "", ""⟩ =
      .ok { items := acc, openBook := book ++ " 1:1" } := by
  have hempty : ("" : String).isEmpty = true := rfl
  unfold readPiece
  simp only [hempty, Bool.not_true, Bool.false_eq_true, if_false, Bool.and_self, if_true]
  rfl

/-- A piece read while a book span is open closes it at the last verse of the piece's book. -/
theorem readPiece_closeBook {opened : String} (hopen : opened.isEmpty = false) (p : Piece)
    (acc : List RangeItem) :
    readPiece { items := acc, openBook := opened } p =
      (Verse.ofText (p.book ++ " 1:1") >>= fun last =>
        rangeOf opened last.maxChapter.maxVerse.text >>= fun r =>
          pure { items := acc ++ [.range r] }) := by
  unfold readPiece
  simp only [hopen, Bool.not_false, if_true]

theorem isEmpty_of_toList {s : String} (h : s.toList ≠ []) : s.isEmpty = false := by
  rw [Bool.eq_false_iff, ne_eq, String.isEmpty_iff]
  rintro rfl
  exact h rfl

end RangeList

/-! ### Reading spelled verses back -/

namespace Canon

theorem countedOffset_mono (b c : Nat) {v v' : Int} (h : v ≤ v') :
    countedOffset b c v ≤ countedOffset b c v' := by
  unfold countedOffset
  omega

/-- The first verse of a book comes no later than any verse of that book or of a later one. -/
theorem countedOffset_first_le {b b' c' : Nat} (hle : b ≤ b') (h' : IsChapter b' c') {v' : Int}
    (hv' : 1 ≤ v') : countedOffset b 1 1 ≤ countedOffset b' c' v' := by
  have hstart := bookStart_le_bookStart hle h'.book_lt.le
  have hpos := h'.chapter_pos
  have hmono : chapterStart (chapterIndex b 1) ≤ chapterStart (chapterIndex b' c') :=
    chapterStart_le_chapterStart (by unfold chapterIndex; omega)
      (chapterIndex_lt_chapterTotal h').le
  unfold countedOffset
  omega

end Canon

namespace Verse

/-- A consistent verse lies at the offset its position counts to. -/
theorem Consistent.offset_eq {w : Verse} (hw : w.Consistent) :
    (w.offset : Int) = Canon.countedOffset w.named.book w.named.chapter w.named.verse := by
  have h := hw.offset
  rw [Canon.offsetOf_of_isChapter hw.named.chapter (by exact_mod_cast hw.named.verse_le)] at h
  exact (Except.ok.inj h).symm

/-- The reference text of a verse of the Bible is read as that verse. -/
theorem ofText_positionText {p : Position} (hp : p.IsVerse) :
    ∃ x, ofText p.text = .ok x ∧
      (x.offset : Int) = Canon.countedOffset p.book p.chapter p.verse := by
  have hb := hp.chapter.book_lt
  obtain ⟨hshape, -, -, -⟩ := names_shape ⟨p.book, hb⟩
  have hidx := (bookName_written hb (g := "") (by decide) (by decide)).2
  rw [String.append_empty] at hidx
  obtain ⟨x, hx, hxo, -⟩ := Canon.ofText_written
    (bookName_written hb (g := " ") (by decide +kernel) (by decide +kernel)).1
    (any_not_blank_of_nameShape hshape) hidx hp.chapter hp.verse_pos hp.verse_le
  exact ⟨x, hx, hxo⟩

/-- The reference text of a consistent verse is read back as a verse at its offset. -/
theorem Consistent.ofText_text {w : Verse} (hw : w.Consistent) :
    ∃ x, ofText w.text = .ok x ∧ x.offset = w.offset := by
  obtain ⟨x, hx, hxo⟩ := ofText_positionText hw.named
  have hwo := hw.offset_eq
  refine ⟨x, by rw [hw.text]; exact hx, by omega⟩

end Verse

/-- A range between two verses in order covers the verses between them. -/
theorem VerseRange.offsets_make {a b : Verse} (h : a.offset ≤ b.offset) :
    (VerseRange.make a b).offsets = VerseRange.span a.offset b.offset := by
  rw [VerseRange.offsets_eq_span, (RangeList.make_of_le h).1, (RangeList.make_of_le h).2]

namespace BookText

open RangeList

variable (w : BookText) (sp : Bool)

/-- A verse of a spelled book, written as the reading of a piece writes it, is read as that
verse. -/
theorem ofText_refText {c v : Nat} (hc : Canon.IsChapter w.book c) (hpos : 0 < v)
    (hle : v ≤ Canon.versesOf w.book c) :
    ∃ x, Verse.ofText (refText (w.text ++ gapText sp) (toString c) (toString v)) = .ok x ∧
      x.offset = (Canon.countedOffset w.book c v).toNat ∧ x.named = ⟨w.book, c, v⟩ := by
  obtain ⟨x, hx, hxo, hxn⟩ := w.ofText_spelled sp hc hpos hle
  exact ⟨x, hx, by omega, hxn⟩

/-- The range between two verses of a spelled book, in order, covers the verses between them. -/
theorem rangeOf_refText {c v c' v' : Nat} (hc : Canon.IsChapter w.book c) (hpos : 0 < v)
    (hle : v ≤ Canon.versesOf w.book c) (hc' : Canon.IsChapter w.book c') (hpos' : 0 < v')
    (hle' : v' ≤ Canon.versesOf w.book c')
    (hord : Canon.countedOffset w.book c v ≤ Canon.countedOffset w.book c' v') :
    ∃ r, rangeOf (refText (w.text ++ gapText sp) (toString c) (toString v))
        (refText (w.text ++ gapText sp) (toString c') (toString v')) = .ok r ∧
      r.offsets = VerseRange.span (Canon.countedOffset w.book c v).toNat
        (Canon.countedOffset w.book c' v').toNat := by
  obtain ⟨x, hx, hxo, -⟩ := w.ofText_refText sp hc hpos hle
  obtain ⟨y, hy, hyo, -⟩ := w.ofText_refText sp hc' hpos' hle'
  refine ⟨VerseRange.make x y, by rw [rangeOf, hx, hy]; rfl, ?_⟩
  rw [VerseRange.offsets_make (by omega), hxo, hyo]

/-- A chapter of a spelled book is read as the range of the whole chapter. -/
theorem chapterRange_refText {c : Nat} (hc : Canon.IsChapter w.book c) :
    ∃ r, chapterRange (w.text ++ gapText sp) (toString c) = .ok (.range r) ∧
      r.offsets = VerseRange.span (Canon.countedOffset w.book c 1).toNat
        (Canon.countedOffset w.book c (Canon.versesOf w.book c)).toNat := by
  have hverses := Canon.versesOf_pos hc
  obtain ⟨x, hx, hxo, hxn⟩ := w.ofText_refText sp hc Nat.one_pos hverses
  rw [Nat.cast_one] at hxo
  obtain ⟨hmn, hmc⟩ := (Verse.ofText_consistent hx).maxVerse
  have hmo := hmc.offset_eq
  simp only [hmn, hxn] at hmo
  have hord := Canon.countedOffset_mono w.book c (show (1 : Int) ≤ Canon.versesOf w.book c by
    exact_mod_cast hverses)
  refine ⟨VerseRange.make x x.maxVerse, ?_, ?_⟩
  · rw [chapterRange, show "1" = toString 1 from rfl, hx]
    rfl
  · rw [VerseRange.offsets_make (by omega), hxo]
    congr 1
    omega

/-- The first verse of a spelled book, written as the reading of a range of books writes it. -/
theorem ofText_firstVerse :
    ∃ x, Verse.ofText (w.text ++ " 1:1") = .ok x ∧
      x.offset = (Canon.countedOffset w.book 1 1).toNat ∧ x.named = ⟨w.book, 1, 1⟩ := by
  have h1 : Canon.IsChapter w.book 1 := ⟨w.book_lt, Nat.one_pos, Canon.chaptersOf_pos w.book_lt⟩
  obtain ⟨x, hx, hxo, hxn⟩ := w.ofText_spelled false h1 Nat.one_pos (Canon.versesOf_pos h1)
  rw [Nat.cast_one] at hxo
  have htext : w.text ++ gapText false ++ " " ++ toString 1 ++ ":" ++ toString 1 =
      w.text ++ " 1:1" := by
    simp only [gapText, String.append_empty, String.append_assoc]
    rfl
  exact ⟨x, htext ▸ hx, by omega, hxn⟩

end BookText

/-! ### Reading items back -/

namespace ListItem

open RangeList

/-! The texts of verse and chapter lists, as reading splits them at commas. -/

theorem versesText_isEmpty {es : List VerseEntry} (hne : es ≠ []) :
    (versesText es).isEmpty = false := by
  obtain ⟨e, es', rfl⟩ := List.exists_cons_of_ne_nil hne
  obtain ⟨rest, hrest⟩ := toList_intercalate_cons "," e.text (es'.map VerseEntry.text)
  refine isEmpty_of_toList fun h => e.text_ne_nil ?_
  rw [versesText, List.map_cons, hrest] at h
  exact (List.append_eq_nil_iff.mp h).1

theorem versesText_splitOn {es : List VerseEntry} (hne : es ≠ []) :
    (versesText es).splitOn "," = es.map VerseEntry.text :=
  splitOn_intercalate_comma (by simpa using hne) (by simpa using fun e _ => e.comma_not_mem)

theorem chaptersText_splitOn {cs : List Nat} (hne : cs ≠ []) :
    (chaptersText cs).splitOn "," = cs.map toString :=
  splitOn_intercalate_comma (by simpa using hne)
    (by simpa using fun c _ => not_mem_toString (show (',').isDigit = false by decide))

/-- The verses of a range across chapters hold no comma. -/
theorem across_comma (v c' v' : Nat) :
    ',' ∉ (toString v ++ "-" ++ toString c' ++ ":" ++ toString v').toList := by
  simp only [String.toList_append, List.mem_append, not_or]
  exact ⟨⟨⟨⟨not_mem_toString (by decide), by decide⟩, not_mem_toString (by decide)⟩,
    by decide⟩, not_mem_toString (by decide)⟩

section Reading

variable (w : BookText) (sp : Bool)

/-- **Reading a verse list.** The entries of a verse list of a chapter, read while no range is
open, add items that cover exactly the verses the entries name. -/
theorem readVerses_entries {c : Nat} (hc : Canon.IsChapter w.book c) :
    ∀ (es : List VerseEntry) (acc : List RangeItem), (∀ e ∈ es, e.Valid w.book c) →
      ∃ new, readVerses (w.text ++ gapText sp) (toString c) (es.map VerseEntry.text)
          { items := acc } = .ok { items := acc ++ new } ∧
        new.flatMap RangeItem.offsets = es.flatMap (·.offsets w.book c)
  | [], acc, _ => ⟨[], by simp [readVerses], rfl⟩
  | .one v :: es, acc, hes => by
    obtain ⟨hpos, hle⟩ := hes (.one v) List.mem_cons_self
    obtain ⟨x, hx, hxo, -⟩ := w.ofText_refText sp hc hpos hle
    obtain ⟨new, hnew, hoffs⟩ := readVerses_entries hc es (acc ++ [.verse x])
      fun e he => hes e (List.mem_cons_of_mem _ he)
    refine ⟨.verse x :: new, ?_, ?_⟩
    · rw [List.map_cons, VerseEntry.text, readVerses_number _ _ _ _ rfl, hx, Except.ok_bind]
      rw [List.append_assoc, List.singleton_append] at hnew
      exact hnew
    · rw [List.flatMap_cons, List.flatMap_cons, hoffs, RangeItem.offsets_verse, hxo]
      rfl
  | .run a b :: es, acc, hes => by
    obtain ⟨hpos, hab, hle⟩ := hes (.run a b) List.mem_cons_self
    obtain ⟨r, hr, hro⟩ := w.rangeOf_refText sp hc hpos (hab.trans hle) hc (by omega) hle
      (Canon.countedOffset_mono _ _ (by exact_mod_cast hab))
    obtain ⟨new, hnew, hoffs⟩ := readVerses_entries hc es (acc ++ [.range r])
      fun e he => hes e (List.mem_cons_of_mem _ he)
    refine ⟨.range r :: new, ?_, ?_⟩
    · rw [List.map_cons, VerseEntry.text, readVerses_run _ _ _ _ _ rfl, hr, Except.ok_bind]
      rw [List.append_assoc, List.singleton_append] at hnew
      exact hnew
    · rw [List.flatMap_cons, List.flatMap_cons, hoffs, RangeItem.offsets_range, hro]
      rfl

/-- **Reading a chapter list.** Chapters of a spelled book add the ranges of the whole chapters,
in order. -/
theorem readChapters : ∀ (cs : List Nat) (acc : List RangeItem),
    (∀ c ∈ cs, Canon.IsChapter w.book c) →
      ∃ new : List RangeItem, (cs.map toString).foldlM (fun (st : State) c => do
          let item ← chapterRange (w.text ++ gapText sp) c
          pure { st with items := st.items ++ [item] }) { items := acc } =
          .ok { items := acc ++ new } ∧
        new.flatMap RangeItem.offsets = cs.flatMap fun c =>
          VerseRange.span (Canon.countedOffset w.book c 1).toNat
            (Canon.countedOffset w.book c (Canon.versesOf w.book c)).toNat
  | [], acc, _ => ⟨[], by simp; rfl, rfl⟩
  | c :: cs, acc, hcs => by
    obtain ⟨r, hr, hro⟩ := w.chapterRange_refText sp (hcs c List.mem_cons_self)
    obtain ⟨new, hnew, hoffs⟩ := readChapters cs (acc ++ [.range r])
      fun c' hc' => hcs c' (List.mem_cons_of_mem _ hc')
    refine ⟨.range r :: new, ?_, ?_⟩
    · simp only [List.map_cons, List.foldlM_cons, hr, Except.ok_bind, pure_bind]
      rw [List.append_assoc, List.singleton_append] at hnew
      exact hnew
    · rw [List.flatMap_cons, List.flatMap_cons, hoffs, RangeItem.offsets_range, hro]

end Reading

/-- **Reading a range of books.** The two pieces of a range of books, read with no range or book
span open, add the range from the first verse of the first book to the last verse of the
second. -/
theorem read_books {w w' : BookText} (hit : (books w w').Valid) (acc : List RangeItem) :
    ∃ new, (books w w').pieces.foldlM readPiece { items := acc } = .ok { items := acc ++ new } ∧
      new.flatMap RangeItem.offsets = (books w w').offsets := by
  obtain ⟨lo, hlo, hloo, -⟩ := w.ofText_firstVerse
  obtain ⟨last, hlast, -, hlastn⟩ := w'.ofText_firstVerse
  -- the closing verse: the last verse of the last chapter of the second book
  obtain ⟨hcn, hcc⟩ := (Verse.ofText_consistent hlast).maxChapter
  obtain ⟨hvn, hvc⟩ := hcc.maxVerse
  obtain ⟨hi, hhi, hhio⟩ := hvc.ofText_text
  have hvo := hvc.offset_eq
  simp only [hvn, hcn, hlastn] at hvo
  have hL : Canon.IsChapter w'.book (Canon.chaptersOf w'.book) :=
    ⟨w'.book_lt, Canon.chaptersOf_pos w'.book_lt, le_refl _⟩
  have hord : Canon.countedOffset w.book 1 1 ≤ Canon.countedOffset w'.book
      (Canon.chaptersOf w'.book) (Canon.versesOf w'.book (Canon.chaptersOf w'.book)) :=
    Canon.countedOffset_first_le hit.1 hL (by exact_mod_cast Canon.versesOf_pos hL)
  have hopen : (w.text ++ " 1:1").isEmpty = false := by
    refine isEmpty_of_toList fun h => ?_
    rw [String.toList_append] at h
    exact absurd (List.append_eq_nil_iff.mp h).2 (by decide)
  refine ⟨[.range (VerseRange.make lo hi)], ?_, ?_⟩
  · simp only [pieces, List.foldlM_cons, readPiece_openBook, Except.ok_bind,
      readPiece_closeBook hopen, hlast, rangeOf, hlo, hhi, List.foldlM_nil]
    rfl
  · rw [List.flatMap_singleton, RangeItem.offsets_range, VerseRange.offsets_make (by omega), hloo,
      hhio, offsets]
    congr 1
    omega

/-- **Reading an item back.** The pieces of an item, read with no range or book span open, add
items that cover exactly the verses the item names. -/
theorem read_pieces {it : ListItem} (hit : it.Valid) (acc : List RangeItem) :
    ∃ new, it.pieces.foldlM readPiece { items := acc } = .ok { items := acc ++ new } ∧
      new.flatMap RangeItem.offsets = it.offsets := by
  cases it with
  | verses w sp c es =>
    obtain ⟨hc, hne, hes⟩ := hit
    obtain ⟨new, hnew, hoffs⟩ := readVerses_entries w sp hc es acc hes
    refine ⟨new, ?_, hoffs⟩
    rw [pieces, List.foldlM_cons, readPiece_chapterVerses _ c (versesText_isEmpty hne),
      versesText_splitOn hne, hnew]
    rfl
  | across w sp c v c' v' =>
    obtain ⟨hc, hpos, hle, hc', hpos', hle', hord⟩ := hit
    obtain ⟨r, hr, hro⟩ := w.rangeOf_refText sp hc hpos hle hc' hpos' hle' hord
    have hv : (toString v ++ "-" ++ toString c' ++ ":" ++ toString v').isEmpty = false := by
      rw [String.append_assoc, String.append_assoc, String.append_assoc, toString_append_isEmpty]
    refine ⟨[.range r], ?_, by rw [List.flatMap_singleton, RangeItem.offsets_range, hro]; rfl⟩
    rw [pieces, List.foldlM_cons, readPiece_chapterVerses _ c hv, comma_eq,
      splitOn_of_not_mem (across_comma v c' v'), readVerses_across _ _ v c' v' [] rfl, hr]
    rfl
  | chapters w sp cs =>
    obtain ⟨hne, hcs⟩ := hit
    obtain ⟨new, hnew, hoffs⟩ := readChapters w sp cs acc hcs
    obtain ⟨d, ch, hdc, -, -⟩ := chaptersText_chars hne
    refine ⟨new, ?_, hoffs⟩
    rw [pieces, List.foldlM_cons, readPiece_chapters _ (isEmpty_of_toList (by simp [hdc])) acc,
      chaptersText_splitOn hne, hnew]
    rfl
  | books w w' => exact read_books hit acc

/-- Reading the pieces of items one after another adds items covering the verses each names. -/
theorem read_listed : ∀ (items : List ListItem) (acc : List RangeItem),
    (∀ it ∈ items, it.Valid) →
    ∃ new, (items.flatMap pieces).foldlM readPiece { items := acc } =
        .ok { items := acc ++ new } ∧
      new.flatMap RangeItem.offsets = items.flatMap ListItem.offsets
  | [], acc, _ => ⟨[], by simp; rfl, rfl⟩
  | it :: items, acc, hvalid => by
    obtain ⟨new, hnew, hoffs⟩ := read_pieces (hvalid it List.mem_cons_self) acc
    obtain ⟨new', hnew', hoffs'⟩ := read_listed items (acc ++ new)
      fun x hx => hvalid x (List.mem_cons_of_mem _ hx)
    refine ⟨new ++ new', ?_, ?_⟩
    · rw [List.flatMap_cons, List.foldlM_append, hnew, Except.ok_bind, hnew', List.append_assoc]
    · rw [List.flatMap_append, hoffs, hoffs', List.flatMap_cons]

end ListItem

/-- **Reading a list written in the reference-list grammar.** Items written with semicolons
between them, a range of books only as the last, are read as exactly the verses the items name,
in increasing order and each once. -/
theorem RangeList.offsets_listed (items : List ListItem) (hvalid : ∀ it ∈ items, it.Valid)
    (hbooks : ∀ it ∈ items.dropLast, ¬ it.IsBooks) :
    ∃ os, offsets (";".intercalate (items.map ListItem.text)) = .ok os ∧
      os.Pairwise (· < ·) ∧ ∀ o, o ∈ os ↔ ∃ it ∈ items, o ∈ it.offsets := by
  obtain ⟨new, hnew, hoffs⟩ := ListItem.read_listed items [] hvalid
  have hparse : parse (";".intercalate (items.map ListItem.text)) =
      .ok (new.foldl keepVerse []) := by
    rw [parse_eq, ListItem.pieces_listed items hvalid hbooks,
      show ({} : State) = { items := [] } from rfl, hnew]
    rfl
  obtain ⟨hsorted, hmem⟩ :=
    dedupSorted_mergeSort ((new.foldl keepVerse []).flatMap RangeItem.offsets)
  refine ⟨_, by rw [offsets_eq, hparse]; rfl, hsorted, fun o => ?_⟩
  rw [hmem, mem_foldl_keepVerse, hoffs, List.mem_flatMap]
  simp

/-- `Gen 5;Exod 2` is read as the 32 verses of Genesis 5 and the 25 verses of Exodus 2. -/
theorem RangeList.genesisFive_exodusTwo_offsets :
    ∃ os, offsets "Gen 5;Exod 2" = .ok os ∧ os.Pairwise (· < ·) ∧
      ∀ o, o ∈ os ↔ 106 ≤ o ∧ o ≤ 137 ∨ 1555 ≤ o ∧ o ≤ 1579 := by
  let genesis : BookText := ⟨0, "Gen", by decide, Or.inr (by decide)⟩
  let exodus : BookText := ⟨1, "Exod", by decide, Or.inr (by decide)⟩
  have htext : ";".intercalate ([ListItem.chapters genesis true [5],
      .chapters exodus true [2]].map ListItem.text) = "Gen 5;Exod 2" := by
    decide
  have hchapters : Canon.IsChapter 0 5 ∧ Canon.IsChapter 1 2 :=
    ⟨⟨by decide, by decide, by decide⟩, ⟨by decide, by decide, by decide⟩⟩
  obtain ⟨os, hos, hsorted, hmem⟩ := RangeList.offsets_listed
    [.chapters genesis true [5], .chapters exodus true [2]]
    (by simpa [ListItem.Valid, genesis, exodus] using hchapters)
    (by simp [ListItem.IsBooks])
  have hoffsets : (Canon.countedOffset 0 5 1).toNat = 106 ∧
      (Canon.countedOffset 0 5 (Canon.versesOf 0 5)).toNat = 137 ∧
      (Canon.countedOffset 1 2 1).toNat = 1555 ∧
      (Canon.countedOffset 1 2 (Canon.versesOf 1 2)).toNat = 1579 := by
    decide +kernel
  refine ⟨os, htext ▸ hos, hsorted, fun o => ?_⟩
  rw [hmem o]
  simp only [List.mem_cons, List.not_mem_nil, or_false, exists_eq_or_imp, exists_eq_left,
    ListItem.offsets, List.flatMap_singleton, VerseRange.span, List.mem_range'_1, genesis,
    exodus, hoffsets]
  omega

end Scripture
