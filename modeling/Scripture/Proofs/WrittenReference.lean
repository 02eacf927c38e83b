import Mathlib
import Scripture.Proofs.Carry
import Scripture.Reference.RangeList

/-!
# Reading a written reference

A reference written out as a book, a printed chapter, a colon and a printed verse is read
back into the parts it was written from, and each number into its value. What
`Verse.ofText` does with such a text, when it is not itself the reference text of a verse,
is then `Canon.normalizedOffset` at the book's position.

* `Json.parseInteger?_toString`, `Json.partNumber_toString` — a printed integer is read
  back as itself.
* `Verse.parts?_written` — the parts of a written reference are the ones it was written from.
* `Verse.ofText_offset` — a text that is no reference text of a verse comes to the offset
  its parts are normalised to.
* `Verse.writtenReference_offset` — the offset of `<book> <chapter>:<verse>` for every book
  and all integers, against the linear count.
-/

namespace Scripture

/-! ### Characters -/

namespace Text

theorem toNat_of_isDigit {c : Char} (h : c.isDigit) : 48 ≤ c.toNat ∧ c.toNat ≤ 57 := by
  simp only [Char.isDigit, Bool.and_eq_true, decide_eq_true_eq, ge_iff_le,
    UInt32.le_iff_toNat_le] at h
  exact h

theorem isDigit_of_isDigit {c : Char} (h : c.isDigit) : isDigit c := by
  have hc := toNat_of_isDigit h
  simp [isDigit, show c.toNat < 128 by omega, Char.le_def, UInt32.le_iff_toNat_le, hc]

theorem isBlank_of_isDigit {c : Char} (h : c.isDigit) : isBlank c = false := by
  have hc := toNat_of_isDigit h
  simp only [isBlank, show c.toNat < 128 by omega, if_true, Bool.or_eq_false_iff,
    beq_eq_false_iff_ne, Bool.and_eq_false_iff, decide_eq_false_iff_not]
  refine ⟨⟨fun hsp => ?_, by omega⟩, by omega⟩
  subst hsp
  simp at hc

theorem digitValue?_of_isDigit {c : Char} (h : c.isDigit) :
    digitValue? c = some (c.toNat - 48) := by
  have hc := toNat_of_isDigit h
  simp [digitValue?, show c.toNat < 128 by omega, Char.le_def, UInt32.le_iff_toNat_le, hc]

/-- A list made of characters that pass a test, followed by one that starts with a character
that fails it, splits at the end of the first: the longest run is taken. -/
theorem run_exact {p : Char → Bool} {body rest : List Char} (inside : ∀ c ∈ body, p c)
    (boundary : ∀ c ∈ rest.head?, p c = false) :
    (body ++ rest).takeWhile p = body ∧ (body ++ rest).dropWhile p = rest := by
  rw [List.takeWhile_append_of_pos inside, List.dropWhile_append_of_pos inside]
  cases rest with
  | nil => simp
  | cons c rest =>
    have hc : ¬ p c := by simpa using boundary c rfl
    simp [hc]

/-- Blanks at the end of a text that has a character other than a blank are trimmed away. -/
theorem trimBlank_append_blanks {s g : String} (hs : s.toList.any (fun c => !isBlank c))
    (hg : g.toList.all isBlank) : trimBlank (s ++ g) = trimBlank s := by
  have hfront : ((s.toList ++ g.toList).dropWhile isBlank) =
      s.toList.dropWhile isBlank ++ g.toList := by
    rw [List.dropWhile_append, if_neg]
    obtain ⟨c, hc, hblank⟩ := List.any_eq_true.mp hs
    simp only [List.isEmpty_iff, List.dropWhile_eq_nil_iff, not_forall]
    exact ⟨c, hc, by simpa using hblank⟩
  have hback : ∀ c ∈ g.toList.reverse, isBlank c := fun c hc =>
    List.all_eq_true.mp hg c (List.mem_reverse.mp hc)
  simp only [trimBlank, String.toList_append, hfront, List.reverse_append,
    List.dropWhile_append_of_pos hback]

end Text

/-! ### Printed integers -/

namespace Json

/-- One decimal digit read. -/
theorem digitsValue_go_digit {c : Char} (h : c.isDigit) (rest : List Char) (acc : Nat)
    (afterDigit seen : Bool) :
    digitsValue.go (c :: rest) acc afterDigit seen =
      digitsValue.go rest (10 * acc + (c.toNat - 48)) true true := by
  have hu : (c == '_') = false := by
    have := Text.toNat_of_isDigit h
    rw [beq_eq_false_iff_ne]
    rintro rfl
    simp at this
  rw [digitsValue.go, if_neg (by simp [hu]), Text.digitValue?_of_isDigit h, Nat.mul_comm]

theorem digitsValue_go_digits {cs : List Char} (hcs : ∀ c ∈ cs, c.isDigit) (acc : Nat)
    (seen : Bool) : digitsValue.go cs acc true seen = some (Nat.ofDigitChars 10 cs acc) := by
  induction cs generalizing acc seen with
  | nil => simp [digitsValue.go]
  | cons c rest ih =>
    rw [digitsValue_go_digit (hcs c List.mem_cons_self), Nat.ofDigitChars_cons]
    exact ih (fun d hd => hcs d (List.mem_cons_of_mem c hd)) _ _

/-- A run of decimal digits read as a number. -/
theorem digitsValue_digits {cs : List Char} (hcs : ∀ c ∈ cs, c.isDigit) (hne : cs ≠ []) :
    digitsValue cs = some (Nat.ofDigitChars 10 cs 0) := by
  obtain ⟨c, rest, rfl⟩ := List.exists_cons_of_ne_nil hne
  rw [digitsValue, digitsValue_go_digit (hcs c List.mem_cons_self),
    digitsValue_go_digits (fun d hd => hcs d (List.mem_cons_of_mem c hd)), Nat.ofDigitChars_cons]
  rfl

theorem digitsValue_toDigits (n : Nat) : digitsValue (Nat.toDigits 10 n) = some n := by
  rw [digitsValue_digits (fun c hc => Nat.isDigit_of_mem_toDigits (by decide) (by decide) hc)
    Nat.toDigits_ne_nil, Nat.ofDigitChars_ten_toDigits]

/-- Blanks trimmed from a text that has none. -/
theorem trimmed_of_not_blank {cs : List Char} (h : ∀ c ∈ cs, Text.isBlank c = false) :
    ((cs.dropWhile Text.isBlank).reverse.dropWhile Text.isBlank).reverse = cs := by
  have keep : ∀ l : List Char, (∀ c ∈ l, Text.isBlank c = false) →
      l.dropWhile Text.isBlank = l := by
    intro l hl
    cases l with
    | nil => rfl
    | cons c rest => exact List.dropWhile_cons_of_neg (by simp [hl c List.mem_cons_self])
  rw [keep cs h, keep cs.reverse (fun c hc => h c (List.mem_reverse.mp hc)), List.reverse_reverse]

/-- An integer is printed as a minus when it is negative, then the digits of its size. -/
theorem toList_toString (n : Int) :
    (toString n).toList = (if 0 ≤ n then [] else ['-']) ++ Nat.toDigits 10 n.natAbs := by
  rw [Int.toString_eq_repr, Int.repr_eq_if]
  by_cases h : 0 ≤ n
  · simp only [h, if_true, Nat.toList_repr, List.nil_append]
    congr 1
    omega
  · simp only [h, if_false, String.toList_append, Nat.toList_repr]
    congr 2
    omega

theorem isDigit_of_mem_toDigits {n : Nat} {c : Char} (h : c ∈ Nat.toDigits 10 n) :
    Text.isDigit c :=
  Text.isDigit_of_isDigit (Nat.isDigit_of_mem_toDigits (by decide) (by decide) h)

/-- A printed integer read back. -/
theorem parseInteger?_toString (n : Int) : parseInteger? (toString n) = some n := by
  have hdig : ∀ c ∈ Nat.toDigits 10 n.natAbs, c.isDigit := fun c hc =>
    Nat.isDigit_of_mem_toDigits (by decide) (by decide) hc
  have hblank : ∀ c ∈ Nat.toDigits 10 n.natAbs, Text.isBlank c = false := fun c hc =>
    Text.isBlank_of_isDigit (hdig c hc)
  rw [parseInteger?, toList_toString]
  by_cases h : 0 ≤ n
  · rw [if_pos h, List.nil_append, trimmed_of_not_blank hblank]
    -- the digits start with neither sign
    split
    · rename_i heq
      exact absurd (hdig '-' (by simp [heq])) (by decide)
    · rename_i heq
      exact absurd (hdig '+' (by simp [heq])) (by decide)
    · rw [digitsValue_toDigits]
      simp only [Option.pure_def, Option.bind_eq_bind, Option.bind_some, Option.map_some,
        Option.some.injEq]
      omega
  · have hsign : ∀ c ∈ ['-'] ++ Nat.toDigits 10 n.natAbs, Text.isBlank c = false := by
      intro c hc
      rcases List.mem_append.mp hc with hc | hc
      · simp only [List.mem_singleton] at hc
        subst hc
        decide
      · exact hblank c hc
    rw [if_neg h, trimmed_of_not_blank hsign]
    simp only [List.singleton_append, digitsValue_toDigits, Option.pure_def, Option.bind_eq_bind,
      Option.bind_some, Option.map_some, Option.some.injEq]
    omega

/-- A printed integer, written as a chapter or verse, is read back. -/
theorem partNumber_toString (n : Int) : Verse.partNumber (toString n).toList = .ok n := by
  have hne : (toString n).toList ≠ [] := by
    rw [toList_toString]
    simp [Nat.toDigits_ne_nil]
  rw [Verse.partNumber, if_neg (by simpa using hne), String.ofList_toList, toInteger,
    parseInteger?_toString]

end Json

/-! ### The parts of a written reference -/

namespace Verse

open RangeList (isBookChar)

/-- A book as it is written before its chapter: digits, then at least one character that
may stand in a book name, and nothing after it that may not. -/
def WrittenBook (cs : List Char) : Prop :=
  (cs.dropWhile Text.isDigit).isEmpty = false ∧ (cs.dropWhile Text.isDigit).all isBookChar

instance (cs : List Char) : Decidable (WrittenBook cs) := inferInstanceAs (Decidable (_ ∧ _))

theorem WrittenBook.split {book : List Char} (hb : WrittenBook book) :
    ∃ d x body, book = d ++ x :: body ∧ (∀ c ∈ d, Text.isDigit c) ∧
      ∀ c ∈ x :: body, isBookChar c := by
  obtain ⟨x, body, hxb⟩ := List.exists_cons_of_ne_nil (List.isEmpty_eq_false_iff.mp hb.1)
  refine ⟨book.takeWhile Text.isDigit, x, body, ?_, fun c hc => List.mem_takeWhile_imp hc, ?_⟩
  · rw [← hxb, List.takeWhile_append_dropWhile]
  · rw [← hxb]
    exact List.all_eq_true.mp hb.2

/-- Characters of a book name written after a book leave it a book. -/
theorem WrittenBook.append {book more : List Char} (hb : WrittenBook book)
    (hmore : more.all isBookChar) : WrittenBook (book ++ more) := by
  have hdrop : (book ++ more).dropWhile Text.isDigit = book.dropWhile Text.isDigit ++ more := by
    rw [List.dropWhile_append, if_neg (by simp [hb.1])]
  have hne := List.isEmpty_eq_false_iff.mp hb.1
  rw [WrittenBook, hdrop]
  simp [hne, hb.2, hmore]

/-- Past leading digits, a reference starts at the first of them. -/
theorem refStart_digits {d : List Char} (hd : ∀ c ∈ d, Text.isDigit c) {x : Char}
    (hx : isBookChar x) (rest run : List Char) :
    refStart (d ++ x :: rest) (some run) = some run := by
  induction d with
  | nil =>
    simp only [isBookChar, Bool.not_eq_true', Bool.or_eq_false_iff] at hx
    simp [refStart, hx.1, hx.2]
  | cons c d ih =>
    rw [List.cons_append, refStart, if_pos (hd c List.mem_cons_self)]
    exact ih (fun c hc => hd c (List.mem_cons_of_mem _ hc))

/-- A written reference starts at its first character. -/
theorem refStart_written {book : List Char} (hb : WrittenBook book) (rest : List Char) :
    refStart (book ++ rest) none = some (book ++ rest) := by
  obtain ⟨d, x, body, rfl, hd, hx⟩ := hb.split
  have hx' := hx x List.mem_cons_self
  cases d with
  | nil =>
    simp only [isBookChar, Bool.not_eq_true', Bool.or_eq_false_iff] at hx'
    simp [refStart, hx'.1, hx'.2]
  | cons c d =>
    rw [List.append_assoc, List.cons_append, refStart, if_pos (hd c List.mem_cons_self)]
    simp only [Option.getD_none]
    exact refStart_digits (fun c hc => hd c (List.mem_cons_of_mem _ hc)) hx' _ _

/-- A printed integer is read back as the signed digits at the front of a text, when no
digit follows it. -/
theorem signedDigits_toString (n : Int) {r : List Char}
    (hr : ∀ c ∈ r.head?, Text.isDigit c = false) :
    signedDigits ((toString n).toList ++ r) = ((toString n).toList, r) := by
  have hdig : ∀ c ∈ Nat.toDigits 10 n.natAbs, Text.isDigit c := fun c hc =>
    Json.isDigit_of_mem_toDigits hc
  obtain ⟨htake, hdrop⟩ := Text.run_exact hdig hr
  rw [Json.toList_toString]
  by_cases h : 0 ≤ n
  · rw [if_pos h, List.nil_append, signedDigits]
    · simp [htake, hdrop]
    · -- the digits do not start with a minus
      intro rest heq
      obtain ⟨c, ds, hcr⟩ :=
        List.exists_cons_of_ne_nil (Nat.toDigits_ne_nil (n := n.natAbs) (b := 10))
      rw [hcr, List.cons_append, List.cons.injEq] at heq
      exact absurd (hdig c (by simp [hcr])) (by rw [heq.1]; decide)
  · rw [if_neg h, List.singleton_append, List.cons_append, signedDigits.eq_1]
    simp [htake, hdrop]

/-- A printed integer starts with no character of a book name. -/
theorem toString_head_not_bookChar (n : Int) (r : List Char) :
    ∀ c ∈ ((toString n).toList ++ r).head?, isBookChar c = false := by
  intro c hc
  rw [Json.toList_toString] at hc
  by_cases h : 0 ≤ n
  · obtain ⟨d, ds, hcr⟩ :=
      List.exists_cons_of_ne_nil (Nat.toDigits_ne_nil (n := n.natAbs) (b := 10))
    rw [if_pos h, List.nil_append, hcr, List.cons_append, List.head?_cons,
      Option.mem_some_iff] at hc
    subst hc
    have hdig : Text.isDigit d :=
      Json.isDigit_of_mem_toDigits (show d ∈ Nat.toDigits 10 n.natAbs by simp [hcr])
    simp [isBookChar, hdig]
  · rw [if_neg h, List.singleton_append, List.cons_append, List.head?_cons,
      Option.mem_some_iff] at hc
    subst hc
    decide

/-- **The parts of a written reference.** A written book followed by a printed chapter, a
colon and a printed verse splits into exactly those three parts. -/
theorem parts?_written {book : String} (hb : WrittenBook book.toList) (c v : Int) :
    parts? (book ++ toString c ++ ":" ++ toString v) =
      some ⟨book.toList, (toString c).toList, (toString v).toList⟩ := by
  have hcolon : ∀ x ∈ (':' :: (toString v).toList).head?, Text.isDigit x = false := by
    simp only [List.head?_cons, Option.mem_some_iff]
    rintro x rfl
    rfl
  have hverse := signedDigits_toString v (r := []) (by simp)
  rw [List.append_nil] at hverse
  have hchapter := signedDigits_toString c hcolon
  have htext : (book ++ toString c ++ ":" ++ toString v).toList =
      book.toList ++ ((toString c).toList ++ ':' :: (toString v).toList) := by simp
  have hbook : (fun c => !(Text.isDigit c || c == '-')) = isBookChar := rfl
  simp only [parts?, htext, hbook]
  rw [refStart_written hb]
  obtain ⟨d, x, body, hsplit, hd, hx⟩ := hb.split
  have hx' : Text.isDigit x = false := by
    have := hx x List.mem_cons_self
    simp only [isBookChar, Bool.not_eq_true', Bool.or_eq_false_iff] at this
    exact this.1
  -- the book's leading digits, then the rest of its name, then the chapter
  obtain ⟨hdigits, hafter⟩ := Text.run_exact hd
    (show ∀ y ∈ ((x :: body) ++ ((toString c).toList ++ ':' :: (toString v).toList)).head?,
      Text.isDigit y = false by simp [hx'])
  obtain ⟨hname, hnumbers⟩ := Text.run_exact hx
    (toString_head_not_bookChar c (':' :: (toString v).toList))
  simp only [hsplit, Option.bind_eq_bind, Option.bind_some, List.append_assoc d, hdigits, hafter,
    hname, hnumbers, hchapter, hverse]
  rfl

/-! ### What a written reference comes to -/

/-- The offset held to the Bible is the offset itself for one that lies in it. -/
theorem clampOffset_of_mem {o : Int} (h0 : 0 ≤ o) (h1 : o < Canon.verseTotal) :
    (clampOffset o : Int) = o := by
  unfold clampOffset
  rw [if_neg (by omega)]
  omega

/-- **Reading a text that is no reference text of a verse.** A text that splits into parts
whose chapter and verse read as numbers, and that is not the reference text of a verse,
comes to the offset that its book, chapter and verse are normalised to. -/
theorem ofText_offset {s : String} {p : Parts} (hp : parts? s = some p)
    (hx : exactPosition? s = none) {c v : Int} (hc : partNumber p.chapter = .ok c)
    (hv : partNumber p.verse = .ok v) {o : Int}
    (ho : Canon.normalizedOffset (Canon.bookIndex (Text.trimBlank (String.ofList p.book))) c v =
      .ok o) :
    ∃ w, ofText s = .ok w ∧ w.offset = clampOffset o := by
  cases hn : Canon.normalizeVerse (Canon.bookIndex (Text.trimBlank (String.ofList p.book))) c v with
  | error e => simp only [Canon.normalizedOffset, hn, Except.error_bind, reduceCtorEq] at ho
  | ok t =>
    obtain ⟨b', c', v'⟩ := t
    have hoff : Canon.offsetOf b' c' v' = .ok o := by
      simpa only [Canon.normalizedOffset, hn, Except.ok_bind] using ho
    simp only [ofText, hp, hc, hv, hx, hn, hoff, Except.ok_bind]
    exact ⟨_, rfl, rfl⟩

/-- Each book name, followed by blanks, is a written book, and names its own book. -/
theorem bookName_written {b : Nat} (hb : b < Canon.bookCount) {g : String}
    (hblank : g.toList.all Text.isBlank) (hbook : g.toList.all isBookChar) :
    WrittenBook (Canon.bookName b ++ g).toList ∧
      Canon.bookIndex (Text.trimBlank (Canon.bookName b ++ g)) = b := by
  have table : ∀ b : Fin 66, WrittenBook (Canon.bookName b).toList ∧
      (Canon.bookName b).toList.any (fun c => !Text.isBlank c) ∧
      Canon.bookIndex (Text.trimBlank (Canon.bookName b)) = b := by
    decide +kernel
  obtain ⟨hwritten, hletter, hindex⟩ := table ⟨b, hb⟩
  refine ⟨?_, ?_⟩
  · rw [String.toList_append]
    exact hwritten.append hbook
  · rw [Text.trimBlank_append_blanks hletter hblank]
    exact hindex

/-- **The offset of a written reference.** For every book and all integers `c` and `v`,
normalising chapter `c`, verse `v` of the book finds an offset; it is the linear count held to
the Bible exactly when the verse does not count back across the start of a book. The text
`<book> <c>:<v>`, when it is not itself the reference text of a verse, comes to that offset. -/
theorem writtenReference_offset {b : Nat} (hb : b < Canon.bookCount) (c v : Int) :
    ∃ o, Canon.normalizedOffset b c v = .ok o ∧
      (o = Canon.linearOffset b c v ↔ ¬ Canon.CountsBackAcrossBook b c v) ∧
      (exactPosition? (Canon.bookName b ++ " " ++ toString c ++ ":" ++ toString v) = none →
        ∃ w, ofText (Canon.bookName b ++ " " ++ toString c ++ ":" ++ toString v) = .ok w ∧
          (w.offset : Int) = o) := by
  obtain ⟨o, ho, hlin⟩ := Canon.normalizedOffset_linear_iff hb c v
  refine ⟨o, ho, hlin, fun hx => ?_⟩
  obtain ⟨hwritten, hindex⟩ :=
    bookName_written hb (g := " ") (by decide +kernel) (by decide +kernel)
  have hbook : Canon.bookIndex (Text.trimBlank (String.ofList (Canon.bookName b ++ " ").toList)) =
      b := by
    rw [String.ofList_toList, hindex]
  obtain ⟨w, hw, hoff⟩ := ofText_offset (parts?_written hwritten c v) hx
    (Json.partNumber_toString c) (Json.partNumber_toString v) (by rw [hbook]; exact ho)
  obtain ⟨h0, h1⟩ := Canon.normalizedOffset_mem hb ho
  exact ⟨w, hw, by rw [hoff, clampOffset_of_mem h0 h1]⟩

/-- Verse 100 of chapter 23 of Revelation is held at the last verse of the Bible. -/
theorem revelation_past_end_offset :
    65 < Canon.bookCount ∧ Canon.normalizedOffset 65 23 100 = .ok (Canon.verseTotal - 1) := by
  obtain ⟨o, ho, hlin, -⟩ := writtenReference_offset (b := 65) (by decide) 23 100
  have hon : ¬ Canon.CountsBackAcrossBook 65 23 100 := fun h => absurd h.1 (by decide)
  have hlast : Canon.linearOffset 65 23 100 = Canon.verseTotal - 1 := by decide +kernel
  rw [← hlast, ← hlin.mpr hon]
  exact ⟨by decide, ho⟩

/-- Verse 0 of Exodus 1 comes to Genesis 49:33, where the linear count gives Genesis 50:26:
the last chapter of Genesis is passed over. -/
theorem exodus_one_zero_offset :
    Canon.normalizedOffset 1 1 0 = .ok 1506 ∧ Canon.linearOffset 1 1 0 = 1532 ∧
      Canon.refText 1506 = "Genesis 49:33" ∧ Canon.refText 1532 = "Genesis 50:26" := by
  decide +kernel

end Verse

end Scripture
