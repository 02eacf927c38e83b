import Mathlib
import Scripture.Proofs.WrittenList

/-!
# Reading a reference whatever the spelling of its book

A reference list may write a book by its full or its short name, with any of its letters in
upper or lower case, and with or without a blank before the chapter. This module shows that a
reference written so is read as the verse it names, and that reading it keeps the book,
chapter and verse it names, from which the last verse of the chapter and the last chapter of
the book are found.

* `toNat?_toString`, `toString_toNat?_digits` — a printed number reads back as itself, and
  digits with no leading zero print back as written.
* `exactPosition?_text` — a text that names a verse exactly is its reference text, and
  `exactPosition?_eq_some` — such a text names the book whose name begins it, and the chapter
  and verse that end it.
* `ofText_written` — a book that names `b`, a blank, a chapter of `b`, a colon and a verse of
  that chapter are read as that verse, named by its book, chapter and verse, whether the text is
  the reference text of the verse (read at its place) or not (read by normalising it).
* `Spells`, `BookText` — a book's full or short name with any of its letters in either case;
  writing a letter in the other case changes nothing that reading looks at (`names_caseBlind`).
* `BookText.ofText_spelled` — a spelled book, a blank or none, a chapter and a verse are read as
  that verse.
-/

namespace Scripture

/-! ### Printed numbers read back -/

namespace Text

/-- The check that a text is a number, run over digits, ends with a number seen and nothing
refused. -/
theorem isNat_loop_digits : ∀ (l : List Char), (∀ c ∈ l, c.isDigit) → l ≠ [] → ∀ x : Bool,
    (forIn (m := Id) l ((none : Option Bool), x) fun c r =>
      if c = '_' then
        if (!r.2) = true then pure (ForInStep.done (some false, r.2))
        else pure (ForInStep.yield (none, false))
      else if c.isDigit = true then pure (ForInStep.yield (none, true))
      else pure (ForInStep.done (some false, r.2))) = (none, true) := by
  intro l hl hne
  induction l with
  | nil => exact absurd rfl hne
  | cons c l ih =>
    intro x
    have hc := hl c List.mem_cons_self
    have hu : c ≠ '_' := by
      rintro rfl
      simp at hc
    rw [List.forIn_cons]
    simp only [hu, if_false, hc, if_true]
    cases l with
    | nil => rfl
    | cons d l => exact ih (fun e he => hl e (List.mem_cons_of_mem _ he)) (by simp) true

/-- Digits, which are no separators, are folded into their decimal value. -/
theorem foldl_digits (l : List Char) (acc : Nat) (hl : ∀ c ∈ l, c.isDigit) :
    l.foldl (fun n c => if c = '_' then n else n * 10 + (c.toNat - '0'.toNat)) acc =
      Nat.ofDigitChars 10 l acc := by
  induction l generalizing acc with
  | nil => rfl
  | cons c l ih =>
    have hu : c ≠ '_' := by
      rintro rfl
      simp at hl
    rw [List.foldl_cons, if_neg hu, Nat.ofDigitChars_cons, Nat.mul_comm,
      ih _ fun d hd => hl d (List.mem_cons_of_mem _ hd)]

/-- Digits read as the number they spell. -/
theorem toNat?_digits {l : List Char} (hl : ∀ c ∈ l, c.isDigit) (hne : l ≠ []) :
    (String.ofList l).toNat? = some (Nat.ofDigitChars 10 l 0) := by
  have hnat : (String.ofList l).toSlice.isNat = true := by
    unfold String.Slice.isNat
    dsimp only
    rw [String.Slice.forIn_eq_forIn_toList, String.copy_toSlice, String.toList_ofList]
    simp only [isNat_loop_digits _ hl hne]
    rfl
  rw [String.toNat?, String.Slice.toNat?, if_pos hnat, String.Slice.foldl_eq_foldl_toList,
    String.copy_toSlice, String.toList_ofList, foldl_digits _ _ hl]

/-- A digit is the character of its value. -/
theorem digitChar_of_isDigit {c : Char} (h : c.isDigit) : (c.toNat - 48).digitChar = c := by
  obtain ⟨h1, h2⟩ := toNat_of_isDigit h
  apply Char.toNat_inj.mp
  rw [Nat.toNat_digitChar_of_lt_ten (by omega)]
  omega

/-- A printed natural number reads back as the number. -/
theorem toNat?_toString (n : Nat) : (toString n).toNat? = some n := by
  have hread := toNat?_digits (fun c hc => RangeList.isDigit_of_mem_toString hc)
    (RangeList.toString_ne_nil n)
  rwa [String.ofList_toList, show (toString n).toList = Nat.toDigits 10 n from Nat.toList_repr,
    Nat.ofDigitChars_ten_toDigits] at hread

theorem toDigits_digit {d : Char} (h : d.isDigit) : Nat.toDigits 10 (d.toNat - 48) = [d] := by
  have := toNat_of_isDigit h
  rw [Nat.toDigits_of_lt_base (by omega), digitChar_of_isDigit h]

/-- Digits with no leading zero are the printed form of their value, which is not zero. -/
theorem toDigits_ofDigitChars {ds : List Char} (hd : ∀ c ∈ ds, c.isDigit) (hne : ds ≠ [])
    (hlead : ds.head? ≠ some '0') :
    Nat.toDigits 10 (Nat.ofDigitChars 10 ds 0) = ds ∧ 0 < Nat.ofDigitChars 10 ds 0 := by
  induction ds using List.reverseRecOn with
  | nil => exact absurd rfl hne
  | append_singleton xs d ih =>
    have hdd : d.isDigit := hd d (by simp)
    have hk := toNat_of_isDigit hdd
    by_cases hxs : xs = []
    · -- one digit, which is not zero
      subst hxs
      have hd0 : d ≠ '0' := by simpa using hlead
      have hpos : d.toNat ≠ 48 := fun h48 => hd0 (Char.toNat_inj.mp h48)
      simp only [List.nil_append, Nat.ofDigitChars_cons, Nat.ofDigitChars_nil]
      refine ⟨?_, by simp; omega⟩
      simpa using toDigits_digit hdd
    · obtain ⟨hxs_digits, hpos⟩ := ih (fun c hc => hd c (List.mem_append_left _ hc)) hxs
        (by rwa [List.head?_append_of_ne_nil _ hxs] at hlead)
      rw [Nat.ofDigitChars_append, Nat.ofDigitChars_cons, Nat.ofDigitChars_nil]
      refine ⟨?_, by omega⟩
      rw [show '0'.toNat = 48 from rfl, ← Nat.toDigits_append_toDigits (by decide) hpos (by omega),
        hxs_digits, toDigits_digit hdd]

/-- A run of digits with no leading zero, or a lone digit, is the printed form of the number it
reads as. -/
theorem toString_toNat?_digits {r : List Char} (hd : ∀ c ∈ r, c.isDigit) (hne : r ≠ [])
    (hlead : r.length = 1 ∨ r.head? ≠ some '0') :
    toString ((String.ofList r).toNat?.getD 0) = String.ofList r := by
  rw [toNat?_digits hd hne, Option.getD_some, Nat.toString_eq_ofList_toDigits]
  congr 1
  rcases hlead with hone | hlead
  · obtain ⟨d, rfl⟩ := List.length_eq_one_iff.mp hone
    simpa [Nat.ofDigitChars_cons] using toDigits_digit (hd d List.mem_cons_self)
  · exact (toDigits_ofDigitChars hd hne hlead).1

/-- The test that a number is written with no leading zero, read on its digits. -/
theorem lead_of_canonical {r : List Char}
    (h : ((String.ofList r).length == 1 || !(String.ofList r).startsWith "0") = true) :
    r.length = 1 ∨ r.head? ≠ some '0' := by
  simp only [Bool.or_eq_true, beq_iff_eq, Bool.not_eq_true', String.length_ofList] at h
  rcases h with h | h
  · exact .inl h
  · refine .inr fun hhead => ?_
    obtain ⟨t, rfl⟩ : ∃ t, r = '0' :: t := by
      cases r with
      | nil => cases hhead
      | cons x t =>
        cases hhead
        exact ⟨t, rfl⟩
    have hstart : (String.ofList ('0' :: t)).startsWith "0" = true :=
      String.startsWith_string_iff.mpr ⟨t, by simp⟩
    rw [hstart] at h
    cases h

/-- The first occurrence of a character splits a list: the parts before and after it. -/
theorem split_first {a : Char} {x₁ x₂ z₁ z₂ : List Char} (h₁ : a ∉ x₁) (h₂ : a ∉ x₂)
    (h : x₁ ++ a :: z₁ = x₂ ++ a :: z₂) : x₁ = x₂ ∧ z₁ = z₂ := by
  have hstop : ∀ z : List Char, ∀ c ∈ (a :: z).head?, (c != a) = false := by simp
  have hpass : ∀ {x : List Char}, a ∉ x → ∀ c ∈ x, (c != a) = true := by
    intro x hx c hc
    simp only [bne_iff_ne, ne_eq]
    rintro rfl
    exact hx hc
  obtain ⟨ht₁, hd₁⟩ := run_exact (hpass h₁) (hstop z₁)
  obtain ⟨ht₂, hd₂⟩ := run_exact (hpass h₂) (hstop z₂)
  rw [h] at ht₁ hd₁
  exact ⟨ht₁.symm.trans ht₂, List.cons.inj (hd₁.symm.trans hd₂) |>.2⟩

/-- The last occurrence of a character splits a list: the parts before and after it. -/
theorem split_last {a : Char} {x₁ x₂ z₁ z₂ : List Char} (h₁ : a ∉ z₁) (h₂ : a ∉ z₂)
    (h : x₁ ++ a :: z₁ = x₂ ++ a :: z₂) : x₁ = x₂ ∧ z₁ = z₂ := by
  have hrev : z₁.reverse ++ a :: x₁.reverse = z₂.reverse ++ a :: x₂.reverse := by
    have := congrArg List.reverse h
    simpa using this
  obtain ⟨hz, hx⟩ := split_first (by simpa using h₁) (by simpa using h₂) hrev
  exact ⟨List.reverse_inj.mp hx, List.reverse_inj.mp hz⟩

end Text

/-! ### The verse at a position -/

namespace Verse

/-- The offset of a position is the count through the chapters before it. -/
theorem positionOffset_eq {p : Position} (hv : 0 < p.verse) :
    (positionOffset p : Int) = Canon.countedOffset p.book p.chapter p.verse := by
  unfold positionOffset Canon.countedOffset Canon.chapterStart Canon.chapterIndex Canon.bookStart
  omega

/-- The verse at a position of the Bible lies at the count through the chapters before it. -/
theorem atPosition_offset {b c v : Nat} (h : Canon.IsChapter b c) (hpos : 0 < v)
    (hle : v ≤ Canon.versesOf b c) :
    ((atPosition ⟨b, c, v⟩).offset : Int) = Canon.countedOffset b c v := by
  obtain ⟨hlow, hhigh⟩ := Canon.countedOffset_mem h (v := v) (by omega) (by exact_mod_cast hle)
  have hcount := positionOffset_eq (p := ⟨b, c, v⟩) hpos
  dsimp only at hcount
  rw [atPosition]
  dsimp only
  rw [hcount]
  exact clampOffset_of_mem hlow hhigh

end Verse

/-! ### Reading a reference -/

namespace Canon

/-- **A text that names a verse exactly is its reference text**: the full name of the book, a
blank, the chapter and the verse, printed with no leading zero. -/
theorem exactPosition?_text {s : String} {p : Position} (h : Verse.exactPosition? s = some p) :
    p.book < bookCount ∧
      s = bookName p.book ++ " " ++ toString p.chapter ++ ":" ++ toString p.verse := by
  unfold Verse.exactPosition? at h
  obtain ⟨b', hb', hf⟩ := List.exists_of_findSome?_eq_some h
  rw [List.mem_range] at hb'
  dsimp only at hf
  split at hf
  · rename_i hstart
    split at hf
    · rename_i c' v' hsplit
      split at hf
      · rename_i hcanon
        split at hf
        · split at hf
          · cases hf
            -- what follows the name and a blank is a chapter, a colon and a verse
            obtain ⟨R, hR⟩ := (String.startsWith_string_iff).mp hstart
            have hdrop : (s.drop (bookName b' ++ " ").length).toString.toList = R := by
              rw [show ∀ t : String.Slice, t.toString = t.copy from fun _ => rfl,
                String.toList_copy_drop, ← hR, ← String.length_toList, List.drop_left]
            have hsplitOn : ∀ t : String, t.splitOn ":" = (t.toList.splitOn ':').map String.ofList :=
              fun t => Text.splitOn_singleton t ':'
            rw [hsplitOn, hdrop] at hsplit
            obtain ⟨r₁, r₂, hRsplit, rfl, rfl⟩ : ∃ r₁ r₂, R.splitOn ':' = [r₁, r₂] ∧
                c' = String.ofList r₁ ∧ v' = String.ofList r₂ := by
              rcases hRs : R.splitOn ':' with _ | ⟨r₁, _ | ⟨r₂, _ | ⟨r₃, rest⟩⟩⟩ <;>
                rw [hRs] at hsplit <;> simp at hsplit
              exact ⟨r₁, r₂, rfl, hsplit.1.symm, hsplit.2.symm⟩
            have hRe : R = r₁ ++ ':' :: r₂ := by
              have hjoin : [':'].intercalate (R.splitOn ':') = R := List.intercalate_splitOn ':'
              rw [hRsplit] at hjoin
              simpa using hjoin.symm
            -- both numbers are canonical, so they print back as written
            simp only [Bool.and_eq_true, String.all_bool_eq, String.toList_ofList,
              List.all_eq_true, Bool.not_eq_true', String.isEmpty_eq_false_iff, ne_eq,
              String.ofList_eq_empty_iff] at hcanon
            obtain ⟨⟨⟨hne₁, hd₁⟩, hl₁⟩, ⟨hne₂, hd₂⟩, hl₂⟩ := hcanon
            rw [Text.toString_toNat?_digits hd₁ hne₁ (Text.lead_of_canonical hl₁),
              Text.toString_toNat?_digits hd₂ hne₂ (Text.lead_of_canonical hl₂)]
            refine ⟨hb', String.toList_inj.mp ?_⟩
            simp [← hR, hRe]
          · cases hf
        · cases hf
      · cases hf
    · cases hf
  · cases hf

/-- **The place a reference text names.** A book, a blank, a chapter, a colon and a verse that
make the reference text of a verse name that verse: the book is the one whose name begins the
text, and the chapter and verse are the numbers after it. -/
theorem exactPosition?_eq_some {B : String} {c v : Nat} {p : Position}
    (h : Verse.exactPosition? (B ++ " " ++ toString c ++ ":" ++ toString v) = some p) :
    p.book < bookCount ∧ bookName p.book = B ∧ p.chapter = c ∧ p.verse = v := by
  obtain ⟨hb, htext⟩ := exactPosition?_text h
  -- printed numbers hold no blank and no colon, so the blank before them is the last one and
  -- the colon between them the first
  have hblank : ∀ n m : Nat, ' ' ∉ (toString n).toList ++ ':' :: (toString m).toList := by
    intro n m hmem
    rcases List.mem_append.mp hmem with h | h
    · exact absurd (RangeList.isDigit_of_mem_toString h) (by decide)
    · rcases List.mem_cons.mp h with h | h
      · exact absurd h (by decide)
      · exact absurd (RangeList.isDigit_of_mem_toString h) (by decide)
  have hcolon : ∀ n : Nat, ':' ∉ (toString n).toList := fun n h =>
    absurd (RangeList.isDigit_of_mem_toString h) (by decide)
  have hlist := congrArg String.toList htext
  simp only [String.toList_append, List.append_assoc] at hlist
  obtain ⟨hname, hrest⟩ := Text.split_last (hblank c v) (hblank _ _) hlist
  obtain ⟨hc, hv⟩ := Text.split_first (hcolon c) (hcolon _) hrest
  refine ⟨hb, (String.toList_inj.mp hname).symm, ?_, ?_⟩
  · have := Text.toNat?_toString p.chapter
    rwa [← String.toList_inj.mp hc, Text.toNat?_toString, Option.some.injEq, eq_comm] at this
  · have := Text.toNat?_toString p.verse
    rwa [← String.toList_inj.mp hv, Text.toNat?_toString, Option.some.injEq, eq_comm] at this

/-- A verse of a chapter is normalised to itself. -/
theorem normalizeVerse_of_isChapter {b c : Nat} (h : IsChapter b c) {v : Int} (hpos : 0 < v)
    (hle : v ≤ versesOf b c) : normalizeVerse b c v = .ok (b, c, v) := by
  have hback : carryVerseBack (chapterTotal + 1) b c v = .ok (b, c, v) :=
    carryVerseBack_of_pos (by have := h.chapter_pos; omega) hpos
  simp only [normalizeVerse, normalizeChapter_of_isChapter h, Except.ok_bind, hback,
    versesIn_of_isChapter h, carryVerseForward_of_le hle]

/-- **Reading a written reference.** A book written in characters that may stand in a book
name and that names book `b`, followed by a blank, a chapter of `b`, a colon and a verse of
that chapter, is read as that verse, named by its book, chapter and verse. -/
theorem ofText_written {B : String} {b c v : Nat} (hB : Verse.WrittenBook (B ++ " ").toList)
    (hletter : B.toList.any fun x => !Text.isBlank x) (hidx : bookIndex (Text.trimBlank B) = b)
    (h : IsChapter b c) (hpos : 0 < v) (hle : v ≤ versesOf b c) :
    ∃ w, Verse.ofText (B ++ " " ++ toString c ++ ":" ++ toString v) = .ok w ∧
      (w.offset : Int) = countedOffset b c v ∧ w.named = ⟨b, c, v⟩ := by
  have hparts := Verse.parts?_written hB c v
  -- either way the book is the one the written text names
  have hbook : bookIndex (Text.trimBlank (String.ofList (B ++ " ").toList)) = b := by
    rw [String.ofList_toList, Text.trimBlank_append_blanks hletter (by decide), hidx]
  cases hx : Verse.exactPosition? (B ++ " " ++ toString c ++ ":" ++ toString v) with
  | some p =>
    -- the text is the reference text of the verse: it is read at its position
    obtain ⟨hpb, hname, hpc, hpv⟩ := exactPosition?_eq_some hx
    have hpbook : p.book = b := by
      have hown := (Verse.bookName_written hpb (g := "") (by decide) (by decide)).2
      rw [String.append_empty] at hown
      rw [← hidx, ← hname, hown]
    rw [← toString_natCast c, ← toString_natCast v] at hx ⊢
    simp only [Verse.ofText, hparts, Json.partNumber_toString, Except.ok_bind, hx, hbook]
    obtain ⟨pb, pc, pv⟩ := p
    dsimp only at hpbook hpc hpv
    subst hpbook hpc hpv
    refine ⟨_, rfl, Verse.atPosition_offset h hpos hle, ?_⟩
    simp
  | none =>
    -- the text is read by normalising its book, chapter and verse, which stay where they are
    obtain ⟨hlow, hhigh⟩ := countedOffset_mem h (v := v) (by omega) (by exact_mod_cast hle)
    rw [← toString_natCast c, ← toString_natCast v] at hx ⊢
    simp only [Verse.ofText, hparts, Json.partNumber_toString, Except.ok_bind, hx, hbook,
      normalizeVerse_of_isChapter h (v := v) (by omega) (by exact_mod_cast hle),
      offsetOf_of_isChapter h (v := v) (by exact_mod_cast hle)]
    refine ⟨_, rfl, Verse.clampOffset_of_mem hlow hhigh, ?_⟩
    simp

/-- The short name of the book at a position, or the empty text past the last book. -/
def shortName (index : Nat) : String := (books[index]?.map (·.short)).getD ""

end Canon

/-! ### Spelling a book's name -/

open RangeList (isBookChar isVerseChar isChapterChar)

/-- What reading a reference looks at in a character of a book's name: its lower case, and
whether it is a digit, a blank, a book, verse or chapter character, a semicolon or a hyphen. -/
def nameView (c : Char) : List Char × Bool × Bool × Bool × Bool × Bool × Bool × Bool :=
  (Text.lowerFull c, Text.isDigit c, Text.isBlank c, isBookChar c, isVerseChar c,
    isChapterChar c, c == ';', c == '-')

/-- A text spells a name when it is the name with any of its letters in upper or lower case. -/
def Spells (t name : List Char) : Prop :=
  List.Forall₂ (fun a c => a = c.toLower ∨ a = c.toUpper) t name

instance (t name : List Char) : Decidable (Spells t name) :=
  inferInstanceAs (Decidable (List.Forall₂ _ _ _))

/-- Writing a letter of a book's name in the other case changes nothing that reading looks at. -/
theorem names_caseBlind : ∀ b : Fin 66,
    ((Canon.bookName b).toList ++ (Canon.shortName b).toList).all
      (fun c => nameView c.toLower == nameView c && nameView c.toUpper == nameView c) := by
  decide +kernel

/-- A spelling of a name looks the same as the name to reading. -/
theorem Spells.map_view {t n : List Char} (h : Spells t n)
    (hn : n.all fun c => nameView c.toLower == nameView c && nameView c.toUpper == nameView c) :
    t.map nameView = n.map nameView := by
  induction h with
  | nil => rfl
  | cons hac _ ih =>
    simp only [List.all_cons, Bool.and_eq_true, beq_iff_eq] at hn
    rcases hac with rfl | rfl
    · rw [List.map_cons, List.map_cons, hn.1.1, ih hn.2]
    · rw [List.map_cons, List.map_cons, hn.1.2, ih hn.2]

/-- How every book's name is made: a first character that is no blank, and is either a digit
with more after it or a book character that ends no run of verse or chapter characters and is
no semicolon; then book characters, the last of them no blank. -/
def nameShape : List Char → Bool
  | [] => false
  | x :: body =>
    body.all isBookChar && !Text.isBlank x &&
      ((x :: body).getLast?.all fun c => !Text.isBlank c) &&
      if Text.isDigit x then !body.isEmpty
      else isBookChar x && !isVerseChar x && !isChapterChar x && x != ';'

/-- What two texts that look the same to reading give under a function of the view. -/
theorem map_of_view {t n : List Char} (h : t.map nameView = n.map nameView) {β : Type}
    {f : Char → β} (g : List Char × Bool × Bool × Bool × Bool × Bool × Bool × Bool → β)
    (hf : ∀ c, f c = g (nameView c)) : t.map f = n.map f := by
  rw [show f = g ∘ nameView from funext hf, ← List.map_map, h, List.map_map]

/-- A text that looks like a name to reading has its shape. -/
theorem nameShape_of_view {t n : List Char} (h : t.map nameView = n.map nameView) :
    nameShape t = nameShape n := by
  have hbook := map_of_view h (f := isBookChar) (·.2.2.2.1) fun _ => rfl
  have hblank := map_of_view h (f := fun c => !Text.isBlank c) (fun v => !v.2.2.1) fun _ => rfl
  have hdigit := map_of_view h (f := Text.isDigit) (·.2.1) fun _ => rfl
  have hrest := map_of_view h (f := fun c => isBookChar c && !isVerseChar c && !isChapterChar c &&
    c != ';') (fun v => v.2.2.2.1 && !v.2.2.2.2.1 && !v.2.2.2.2.2.1 && !v.2.2.2.2.2.2.1)
    fun c => by simp [nameView, bne]
  cases t with
  | nil => cases n with
    | nil => rfl
    | cons x xs => simp at h
  | cons y ys =>
    cases n with
    | nil => simp at h
    | cons x xs =>
      simp only [List.map_cons, List.cons.injEq] at hbook hblank hdigit hrest
      have hlast : (y :: ys).getLast?.map (fun c => !Text.isBlank c) =
          (x :: xs).getLast?.map (fun c => !Text.isBlank c) := by
        rw [← List.getLast?_map, ← List.getLast?_map, List.map_cons, List.map_cons, hblank.1,
          hblank.2]
      have hall : ys.all isBookChar = xs.all isBookChar := by
        simpa [List.all_map] using congrArg (List.all · id) hbook.2
      have hempty : ys.isEmpty = xs.isEmpty := by
        rw [← List.isEmpty_map (f := isBookChar), hbook.2, List.isEmpty_map]
      simp only [nameShape, hall, hblank.1, hdigit.1, hrest.1, hempty]
      have hend : (y :: ys).getLast?.all (fun c => !Text.isBlank c) =
          (x :: xs).getLast?.all (fun c => !Text.isBlank c) := by
        simpa [Option.all_map] using congrArg (Option.all id) hlast
      rw [hend]

/-- Every full and short name of a book has the shape of a name, and names its own book. -/
theorem names_shape : ∀ b : Fin 66,
    nameShape (Canon.bookName b).toList ∧ nameShape (Canon.shortName b).toList ∧
      Canon.bookIndex (Canon.bookName b) = b ∧ Canon.bookIndex (Canon.shortName b) = b := by
  decide +kernel

section Shape

variable {t : List Char} (ht : nameShape t)
include ht

/-- A name, with book characters after it, is read off the front of a text up to the first
character that is no book character. -/
theorem bookPart?_of_nameShape {g more : List Char} (hg : ∀ c ∈ g, isBookChar c)
    (hmore : ∀ c ∈ more.head?, isBookChar c = false) :
    RangeList.bookPart? (t ++ g ++ more) = some (t ++ g, more) := by
  cases t with
  | nil => simp [nameShape] at ht
  | cons x body =>
    simp only [nameShape, Bool.and_eq_true, Bool.not_eq_true'] at ht
    obtain ⟨⟨⟨hbody, -⟩, -⟩, hhead⟩ := ht
    have hrun : ∀ c ∈ body ++ g, isBookChar c := fun c hc =>
      (List.mem_append.mp hc).elim (List.all_eq_true.mp hbody c) (hg c)
    by_cases hx : Text.isDigit x
    · -- a digit, then the rest of the name
      rw [if_pos hx] at hhead
      obtain ⟨d, body', rfl⟩ := List.exists_cons_of_ne_nil (by simpa using hhead)
      obtain ⟨htake, hdrop⟩ := Text.run_exact hrun hmore
      have hd : isBookChar d := hrun d List.mem_cons_self
      simp only [List.cons_append, List.append_assoc] at htake hdrop ⊢
      simp only [RangeList.bookPart?, hx, if_true, hd]
      rw [htake, hdrop]
    · rw [if_neg hx] at hhead
      simp only [Bool.and_eq_true] at hhead
      rw [List.cons_append, List.cons_append, ← List.cons_append]
      exact RangeList.bookPart?_run (List.cons_ne_nil _ _)
        (fun c hc => (List.mem_cons.mp hc).elim (fun h => h ▸ hhead.1.1.1) (hrun c)) hmore

/-- A name, with book characters after it, is a book as a reference writes it. -/
theorem writtenBook_of_nameShape {g : List Char} (hg : g.all isBookChar) :
    Verse.WrittenBook (t ++ g) := by
  refine Verse.WrittenBook.append ?_ hg
  cases t with
  | nil => simp [nameShape] at ht
  | cons x body =>
    simp only [nameShape, Bool.and_eq_true, Bool.not_eq_true'] at ht
    obtain ⟨⟨⟨hbody, -⟩, -⟩, hhead⟩ := ht
    by_cases hx : Text.isDigit x
    · -- past the digit the name goes on in book characters, none of them a digit
      rw [if_pos hx] at hhead
      obtain ⟨d, body', rfl⟩ := List.exists_cons_of_ne_nil (by simpa using hhead)
      have hd : Text.isDigit d = false := by
        have := List.all_eq_true.mp hbody d List.mem_cons_self
        simp only [isBookChar, Bool.not_eq_true', Bool.or_eq_false_iff] at this
        exact this.1
      simp [Verse.WrittenBook, List.dropWhile_cons_of_pos hx, hd, hbody]
    · simp only [Bool.not_eq_true] at hx
      rw [if_neg (by simp [hx])] at hhead
      simp only [Bool.and_eq_true] at hhead
      simp [Verse.WrittenBook, hx, hbody, hhead.1.1.1]

/-- A name has a character other than a blank. -/
theorem any_not_blank_of_nameShape : t.any fun c => !Text.isBlank c := by
  cases t with
  | nil => simp [nameShape] at ht
  | cons x body =>
    simp only [nameShape, Bool.and_eq_true, Bool.not_eq_true'] at ht
    simp [ht.1.1.2]

/-- A name followed by blanks is trimmed to the name. -/
theorem trimBlank_of_nameShape {g : String} (hg : g.toList.all Text.isBlank) :
    Text.trimBlank (String.ofList t ++ g) = String.ofList t := by
  rw [Text.trimBlank_append_blanks (by simpa using any_not_blank_of_nameShape ht) hg]
  cases t with
  | nil => simp [nameShape] at ht
  | cons x body =>
    simp only [nameShape, Bool.and_eq_true, Bool.not_eq_true'] at ht
    obtain ⟨⟨⟨-, hx⟩, hlast⟩, -⟩ := ht
    -- no blank at the front, and none at the back
    have hfront : (x :: body).dropWhile Text.isBlank = x :: body :=
      (RangeList.run_empty (by simpa using hx)).2
    have hback : (x :: body).reverse.dropWhile Text.isBlank = (x :: body).reverse := by
      refine (RangeList.run_empty fun c hc => ?_).2
      rw [List.head?_reverse] at hc
      rw [show (x :: body).getLast? = some c from hc] at hlast
      simpa using hlast
    simp only [Text.trimBlank, String.toList_ofList, hfront, hback, List.reverse_reverse]

/-- The first character of a name: no semicolon, and, unless it is a digit, a character that
ends every run of blanks, hyphens, chapter and verse characters. -/
theorem head_of_nameShape : ∃ x body, t = x :: body ∧ x ≠ ';' ∧
    (Text.isDigit x = false → isVerseChar x = false ∧ isChapterChar x = false ∧
      (Text.isBlank x || x == '-') = false) := by
  cases t with
  | nil => simp [nameShape] at ht
  | cons x body =>
    simp only [nameShape, Bool.and_eq_true, Bool.not_eq_true'] at ht
    obtain ⟨⟨⟨-, hblank⟩, -⟩, hhead⟩ := ht
    refine ⟨x, body, rfl, ?_, fun hx => ?_⟩
    · by_cases hx : Text.isDigit x
      · rintro rfl
        exact absurd hx (by decide)
      · rw [if_neg hx] at hhead
        simp only [Bool.and_eq_true, bne_iff_ne, ne_eq] at hhead
        exact hhead.2
    · rw [if_neg (by simp [hx])] at hhead
      simp only [Bool.and_eq_true, Bool.not_eq_true'] at hhead
      obtain ⟨⟨⟨hbook, hverse⟩, hchapter⟩, -⟩ := hhead
      have hhyphen : x ≠ '-' := by
        rintro rfl
        exact absurd hbook (by decide)
      simp [hverse, hchapter, hblank, hhyphen]

end Shape

/-- The blank written between a book and its chapter, if any. -/
def gapText : Bool → String
  | true => " "
  | false => ""

theorem gapText_blank (spaced : Bool) :
    (gapText spaced).toList.all Text.isBlank ∧ (gapText spaced ++ " ").toList.all isBookChar := by
  cases spaced <;> decide

/-- A book as a reference list writes it: the full or the short name of a book, with any of its
letters in upper or lower case. -/
structure BookText where
  book : Nat
  text : String
  book_lt : book < Canon.bookCount
  spells : Spells text.toList (Canon.bookName book).toList ∨
    Spells text.toList (Canon.shortName book).toList

namespace BookText

variable (w : BookText)

/-- A spelling looks to reading like the name it spells, and has its shape. -/
theorem view : ∃ n : String, w.text.toList.map nameView = n.toList.map nameView ∧
    nameShape n.toList ∧ Canon.bookIndex n = w.book := by
  obtain ⟨hfull, hshort, hifull, hishort⟩ := names_shape ⟨w.book, w.book_lt⟩
  have hcase := names_caseBlind ⟨w.book, w.book_lt⟩
  rw [List.all_append, Bool.and_eq_true] at hcase
  rcases w.spells with h | h
  · exact ⟨_, h.map_view hcase.1, hfull, hifull⟩
  · exact ⟨_, h.map_view hcase.2, hshort, hishort⟩

theorem shape : nameShape w.text.toList := by
  obtain ⟨n, hv, hn, -⟩ := w.view
  rw [nameShape_of_view hv]
  exact hn

/-- A spelling names its book. -/
theorem bookIndex_text : Canon.bookIndex w.text = w.book := by
  obtain ⟨n, hv, -, hn⟩ := w.view
  have hlower : Text.lower w.text = Text.lower n := by
    have hmap := map_of_view hv (f := Text.lowerFull) (·.1) fun _ => rfl
    simp only [Text.lower, List.flatMap_def, hmap]
  rw [← hn]
  unfold Canon.bookIndex
  rw [hlower]

/-- **Reading a reference with a spelled book.** A book spelled any way, a blank or none, a
chapter of the book and a verse of that chapter are read as that verse, named by its book,
chapter and verse. -/
theorem ofText_spelled (spaced : Bool) {c v : Nat} (h : Canon.IsChapter w.book c) (hpos : 0 < v)
    (hle : v ≤ Canon.versesOf w.book c) :
    ∃ x, Verse.ofText (w.text ++ gapText spaced ++ " " ++ toString c ++ ":" ++ toString v) =
        .ok x ∧ (x.offset : Int) = Canon.countedOffset w.book c v ∧ x.named = ⟨w.book, c, v⟩ := by
  obtain ⟨hblank, hbook⟩ := gapText_blank spaced
  have hB : Verse.WrittenBook (w.text ++ gapText spaced ++ " ").toList := by
    rw [String.append_assoc, String.toList_append]
    exact writtenBook_of_nameShape w.shape (by simpa using hbook)
  have hletter : (w.text ++ gapText spaced).toList.any fun x => !Text.isBlank x := by
    rw [String.toList_append, List.any_append, any_not_blank_of_nameShape w.shape, Bool.true_or]
  have hidx : Canon.bookIndex (Text.trimBlank (w.text ++ gapText spaced)) = w.book := by
    have htrim := trimBlank_of_nameShape w.shape hblank
    rw [String.ofList_toList] at htrim
    rw [htrim, bookIndex_text]
  exact Canon.ofText_written hB hletter hidx h hpos hle

end BookText

end Scripture
