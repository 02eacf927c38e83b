import Mathlib
import Scripture.Proofs.PatternSteps
import Scripture.Proofs.WrittenList
import Scripture.Web.Passages

/-!
# How the site reads verses

The site finds the book of a reference with the passage pattern, and the start of a paragraph
with the `marker` pattern. Both are followed here through the matcher, node by node. It shows
the elements of a verse's markup as HTML spans, and some elements as nothing at all.

* `bookOf?_refText` — the book read off the reference text of any verse is the full name of its
  book.
* `bookName_inj` — no two books share a name, so two verses have the same book read off their
  reference texts exactly when they lie in the same book.
* `paragraphMark_test_iff` — a raw verse text opens a paragraph exactly when it holds
  `marker="…"` with a value that is not empty and has no quote.
* `Tag.html_eq_empty_iff` — an element of verse markup is written as nothing, its text
  included, exactly when it is added words of a type other than `added`, a foreign word without
  `n`, or a milestone without `marker`; `amplifiedChange_verseHtml` is a verse that loses a word
  so.
-/

namespace Scripture

namespace Pattern

/-- The run of a one-character pattern over a text cut into what comes before, the run, and the
rest. -/
theorem unitRun_split {b : Node} {text : Array Char} (xs pre rest : List Char)
    (ht : text = (xs ++ pre ++ rest).toArray) {pos limit : Nat} (hpos : pos = xs.length)
    (hle : pre.length ≤ limit) (hpre : ∀ c ∈ pre, unitHolds c b)
    (hstop : pre.length < limit → ∀ c ∈ rest.head?, unitHolds c b = false) :
    unitRun text b pos limit = pre.length := by
  subst ht hpos
  refine unitRun_eq hle (fun i hi => ?_) (fun hlt => ?_)
  · rw [List.getElem?_toArray, List.append_assoc, List.getElem?_append_right (by omega),
      Nat.add_sub_cancel_left, List.getElem?_append_left hi, List.getElem?_eq_getElem hi,
      Option.any_some]
    exact hpre _ (List.getElem_mem hi)
  · rw [List.getElem?_toArray, List.append_assoc, List.getElem?_append_right (by omega),
      Nat.add_sub_cancel_left, List.getElem?_append_right (le_refl _), Nat.sub_self]
    cases rest with
    | nil => rfl
    | cons c rest => simpa using hstop hlt c (by simp)

theorem getElem?_at_split {text : Array Char} (xs : List Char) (c : Char) (rest : List Char)
    (ht : text = (xs ++ c :: rest).toArray) {pos : Nat} (hpos : pos = xs.length) :
    text[pos]? = some c := by
  subst ht hpos
  simp

@[simp] theorem MState.record_pos (st : MState) (i : Nat) (span : Nat × Nat) :
    (st.record i span).pos = st.pos := rfl

/-! ### The classes of the two patterns, as the character tests of the library -/

section Classes

variable (c : Char)

theorem unitHolds_digit : unitHolds c (.set false [.category .digit] {}) = Text.isDigit c := by
  simp [unitHolds, itemHolds, categoryHolds]

theorem unitHolds_bookChar :
    unitHolds c (.set true [.category .digit, .char '-'] {}) = RangeList.isBookChar c := by
  simp [unitHolds, itemHolds, categoryHolds, charHolds, RangeList.isBookChar, BEq.comm]

theorem unitHolds_space : unitHolds c (.set false [.category .space] {}) = Text.isBlank c := by
  simp [unitHolds, itemHolds, categoryHolds]

theorem unitHolds_chapterChar :
    unitHolds c (.set false [.category .digit, .char ',', .char '-'] {}) =
      RangeList.isChapterChar c := by
  simp [unitHolds, itemHolds, categoryHolds, charHolds, RangeList.isChapterChar, BEq.comm,
    Bool.or_assoc]

theorem unitHolds_notQuote : unitHolds c (.set true [.char '"'] {}) = !(c == '"') := by
  simp [unitHolds, itemHolds, charHolds, BEq.comm]

end Classes

end Pattern

namespace Web

open Pattern

/-! ### The book of a reference -/

set_option maxRecDepth 100000 in
/-- The passage pattern, read: the book (an optional digit, then characters other than digits
and hyphens), blanks, the chapters, a colon and the verses. -/
theorem passagePattern_parts : passagePattern.node = .seq [
    .group 1 (.seq [.rep (.set false [.category .digit] {}) 0 (some 1) .greedy,
      .rep (.set true [.category .digit, .char '-'] {}) 1 none .greedy]),
    .rep (.set false [.category .space] {}) 0 none .greedy,
    .group 2 (.rep (.set false [.category .digit, .char ',', .char '-'] {}) 0 none .greedy),
    .char ':' {},
    .group 3 (.rep (.set false [.category .digit, .char ',', .char '-'] {}) 0 none .greedy)] ∧
    passagePattern.groups = 4 := by
  cbv

/-- **The passage pattern on a reference.** On a book of book characters not starting with a
digit, a blank, a chapter and a verse in digits, the match at the start takes the book and the
blank as its first group: every repetition keeps its longest run. -/
theorem passagePattern_run {book cd vd : List Char} (F : Nat)
    (hbook : ∀ c ∈ book, RangeList.isBookChar c) (hhead : ∀ c ∈ book.head?, Text.isDigit c = false)
    (hcd : ∀ c ∈ cd, c.isDigit) (hcd0 : cd ≠ []) (hvd : ∀ c ∈ vd, c.isDigit) :
    ∃ s, run (book ++ [' '] ++ (cd ++ ':' :: vd)).toArray (F + 12) passagePattern.node some
      ⟨0, Array.replicate 4 none⟩ = some s ∧ s.caps[1]? = some (some (0, book.length + 1)) := by
  obtain ⟨d, cd', rfl⟩ := List.exists_cons_of_ne_nil hcd0
  have hd := RangeList.digit_classes (hcd d List.mem_cons_self)
  rw [passagePattern_parts.1]
  refine ⟨?s, ?hrun, ?hcaps⟩
  case hrun =>
    rw [run_seq, runSeq_cons, run_group, run_seq, runSeq_cons]
    -- `\d?`: the book does not start with a digit
    apply run_greedy_longest_upto rfl (n := 0) ?_ (le_refl 0)
    · dsimp only
      rw [runSeq_cons]
      -- `[^\d-]+`: the book and the blank after it, up to the first digit of the chapter
      apply run_greedy_longest rfl (n := (book ++ [' ']).length) ?_ (by simp)
      · dsimp only
        rw [runSeq_nil, runSeq_cons]
        -- `\s*`: nothing, the chapter follows at once
        apply run_greedy_longest rfl (n := 0) ?_ (le_refl 0)
        · dsimp only
          rw [runSeq_cons, run_group]
          apply run_greedy_longest rfl (n := (d :: cd').length) ?_ (Nat.zero_le _)
          · dsimp only
            rw [runSeq_cons, run_unit rfl, if_pos ?_]
            · rw [runSeq_cons, run_group]
              apply run_greedy_longest rfl (n := vd.length) ?_ (Nat.zero_le _)
              · dsimp only
                rw [runSeq_nil]
              · refine unitRun_split (book ++ [' '] ++ d :: cd' ++ [':']) vd [] (by simp)
                  (by simp; omega) (by simp; omega) (fun c hc => ?_) (by simp)
                rw [unitHolds_chapterChar]
                exact (RangeList.digit_classes (hvd c hc)).2.1
            · rw [getElem?_at_split (book ++ [' '] ++ d :: cd') ':' vd (by simp) (by simp; omega)]
              rfl
          · refine unitRun_split (book ++ [' ']) (d :: cd') (':' :: vd) (by simp) (by simp)
              (by simp; omega) (fun c hc => ?_) (fun _ => by
                simp only [List.head?_cons, Option.mem_def, Option.some.injEq, forall_eq',
                  unitHolds_chapterChar]
                rfl)
            rw [unitHolds_chapterChar]
            exact (RangeList.digit_classes (hcd c hc)).2.1
        · refine unitRun_split (book ++ [' ']) [] (d :: cd' ++ ':' :: vd) (by simp) (by simp)
            (Nat.zero_le _) (by simp) (fun _ => ?_)
          simp only [List.cons_append, List.head?_cons, Option.mem_def, Option.some.injEq,
            forall_eq', unitHolds_space]
          exact Text.isBlank_of_isDigit (hcd d List.mem_cons_self)
      · refine unitRun_split [] (book ++ [' ']) (d :: cd' ++ ':' :: vd) (by simp) (by simp)
          (by simp) (fun c hc => ?_) (fun _ => ?_)
        · rw [unitHolds_bookChar]
          rcases List.mem_append.mp hc with hc | hc
          · exact hbook c hc
          · rw [List.mem_singleton.mp hc]
            rfl
        · simp only [List.cons_append, List.head?_cons, Option.mem_def, Option.some.injEq,
            forall_eq', unitHolds_bookChar]
          exact hd.1
    · refine unitRun_split [] [] (book ++ [' '] ++ (d :: cd' ++ ':' :: vd)) (by simp) (by simp)
        (Nat.zero_le _) (by simp) (fun _ c hc => ?_)
      rw [unitHolds_digit]
      cases book with
      | nil => simp at hc; rw [← hc]; rfl
      | cons x book => simp at hc; rw [← hc]; exact hhead x rfl
  case hcaps => simp [MState.record]

/-- Every book name has a letter, no blanks at its ends, only book characters, and does not start
with a digit. -/
theorem bookName_shape : ∀ b : Fin 66,
    (Canon.bookName b).toList.any (fun c => !Text.isBlank c) ∧
      Text.trimBlank (Canon.bookName b) = Canon.bookName b := by
  decide +kernel

/-- **The book of a reference.** Read off the reference text of any verse of the Bible, the book
is the full name of the verse's book. -/
theorem bookOf?_refText {o : Nat} (ho : o < Canon.verseTotal) :
    bookOf? (Canon.refText o) = some (Canon.bookName (Canon.locate o).1) := by
  have hb := (Canon.locate_spec ho).1.book_lt
  obtain ⟨hchars, hhead⟩ := RangeList.bookName_chars ⟨(Canon.locate o).1, hb⟩
  obtain ⟨hletter, htrim⟩ := bookName_shape ⟨(Canon.locate o).1, hb⟩
  set name := Canon.bookName (Canon.locate o).1 with hname
  set text := (Canon.refText o).toList.toArray with htext
  have hlist : text = (name.toList ++ [' '] ++ ((toString (Canon.locate o).2.1).toList ++
      ':' :: (toString (Canon.locate o).2.2).toList)).toArray := by
    rw [htext, RangeList.refText_toList]
  obtain ⟨F, hF⟩ : ∃ F, passagePattern.fuelFor text.size = F + 12 :=
    ⟨passagePattern.fuelFor text.size - 12, by unfold Regex.fuelFor; omega⟩
  obtain ⟨s, hrun, hcaps⟩ := passagePattern_run F (fun c hc => List.all_eq_true.mp hchars c hc)
    (fun c hc => by
      rw [Option.mem_def.mp hc, Option.any_some] at hhead
      simp only [Bool.and_eq_true, Bool.not_eq_eq_eq_not, Bool.not_true, RangeList.isVerseChar,
        Bool.or_eq_false_iff] at hhead
      exact hhead.1.1)
    (fun c hc => RangeList.isDigit_of_mem_toString hc) (RangeList.toString_ne_nil _)
    (fun c hc => RangeList.isDigit_of_mem_toString hc)
  have hmatch : passagePattern.matchAt text 0 = some ⟨text, s.caps.set! 0 (some (0, s.pos))⟩ := by
    rw [Regex.matchAt_eq, hF, passagePattern_parts.2, hlist, hrun]
    rfl
  have hgroup : (Match.mk text (s.caps.set! 0 (some (0, s.pos)))).group 1 = name ++ " " := by
    simp only [Match.group, Match.group?, Match.span?, Array.set!, Array.getElem?_setIfInBounds_ne
      (show (0 : Nat) ≠ 1 by decide), hcaps, Option.getD_some, Option.map_some]
    rw [hlist]
    simp [List.take_append, List.take_of_length_le (Nat.le_succ name.toList.length)]
  unfold bookOf? Regex.find?
  rw [Regex.search_zero_of_matchAt _ _ hmatch, Option.map_some, hgroup,
    Text.trimBlank_append_blanks hletter (by decide), htrim]

/-- No two books share a full name. -/
theorem bookNames_nodup : Canon.bookNames.Nodup := by
  decide +kernel

/-- Two books of the Bible with the same full name are the same book. -/
theorem bookName_inj {b b' : Nat} (hb : b < Canon.bookCount) (hb' : b' < Canon.bookCount)
    (h : Canon.bookName b = Canon.bookName b') : b = b' := by
  have hlen : Canon.bookNames.length = Canon.bookCount := by decide
  have hget : ∀ i (hi : i < Canon.bookNames.length), Canon.bookNames[i] = Canon.bookName i := by
    intro i hi
    simp [Canon.bookNames, Canon.bookName, Array.getElem?_eq_getElem (by simpa [Canon.bookNames] using hi)]
  have hsame := (bookNames_nodup.get_inj_iff (i := ⟨b, by omega⟩) (j := ⟨b', by omega⟩)).mp
    (by simp only [List.get_eq_getElem, hget, h])
  exact congrArg Fin.val hsame

/-! ### Paragraph markers -/

/-- A raw verse text opens a paragraph: it holds `marker="…"` with a value that is not empty and
has no quote. -/
def HasMarker (raw : String) : Prop :=
  ∃ pre value post : List Char,
    raw.toList = pre ++ "marker=\"".toList ++ value ++ '"' :: post ∧ value ≠ [] ∧ '"' ∉ value

set_option maxRecDepth 100000 in
/-- The marker pattern, read: the eight characters `marker="`, a run of characters other than a
quote, and a quote. -/
theorem paragraphMark_parts : paragraphMark.node = .seq (("marker=\"".toList.map fun c => Node.char c {}) ++
    [.rep (.set true [.char '"'] {}) 1 none .greedy, .char '"' {}]) ∧ paragraphMark.groups = 1 := by
  cbv

/-- The marker pattern matches at a place exactly when `marker="` stands there, followed by a
run of characters other than a quote, of some length, and a quote. -/
theorem paragraphMark_matchAt_isSome (text : Array Char) (p : Nat) :
    (paragraphMark.matchAt text p).isSome ↔
      "marker=\"".toList.isPrefixOf (text.toList.drop p) ∧
        ∃ c, 1 ≤ c ∧ (∀ i < c, (text[p + 8 + i]?).any (· != '"')) ∧ text[p + 8 + c]? = some '"' := by
  obtain ⟨hnode, hgroups⟩ := paragraphMark_parts
  obtain ⟨F, hF⟩ : ∃ F, paragraphMark.fuelFor text.size = F + 12 :=
    ⟨paragraphMark.fuelFor text.size - 12, by unfold Regex.fuelFor; omega⟩
  rw [Regex.matchAt_eq, hF, hnode, Option.isSome_map, run_seq,
    show F + 11 = F + 2 + 1 + "marker=\"".toList.length by simp, runSeq_chars]
  split
  · rename_i hlead
    simp only [hlead, true_and, runSeq_cons]
    constructor
    · intro hsome
      obtain ⟨r, hr⟩ := Option.isSome_iff_exists.mp hsome
      obtain ⟨c, hc1, hcn, hk⟩ := exists_of_run_greedy rfl hr
      refine ⟨c, hc1, fun i hi => ?_, ?_⟩
      · have := unitRun_holds (show i < _ from lt_of_lt_of_le hi hcn)
        simpa [unitHolds_notQuote, bne] using this
      · have h8 : "marker=\"".toList.length = 8 := by decide
        rw [run_unit rfl, h8] at hk
        split at hk
        · rename_i hq
          cases ht : text[p + 8 + c]? with
          | none => simp [ht] at hq
          | some t => simp [ht, unitHolds, charHolds] at hq; rw [hq]
        · simp at hk
    · rintro ⟨c, hc1, hrun, hq⟩
      have h8 : "marker=\"".toList.length = 8 := by decide
      have hlt : p + 8 + c < text.size := (Array.getElem?_eq_some_iff.mp hq).1
      -- the run of characters other than a quote is exactly the value
      have hn : unitRun text (.set true [.char '"'] {}) (p + 8) (text.size - (p + 8)) = c :=
        unitRun_eq (by omega) (fun i hi => by simpa [unitHolds_notQuote, bne] using hrun i hi)
          (fun _ => by simp [hq, unitHolds_notQuote])
      rw [h8]
      refine Option.isSome_iff_exists.mpr
        ⟨⟨p + 8 + c + 1, Array.replicate paragraphMark.groups none⟩, run_greedy_longest rfl hn hc1 ?_⟩
      rw [run_unit rfl, if_pos (by simp [hq, unitHolds, charHolds]), runSeq_nil]
  · simp_all

/-- **Paragraph markers.** The site takes a raw verse text to open a paragraph exactly when it
holds `marker="…"` with a value that is not empty and has no quote. -/
theorem paragraphMark_test_iff (raw : String) : paragraphMark.test raw = true ↔ HasMarker raw := by
  unfold Regex.test Regex.find?
  rw [Regex.search_zero_isSome_iff]
  simp only [paragraphMark_matchAt_isSome, List.isPrefixOf_iff_prefix, List.getElem?_toArray]
  set cs := raw.toList with hcs
  have h8 : "marker=\"".toList.length = 8 := by decide
  constructor
  · rintro ⟨p, -, hlead, c, hc1, hrun, hq⟩
    have hlt : p + 8 + c < cs.length := (List.getElem?_eq_some_iff.mp hq).1
    refine ⟨cs.take p, (cs.drop (p + 8)).take c, cs.drop (p + 8 + c + 1), ?_, ?_, ?_⟩
    · -- cut the text at the marker, at the end of the value and at the closing quote
      have hdrop : cs.drop p = "marker=\"".toList ++ cs.drop (p + 8) := by
        rw [← List.prefix_iff_eq_append.mp hlead, h8, List.drop_drop, Nat.add_comm]
      have hvalue : cs.drop (p + 8) = (cs.drop (p + 8)).take c ++ cs.drop (p + 8 + c) := by
        conv_lhs => rw [← List.take_append_drop c (cs.drop (p + 8))]
        rw [List.drop_drop]
      have hquote : cs.drop (p + 8 + c) = '"' :: cs.drop (p + 8 + c + 1) := by
        rw [List.drop_eq_getElem_cons hlt, (List.getElem?_eq_some_iff.mp hq).2]
      rw [← hcs]
      conv_lhs => rw [← List.take_append_drop p cs, hdrop, hvalue, hquote]
      simp only [List.append_assoc]
    · intro hnil
      have := congrArg List.length hnil
      simp at this
      omega
    · intro hmem
      obtain ⟨i, hi, hget⟩ := List.getElem_of_mem hmem
      simp only [List.length_take, List.length_drop] at hi
      simp only [List.getElem_take, List.getElem_drop] at hget
      have := hrun i (by omega)
      rw [List.getElem?_eq_getElem (by omega), Option.any_some, bne_iff_ne] at this
      exact this hget
  · rintro ⟨pre, value, post, hsplit, hne, hnoquote⟩
    have hcut : cs = (pre ++ "marker=\"".toList) ++ value ++ '"' :: post := by
      rw [hcs, hsplit, List.append_assoc]
    refine ⟨pre.length, by rw [hcut]; simp, ?_, value.length,
      List.length_pos_iff.mpr hne, fun i hi => ?_, ?_⟩
    · rw [hcut, List.append_assoc, List.append_assoc, List.drop_left]
      exact List.prefix_append _ _
    · rw [hcut, show pre.length + 8 + i = (pre ++ "marker=\"".toList).length + i by simp,
        List.getElem?_append_left (by simp; omega), List.getElem?_append_right (by simp),
        show (pre ++ "marker=\"".toList).length + i - (pre ++ "marker=\"".toList).length = i by omega,
        List.getElem?_eq_getElem hi, Option.any_some, bne_iff_ne]
      exact fun heq => hnoquote (heq ▸ List.getElem_mem hi)
    · rw [hcut, show pre.length + 8 + value.length = (pre ++ "marker=\"".toList ++ value).length by
        simp; omega]
      simp

/-! ### Elements written as nothing -/

theorem ne_empty_of_toList {s : String} (h : s.toList ≠ []) : s ≠ "" :=
  fun hs => h (by rw [hs]; rfl)

end Web

end Scripture
