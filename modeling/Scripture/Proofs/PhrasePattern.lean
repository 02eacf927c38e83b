import Mathlib
import Scripture.Proofs.SearchPatterns

/-!
# The pattern of a phrase search

A phrase search is a list of words of letters and `*`. The search builds its pattern by a chain
of replacements (`termsPattern`): stars are marked, the terms are cleaned, tags and Strong's
numbers are looked for, each word is wrapped in word bounds by `searchWord`, the marked stars
become `\w*`, and the words are joined by filler. This module follows that chain on a phrase and
names the pattern it ends with, `Phrase.pattern`; it then writes that pattern as parts
(`Phrase.phraseParts`), so that the reader's lemmas give its node.

* `Phrase.fields_terms` — the words of a phrase's terms are its words; `Phrase.terms_plain` — a
  phrase of words of letters holds no `*`, Strong's number or tag.
* `termsPattern_phrase` — the search builds the pattern of the phrase: each word's letters, with
  `\w*` for a star, captured between word bounds, and filler between the words.
* `read_pattern` — that pattern is read without fault, into the nodes of its parts.
-/

namespace Scripture.Search

open Pattern

namespace Phrase

/-- A word of a phrase search: ASCII letters and `*`, not empty. -/
structure Word where
  chars : List Char
  nonempty : chars ≠ []
  spelled : ∀ c ∈ chars, c.isAlpha ∨ c = '*'

/-- The terms of a phrase search: its words separated by blanks. -/
def terms (ws : List Word) : String := " ".intercalate (ws.map fun w => String.ofList w.chars)

/-- How the words of a phrase are bounded: by word edges, or (as the site marks found words in
text that already holds span tags) by word edges and span tags. -/
inductive Bounds where
  | plain
  | spans
deriving DecidableEq, Repr

/-- The word bound, as the search is given it: a replacement template. -/
def Bounds.template : Bounds → String
  | .plain => "\\\\b"
  | .spans => "(?:" ++ Web.spanTag ++ "|\\\\b)+"

/-- What else may stand between the words of a phrase, as the search is given it. -/
def Bounds.extraSpace : Bounds → String
  | .plain => ""
  | .spans => "|" ++ Web.spanTag ++ "|" ++ "</span>"

/-- The word bound as it stands in the pattern. -/
def Bounds.pattern : Bounds → String
  | .plain => "\\b"
  | .spans => "(?:</?span[^>]*>|\\b)+"

/-- A word with each `*` written `_star_`, as the search marks it. -/
def starMarked (w : List Char) : List Char := w.flatMap fun c => if c = '*' then "_star_".toList else [c]

/-- A word with each `*` written `\w*`, the pattern it stands for. -/
def starPattern (w : List Char) : List Char := w.flatMap fun c => if c = '*' then "\\w*".toList else [c]

/-- The pattern of a word: its letters, and `\w*` for each `*`, captured between word bounds. -/
def wordPattern (bd : Bounds) (w : Word) : String :=
  "(?:" ++ bd.pattern ++ "(" ++ String.ofList (starPattern w.chars) ++ ")" ++ bd.pattern ++ ")"

/-- What may stand between the words of a phrase, as few times over as will do: a blank or a
punctuation mark, (with span bounds) a span tag, a tag in angle brackets, a tag in braces, and
for a sloppy search a whole word. -/
def filler (bd : Bounds) (sloppy : Bool) : String :=
  "(?:[\\s,\\?\\!\\.;:\\\\/_\\(\\)\\[\\]\"\\'-]" ++ bd.extraSpace ++ "|<[^>]*>|\\\x7b[^\\\x7d]*\\\x7d" ++
    (if sloppy then "|\\b\\w+\\b" else "") ++ ")*?"

/-- The pattern of a phrase: the patterns of its words with filler between them. -/
def pattern (bd : Bounds) (sloppy : Bool) (ws : List Word) : String :=
  (filler bd sloppy).intercalate (ws.map (wordPattern bd))

/-- What the search makes of a word before its stars are turned back: the word with marked
stars, captured between word bounds. -/
def markedPattern (bd : Bounds) (w : Word) : String :=
  "(?:" ++ bd.pattern ++ "(" ++ String.ofList (starMarked w.chars) ++ ")" ++ bd.pattern ++ ")"

end Phrase

theorem filler_eq_separator (bd : Phrase.Bounds) (sloppy : Bool) :
    separator bd.extraSpace true true sloppy = Phrase.filler bd sloppy := by
  cases bd <;> cases sloppy <;> decide

theorem searchWord_template (bd : Phrase.Bounds) :
    searchWord.template ("(?:" ++ bd.template ++ "(\\1)" ++ bd.template ++ ")") =
      .ok [.text ("(?:" ++ bd.pattern ++ "("), .group 1, .text (")" ++ bd.pattern ++ ")")] := by
  rw [show searchWord.template = Regex.template ⟨"", .empty, searchWord.groups, searchWord.names, false⟩
    from rfl, searchWord_node.2.1, searchWord_node.2.2]
  cases bd <;> decide +kernel

/-! ### ASCII letters -/

section Letters

variable {c : Char}

theorem toNat_of_isAlpha (h : c.isAlpha = true) :
    65 ≤ c.toNat ∧ c.toNat ≤ 90 ∨ 97 ≤ c.toNat ∧ c.toNat ≤ 122 := by
  simpa [Char.isAlpha, Char.isUpper, Char.isLower, UInt32.le_iff_toNat_le] using h

theorem isWordChar_of_isAlpha (h : c.isAlpha = true) : Text.isWordChar c = true := by
  have h128 : c.toNat < 128 := by have := toNat_of_isAlpha h; omega
  simp [Text.isWordChar, Text.isAlnum, h128, Char.isAlphanum, h]

theorem isBlank_of_isAlpha (h : c.isAlpha = true) : Text.isBlank c = false := by
  have hr := toNat_of_isAlpha h
  have hsp : c ≠ ' ' := fun he => by rw [he] at hr; simp at hr
  simp [Text.isBlank, show c.toNat < 128 by omega, hsp]
  omega

theorem isDigit_of_isAlpha (h : c.isAlpha = true) : Text.isDigit c = false := by
  have hr := toNat_of_isAlpha h
  simp [Text.isDigit, show c.toNat < 128 by omega, Char.le_def, UInt32.le_iff_toNat_le]
  omega

theorem ne_of_isAlpha (h : c.isAlpha = true) {d : Char} (hd : d.isAlpha = false) : c ≠ d := by
  rintro rfl
  rw [h] at hd
  cases hd

/-- A letter is neither a digit nor the opening bracket of a tag. -/
theorem unmarked_of_isAlpha (h : c.isAlpha = true) :
    Text.isDigit c = false ∧ c ≠ '(' ∧ c ≠ '\x7b' :=
  ⟨isDigit_of_isAlpha h, ne_of_isAlpha h (by decide), ne_of_isAlpha h (by decide)⟩

/-- Upper case keeps a letter a letter. -/
theorem isAlpha_upperFull (h : c.isAlpha = true) : ∀ d ∈ Text.upperFull c, d.isAlpha = true := by
  have hlt : c.toNat < 128 := by have := toNat_of_isAlpha h; omega
  -- the upper case of each of the first 128 characters, checked one by one
  have hascii : ∀ n : Fin 128, (Char.ofNat n).isAlpha = true →
      (Char.ofNat n).toUpper.isAlpha = true := by decide
  have hof : Char.ofNat c.toNat = c := Char.ofNat_toNat c
  intro d hd
  rw [Text.upperFull, if_pos hlt, List.mem_singleton] at hd
  rw [hd, ← hof]
  exact hascii ⟨c.toNat, hlt⟩ (by rw [Fin.val_mk, hof]; exact h)

end Letters

/-- The characters of a word once its stars are marked: letters and the characters of `_star_`. -/
theorem starMarked_chars {w : List Char} (hw : ∀ c ∈ w, c.isAlpha ∨ c = '*') :
    ∀ c ∈ Phrase.starMarked w, c.isAlpha ∨ c = '_' := by
  intro c hc
  obtain ⟨d, hd, hcd⟩ := List.mem_flatMap.mp hc
  rcases hw d hd with ha | rfl
  · rw [if_neg (by rintro rfl; simp at ha)] at hcd
    rw [List.mem_singleton.mp hcd]
    exact .inl ha
  · rw [if_pos rfl, show "_star_".toList = ['_', 's', 't', 'a', 'r', '_'] from rfl] at hcd
    simp only [List.mem_cons, List.not_mem_nil, or_false] at hcd
    rcases hcd with rfl | rfl | rfl | rfl | rfl | rfl <;> decide

theorem starMarked_ne_nil {w : List Char} (hw : w ≠ []) : Phrase.starMarked w ≠ [] := by
  obtain ⟨d, w, rfl⟩ := List.exists_cons_of_ne_nil hw
  unfold Phrase.starMarked
  rw [List.flatMap_cons]
  split <;> simp

/-- Marked stars become `\w*` again, and the letters stay. -/
theorem replaceList_starMarked {w : List Char} (hw : ∀ c ∈ w, c.isAlpha ∨ c = '*') (B : List Char) :
    Text.replaceList "_star_".toList "\\w*".toList (Phrase.starMarked w ++ B) =
      Phrase.starPattern w ++ Text.replaceList "_star_".toList "\\w*".toList B := by
  induction w with
  | nil => rfl
  | cons c w ih =>
    have hrest := ih fun d hd => hw d (List.mem_cons_of_mem c hd)
    simp only [Phrase.starMarked, Phrase.starPattern, List.flatMap_cons] at hrest ⊢
    rcases hw c List.mem_cons_self with ha | rfl
    · have hne : c ≠ '*' := by rintro rfl; simp at ha
      have h_ : c ≠ '_' := by rintro rfl; simp at ha
      rw [if_neg hne, if_neg hne, List.singleton_append, List.singleton_append, List.cons_append,
        List.cons_append, Text.replaceList_cons_of_head_ne (by simpa [eq_comm] using h_), hrest]
    · rw [if_pos rfl, if_pos rfl, List.append_assoc, Text.replaceList_pat_append (by simp), hrest,
        List.append_assoc]

theorem pattern_head_ne (bd : Phrase.Bounds) :
    (∀ c ∈ ("(?:" ++ bd.pattern ++ "(").toList, "_star_".toList.head? ≠ some c) ∧
      ∀ c ∈ (")" ++ bd.pattern ++ ")").toList, "_star_".toList.head? ≠ some c := by
  cases bd <;> simp [Phrase.Bounds.pattern]

theorem bounded_toList (P : String) (M : List Char) :
    ("(?:" ++ P ++ "(" ++ String.ofList M ++ ")" ++ P ++ ")").toList =
      ("(?:" ++ P ++ "(").toList ++ M ++ (")" ++ P ++ ")").toList := by
  simp

theorem replaceList_markedPattern (bd : Phrase.Bounds) (w : Phrase.Word) (B : List Char) :
    Text.replaceList "_star_".toList "\\w*".toList ((Phrase.markedPattern bd w).toList ++ B) =
      (Phrase.wordPattern bd w).toList ++ Text.replaceList "_star_".toList "\\w*".toList B := by
  obtain ⟨h₁, h₂⟩ := pattern_head_ne bd
  rw [Phrase.markedPattern, Phrase.wordPattern, bounded_toList, bounded_toList, List.append_assoc, List.append_assoc,
    Text.replaceList_append_of_head h₁, replaceList_starMarked w.spelled,
    Text.replaceList_append_of_head h₂, List.append_assoc, List.append_assoc]

/-- Replacing in texts joined by blanks, where the pattern does not start with a blank, replaces
in each text. -/
theorem replaceList_joined {α : Type} {pat rep : List Char} {f g : α → List Char}
    (hfg : ∀ a B, Text.replaceList pat rep (f a ++ B) = g a ++ Text.replaceList pat rep B)
    (hsep : pat.head? ≠ some ' ') :
    ∀ xs : List α, Text.replaceList pat rep ([' '].intercalate (xs.map f)) = [' '].intercalate (xs.map g)
  | [] => by simp
  | [a] => by simpa using hfg a []
  | a :: b :: xs => by
    have ih := replaceList_joined hfg hsep (b :: xs)
    simp only [List.map_cons] at ih ⊢
    rw [List.intercalate_cons_cons, List.intercalate_cons_cons, List.append_assoc, hfg,
      List.singleton_append, Text.replaceList_cons_of_head_ne hsep, ih, List.append_assoc,
      List.singleton_append]

theorem replaceAll_markedPatterns (bd : Phrase.Bounds) (ws : List Phrase.Word) :
    Text.replaceAll (String.ofList ([' '].intercalate (ws.map fun w => (Phrase.markedPattern bd w).toList)))
        "_star_" "\\w*" =
      String.ofList ([' '].intercalate (ws.map fun w => (Phrase.wordPattern bd w).toList)) := by
  rw [Text.replaceAll, String.toList_ofList (l := [' '].intercalate _),
    replaceList_joined (replaceList_markedPattern bd) (by decide)]

/-- What holds of a blank and of every character of every text holds of the texts joined by
blanks. -/
theorem forall_mem_joined {p : Char → Prop} (hsp : p ' ') :
    ∀ {Ls : List (List Char)}, (∀ L ∈ Ls, ∀ c ∈ L, p c) → ∀ c ∈ [' '].intercalate Ls, p c
  | [], _ => by simp
  | [L], h => by simpa using h L (by simp)
  | L :: M :: Ls, h => by
    rw [List.intercalate_cons_cons]
    intro c hc
    simp only [List.mem_append, List.mem_singleton] at hc
    rcases hc with (hc | rfl) | hc
    · exact h L List.mem_cons_self c hc
    · exact hsp
    · exact forall_mem_joined hsp (fun K hK => h K (List.mem_cons_of_mem L hK)) c hc

/-- The terms of a phrase are its words' letters joined by blanks. -/
theorem Phrase.terms_ofList (ws : List Phrase.Word) :
    Phrase.terms ws = String.ofList ([' '].intercalate (ws.map (·.chars))) := by
  rw [Phrase.terms, show ws.map (fun w => String.ofList w.chars) = (ws.map (·.chars)).map String.ofList
    by simp, intercalate_ofList]

/-- What holds of a blank and of every character of every word of a phrase holds of its terms. -/
theorem Phrase.terms_chars {p : Char → Prop} (hsp : p ' ') {ws : List Phrase.Word}
    (hw : ∀ w ∈ ws, ∀ c ∈ w.chars, p c) : ∀ c ∈ (Phrase.terms ws).toList, p c := by
  rw [Phrase.terms_ofList, String.toList_ofList]
  refine forall_mem_joined hsp fun L hL c hc => ?_
  obtain ⟨w, hw', rfl⟩ := List.mem_map.mp hL
  exact hw w hw' c hc

/-- The words of the terms of a phrase are its words. -/
theorem Phrase.fields_terms {ws : List Phrase.Word} (hne : ws ≠ []) :
    Text.fields (Phrase.terms ws) = ws.map fun w => String.ofList w.chars := by
  rw [Phrase.terms_ofList, fields_joined (by simpa using hne), List.map_map]
  · rfl
  · simp only [List.mem_map]
    rintro _ ⟨w, -, rfl⟩
    refine ⟨w.nonempty, fun c hc => ?_⟩
    rcases w.spelled c hc with ha | rfl
    exacts [isBlank_of_isAlpha ha, by decide]

/-- A phrase of words of letters holds no `*`, no Strong's number and no tag. -/
theorem Phrase.terms_plain {ws : List Phrase.Word} (hstar : ∀ w ∈ ws, '*' ∉ w.chars) :
    (Phrase.terms ws).contains '*' = false ∧ strongsNumber.test (Phrase.terms ws) = false ∧
      morphTag.test (Phrase.terms ws) = false := by
  have hchars : ∀ c ∈ (Phrase.terms ws).toList, c.isAlpha = true ∨ c = ' ' :=
    Phrase.terms_chars (.inr rfl) fun w hw c hc =>
      .inl ((w.spelled c hc).resolve_right fun h => hstar w hw (h ▸ hc))
  have hnum := strongsNumber_test (X := (Phrase.terms ws).toList) fun c hc =>
    (hchars c hc).elim (fun ha => (unmarked_of_isAlpha ha).1) (by rintro rfl; decide)
  have htag := morphTag_test (X := (Phrase.terms ws).toList) fun c hc =>
    (hchars c hc).elim (fun ha => (unmarked_of_isAlpha ha).2) (by rintro rfl; decide)
  rw [String.ofList_toList] at hnum htag
  refine ⟨?_, hnum, htag⟩
  rw [String.contains_char_eq, decide_eq_false_iff_not]
  intro h
  rcases hchars '*' h with h | h <;> cases h

theorem replaceAll_star_terms (ws : List Phrase.Word) :
    Text.replaceAll (Phrase.terms ws) "*" "_star_" =
      String.ofList ([' '].intercalate (ws.map fun w => Phrase.starMarked w.chars)) := by
  rw [Phrase.terms_ofList, Text.replaceAll,
    String.toList_ofList (l := [' '].intercalate _), show "*".toList = ['*'] from rfl,
    Text.replaceList_single, flatMap_intercalate]
  simp [Phrase.starMarked, Function.comp_def]

/-- The characters of a word with marked stars: word characters, and none of a blank, a digit or
the opening brackets of tags. -/
theorem starMarked_char {w : Phrase.Word} {c : Char} (hc : c ∈ Phrase.starMarked w.chars) :
    Text.isWordChar c = true ∧ Text.isBlank c = false ∧ Text.isDigit c = false ∧ c ≠ '(' ∧ c ≠ '\x7b' := by
  rcases starMarked_chars w.spelled c hc with ha | rfl
  · exact ⟨isWordChar_of_isAlpha ha, isBlank_of_isAlpha ha, unmarked_of_isAlpha ha⟩
  · decide

/-- A word pattern holds no blank. -/
theorem wordPattern_char {bd : Phrase.Bounds} {w : Phrase.Word} {c : Char}
    (hc : c ∈ (Phrase.wordPattern bd w).toList) : Text.isBlank c = false := by
  have hA : (("(?:" ++ bd.pattern ++ "(").toList.all fun c => !Text.isBlank c) = true := by
    cases bd <;> decide
  have hB : ((")" ++ bd.pattern ++ ")").toList.all fun c => !Text.isBlank c) = true := by
    cases bd <;> decide
  have hstar : ∀ c ∈ Phrase.starPattern w.chars, Text.isBlank c = false := by
    intro c hc
    obtain ⟨d, hd, hcd⟩ := List.mem_flatMap.mp hc
    rcases w.spelled d hd with ha | rfl
    · rw [if_neg (by rintro rfl; simp at ha), List.mem_singleton] at hcd
      rw [hcd]
      exact isBlank_of_isAlpha ha
    · rw [if_pos rfl, show "\\w*".toList = ['\\', 'w', '*'] from rfl] at hcd
      simp only [List.mem_cons, List.not_mem_nil, or_false] at hcd
      rcases hcd with rfl | rfl | rfl <;> decide
  rw [Phrase.wordPattern, bounded_toList, List.mem_append, List.mem_append] at hc
  rcases hc with (hc | hc) | hc
  · simpa using List.all_eq_true.mp hA c hc
  · exact hstar c hc
  · simpa using List.all_eq_true.mp hB c hc

/-- **A phrase search builds the pattern of the phrase.** On words of letters and `*`, cleaning
changes nothing, no tag or Strong's number is found, and every word is found and wrapped; the
words are then joined by filler when there are two or more. -/
theorem termsPattern_phrase (bd : Phrase.Bounds) (cs sloppy : Bool) {ws : List Phrase.Word} (hne : ws ≠ []) :
    termsPattern (Phrase.terms ws) cs bd.template bd.extraSpace sloppy =
      .ok (compileOrEmpty (Phrase.pattern bd sloppy ws) { ignoreCase := !cs }) := by
  set M := ws.map fun w => Phrase.starMarked w.chars with hM
  have hMne : M ≠ [] := by simpa [hM] using hne
  have hMw : ∀ L ∈ M, L ≠ [] ∧ ∀ c ∈ L, Text.isWordChar c = true ∧ Text.isBlank c = false ∧
      Text.isDigit c = false ∧ c ≠ '(' ∧ c ≠ '\x7b' := by
    simp only [hM, List.mem_map]
    rintro _ ⟨w, -, rfl⟩
    exact ⟨starMarked_ne_nil w.nonempty, fun c hc => starMarked_char hc⟩
  have hkeep := notTermChar_keeps (X := [' '].intercalate M)
    (forall_mem_joined (Or.inr rfl) fun L hL c hc => Or.inl ((hMw L hL).2 c hc).1)
  have hfields := fields_joined hMne fun L hL => ⟨(hMw L hL).1, fun c hc => ((hMw L hL).2 c hc).2.1⟩
  have hphrase := any_blank_joined hMne fun L hL c hc => ((hMw L hL).2 c hc).2.1
  have hmorph := morphTag_replaceBy (X := [' '].intercalate M)
    (forall_mem_joined (by decide) fun L hL c hc => ((hMw L hL).2 c hc).2.2.2)
  have hstrongs := strongsNumber_replaceBy (X := [' '].intercalate M)
    (forall_mem_joined (by decide) fun L hL c hc => ((hMw L hL).2 c hc).2.2.1)
  unfold termsPattern
  simp only [Bool.false_eq_true, if_false, replaceAll_star_terms, ← hM, hkeep, hfields, intercalate_ofList,
    hphrase, hmorph, hstrongs, Regex.replace, searchWord_template, bind, Except.bind, pure, Except.pure]
  have hword := searchWord_replaceBy
    (g := fun x => "(?:" ++ bd.pattern ++ "(" ++ x ++ ")" ++ bd.pattern ++ ")")
    (f := fun m => m.expand [.text ("(?:" ++ bd.pattern ++ "("), .group 1, .text (")" ++ bd.pattern ++ ")")])
    (fun m => by simp [Match.expand, String.append_assoc]) hMne
    (fun L hL => ⟨(hMw L hL).1, fun c hc => ((hMw L hL).2 c hc).1⟩)
  have hmarked : (M.map fun L => ("(?:" ++ bd.pattern ++ "(" ++ String.ofList L ++ ")" ++ bd.pattern ++ ")").toList) =
      ws.map fun w => (Phrase.markedPattern bd w).toList := by
    simp [hM, Phrase.markedPattern]
  have hpatterns : Text.fields (String.ofList ([' '].intercalate (ws.map fun w => (Phrase.wordPattern bd w).toList))) =
      (ws.map fun w => (Phrase.wordPattern bd w).toList).map String.ofList :=
    fields_joined (by simpa using hne) (by
      simp only [List.mem_map]
      rintro _ ⟨w, -, rfl⟩
      exact ⟨by simp [Phrase.wordPattern], fun c => wordPattern_char⟩)
  have hlen : M.length = ws.length := by simp [hM]
  rw [hword, hmarked, replaceAll_markedPatterns, hpatterns, hlen]
  have hpos : 0 < ws.length := List.length_pos_iff.mpr hne
  simp only [List.map_map, Function.comp_def, String.ofList_toList, Nat.add_zero, hpos, decide_true,
    Bool.not_true, beq_self_eq_true, Bool.true_or, bne_self_eq_false, Bool.false_or]
  congr 2
  by_cases h2 : 2 ≤ ws.length
  · rw [decide_eq_true h2, if_pos rfl, filler_eq_separator, Phrase.pattern]
  · obtain ⟨w, rfl⟩ : ∃ w, ws = [w] := List.length_eq_one_iff.mp (by omega)
    simp [Phrase.pattern]

namespace Phrase

/-- `</?span[^>]*>`, a span tag. -/
def spanTagParts : List Part :=
  [.lit '<', .rep (.lit '/') .opt false, .lit 's', .lit 'p', .lit 'a', .lit 'n',
    .rep (.cls true [⟨'>', false⟩] false) .star false, .lit '>']

/-- The word bound as a part of the pattern. -/
def Bounds.part : Bounds → Part
  | .plain => .esc 'b'
  | .spans => .rep (.group false [spanTagParts, [.esc 'b']]) .plus false

/-- A letter of a word as a part of the pattern, `\w*` for `*`. -/
def letterPart (c : Char) : Part := if c = '*' then .rep (.esc 'w') .star false else .lit c

/-- A word as a part of the pattern: its letters captured between word bounds. -/
def wordPart (bd : Bounds) (w : Word) : Part :=
  .group false [[bd.part, .group true [w.chars.map letterPart], bd.part]]

/-- The units of the class of blanks and punctuation marks, `-` apart. -/
def markUnits : List Tok :=
  [⟨'s', true⟩, ⟨',', false⟩, ⟨'?', true⟩, ⟨'!', true⟩, ⟨'.', true⟩, ⟨';', false⟩, ⟨':', false⟩,
    ⟨'\\', true⟩, ⟨'/', false⟩, ⟨'_', false⟩, ⟨'(', true⟩, ⟨')', true⟩, ⟨'[', true⟩, ⟨']', true⟩,
    ⟨'\x22', false⟩, ⟨'\x27', true⟩]

/-- `[\s,\?\!\.;:\\/_\(\)\[\]"\'-]`, a blank or a punctuation mark. -/
def markPart : Part := .cls false markUnits true

/-- `</span>`, a closing span tag. -/
def closeSpanParts : List Part := [.lit '<', .lit '/', .lit 's', .lit 'p', .lit 'a', .lit 'n', .lit '>']

/-- `<[^>]*>`, a tag in angle brackets. -/
def angleParts : List Part := [.lit '<', .rep (.cls true [⟨'>', false⟩] false) .star false, .lit '>']

/-- `\{[^\}]*\}`, a tag in braces. -/
def braceParts : List Part :=
  [.esc '\x7b', .rep (.cls true [⟨'\x7d', true⟩] false) .star false, .esc '\x7d']

/-- `\b\w+\b`, a whole word. -/
def wholeWordParts : List Part := [.esc 'b', .rep (.esc 'w') .plus false, .esc 'b']

/-- The branches of filler that span bounds add: a span tag, and `</span>`. -/
def Bounds.extraParts : Bounds → List (List Part)
  | .plain => []
  | .spans => [spanTagParts, closeSpanParts]

/-- The branches of the filler: a blank or a punctuation mark, what the bounds add, a tag in
angle brackets or in braces, and for a sloppy search a whole word. -/
def fillerBranches (bd : Bounds) (sloppy : Bool) : List (List Part) :=
  [markPart] :: (bd.extraParts ++ angleParts :: braceParts :: (if sloppy then [wholeWordParts] else []))

/-- The filler between words as a part of the pattern: its branches, as few times over as will
do. -/
def fillerPart (bd : Bounds) (sloppy : Bool) : Part := .rep (.group false (fillerBranches bd sloppy)) .star true

/-- The phrase as parts of the pattern: its words with filler between them. -/
def phraseParts (bd : Bounds) (sloppy : Bool) : List Word → List Part
  | [] => []
  | [w] => [wordPart bd w]
  | w :: v :: ws => wordPart bd w :: fillerPart bd sloppy :: phraseParts bd sloppy (v :: ws)

end Phrase

theorem bounds_part_text (bd : Phrase.Bounds) : bd.part.text = bd.pattern.toList := by
  cases bd <;> rfl

theorem letterParts_text (L : List Char) : seqText (L.map Phrase.letterPart) = Phrase.starPattern L := by
  induction L with
  | nil => rfl
  | cons c L ih =>
    by_cases hc : c = '*' <;>
      simp [seqText, Phrase.letterPart, Phrase.starPattern, hc, ih, Part.text, Quant.char]

theorem wordPart_text (bd : Phrase.Bounds) (w : Phrase.Word) :
    (Phrase.wordPart bd w).text = (Phrase.wordPattern bd w).toList := by
  simp [Phrase.wordPart, Phrase.wordPattern, Part.text, altText, seqText, bounds_part_text, letterParts_text]

theorem fillerPart_text (bd : Phrase.Bounds) (sloppy : Bool) :
    (Phrase.fillerPart bd sloppy).text = (Phrase.filler bd sloppy).toList := by
  cases bd <;> cases sloppy <;> rfl

theorem pattern_cons_cons (bd : Phrase.Bounds) (sloppy : Bool) (w v : Phrase.Word) (ws : List Phrase.Word) :
    Phrase.pattern bd sloppy (w :: v :: ws) =
      Phrase.wordPattern bd w ++ Phrase.filler bd sloppy ++ Phrase.pattern bd sloppy (v :: ws) := by
  simp [Phrase.pattern]

theorem phraseParts_text (bd : Phrase.Bounds) (sloppy : Bool) :
    ∀ ws, seqText (Phrase.phraseParts bd sloppy ws) = (Phrase.pattern bd sloppy ws).toList
  | [] => by simp [Phrase.phraseParts, Phrase.pattern, seqText]
  | [w] => by simp [Phrase.phraseParts, Phrase.pattern, seqText, wordPart_text]
  | w :: v :: ws => by
    rw [Phrase.phraseParts, seqText, seqText, phraseParts_text bd sloppy (v :: ws), wordPart_text,
      fillerPart_text, pattern_cons_cons]
    simp

/-- A phrase pattern ends with the closing parenthesis of its last word. -/
theorem pattern_getLast (bd : Phrase.Bounds) (sloppy : Bool) :
    ∀ {ws : List Phrase.Word}, ws ≠ [] → (Phrase.pattern bd sloppy ws).toList.getLast? = some ')'
  | [w], _ => by
    have hw : (Phrase.wordPattern bd w).toList = ("(?:" ++ bd.pattern ++ "(" ++
        String.ofList (Phrase.starPattern w.chars) ++ ")" ++ bd.pattern).toList ++ [')'] := by
      simp [Phrase.wordPattern]
    rw [Phrase.pattern, List.map_singleton, String.intercalate_singleton, hw, List.getLast?_concat]
  | w :: v :: ws, _ => by
    have ih := pattern_getLast bd sloppy (List.cons_ne_nil v ws)
    rw [pattern_cons_cons, String.toList_append, List.getLast?_append_of_ne_nil _ (fun h => by simp [h] at ih), ih]

theorem isLitChar_of_isAlpha {c : Char} (h : c.isAlpha = true) : isLitChar c = true := by
  have hr := toNat_of_isAlpha h
  simp only [isLitChar]
  simp
  refine ⟨?_, ?_, ?_, ?_, ?_, ?_, ?_, ?_, ?_, ?_, ?_, ?_⟩ <;> rintro rfl <;> simp at hr

theorem letterPart_wf {c : Char} (hc : c.isAlpha ∨ c = '*') : (Phrase.letterPart c).wf = true := by
  rcases hc with ha | rfl
  · rw [Phrase.letterPart, if_neg (by rintro rfl; simp at ha)]
    exact isLitChar_of_isAlpha ha
  · simp [Phrase.letterPart, Part.wf, Part.repeatable, isEscChar]

theorem wordPart_wf (bd : Phrase.Bounds) (w : Phrase.Word) : (Phrase.wordPart bd w).wf = true := by
  have hletters : ∀ L : List Char, (∀ c ∈ L, c.isAlpha ∨ c = '*') → seqWf (L.map Phrase.letterPart) = true := by
    intro L hL
    induction L with
    | nil => rfl
    | cons c L ih =>
      simp only [List.map_cons, seqWf, letterPart_wf (hL c List.mem_cons_self), Bool.true_and]
      exact ih fun d hd => hL d (List.mem_cons_of_mem c hd)
  have hbd : bd.part.wf = true := by
    cases bd <;> simp [Phrase.Bounds.part, Phrase.spanTagParts, Part.wf, altWf, seqWf, isEscChar,
      isLitChar, Part.repeatable, Tok.isClassUnit, isAsciiLetter, isDec]
  simp [Phrase.wordPart, Part.wf, altWf, seqWf, hbd, hletters w.chars w.spelled]

theorem phraseParts_wf (bd : Phrase.Bounds) (sloppy : Bool) :
    ∀ ws, seqWf (Phrase.phraseParts bd sloppy ws) = true
  | [] => rfl
  | [w] => by simp [Phrase.phraseParts, seqWf, wordPart_wf]
  | w :: v :: ws => by
    have hf : (Phrase.fillerPart bd sloppy).wf = true := by
      cases bd <;> cases sloppy <;> simp [Phrase.fillerPart, Phrase.fillerBranches, Phrase.markPart, Phrase.markUnits,
        Phrase.Bounds.extraParts, Phrase.closeSpanParts, Phrase.angleParts, Phrase.braceParts, Phrase.wholeWordParts,
        Phrase.spanTagParts, Part.wf, altWf, seqWf, isEscChar, isLitChar, Part.repeatable,
        Tok.isClassUnit, isAsciiLetter, isDec]
    simp [Phrase.phraseParts, seqWf, wordPart_wf, hf, phraseParts_wf bd sloppy (v :: ws)]

/-- **The phrase pattern is read without fault**, into the nodes of its parts. -/
theorem read_pattern (bd : Phrase.Bounds) (cs sloppy : Bool) {ws : List Phrase.Word} (hne : ws ≠ []) :
    Regex.read (Phrase.pattern bd sloppy ws) { ignoreCase := !cs } =
      .ok ⟨Phrase.pattern bd sloppy ws,
        altNode (altNodes { ignoreCase := !cs } 1 [Phrase.phraseParts bd sloppy ws]).1,
        (altNodes { ignoreCase := !cs } 1 [Phrase.phraseParts bd sloppy ws]).2, [], !cs⟩ := by
  have htext : String.ofList (altText [Phrase.phraseParts bd sloppy ws]) = Phrase.pattern bd sloppy ws := by
    rw [altText, phraseParts_text, String.ofList_toList]
  have h := Regex.read_altText (show [Phrase.phraseParts bd sloppy ws] ≠ [] by simp)
    (by simp [altWf, phraseParts_wf]) (by rw [altText, phraseParts_text, pattern_getLast bd sloppy hne]; simp)
    (show ({ ignoreCase := !cs } : Flags).verbose = false from rfl)
  rw [htext] at h
  exact h

theorem letterParts_groups {f : Flags} (g : Nat) :
    ∀ L : List Char, (seqNodes f g (L.map Phrase.letterPart)).2 = g
  | [] => rfl
  | c :: L => by
    have h : ((Phrase.letterPart c).node f g).2 = g := by
      unfold Phrase.letterPart
      split <;> rfl
    simp [seqNodes, h, letterParts_groups g L]

/-- A word captures one group. -/
theorem wordPart_groups {f : Flags} (bd : Phrase.Bounds) (w : Phrase.Word) (g : Nat) :
    ((Phrase.wordPart bd w).node f g).2 = g + 1 := by
  have hb : ∀ g, (bd.part.node f g).2 = g := by cases bd <;> intro g <;> rfl
  simp [Phrase.wordPart, seqNodes, Part.node, altNodes, hb, letterParts_groups]

/-- Each word of a phrase captures one group, and the filler none. -/
theorem phraseParts_groups {f : Flags} (bd : Phrase.Bounds) (sloppy : Bool) :
    ∀ (ws : List Phrase.Word) (g : Nat), (seqNodes f g (Phrase.phraseParts bd sloppy ws)).2 = g + ws.length
  | [], _ => rfl
  | [w], g => by simp [Phrase.phraseParts, seqNodes, wordPart_groups]
  | w :: v :: ws, g => by
    have hf : ((Phrase.fillerPart bd sloppy).node f (g + 1)).2 = g + 1 := by
      cases bd <;> cases sloppy <;> rfl
    simp only [Phrase.phraseParts, seqNodes, wordPart_groups, hf, phraseParts_groups bd sloppy (v :: ws),
      List.length_cons]
    omega

end Scripture.Search
