import Mathlib
import Scripture.Proofs.PartLanguages
import Scripture.Proofs.PhrasePattern

/-!
# What a phrase search finds

The pattern of a phrase search, `Phrase.pattern`, matches a text exactly where the text holds the
phrase: its words in order, each spelled between word bounds, with filler between them. This
module states that in words of the text alone (`Phrase.PhraseAt`) and proves it part by part: each
written part of the pattern reads the relation its spec names (`PartDenotes`), and the relations
compose as the parts do.

* `Phrase.Spells` — letters stand for themselves (in either case when case is ignored), and `*`
  for a run of word characters.
* `Phrase.Bounds.Holds` — a word edge, or with span bounds, span tags.
* `Phrase.FillerItem` — a blank or punctuation mark, a tag in angle brackets or braces, or for a
  sloppy search a whole word. The span tags that span bounds add to the filler are tags in angle
  brackets already (`Phrase.SpanTag.closes`), so the filler is the same for both bounds.
* `Phrase.PhraseAt.holdsWhole` — a text that holds a phrase holds each of its words whole.
* `phrase_search_matches` — a phrase search builds a pattern that is read without fault, has a
  group for each word, and matches a text exactly when the text holds the phrase.
-/

namespace Scripture.Search

open Pattern Relation

namespace Phrase

/-- Whether a text character stands for a letter of a search: the letter itself, or when case is
ignored, the letter in either case. -/
def letterHolds (cs : Bool) (c x : Char) : Bool := if cs then c == x else foldEq c x

/-- What a character of a search word reads from place `i` to place `j`: a letter reads one
character that stands for it, and `*` a run of word characters. -/
def CharReads (t : Array Char) (cs : Bool) (c : Char) (i j : Nat) : Prop :=
  if c = '*' then i ≤ j ∧ ∀ p, i ≤ p → p < j → wordCharAt t p = true
  else j = i + 1 ∧ (t[i]?).any (letterHolds cs c) = true

/-- `Spells t cs w i j`: the text from place `i` to place `j` spells the word `w`. -/
def Spells (t : Array Char) (cs : Bool) : List Char → Nat → Nat → Prop
  | [], i, j => j = i
  | c :: w, i, j => ∃ k, CharReads t cs c i k ∧ Spells t cs w k j

/-- `Closes t c a j`: from place `a` on the text holds characters other than `c`, then `c`,
which ends at place `j`. -/
def Closes (t : Array Char) (c : Char) (a j : Nat) : Prop :=
  a < j ∧ t[j - 1]? = some c ∧ ∀ p, a ≤ p → p + 1 < j → t[p]? ≠ some c

/-- A span tag from place `i` to place `j`: `<span` or `</span` (in either case when case is
ignored), then anything up to the first `>`. -/
def SpanTag (t : Array Char) (cs : Bool) (i j : Nat) : Prop :=
  t[i]? = some '<' ∧ ∃ k, (k = i + 1 ∨ k = i + 2 ∧ t[i + 1]? = some '/') ∧
    ∃ m, Spells t cs "span".toList k m ∧ Closes t '>' m j

/-- A word bound from place `i` to place `j`: a word edge at `i = j`; with span bounds, span
tags, at least one of them unless there is a word edge at `i`. -/
def Bounds.Holds : Bounds → Array Char → Bool → Nat → Nat → Prop
  | .plain, t, _, i, j => j = i ∧ wordEdge t i = true
  | .spans, t, cs, i, j => ReflTransGen (SpanTag t cs) i j ∧ (i < j ∨ wordEdge t i = true)

/-- A word of the phrase from place `i` to place `j`: the word spelled between word bounds. -/
def WordAt (t : Array Char) (bd : Bounds) (cs : Bool) (w : Word) (i j : Nat) : Prop :=
  ∃ a, bd.Holds t cs i a ∧ ∃ b, Spells t cs w.chars a b ∧ bd.Holds t cs b j

/-- A blank or one of the punctuation marks that may stand between the words of a phrase. -/
def isMark (x : Char) : Bool :=
  Text.isBlank x || [',', '?', '!', '.', ';', ':', '\\', '/', '_', '(', ')', '[', ']', '\x22', '\x27', '-'].contains x

/-- A whole word from place `i` to place `j`: word characters between word edges. -/
def WholeWord (t : Array Char) (i j : Nat) : Prop :=
  i < j ∧ wordEdge t i = true ∧ wordEdge t j = true ∧ ∀ p, i ≤ p → p < j → wordCharAt t p = true

/-- One piece of what may stand between the words of a phrase: a blank or a punctuation mark, a
tag in angle brackets, a tag in braces, or for a sloppy search a whole word. -/
def FillerItem (t : Array Char) (sloppy : Bool) (i j : Nat) : Prop :=
  (j = i + 1 ∧ (t[i]?).any isMark = true) ∨ (t[i]? = some '<' ∧ Closes t '>' (i + 1) j) ∨
    (t[i]? = some '\x7b' ∧ Closes t '\x7d' (i + 1) j) ∨ (sloppy = true ∧ WholeWord t i j)

/-- `PhraseAt t bd cs sloppy ws i j`: from place `i` to place `j` the text holds the words of the
phrase in order, with filler between them. -/
def PhraseAt (t : Array Char) (bd : Bounds) (cs sloppy : Bool) : List Word → Nat → Nat → Prop
  | [], i, j => j = i
  | [w], i, j => WordAt t bd cs w i j
  | w :: v :: ws, i, j =>
    ∃ k, WordAt t bd cs w i k ∧ ∃ l, ReflTransGen (FillerItem t sloppy) k l ∧ PhraseAt t bd cs sloppy (v :: ws) l j

/-- The text holds the word whole: spelled between two word edges. -/
def HoldsWhole (t : Array Char) (cs : Bool) (w : Word) : Prop :=
  ∃ i j, wordEdge t i = true ∧ Spells t cs w.chars i j ∧ wordEdge t j = true

theorem WordAt.holdsWhole {t : Array Char} {cs : Bool} {w : Word} {i j : Nat}
    (h : WordAt t .plain cs w i j) : HoldsWhole t cs w := by
  obtain ⟨a, ⟨rfl, hi⟩, b, hspell, rfl, hb⟩ := h
  exact ⟨_, _, hi, hspell, hb⟩

/-- A text that holds a phrase between plain word bounds holds each of its words whole. -/
theorem PhraseAt.holdsWhole {t : Array Char} {cs sloppy : Bool} :
    ∀ {ws : List Word} {i j : Nat}, PhraseAt t .plain cs sloppy ws i j → ∀ w ∈ ws, HoldsWhole t cs w
  | [], _, _, _, _, hw => absurd hw List.not_mem_nil
  | [_], _, _, h, _, hw => by
    rw [List.mem_singleton.mp hw]
    exact WordAt.holdsWhole h
  | _ :: _ :: _, _, _, ⟨_, hfirst, _, _, hrest⟩, _, hw => by
    rcases List.mem_cons.mp hw with rfl | hw
    · exact hfirst.holdsWhole
    · exact PhraseAt.holdsWhole hrest _ hw

end Phrase

/-! ### Letters -/

theorem isCased_of_isAlpha {c : Char} (h : c.isAlpha = true) : isCased false c = true := by
  have h128 : c.toNat < 128 := by have := toNat_of_isAlpha h; omega
  simp only [isCased, Text.lowerChar, Text.upperChar, h128, if_true, Bool.false_eq_true, if_false,
    Bool.or_eq_true, bne_iff_ne, ne_eq]
  rcases Bool.or_eq_true _ _ |>.mp h with hu | hl
  · -- an upper-case letter is not its lower case
    refine .inl (.inl fun he => ?_)
    have := Char.isUpper_toLower_eq_false c
    rw [he, hu] at this
    cases this
  · refine .inl (.inr fun he => ?_)
    have := Char.isLower_toUpper_eq_false c
    rw [he, hl] at this
    cases this

/-! ### Reading forwards -/

section Forwards

variable {t : Array Char} {cs : Bool}

theorem Phrase.CharReads.le {c : Char} {i j : Nat} (h : Phrase.CharReads t cs c i j) : i ≤ j := by
  unfold Phrase.CharReads at h
  split at h <;> omega

theorem Phrase.Spells.le : ∀ {L : List Char} {i j : Nat}, Phrase.Spells t cs L i j → i ≤ j
  | [], _, _, h => Nat.le_of_eq h.symm
  | _ :: _, _, _, ⟨_, hk, hrest⟩ => le_trans hk.le (Phrase.Spells.le hrest)

theorem Phrase.SpanTag.lt {i j : Nat} (h : Phrase.SpanTag t cs i j) : i < j := by
  obtain ⟨-, k, hk, m, hm, hcl, -⟩ := h
  have := hm.le
  omega

/-- A closing run that starts earlier, over characters other than the closing one. -/
theorem Phrase.Closes.extend {c : Char} {a m j : Nat} (h : Phrase.Closes t c m j) (ham : a ≤ m)
    (hbefore : ∀ p, a ≤ p → p < m → t[p]? ≠ some c) : Phrase.Closes t c a j := by
  obtain ⟨hmj, hlast, hrest⟩ := h
  refine ⟨by omega, hlast, fun p hp hpj => ?_⟩
  rcases Nat.lt_or_ge p m with hpm | hpm
  · exact hbefore p hp hpm
  · exact hrest p hpm hpj

/-- The letters of `span` stand for four characters, none of them `>`. -/
theorem Phrase.Spells.span {k m : Nat} (h : Phrase.Spells t cs "span".toList k m) :
    m = k + 4 ∧ ∀ p, k ≤ p → p < m → t[p]? ≠ some '>' := by
  have hnot : Phrase.letterHolds cs 's' '>' = false ∧ Phrase.letterHolds cs 'p' '>' = false ∧
      Phrase.letterHolds cs 'a' '>' = false ∧ Phrase.letterHolds cs 'n' '>' = false := by
    cases cs <;> decide
  rw [show "span".toList = ['s', 'p', 'a', 'n'] from rfl] at h
  obtain ⟨_, ⟨rfl, h₁⟩, _, ⟨rfl, h₂⟩, _, ⟨rfl, h₃⟩, _, ⟨rfl, h₄⟩, rfl⟩ := h
  refine ⟨rfl, fun p hp hpm he => ?_⟩
  obtain rfl | rfl | rfl | rfl : p = k ∨ p = k + 1 ∨ p = k + 2 ∨ p = k + 3 := by omega
  · rw [he] at h₁; simp [hnot] at h₁
  · rw [he] at h₂; simp [hnot] at h₂
  · rw [he] at h₃; simp [hnot] at h₃
  · rw [he] at h₄; simp [hnot] at h₄

/-- A span tag is a tag in angle brackets. -/
theorem Phrase.SpanTag.closes {i j : Nat} (h : Phrase.SpanTag t cs i j) :
    t[i]? = some '<' ∧ Phrase.Closes t '>' (i + 1) j := by
  obtain ⟨hi, k, hk, m, hm, hcl⟩ := h
  obtain ⟨rfl, hspan⟩ := hm.span
  refine ⟨hi, hcl.extend (by omega) fun p hp hpm => ?_⟩
  rcases Nat.lt_or_ge p k with hpk | hpk
  · -- the slash of a closing tag
    obtain ⟨rfl, hslash⟩ := hk.resolve_left (by omega)
    rw [show p = i + 1 by omega, hslash]
    decide
  · exact hspan p hpk hpm

/-- `</span>` is a span tag. -/
theorem Phrase.SpanTag.of_closing {i j : Nat} (h : t[i]? = some '<' ∧ t[i + 1]? = some '/' ∧
    ∃ m, Phrase.Spells t cs "span".toList (i + 2) m ∧ t[m]? = some '>' ∧ j = m + 1) :
    Phrase.SpanTag t cs i j := by
  obtain ⟨hi, hslash, m, hm, hgt, rfl⟩ := h
  exact ⟨hi, i + 2, .inr ⟨rfl, hslash⟩, m, hm, by omega, by simpa using hgt, fun p hp hpj => by omega⟩

theorem wordEdge_le {i : Nat} (h : wordEdge t i = true) : i ≤ t.size := by
  by_contra hlt
  have h₁ : wordCharAt t i = false := by simp [wordCharAt, getElem?_neg t i (by omega)]
  have h₂ : wordCharAt t (i - 1) = false := by simp [wordCharAt, getElem?_neg t (i - 1) (by omega)]
  simp [wordEdge, h₁, h₂] at h

/-- A word bound ends within the text. -/
theorem Phrase.Bounds.Holds.le_size {bd : Phrase.Bounds} {i j : Nat} (h : bd.Holds t cs i j) : j ≤ t.size := by
  cases bd with
  | plain => exact h.1 ▸ wordEdge_le h.2
  | spans =>
    obtain ⟨hc, hij⟩ := h
    rcases hc.cases_tail with rfl | ⟨k, -, hkj⟩
    · exact wordEdge_le (hij.resolve_left (lt_irrefl _))
    · obtain ⟨-, m, -, m', -, hm'j, hlast, -⟩ := hkj
      have := (getElem?_eq_some_iff.mp hlast).1
      omega

/-- A phrase ends within the text. -/
theorem Phrase.PhraseAt.le_size {bd : Phrase.Bounds} {sloppy : Bool} :
    ∀ {ws : List Phrase.Word} {i j : Nat}, ws ≠ [] → Phrase.PhraseAt t bd cs sloppy ws i j → j ≤ t.size
  | [_], _, _, _, ⟨_, _, _, _, hb⟩ => hb.le_size
  | _ :: v :: ws, _, _, _, ⟨_, _, _, _, hrest⟩ => Phrase.PhraseAt.le_size (List.cons_ne_nil v ws) hrest

/-- Steps that stay in place add nothing to a chain. -/
theorem reflTransGen_or_stay {S : Nat → Nat → Prop} {P : Nat → Prop} {a b : Nat} :
    ReflTransGen (fun x y => S x y ∨ y = x ∧ P x) a b ↔ ReflTransGen S a b := by
  constructor
  · intro h
    induction h with
    | refl => exact .refl
    | tail _ hst ih =>
      rcases hst with hs | ⟨rfl, -⟩
      · exact ih.tail hs
      · exact ih
  · exact ReflTransGen.mono (fun x y h => Or.inl h) a b

end Forwards

section Flags

variable (t : Array Char) (cs : Bool)

/-- A letter of a word reads one character that stands for it, and `*` a run of word
characters. -/
theorem letterPart_denotes {c : Char} (hc : c.isAlpha ∨ c = '*') :
    PartDenotes t { ignoreCase := !cs } (Phrase.letterPart c) (Phrase.CharReads t cs c) := by
  rcases hc with ha | rfl
  · have hne : c ≠ '*' := by rintro rfl; simp at ha
    rw [Phrase.letterPart, if_neg hne]
    refine (partDenotes_lit c).of_iff fun i j => ?_
    have hmode : charHolds (({ ignoreCase := !cs } : Flags).charMode c) c = Phrase.letterHolds cs c := by
      funext x
      cases cs <;> simp [Flags.charMode, isCased_of_isAlpha ha, charHolds, Phrase.letterHolds]
    rw [Phrase.CharReads, if_neg hne, hmode]
  · rw [Phrase.letterPart, if_pos rfl]
    refine (partDenotes_repUnit (n := escNode { ignoreCase := !cs } 'w') (fun _ => rfl) rfl rfl false).of_iff
      fun i j => ?_
    have hword : ∀ x, unitHolds x (escNode { ignoreCase := !cs } 'w') = Text.isWordChar x := by
      intro x
      simp [escNode, categoryEscape?, Flags.classMode, unitHolds, itemHolds, categoryHolds]
    simp [Phrase.CharReads, Quant.lo, hword, wordCharAt]

/-- Letters spelled, then what follows them. -/
theorem letterParts_denote {ps : List Part} {S : Nat → Nat → Prop}
    (h : SeqPartsDenote t { ignoreCase := !cs } ps S) :
    ∀ L : List Char, (∀ c ∈ L, c.isAlpha ∨ c = '*') →
      SeqPartsDenote t { ignoreCase := !cs } (L.map Phrase.letterPart ++ ps)
        fun i j => ∃ m, Phrase.Spells t cs L i m ∧ S m j
  | [], _ => h.of_iff fun i j => by simp [Phrase.Spells]
  | c :: L, hL => by
    have ih := letterParts_denote h L fun d hd => hL d (List.mem_cons_of_mem c hd)
    refine (seqPartsDenote_cons (letterPart_denotes t cs (hL c List.mem_cons_self)) ih).of_iff
      fun i j => ?_
    constructor
    · rintro ⟨k, hk, m, hm, hs⟩
      exact ⟨m, ⟨k, hk, hm⟩, hs⟩
    · rintro ⟨m, ⟨k, hk, hm⟩, hs⟩
      exact ⟨k, hk, m, hm, hs⟩

theorem spells_denote {L : List Char} (hL : ∀ c ∈ L, c.isAlpha ∨ c = '*') :
    SeqPartsDenote t { ignoreCase := !cs } (L.map Phrase.letterPart) (Phrase.Spells t cs L) := by
  have h := letterParts_denote t cs seqPartsDenote_nil L hL
  rw [List.append_nil] at h
  exact h.of_iff fun i j => by simp

theorem boundary_denotes :
    PartDenotes t { ignoreCase := !cs } (.esc 'b') fun i j => j = i ∧ wordEdge t i = true :=
  partDenotes_boundary.of_iff fun i j => by rw [anchorHolds_boundary]

/-- A character for which case does not matter reads as itself. -/
theorem charHolds_uncased {c : Char} (hc : isCased false c = false) :
    charHolds (({ ignoreCase := !cs } : Flags).charMode c) c = (c == ·) := by
  funext x
  simp [Flags.charMode, hc, charHolds]

@[simp] theorem any_beq_iff {o : Option Char} {c : Char} : o.any (c == ·) = true ↔ o = some c := by
  cases o with
  | none => simp
  | some x => simp only [Option.any_some, beq_iff_eq, Option.some.injEq]; exact eq_comm

theorem unitHolds_escW (x : Char) : unitHolds x (escNode { ignoreCase := !cs } 'w') = Text.isWordChar x := by
  simp [escNode, categoryEscape?, Flags.classMode, unitHolds, itemHolds, categoryHolds]

/-- Characters other than `c`, then `c`. -/
theorem closes_denote {c : Char} {P Q : Part} {n m : Node} (hP : ∀ g, (P.node { ignoreCase := !cs } g).1 = n)
    (hn : n.isUnit) (hnc : ∀ x, unitHolds x n = !(c == x)) (hQ : ∀ g, (Q.node { ignoreCase := !cs } g).1 = m)
    (hm : m.isUnit) (hmc : ∀ x, unitHolds x m = (c == x)) :
    SeqPartsDenote t { ignoreCase := !cs } [.rep P .star false, Q] (Phrase.Closes t c) := by
  refine (seqPartsDenote_cons (partDenotes_repUnit hP hn rfl false)
    (seqPartsDenote_cons (partDenotes_of_node hQ (denotes_unit hm)) seqPartsDenote_nil)).of_iff
    fun i j => ?_
  simp only [Comp, Quant.lo, Nat.add_zero, hnc, hmc, any_beq_iff]
  constructor
  · rintro ⟨k, ⟨hik, hrun⟩, _, ⟨rfl, hk⟩, rfl⟩
    refine ⟨by omega, by simpa using hk, fun p hp hpk => fun he => ?_⟩
    have := hrun p hp (by omega)
    simp [he] at this
  · rintro ⟨hij, hlast, hrest⟩
    have hsize : j - 1 < t.size := (getElem?_eq_some_iff.mp hlast).1
    refine ⟨j - 1, ⟨by omega, fun p hp hpj => ?_⟩, j, ⟨by omega, by simpa using hlast⟩, rfl⟩
    have hne := hrest p hp (by omega)
    rw [getElem?_pos t p (by omega)] at hne ⊢
    simp only [Option.any_some, Bool.not_eq_eq_eq_not, Bool.not_true, beq_eq_false_iff_ne, ne_eq]
    exact fun he => hne (by rw [he])

/-- `[^>]*>`: characters other than `>`, then `>`. -/
theorem angleClose_denote :
    SeqPartsDenote t { ignoreCase := !cs } [.rep (.cls true [⟨'>', false⟩] false) .star false, .lit '>']
      (Phrase.Closes t '>') := by
  have hc : isCased false '>' = false := by decide +kernel
  refine closes_denote t cs (fun _ => rfl) rfl (fun x => ?_) (fun _ => rfl) rfl (fun x => ?_)
  · have hdups : [ClassItem.char '>'].eraseDups = [.char '>'] := rfl
    simp [classItems, Tok.classItem, Flags.classMode, hc, unitHolds, itemHolds, charHolds, hdups]
  · simp [unitHolds, charHolds_uncased cs hc]

/-- `[^\}]*\}`: characters other than `}`, then `}`. -/
theorem braceClose_denote :
    SeqPartsDenote t { ignoreCase := !cs } [.rep (.cls true [⟨'\x7d', true⟩] false) .star false, .esc '\x7d']
      (Phrase.Closes t '\x7d') := by
  have hc : isCased false '\x7d' = false := by decide +kernel
  refine closes_denote t cs (fun _ => rfl) rfl (fun x => ?_) (fun _ => rfl) rfl (fun x => ?_)
  · have hdups : [ClassItem.char '\x7d'].eraseDups = [.char '\x7d'] := rfl
    simp [classItems, Tok.classItem, categoryEscape?, Flags.classMode, hc, unitHolds, itemHolds, charHolds,
      hdups]
  · simp [unitHolds, charHolds_uncased cs hc]

theorem span_letters : ∀ c ∈ "span".toList, c.isAlpha ∨ c = '*' := by
  intro c hc
  simp only [show "span".toList = ['s', 'p', 'a', 'n'] from rfl, List.mem_cons, List.not_mem_nil,
    or_false] at hc
  rcases hc with rfl | rfl | rfl | rfl <;> decide

/-- `</?span[^>]*>` reads a span tag. -/
theorem spanTag_denote : SeqPartsDenote t { ignoreCase := !cs } Phrase.spanTagParts (Phrase.SpanTag t cs) := by
  have hlt : isCased false '<' = false := by decide +kernel
  have hsl : isCased false '/' = false := by decide +kernel
  have h := letterParts_denote t cs (angleClose_denote t cs) "span".toList span_letters
  rw [show Phrase.spanTagParts = .lit '<' :: .rep (.lit '/') .opt false :: ("span".toList.map Phrase.letterPart ++
    [.rep (.cls true [⟨'>', false⟩] false) .star false, .lit '>']) from rfl]
  refine (seqPartsDenote_cons (partDenotes_lit '<') (seqPartsDenote_cons
    (partDenotes_opt (n := lit { ignoreCase := !cs } '/') (fun _ => rfl) rfl false) h)).of_iff fun i j => ?_
  simp only [Comp, Phrase.SpanTag, charHolds_uncased cs hlt, any_beq_iff, lit, unitHolds,
    charHolds_uncased cs hsl]
  constructor
  · rintro ⟨_, ⟨rfl, hi⟩, k, hk, hrest⟩
    exact ⟨hi, k, hk.imp id fun h => ⟨by omega, h.2⟩, hrest⟩
  · rintro ⟨hi, k, hk, hrest⟩
    exact ⟨i + 1, ⟨rfl, hi⟩, k, hk.imp id fun h => ⟨by omega, h.2⟩, hrest⟩

/-- A word bound reads word edges, and with span bounds span tags. -/
theorem bound_denote (bd : Phrase.Bounds) : PartDenotes t { ignoreCase := !cs } bd.part (bd.Holds t cs) := by
  cases bd with
  | plain => exact boundary_denotes t cs
  | spans =>
    refine (partDenotes_plus (partDenotes_group (altPartsDenote_cons (spanTag_denote t cs)
      (altPartsDenote_cons (seqPartsDenote_cons (boundary_denotes t cs) seqPartsDenote_nil)
        altPartsDenote_nil)) false) (fun _ => rfl) false).of_iff fun i j => ?_
    have hstep : ∀ a b, (Phrase.SpanTag t cs a b ∨ Comp (fun i j => j = i ∧ wordEdge t i = true)
        (fun i j => j = i) a b ∨ False) ↔ Phrase.SpanTag t cs a b ∨ b = a ∧ wordEdge t a = true := by
      intro a b
      simp only [Comp, or_false]
      constructor
      · rintro (h | ⟨_, ⟨rfl, he⟩, rfl⟩)
        · exact .inl h
        · exact .inr ⟨rfl, he⟩
      · rintro (h | ⟨rfl, he⟩)
        · exact .inl h
        · exact .inr ⟨_, ⟨rfl, he⟩, rfl⟩
    rw [(hstep i i).trans (or_iff_right fun hs => lt_irrefl i hs.lt)]
    simp only [hstep, reflTransGen_or_stay, Phrase.Bounds.Holds, true_and]

/-- A word reads its letters between word bounds. -/
theorem word_denote (bd : Phrase.Bounds) (w : Phrase.Word) :
    PartDenotes t { ignoreCase := !cs } (Phrase.wordPart bd w) (Phrase.WordAt t bd cs w) :=
  (partDenotes_group (altPartsDenote_cons (seqPartsDenote_cons (bound_denote t cs bd)
    (seqPartsDenote_cons (partDenotes_group (altPartsDenote_cons (spells_denote t cs w.spelled)
      altPartsDenote_nil) true) (seqPartsDenote_cons (bound_denote t cs bd) seqPartsDenote_nil)))
    altPartsDenote_nil) false).of_iff fun i j => by simp [Comp, Phrase.WordAt]

/-- `[\s,\?\!\.;:\\/_\(\)\[\]"\'-]` reads a blank or a punctuation mark. -/
theorem mark_denote :
    PartDenotes t { ignoreCase := !cs } Phrase.markPart fun i j => j = i + 1 ∧ (t[i]?).any Phrase.isMark = true := by
  have hdups : (classItems Phrase.markUnits true).eraseDups = classItems Phrase.markUnits true := by
    decide +kernel
  have hmode : ({ ignoreCase := !cs } : Flags).classMode (classItems Phrase.markUnits true) = ⟨false, false⟩ := by
    cases cs <;> decide +kernel
  have hnode : ∀ g, (Phrase.markPart.node { ignoreCase := !cs } g).1 =
      .set false (classItems Phrase.markUnits true) ⟨false, false⟩ := by
    intro g
    rw [← hmode, ← hdups]
    rfl
  refine (partDenotes_of_node hnode (denotes_unit rfl)).of_iff fun i j => ?_
  have hmark : ∀ x, unitHolds x (.set false (classItems Phrase.markUnits true) ⟨false, false⟩) =
      Phrase.isMark x := by
    intro x
    simp [Phrase.markUnits, classItems, Tok.classItem, categoryEscape?, unitHolds, itemHolds, charHolds,
      categoryHolds, Phrase.isMark, BEq.comm, Bool.beq_eq_decide_eq]
  simp only [hmark]

/-- `<[^>]*>` reads a tag in angle brackets. -/
theorem angleTag_denote :
    SeqPartsDenote t { ignoreCase := !cs }
      Phrase.angleParts fun i j => t[i]? = some '<' ∧ Phrase.Closes t '>' (i + 1) j := by
  have hlt : isCased false '<' = false := by decide +kernel
  refine (seqPartsDenote_cons (partDenotes_lit '<') (angleClose_denote t cs)).of_iff fun i j => ?_
  simp only [Comp, charHolds_uncased cs hlt, any_beq_iff]
  constructor
  · rintro ⟨_, ⟨rfl, hi⟩, hcl⟩
    exact ⟨hi, hcl⟩
  · rintro ⟨hi, hcl⟩
    exact ⟨_, ⟨rfl, hi⟩, hcl⟩

/-- `\{[^\}]*\}` reads a tag in braces. -/
theorem braceTag_denote :
    SeqPartsDenote t { ignoreCase := !cs }
      Phrase.braceParts fun i j => t[i]? = some '\x7b' ∧ Phrase.Closes t '\x7d' (i + 1) j := by
  have hlb : isCased false '\x7b' = false := by decide +kernel
  refine (seqPartsDenote_cons (partDenotes_of_node (n := lit { ignoreCase := !cs } '\x7b') (fun _ => rfl)
    (denotes_unit rfl)) (braceClose_denote t cs)).of_iff fun i j => ?_
  simp only [Comp, lit, unitHolds, charHolds_uncased cs hlb, any_beq_iff]
  constructor
  · rintro ⟨_, ⟨rfl, hi⟩, hcl⟩
    exact ⟨hi, hcl⟩
  · rintro ⟨hi, hcl⟩
    exact ⟨_, ⟨rfl, hi⟩, hcl⟩

/-- `</span>`, a closing span tag. -/
theorem closeSpan_denote :
    SeqPartsDenote t { ignoreCase := !cs }
      Phrase.closeSpanParts fun i j => t[i]? = some '<' ∧ t[i + 1]? = some '/' ∧
        ∃ m, Phrase.Spells t cs "span".toList (i + 2) m ∧ t[m]? = some '>' ∧ j = m + 1 := by
  have hlt : isCased false '<' = false := by decide +kernel
  have hsl : isCased false '/' = false := by decide +kernel
  have hgt : isCased false '>' = false := by decide +kernel
  have h := letterParts_denote t cs (seqPartsDenote_cons (partDenotes_lit '>') seqPartsDenote_nil)
    "span".toList span_letters
  rw [show "span".toList.map Phrase.letterPart ++ [Part.lit '>'] =
    [.lit 's', .lit 'p', .lit 'a', .lit 'n', .lit '>'] from rfl] at h
  refine (seqPartsDenote_cons (partDenotes_lit '<') (seqPartsDenote_cons (partDenotes_lit '/') h)).of_iff
    fun i j => ?_
  simp only [Comp, charHolds_uncased cs hlt, charHolds_uncased cs hsl, charHolds_uncased cs hgt, any_beq_iff]
  constructor
  · rintro ⟨_, ⟨rfl, hi⟩, _, ⟨rfl, hslash⟩, m, hm, _, ⟨rfl, hgt'⟩, rfl⟩
    exact ⟨hi, hslash, m, hm, hgt', rfl⟩
  · rintro ⟨hi, hslash, m, hm, hgt', rfl⟩
    exact ⟨_, ⟨rfl, hi⟩, _, ⟨rfl, hslash⟩, m, hm, _, ⟨rfl, hgt'⟩, rfl⟩

/-- `\b\w+\b` reads a whole word. -/
theorem wholeWord_denote :
    SeqPartsDenote t { ignoreCase := !cs } Phrase.wholeWordParts (Phrase.WholeWord t) := by
  refine (seqPartsDenote_cons (boundary_denotes t cs) (seqPartsDenote_cons
    (partDenotes_repUnit (n := escNode { ignoreCase := !cs } 'w') (fun _ => rfl) rfl rfl false)
    (seqPartsDenote_cons (boundary_denotes t cs) seqPartsDenote_nil))).of_iff fun i j => ?_
  simp only [Comp, Quant.lo, unitHolds_escW]
  constructor
  · rintro ⟨_, ⟨rfl, hi⟩, k, ⟨hik, hrun⟩, _, ⟨rfl, hk⟩, rfl⟩
    exact ⟨by omega, hi, hk, fun p hp hpk => by simpa [wordCharAt] using hrun p hp hpk⟩
  · rintro ⟨hij, hi, hj, hrun⟩
    exact ⟨i, ⟨rfl, hi⟩, j, ⟨by omega, fun p hp hpj => by simpa [wordCharAt] using hrun p hp hpj⟩, j,
      ⟨rfl, hj⟩, rfl⟩

/-- The branches of the filler read one piece of filler: the span tags that span bounds add are
tags in angle brackets already. -/
theorem fillerBranches_denote (bd : Phrase.Bounds) (sloppy : Bool) :
    AltPartsDenote t { ignoreCase := !cs } (Phrase.fillerBranches bd sloppy) (Phrase.FillerItem t sloppy) := by
  -- the tags and whole words that every filler has
  have htags : AltPartsDenote t { ignoreCase := !cs }
      (Phrase.angleParts :: Phrase.braceParts :: (if sloppy then [Phrase.wholeWordParts] else []))
      fun i j => (t[i]? = some '<' ∧ Phrase.Closes t '>' (i + 1) j) ∨
        (t[i]? = some '\x7b' ∧ Phrase.Closes t '\x7d' (i + 1) j) ∨ (sloppy = true ∧ Phrase.WholeWord t i j) := by
    cases sloppy
    · exact (altPartsDenote_cons (angleTag_denote t cs) (altPartsDenote_cons (braceTag_denote t cs)
        altPartsDenote_nil)).of_iff fun i j => by simp
    · exact (altPartsDenote_cons (angleTag_denote t cs) (altPartsDenote_cons (braceTag_denote t cs)
        (altPartsDenote_cons (wholeWord_denote t cs) altPartsDenote_nil))).of_iff fun i j => by simp
  have hextra : AltPartsDenote t { ignoreCase := !cs } (bd.extraParts ++
      Phrase.angleParts :: Phrase.braceParts :: (if sloppy then [Phrase.wholeWordParts] else []))
      fun i j => (t[i]? = some '<' ∧ Phrase.Closes t '>' (i + 1) j) ∨
        (t[i]? = some '\x7b' ∧ Phrase.Closes t '\x7d' (i + 1) j) ∨ (sloppy = true ∧ Phrase.WholeWord t i j) := by
    cases bd with
    | plain => exact htags
    | spans =>
      refine (altPartsDenote_cons (spanTag_denote t cs) (altPartsDenote_cons (closeSpan_denote t cs)
        htags)).of_iff fun i j => ⟨?_, fun h => .inr (.inr h)⟩
      rintro (h | h | h)
      · exact .inl h.closes
      · exact .inl (Phrase.SpanTag.of_closing h).closes
      · exact h
  exact (altPartsDenote_cons (seqPartsDenote_cons (mark_denote t cs) seqPartsDenote_nil) hextra).of_iff
    fun i j => by simp [Comp, Phrase.FillerItem]

/-- The filler between words reads any chain of pieces of filler. -/
theorem filler_denote (bd : Phrase.Bounds) (sloppy : Bool) :
    PartDenotes t { ignoreCase := !cs } (Phrase.fillerPart bd sloppy) (ReflTransGen (Phrase.FillerItem t sloppy)) :=
  partDenotes_star (partDenotes_group (fillerBranches_denote t cs bd sloppy) false)
    (fun _ => by cases bd <;> cases sloppy <;> rfl) true

/-- **The parts of a phrase read the phrase.** -/
theorem phraseParts_denote (bd : Phrase.Bounds) (sloppy : Bool) :
    ∀ ws, SeqPartsDenote t { ignoreCase := !cs } (Phrase.phraseParts bd sloppy ws) (Phrase.PhraseAt t bd cs sloppy ws)
  | [] => seqPartsDenote_nil
  | [w] => (seqPartsDenote_cons (word_denote t cs bd w) seqPartsDenote_nil).of_iff fun i j => by
      simp [Comp, Phrase.PhraseAt]
  | w :: v :: ws => seqPartsDenote_cons (word_denote t cs bd w)
      (seqPartsDenote_cons (filler_denote t cs bd sloppy) (phraseParts_denote bd sloppy (v :: ws)))

end Flags

/-- **A phrase search finds exactly its phrase.** For words of letters and `*`, with plain word
bounds or the span bounds of highlighting, the search's pattern is read without fault (it does not
fall back to the empty pattern), it has one capturing group for each word, and it matches a text
exactly when the text holds the words in order, each spelled between word bounds, with only
blanks, punctuation, tags and (for a sloppy search) whole words between them. -/
theorem phrase_search_matches (bd : Phrase.Bounds) (cs sloppy : Bool) {ws : List Phrase.Word} (hne : ws ≠ []) :
    ∃ r : Regex, termsPattern (Phrase.terms ws) cs bd.template bd.extraSpace sloppy = .ok r ∧
      Regex.read (Phrase.pattern bd sloppy ws) { ignoreCase := !cs } = .ok r ∧
      r.source = Phrase.pattern bd sloppy ws ∧ r.groups = ws.length + 1 ∧
      ∀ text : String, r.test text = true ↔ ∃ i j, Phrase.PhraseAt text.toList.toArray bd cs sloppy ws i j := by
  have hread := read_pattern bd cs sloppy hne
  refine ⟨_, ?_, hread, rfl, ?_, fun text => ?_⟩
  · rw [termsPattern_phrase bd cs sloppy hne, compileOrEmpty, hread]
  · simp only [altNodes, phraseParts_groups]
    omega
  · have hden := denotes_altNode (((altPartsDenote_cons (phraseParts_denote text.toList.toArray cs bd sloppy ws)
      altPartsDenote_nil).of_iff (S := Phrase.PhraseAt text.toList.toArray bd cs sloppy ws) fun i j => by simp) 1)
    exact Regex.search_zero_isSome_iff_denotes (altNode_simple (altNodes_simple 1 [Phrase.phraseParts bd sloppy ws])) hden
      fun i j h => h.le_size hne

/-- `in the beg*`: a phrase of three words, the last one a prefix. -/
def Phrase.inTheBeginning : List Phrase.Word :=
  [⟨['i', 'n'], by simp, by simp⟩, ⟨['t', 'h', 'e'], by simp, by simp⟩,
    ⟨['b', 'e', 'g', '*'], by simp, by simp⟩]

theorem phrase_search_matches_inTheBeginning :
    Phrase.inTheBeginning ≠ [] ∧
      ∃ r : Regex, termsPattern (Phrase.terms Phrase.inTheBeginning) false Phrase.Bounds.spans.template
          Phrase.Bounds.spans.extraSpace false = .ok r ∧
        Regex.read (Phrase.pattern .spans false Phrase.inTheBeginning) { ignoreCase := true } = .ok r ∧
        r.source = Phrase.pattern .spans false Phrase.inTheBeginning ∧ r.groups = 4 ∧
        ∀ text : String, r.test text = true ↔
          ∃ i j, Phrase.PhraseAt text.toList.toArray .spans false false Phrase.inTheBeginning i j :=
  ⟨by simp [Phrase.inTheBeginning], phrase_search_matches .spans false false (by simp [Phrase.inTheBeginning])⟩

end Scripture.Search
