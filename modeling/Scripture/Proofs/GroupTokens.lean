import Mathlib
import Scripture.Proofs.CombinedForm

/-!
# Reading groups keeps the tokens of a combined search

A combined search is read character by character (`readTerms`): an opening parenthesis starts a
group, read by the same reader up to its closing parenthesis, and the text between parentheses
is split at blanks. For a text whose parentheses are balanced, reading loses and invents
nothing: the tree of items read, written out with its parentheses, is the text's list of tokens,
a token being a word between blanks or a single parenthesis. The reader of a group stops right
after the parenthesis that closes it.

* `openDepth`, `Balanced` — how many groups are open along a text, and the texts where no
  closing parenthesis comes with no group open and none is left open.
* `Paired` — the grammar of balanced texts, plain characters and groups; `Balanced.paired`.
* `Term.tokens`, `parenTokens` — items written out as tokens, and the tokens of a text: its
  words once a blank stands on each side of every parenthesis.
* `readTerms_paired` — reading a paired text up to where it closes gives its tokens.
* `readCombined_tokens` — every balanced text is read into its tokens, and every group of it
  is read up to and including its own closing parenthesis.
-/

namespace Scripture.Search

/-! ### Balanced parentheses -/

/-- The number of groups open after reading `cs` with `d` open: an opening parenthesis opens
one more and a closing one closes the last; `none` once a closing parenthesis finds no group
open. -/
def openDepth : Nat → List Char → Option Nat
  | d, [] => some d
  | d, c :: cs =>
    if c = '(' then openDepth (d + 1) cs
    else if c = ')' then (if d = 0 then none else openDepth (d - 1) cs)
    else openDepth d cs

/-- A text whose parentheses are balanced: no closing parenthesis comes with no group open, and
no group is left open. -/
def Balanced (cs : List Char) : Prop := openDepth 0 cs = some 0

instance (cs : List Char) : Decidable (Balanced cs) :=
  inferInstanceAs (Decidable (openDepth 0 cs = some 0))

theorem openDepth_open (d : Nat) (cs : List Char) :
    openDepth d ('(' :: cs) = openDepth (d + 1) cs := by
  simp [openDepth]

theorem openDepth_close (d : Nat) (cs : List Char) :
    openDepth (d + 1) (')' :: cs) = openDepth d cs := by
  simp [openDepth]

theorem openDepth_close_zero (cs : List Char) : openDepth 0 (')' :: cs) = none := by
  simp [openDepth]

theorem openDepth_plain (d : Nat) {c : Char} (hopen : c ≠ '(') (hclose : c ≠ ')')
    (cs : List Char) : openDepth d (c :: cs) = openDepth d cs := by
  simp [openDepth, hopen, hclose]

/-- Reading two texts one after the other: the second starts with the groups the first left
open. -/
theorem openDepth_append (d : Nat) (x y : List Char) :
    openDepth d (x ++ y) = (openDepth d x).bind fun e => openDepth e y := by
  induction x generalizing d with
  | nil => rfl
  | cons c x ih =>
    rw [List.cons_append]
    by_cases hopen : c = '('
    · subst hopen
      rw [openDepth_open, openDepth_open, ih]
    by_cases hclose : c = ')'
    · subst hclose
      cases d with
      | zero => simp [openDepth_close_zero]
      | succ d => rw [openDepth_close, openDepth_close, ih]
    · rw [openDepth_plain d hopen hclose, openDepth_plain d hopen hclose, ih]

/-- Groups open before a text stay open through it. -/
theorem openDepth_shift {d e : Nat} {cs : List Char} (h : openDepth d cs = some e) (k : Nat) :
    openDepth (d + k) cs = some (e + k) := by
  induction cs generalizing d with
  | nil =>
    simp only [openDepth, Option.some.injEq] at h ⊢
    omega
  | cons c cs ih =>
    by_cases hopen : c = '('
    · subst hopen
      rw [openDepth_open] at h
      rw [openDepth_open, Nat.add_right_comm]
      exact ih h
    by_cases hclose : c = ')'
    · subst hclose
      cases d with
      | zero => simp [openDepth_close_zero] at h
      | succ d =>
        rw [openDepth_close] at h
        rw [Nat.add_right_comm, openDepth_close]
        exact ih h
    · rw [openDepth_plain _ hopen hclose] at h ⊢
      exact ih h

/-- **Every open group closes.** Read with `d + 1` groups open, a text that leaves at most `d`
open closes the innermost group: it is a balanced text, the parenthesis that closes the group,
and a rest read with `d` groups open. -/
theorem exists_close (cs : List Char) :
    ∀ {d e : Nat}, openDepth (d + 1) cs = some e → e ≤ d →
      ∃ g r, cs = g ++ ')' :: r ∧ Balanced g ∧ openDepth d r = some e := by
  induction h : cs.length using Nat.strong_induction_on generalizing cs with
  | _ n ih =>
    intro d e hd he
    cases cs with
    | nil =>
      simp only [openDepth, Option.some.injEq] at hd
      omega
    | cons c cs =>
      have hlt : cs.length < n := by simp at h; omega
      by_cases hopen : c = '('
      · -- the inner group closes first, then the group the text is in
        subst hopen
        rw [openDepth_open] at hd
        obtain ⟨g₁, r₁, rfl, hg₁, hr₁⟩ := ih _ hlt cs rfl hd (by omega)
        have hlt₁ : r₁.length < n := by simp at h; omega
        obtain ⟨g₂, r₂, rfl, hg₂, hr₂⟩ := ih _ hlt₁ r₁ rfl hr₁ he
        refine ⟨'(' :: (g₁ ++ ')' :: g₂), r₂, by simp, ?_, hr₂⟩
        have hg₁' : openDepth 1 g₁ = some 1 := openDepth_shift hg₁ 1
        rw [Balanced, openDepth_open, openDepth_append, hg₁', Option.bind_some, openDepth_close]
        exact hg₂
      by_cases hclose : c = ')'
      · subst hclose
        rw [openDepth_close] at hd
        exact ⟨[], cs, rfl, rfl, hd⟩
      · rw [openDepth_plain _ hopen hclose] at hd
        obtain ⟨g, r, rfl, hg, hr⟩ := ih _ hlt cs rfl hd he
        refine ⟨c :: g, r, rfl, ?_, hr⟩
        rw [Balanced, openDepth_plain _ hopen hclose]
        exact hg

/-- Texts whose parentheses pair up: built from characters other than parentheses and from
groups, a group being a paired text in parentheses. -/
inductive Paired : List Char → Prop
  | nil : Paired []
  | plain {c : Char} {cs : List Char} (hopen : c ≠ '(') (hclose : c ≠ ')') (h : Paired cs) :
      Paired (c :: cs)
  | group {g r : List Char} (hg : Paired g) (hr : Paired r) : Paired ('(' :: (g ++ ')' :: r))

/-- A balanced text is paired: its first opening parenthesis is closed by a parenthesis that
leaves both the group and the rest balanced. -/
theorem Balanced.paired (cs : List Char) (h : Balanced cs) : Paired cs := by
  induction hn : cs.length using Nat.strong_induction_on generalizing cs with
  | _ n ih =>
    cases cs with
    | nil => exact .nil
    | cons c cs =>
      have hlt : cs.length < n := by simp at hn; omega
      by_cases hopen : c = '('
      · subst hopen
        rw [Balanced, openDepth_open] at h
        obtain ⟨g, r, rfl, hg, hr⟩ := exists_close cs h (le_refl 0)
        have hglt : g.length < n := by simp at hn; omega
        have hrlt : r.length < n := by simp at hn; omega
        exact .group (ih _ hglt g hg rfl) (ih _ hrlt r hr rfl)
      by_cases hclose : c = ')'
      · subst hclose
        simp [Balanced, openDepth_close_zero] at h
      · rw [Balanced, openDepth_plain _ hopen hclose] at h
        exact .plain hopen hclose (ih _ hlt cs h rfl)

/-! ### Tokens -/

mutual
/-- An item written out as tokens: a word, or a group's tokens in parentheses. -/
def Term.tokens : Term → List String
  | .word w => [w]
  | .group ts => "(" :: Term.listTokens ts ++ [")"]
/-- Items written out as tokens, one after another. -/
def Term.listTokens : List Term → List String
  | [] => []
  | t :: ts => t.tokens ++ Term.listTokens ts
end

@[simp] theorem Term.listTokens_nil : Term.listTokens [] = [] := by
  simp [Term.listTokens]

@[simp] theorem Term.listTokens_cons (t : Term) (ts : List Term) :
    Term.listTokens (t :: ts) = t.tokens ++ Term.listTokens ts := by
  simp [Term.listTokens]

@[simp] theorem Term.tokens_word (w : String) : (Term.word w).tokens = [w] := by
  simp [Term.tokens]

@[simp] theorem Term.tokens_group (ts : List Term) :
    (Term.group ts).tokens = "(" :: Term.listTokens ts ++ [")"] := by
  simp [Term.tokens]

@[simp] theorem Term.listTokens_append (ts us : List Term) :
    Term.listTokens (ts ++ us) = Term.listTokens ts ++ Term.listTokens us := by
  induction ts with
  | nil => simp
  | cons t ts ih => simp [ih]

@[simp] theorem Term.listTokens_wordTerms (text : String) :
    Term.listTokens (wordTerms text) = Text.fields text := by
  rw [wordTerms]
  induction Text.fields text with
  | nil => simp
  | cons w ws ih => simp [ih]

/-- A text with a blank on each side of every parenthesis. -/
def spaceParens (cs : List Char) : List Char :=
  cs.flatMap fun c => if c = '(' ∨ c = ')' then [' ', c, ' '] else [c]

/-- The tokens of a text: its words once each parenthesis stands between blanks, so that every
parenthesis is a token of its own. -/
def parenTokens (cs : List Char) : List String := Text.fields (String.ofList (spaceParens cs))

theorem spaceParens_plain {c : Char} (hopen : c ≠ '(') (hclose : c ≠ ')') (cs : List Char) :
    spaceParens (c :: cs) = c :: spaceParens cs := by
  simp [spaceParens, hopen, hclose]

theorem spaceParens_group (g r : List Char) :
    spaceParens ('(' :: (g ++ ')' :: r)) =
      ' ' :: '(' :: ' ' :: (spaceParens g ++ ' ' :: ')' :: ' ' :: spaceParens r) := by
  simp [spaceParens]

/-- A character that is not a blank, written between blanks after a text, is a word of its own
after the text's words. -/
theorem fields_go_between_blanks (x y : List Char) {p : Char} (hp : Text.isBlank p = false) :
    Text.fields.go (x ++ ' ' :: p :: ' ' :: y) [] [] =
      Text.fields.go x [] [] ++ String.ofList [p] :: Text.fields.go y [] [] := by
  have hspace : Text.isBlank ' ' = true := by decide
  have hword : Text.fields.go [p] [] [] = [String.ofList [p]] := by
    rw [Text.fields.go, if_neg (by simp [hp]), Text.fields.go, Text.fields.push]
    simp
  rw [Text.fields_go_blank x _ hspace, ← List.singleton_append,
    Text.fields_go_blank [p] y hspace, hword, List.singleton_append]

/-- The tokens of a group after a text: the text's words, then the group's tokens in
parentheses, then the tokens of what follows. -/
theorem fields_spaceParens_group (text : String) (g r : List Char) :
    Text.fields (text ++ String.ofList (spaceParens ('(' :: (g ++ ')' :: r)))) =
      Text.fields text ++ "(" :: parenTokens g ++ ")" :: parenTokens r := by
  have hopen : Text.isBlank '(' = false := by decide
  have hclose : Text.isBlank ')' = false := by decide
  simp only [Text.fields, parenTokens, String.toList_append, String.toList_ofList,
    spaceParens_group]
  rw [fields_go_between_blanks _ _ hopen, List.append_assoc, fields_go_between_blanks _ _ hclose]
  rfl

/-! ### Reading a paired text -/

/-- **Reading a paired text.** Reading the characters of a paired text, after the characters
`text` of a word being read, until the text ends or its group closes, adds items written out as
the tokens of `text` followed by the text, and leaves what follows the end. -/
theorem readTerms_paired {cs : List Char} (h : Paired cs) :
    ∀ (top : Bool) (fuel : Nat) (text : String) (acc : List Term) (more rest : List Char),
      Closes top more rest → cs.length < fuel →
      ∃ ts, readTerms top fuel (cs ++ more) text acc = (acc ++ ts, rest) ∧
        Term.listTokens ts = Text.fields (text ++ String.ofList (spaceParens cs)) := by
  induction h with
  | nil =>
    intro top fuel text acc more rest hcl hfuel
    refine ⟨wordTerms text, readTerms_close hcl hfuel text acc, ?_⟩
    simp [spaceParens]
  | @plain c cs hopen hclose _ ih =>
    intro top fuel text acc more rest hcl hfuel
    -- the character joins the word being read
    have hseg : ∀ x ∈ [c], x ≠ '(' ∧ x ≠ ')' := by simpa using ⟨hopen, hclose⟩
    obtain ⟨ts, hread, htokens⟩ := ih top (fuel - 1) (text ++ String.ofList [c]) acc more rest
      hcl (by simp at hfuel; omega)
    refine ⟨ts, ?_, ?_⟩
    · rw [List.cons_append, ← List.singleton_append,
        readTerms_segment top hseg _ acc fuel text (by simp at hfuel ⊢; omega)]
      exact hread
    · rw [htokens, spaceParens_plain hopen hclose, String.append_assoc, ← String.ofList_append,
        List.singleton_append]
  | @group g r _ _ ihg ihr =>
    intro top fuel text acc more rest hcl hfuel
    obtain ⟨k, rfl⟩ : ∃ k, fuel = k + 1 := ⟨fuel - 1, by simp at hfuel; omega⟩
    simp only [List.length_cons, List.length_append] at hfuel
    -- the group is read up to its closing parenthesis, and reading goes on after it
    obtain ⟨inner, hinner, hinnerTokens⟩ :=
      ihg false k "" [] (')' :: (r ++ more)) (r ++ more) (Or.inr ⟨rfl, rfl⟩) (by omega)
    obtain ⟨ts, hrest, hrestTokens⟩ :=
      ihr top k "" (acc ++ wordTerms text ++ [.group ([] ++ inner)]) more rest hcl (by omega)
    refine ⟨wordTerms text ++ .group inner :: ts, ?_, ?_⟩
    · rw [List.cons_append, List.append_assoc, List.cons_append, readTerms, if_pos (by decide),
        hinner]
      dsimp only
      rw [hrest]
      simp
    · rw [fields_spaceParens_group, Term.listTokens_append, Term.listTokens_cons,
        Term.tokens_group, hrestTokens, hinnerTokens, Term.listTokens_wordTerms]
      simp [parenTokens]

/-- **Reading a combined search keeps its tokens.** A text with balanced parentheses is read into
items that, written out with their groups in parentheses, are the text's tokens; and after any
opening parenthesis of it, a group's reader stops right after the parenthesis that closes it,
with the group's own tokens read. -/
theorem readCombined_tokens (s : String) (hs : Balanced s.toList) :
    Term.listTokens (readCombined s) = parenTokens s.toList ∧
      ∀ p q, s.toList = p ++ '(' :: q →
        ∃ g r, q = g ++ ')' :: r ∧ Balanced g ∧
          ∀ fuel, g.length < fuel →
            ∃ ts, readTerms false fuel q "" [] = (ts, r) ∧
              Term.listTokens ts = parenTokens g := by
  constructor
  · have hfuel : s.toList.length < s.length + 1 := by
      rw [String.length_toList]
      exact Nat.lt_succ_self _
    obtain ⟨ts, hread, htokens⟩ :=
      readTerms_paired (Balanced.paired _ hs) true (s.length + 1) "" [] [] []
        (Or.inl ⟨rfl, rfl, rfl⟩) hfuel
    rw [List.append_nil] at hread
    rw [readCombined, hread, List.nil_append, htokens, String.empty_append]
    rfl
  · intro p q hpq
    -- the groups open before the parenthesis, and one more, are closed by `q`
    rw [Balanced, hpq, openDepth_append] at hs
    obtain ⟨d, hp, hq⟩ := Option.bind_eq_some_iff.mp hs
    rw [openDepth_open] at hq
    obtain ⟨g, r, rfl, hg, -⟩ := exists_close q hq (Nat.zero_le d)
    refine ⟨g, r, rfl, hg, fun fuel hfuel => ?_⟩
    obtain ⟨ts, hread, htokens⟩ := readTerms_paired (Balanced.paired g hg) false fuel "" []
      (')' :: r) r (Or.inr ⟨rfl, rfl⟩) hfuel
    refine ⟨ts, hread, ?_⟩
    rw [htokens, String.empty_append]
    rfl

/-- The nested query `((in OR tree) AND the) AND (house OR bush)` is balanced and is read into
its fifteen tokens. -/
theorem nestedQuery_tokens :
    Balanced "((in OR tree) AND the) AND (house OR bush)".toList ∧
      Term.listTokens (readCombined "((in OR tree) AND the) AND (house OR bush)") =
        ["(", "(", "in", "OR", "tree", ")", "AND", "the", ")", "AND", "(", "house", "OR", "bush",
          ")"] := by
  have hb : Balanced "((in OR tree) AND the) AND (house OR bush)".toList := by decide
  refine ⟨hb, ?_⟩
  rw [(readCombined_tokens _ hb).1]
  decide

end Scripture.Search
