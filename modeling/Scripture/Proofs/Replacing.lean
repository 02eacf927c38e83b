import Mathlib
import Scripture.Proofs.PatternSteps
import Scripture.Text.Case

/-!
# Replacing the matches of a pattern

`Regex.replaceBy` folds over the run of matches of a pattern, copying the text between them and
putting what a function gives in place of each. `Regex.replaced` is the same walk written as a
recursion on the place in the text, so that a replacement can be followed one place at a time:
where the pattern does not match, a character is copied (`Regex.replaced_skip`); where it matches,
the match is replaced and the walk goes on after it (`Regex.replaced_take`).

* `Regex.replaceBy_eq` — replacing every match is `Regex.replaced` from the start of the text.
* `Regex.replaceBy_of_none` — a pattern that matches nowhere leaves the text as it is.
* `Regex.replaceBy_unit` — replacing each match of a one-character pattern by a fixed text
  replaces each character the pattern matches.
* `Text.replaceList_single`, `Text.replaceList_pat_append` — text replacement of a character, and
  of a pattern that stands at the front.
-/

namespace Scripture.Text

section ReplaceList

variable {pat rep : List Char}

@[simp] theorem replaceList_nil : replaceList pat rep [] = [] := by
  rw [replaceList]

/-- A character that does not begin the pattern is kept. -/
theorem replaceList_cons_of_head_ne {c : Char} {cs : List Char} (h : pat.head? ≠ some c) :
    replaceList pat rep (c :: cs) = c :: replaceList pat rep cs := by
  rw [replaceList, dif_neg]
  rintro ⟨hne, hpre⟩
  obtain ⟨d, ds, rfl⟩ := List.exists_cons_of_ne_nil hne
  simp only [List.isPrefixOf_cons_cons, Bool.and_eq_true, beq_iff_eq] at hpre
  exact h (by rw [hpre.1]; rfl)

/-- An occurrence of the pattern is replaced, and the replacing goes on after it. -/
theorem replaceList_pat_append (hp : pat ≠ []) (cs : List Char) :
    replaceList pat rep (pat ++ cs) = rep ++ replaceList pat rep cs := by
  obtain ⟨d, ds, rfl⟩ := List.exists_cons_of_ne_nil hp
  rw [List.cons_append, replaceList, dif_pos ⟨hp, by simp [List.isPrefixOf_iff_prefix]⟩]
  simp

/-- Characters none of which begins the pattern are kept as they are. -/
theorem replaceList_append_of_head {A : List Char} (h : ∀ c ∈ A, pat.head? ≠ some c) (B : List Char) :
    replaceList pat rep (A ++ B) = A ++ replaceList pat rep B := by
  induction A with
  | nil => rfl
  | cons c A ih =>
    rw [List.cons_append, replaceList_cons_of_head_ne (h c List.mem_cons_self),
      ih fun d hd => h d (List.mem_cons_of_mem c hd)]
    rfl

/-- Replacing one character replaces each of its occurrences. -/
theorem replaceList_single (c : Char) (cs : List Char) :
    replaceList [c] rep cs = cs.flatMap fun d => if d = c then rep else [d] := by
  induction cs with
  | nil => simp
  | cons d cs ih =>
    by_cases hd : d = c
    · subst hd
      rw [show d :: cs = [d] ++ cs from rfl, replaceList_pat_append (List.cons_ne_nil d []), ih]
      simp
    · rw [replaceList_cons_of_head_ne (by simpa [eq_comm] using hd), ih]
      simp [hd]

end ReplaceList

end Scripture.Text

namespace Scripture.Pattern

/-- Replacing the matches of a pattern from place `pos` of a text on: the text with each match,
as the search for matches goes, replaced by what `f` gives, and the number of matches. `fuel`
bounds the number of matches, as for `Regex.scan`. -/
def Regex.replaced (r : Regex) (cs : Array Char) (f : Match → String) :
    Nat → Nat → Bool → List Char × Nat
  | 0, pos, _ => ((cs.extract pos cs.size).toList, 0)
  | fuel + 1, pos, mustAdvance =>
    match r.search cs pos mustAdvance with
    | none => ((cs.extract pos cs.size).toList, 0)
    | some m =>
      let rest := r.replaced cs f fuel m.stop (m.start == m.stop)
      ((cs.extract pos m.start).toList ++ (f m).toList ++ rest.1, rest.2 + 1)

section Replaced

variable (r : Regex) (cs : Array Char) (f : Match → String)

/-- The fold of `Regex.replaceBy` over the matches from `pos` on, from an output `o` that has
reached `pos`, gives `o` and what `Regex.replaced` gives. -/
theorem foldl_scan : ∀ (fuel pos : Nat) (ma : Bool) (o : String),
    let ms := r.scan cs fuel pos ma
    let acc := ms.foldl (fun (acc : String × Nat) m =>
      (acc.1 ++ String.ofList (cs.extract acc.2 m.start).toList ++ f m, m.stop)) (o, pos)
    acc.1 ++ String.ofList (cs.extract acc.2 cs.size).toList =
      o ++ String.ofList (r.replaced cs f fuel pos ma).1 ∧
    ms.length = (r.replaced cs f fuel pos ma).2
  | 0, pos, ma, o => by simp [Regex.scan, Regex.replaced]
  | fuel + 1, pos, ma, o => by
    cases hs : r.search cs pos ma with
    | none => simp [Regex.scan, Regex.replaced, hs]
    | some m =>
      have ih := foldl_scan fuel m.stop (m.start == m.stop)
        (o ++ String.ofList (cs.extract pos m.start).toList ++ f m)
      simp only [Regex.scan, Regex.replaced, hs, List.foldl_cons, List.length_cons] at ih ⊢
      refine ⟨?_, by rw [ih.2]⟩
      rw [ih.1]
      simp [String.append_assoc]

/-- Replacing every match is `Regex.replaced` from the start. -/
theorem Regex.replaceBy_eq (text : String) :
    r.replaceBy text f =
      let p := r.replaced text.toList.toArray f (2 * text.toList.toArray.size + 3) 0 false
      (String.ofList p.1, p.2) := by
  have h := foldl_scan r text.toList.toArray f (2 * text.toList.toArray.size + 3) 0 false ""
  unfold Regex.replaceBy Regex.allMatches
  simp only at h ⊢
  rw [h.1, h.2]
  simp

end Replaced

section Search

variable (r : Regex) (cs : Array Char)

/-- A search from a place of the text tries that place, then searches from the next. -/
theorem Regex.search_of_le {pos : Nat} (hp : pos ≤ cs.size) :
    r.search cs pos false = (r.matchAt cs pos).or (r.search cs (pos + 1) false) := by
  unfold Regex.search
  rw [show cs.size + 1 - pos = (cs.size + 1 - (pos + 1)) + 1 by omega, List.range'_succ,
    List.findSome?_cons]
  simp only [Bool.false_and]
  cases r.matchAt cs pos false <;> rfl

/-- A search from beyond the end of the text finds nothing. -/
theorem Regex.search_of_lt {pos : Nat} (hp : cs.size < pos) (ma : Bool) : r.search cs pos ma = none := by
  unfold Regex.search
  rw [show cs.size + 1 - pos = 0 by omega]
  rfl

/-- What a search finds, it finds at the first place from the start where the pattern matches. -/
theorem Regex.search_eq_some {m : Match} : ∀ {pos : Nat}, r.search cs pos false = some m →
    ∃ q, pos ≤ q ∧ q ≤ cs.size ∧ r.matchAt cs q = some m ∧ ∀ k, pos ≤ k → k < q → r.matchAt cs k = none := by
  intro pos
  induction h : cs.size + 1 - pos generalizing pos with
  | zero =>
    intro hs
    rw [Regex.search_of_lt r cs (by omega)] at hs
    cases hs
  | succ n ih =>
    intro hs
    rw [Regex.search_of_le r cs (by omega)] at hs
    cases hm : r.matchAt cs pos with
    | some m' =>
      rw [hm, Option.some_or] at hs
      cases hs
      exact ⟨pos, le_refl _, by omega, hm, fun k hk hkq => absurd hkq (by omega)⟩
    | none =>
      rw [hm, Option.none_or] at hs
      obtain ⟨q, hq, hqs, hmq, hbefore⟩ := ih (by omega) hs
      refine ⟨q, by omega, hqs, hmq, fun k hk hkq => ?_⟩
      rcases Nat.eq_or_lt_of_le hk with rfl | hk
      · exact hm
      · exact hbefore k hk hkq

/-- A search finds nothing exactly when the pattern matches at no place from its start. -/
theorem Regex.search_eq_none_iff : ∀ {pos : Nat}, r.search cs pos false = none ↔
    ∀ k, pos ≤ k → k ≤ cs.size → r.matchAt cs k = none := by
  intro pos
  induction h : cs.size + 1 - pos generalizing pos with
  | zero =>
    rw [Regex.search_of_lt r cs (by omega)]
    exact ⟨fun _ k hk hks => absurd hks (by omega), fun _ => rfl⟩
  | succ n ih =>
    rw [Regex.search_of_le r cs (by omega), Option.or_eq_none_iff, ih (by omega)]
    constructor
    · rintro ⟨hm, hrest⟩ k hk hks
      rcases Nat.eq_or_lt_of_le hk with rfl | hk
      · exact hm
      · exact hrest k hk hks
    · intro hall
      exact ⟨hall pos (le_refl _) (by omega), fun k hk hks => hall k (by omega) hks⟩

end Search

section Steps

variable {r : Regex} {cs : Array Char} {f : Match → String}

theorem extract_toList_cons {pos q : Nat} (hp : pos < q) (hq : q ≤ cs.size) :
    (cs.extract pos q).toList = cs[pos] :: (cs.extract (pos + 1) q).toList := by
  simp only [Array.toList_extract, List.extract_eq_take_drop]
  rw [List.drop_eq_getElem_cons (by simp; omega)]
  rw [show q - pos = (q - (pos + 1)) + 1 by omega, List.take_succ_cons]
  simp

/-- Where the pattern does not match, the character there is kept and replacing goes on from the
next place. -/
theorem Regex.replaced_skip (hstart : ∀ q m, r.matchAt cs q = some m → m.start = q) {pos : Nat}
    (hp : pos < cs.size) (hm : r.matchAt cs pos = none) (F : Nat) :
    r.replaced cs f (F + 1) pos false =
      let rest := r.replaced cs f (F + 1) (pos + 1) false
      (cs[pos] :: rest.1, rest.2) := by
  have hs : r.search cs pos false = r.search cs (pos + 1) false := by
    rw [Regex.search_of_le r cs (by omega), hm, Option.none_or]
  simp only [Regex.replaced, hs]
  cases hs' : r.search cs (pos + 1) false with
  | none => simp only [extract_toList_cons hp (le_refl _)]
  | some m =>
    obtain ⟨q, hq, hqs, hmq, -⟩ := Regex.search_eq_some r cs hs'
    simp only [hstart q m hmq, extract_toList_cons (show pos < q by omega) hqs, List.cons_append]

/-- Where the pattern matches, the match is replaced and replacing goes on after it. -/
theorem Regex.replaced_take {pos : Nat} (hp : pos ≤ cs.size) {m : Match} (hm : r.matchAt cs pos = some m)
    (hstart : m.start = pos) (F : Nat) :
    r.replaced cs f (F + 1) pos false =
      let rest := r.replaced cs f F m.stop (m.start == m.stop)
      ((f m).toList ++ rest.1, rest.2 + 1) := by
  have hs : r.search cs pos false = some m := by
    rw [Regex.search_of_le r cs hp, hm, Option.some_or]
  simp only [Regex.replaced, hs, hstart]
  simp

/-- Where the pattern matches at no place from `pos` on, the rest of the text is copied. -/
theorem Regex.replaced_of_none {pos : Nat} (h : ∀ k, pos ≤ k → k ≤ cs.size → r.matchAt cs k = none)
    (F : Nat) : r.replaced cs f F pos false = (cs.toList.drop pos, 0) := by
  cases F with
  | zero => simp [Regex.replaced]
  | succ F => simp [Regex.replaced, (Regex.search_eq_none_iff r cs).mpr h]

/-- A pattern that matches at no place of a text leaves it as it is. -/
theorem Regex.replaceBy_of_none {text : String}
    (h : ∀ k, k ≤ text.toList.length → r.matchAt text.toList.toArray k = none) :
    r.replaceBy text f = (text, 0) := by
  rw [Regex.replaceBy_eq]
  simp only
  rw [Regex.replaced_of_none fun k _ hk => h k (by simpa using hk)]
  simp

/-- A pattern that matches at no place of a text does not find it. -/
theorem Regex.test_eq_false {text : String}
    (h : ∀ k, k ≤ text.toList.length → r.matchAt text.toList.toArray k = none) :
    r.test text = false := by
  unfold Regex.test Regex.find?
  rw [(Regex.search_eq_none_iff r _).mpr fun k _ hk => h k (by simpa using hk)]
  rfl

end Steps

section Unit

variable {r : Regex} {cs : Array Char}

theorem Match.start_set {caps : Array (Option (Nat × Nat))} (h : 0 < caps.size) (a b : Nat) :
    (Match.mk cs (caps.set! 0 (some (a, b)))).start = a := by
  simp [Match.start, Match.span?, Array.set!, h]

theorem Match.stop_set {caps : Array (Option (Nat × Nat))} (h : 0 < caps.size) (a b : Nat) :
    (Match.mk cs (caps.set! 0 (some (a, b)))).stop = b := by
  simp [Match.stop, Match.span?, Array.set!, h]

/-- A pattern of one character matches where the character matches it, taking that character. -/
theorem Regex.matchAt_unit (hn : r.node.isUnit) (p : Nat) :
    r.matchAt cs p = if (cs[p]?).any (unitHolds · r.node) then
      some ⟨cs, (Array.replicate r.groups none).set! 0 (some (p, p + 1))⟩ else none := by
  rw [Regex.matchAt_eq, show r.fuelFor cs.size = (r.fuelFor cs.size - 1) + 1 by
    unfold Regex.fuelFor; omega, run_unit hn]
  split <;> rfl

/-- Replacing each match of a one-character pattern by the same text replaces each character the
pattern matches. -/
theorem Regex.replaced_unit (hn : r.node.isUnit) (hg : 0 < r.groups) (s : String) :
    ∀ n pos F, cs.size - pos = n → n < F →
      (r.replaced cs (fun _ => s) F pos false).1 =
        (cs.toList.drop pos).flatMap fun c => if unitHolds c r.node then s.toList else [c] := by
  have hstart : ∀ q m, r.matchAt cs q = some m → m.start = q := by
    intro q m hm
    rw [Regex.matchAt_unit hn] at hm
    split at hm
    · cases hm; exact Match.start_set (by simpa using hg) _ _
    · cases hm
  intro n
  induction n with
  | zero =>
    intro pos F hn0 _
    rw [Regex.replaced_of_none fun k hk hks => ?_, List.drop_of_length_le (by simp; omega)]
    · simp
    rw [Regex.matchAt_unit hn, if_neg (by rw [getElem?_neg cs k (by omega)]; simp)]
  | succ n ih =>
    intro pos F hn0 hF
    obtain ⟨F, rfl⟩ := Nat.exists_eq_add_of_lt hF
    have hp : pos < cs.size := by omega
    have hdrop : cs.toList.drop pos = cs[pos] :: cs.toList.drop (pos + 1) := by
      rw [List.drop_eq_getElem_cons (by simpa using hp)]
      simp
    by_cases hc : unitHolds cs[pos] r.node = true
    · have hm : r.matchAt cs pos = _ := Regex.matchAt_unit hn pos
      rw [if_pos (by simp [getElem?_pos cs pos hp, hc])] at hm
      have hsize : 0 < (Array.replicate r.groups (none : Option (Nat × Nat))).size := by simpa using hg
      have hms : (Match.mk cs _).start = pos := Match.start_set hsize pos (pos + 1)
      have hmt : (Match.mk cs _).stop = pos + 1 := Match.stop_set hsize pos (pos + 1)
      rw [Regex.replaced_take (le_of_lt hp) hm hms, hdrop, List.flatMap_cons, if_pos hc, hms, hmt,
        show (pos == pos + 1) = false by simp]
      dsimp only
      rw [ih (pos + 1) (n + 1 + F) (by omega) (by omega)]
    · have hm : r.matchAt cs pos = _ := Regex.matchAt_unit hn pos
      rw [if_neg (by simp [getElem?_pos cs pos hp, hc])] at hm
      rw [Regex.replaced_skip hstart hp hm, hdrop, List.flatMap_cons, if_neg hc]
      dsimp only
      rw [ih (pos + 1) (n + 1 + F + 1) (by omega) (by omega)]
      rfl

/-- Replacing each match of a one-character pattern by the same text replaces each character of
the text the pattern matches. -/
theorem Regex.replaceBy_unit (hn : r.node.isUnit) (hg : 0 < r.groups) (text s : String) :
    (r.replaceBy text fun _ => s).1 =
      String.ofList (text.toList.flatMap fun c => if unitHolds c r.node then s.toList else [c]) := by
  rw [Regex.replaceBy_eq]
  simp only
  rw [Regex.replaced_unit hn hg s _ 0 _ rfl (by simp; omega)]
  simp

end Unit

end Scripture.Pattern
