import Mathlib
import Scripture.Pattern.Replace

/-!
# Matching a pattern step by step

The matcher of `Scripture.Pattern.Match` is written with continuations and fuel. Each lemma here
says what one kind of node does to the place in the text and to the continuation, so that a match
of a fixed pattern over a text of a known shape can be followed node by node, without unfolding
the matcher again.

* `run_seq`, `runSeq_cons`, `run_group`, `run_unit` — one step of each kind of node.
* `unitRun_eq`, `unitRun_holds`, `unitRun_stops` — how far a one-character pattern repeats.
* `run_greedy_longest` — a greedy repetition of a one-character pattern first tries its longest
  run; `exists_of_run_greedy` — whatever it gives, the continuation gave after some run.
* `runSeq_chars` — a run of literal characters is a prefix test.
* `Regex.search_zero_isSome_iff` — a pattern is found in a text when it matches at some place.
-/

namespace Scripture.Pattern

section Steps

variable {text : Array Char} {f : Nat} {k : Cont} {st : MState}

@[simp] theorem run_seq (ns : List Node) : run text (f + 1) (.seq ns) k st = runSeq text f ns k st := by
  rw [run]

@[simp] theorem runSeq_nil : runSeq text (f + 1) [] k st = k st := by
  rw [runSeq]

@[simp] theorem runSeq_cons (n : Node) (ns : List Node) :
    runSeq text (f + 1) (n :: ns) k st = run text f n (fun s => runSeq text f ns k s) st := by
  rw [runSeq]

@[simp] theorem run_group (i : Nat) (b : Node) :
    run text (f + 1) (.group i b) k st = run text f b (fun s => k (s.record i (st.pos, s.pos))) st := by
  rw [run]

/-- A one-character pattern moves on by one character when the character there matches it. -/
theorem run_unit {n : Node} (hn : n.isUnit) :
    run text (f + 1) n k st =
      if (text[st.pos]?).any (unitHolds · n) then k { st with pos := st.pos + 1 } else none := by
  cases n <;> simp only [Node.isUnit, Bool.false_eq_true] at hn <;> rw [run] <;>
    cases text[st.pos]? <;> simp

/-! ### Runs of a one-character pattern -/

/-- The run of a one-character pattern from `pos` is `m` long when the `m` characters there match
it and the run stops after them, at the limit or at a character that does not match. -/
theorem unitRun_eq {b : Node} {m : Nat} : ∀ {pos limit : Nat}, m ≤ limit →
    (∀ i < m, (text[pos + i]?).any (unitHolds · b)) →
    (m < limit → (text[pos + m]?).any (unitHolds · b) = false) →
    unitRun text b pos limit = m := by
  induction m with
  | zero =>
    intro pos limit _ _ hstop
    cases limit with
    | zero => rfl
    | succ l =>
      have hnot := hstop (Nat.zero_lt_succ l)
      rw [unitRun]
      cases ht : text[pos]? with
      | none => rfl
      | some t =>
        rw [Nat.add_zero, ht] at hnot
        simp only [Option.any_some] at hnot
        simp [hnot]
  | succ m ih =>
    intro pos limit hm hrun hstop
    obtain ⟨l, rfl⟩ : ∃ l, limit = l + 1 := ⟨limit - 1, by omega⟩
    have hfirst := hrun 0 (Nat.zero_lt_succ m)
    rw [Nat.add_zero] at hfirst
    have hrest : unitRun text b (pos + 1) l = m :=
      ih (by omega) (fun i hi => by rw [Nat.add_right_comm]; exact hrun (i + 1) (by omega))
        (fun hlt => by rw [Nat.add_right_comm]; exact hstop (by omega))
    cases ht : text[pos]? with
    | none => rw [ht] at hfirst; simp at hfirst
    | some t =>
      rw [ht, Option.any_some] at hfirst
      rw [unitRun, ht]
      simp [hfirst, hrest]

/-- Every character of the run of a one-character pattern matches it. -/
theorem unitRun_holds {b : Node} : ∀ {pos limit i : Nat}, i < unitRun text b pos limit →
    (text[pos + i]?).any (unitHolds · b) := by
  intro pos limit
  induction limit generalizing pos with
  | zero => intro i hi; simp [unitRun] at hi
  | succ l ih =>
    intro i hi
    rw [unitRun] at hi
    cases ht : text[pos]? with
    | none => rw [ht] at hi; simp at hi
    | some t =>
      rw [ht] at hi
      dsimp only at hi
      by_cases hh : unitHolds t b
      · rw [if_pos hh] at hi
        cases i with
        | zero => simp [ht, hh]
        | succ i =>
          have := @ih (pos + 1) i (by omega)
          rwa [Nat.add_right_comm] at this
      · rw [if_neg hh] at hi
        exact absurd hi (Nat.not_lt_zero _)

/-- The run of a one-character pattern is no longer than its limit. -/
theorem unitRun_le {b : Node} : ∀ {pos limit : Nat}, unitRun text b pos limit ≤ limit := by
  intro pos limit
  induction limit generalizing pos with
  | zero => simp [unitRun]
  | succ l ih =>
    rw [unitRun]
    cases text[pos]? with
    | none => simp
    | some t =>
      dsimp only
      split
      · exact Nat.succ_le_succ ih
      · exact Nat.zero_le _

/-- A run that ends before its limit ends at a character that does not match. -/
theorem unitRun_stops {b : Node} : ∀ {pos limit : Nat}, unitRun text b pos limit < limit →
    (text[pos + unitRun text b pos limit]?).any (unitHolds · b) = false := by
  intro pos limit
  induction limit generalizing pos with
  | zero => intro h; simp [unitRun] at h
  | succ l ih =>
    intro h
    cases ht : text[pos]? with
    | none =>
      have h0 : unitRun text b pos (l + 1) = 0 := by rw [unitRun, ht]
      rw [h0, Nat.add_zero, ht]
      rfl
    | some t =>
      by_cases hh : unitHolds t b
      · have hs : unitRun text b pos (l + 1) = unitRun text b (pos + 1) l + 1 := by
          rw [unitRun, ht]
          simp [hh]
        rw [hs] at h ⊢
        have hnext := @ih (pos + 1) (by omega)
        rwa [show pos + (unitRun text b (pos + 1) l + 1) = pos + 1 + unitRun text b (pos + 1) l by
          omega]
      · have h0 : unitRun text b pos (l + 1) = 0 := by
          rw [unitRun, ht]
          simp [hh]
        rw [h0, Nat.add_zero, ht]
        simpa using hh

/-! ### Greedy repetitions of a one-character pattern -/

theorem tryCounts_cons_of_some {c : Nat} {cs : List Nat} {r : MState}
    (h : k { st with pos := st.pos + c } = some r) : tryCounts k st (c :: cs) = some r := by
  rw [tryCounts, h]

/-- Whatever trying counts gives, the continuation gave it after one of the counts. -/
theorem exists_of_tryCounts {r : MState} : ∀ {cs : List Nat}, tryCounts k st cs = some r →
    ∃ c ∈ cs, k { st with pos := st.pos + c } = some r
  | [], h => by simp [tryCounts] at h
  | c :: cs, h => by
    rw [tryCounts] at h
    cases hk : k { st with pos := st.pos + c } with
    | some r' =>
      rw [hk] at h
      exact ⟨c, List.mem_cons_self, hk.trans h⟩
    | none =>
      rw [hk] at h
      obtain ⟨c', hc', hk'⟩ := exists_of_tryCounts h
      exact ⟨c', List.mem_cons_of_mem c hc', hk'⟩

/-- A greedy repetition tries the longest count first. -/
theorem greedy_counts {lo n : Nat} (hlo : lo ≤ n) :
    (List.range' lo (n + 1 - lo)).reverse = n :: (List.range' lo (n - lo)).reverse := by
  rw [show n + 1 - lo = (n - lo) + 1 by omega, List.range'_concat, List.reverse_append,
    show lo + 1 * (n - lo) = n by omega]
  rfl

/-- **Greedy and unbounded.** When the continuation succeeds after the longest run, that is what
the repetition gives. -/
theorem run_greedy_longest {b : Node} (hb : b.isUnit) {lo n : Nat} {r : MState}
    (hn : unitRun text b st.pos (text.size - st.pos) = n) (hlo : lo ≤ n)
    (hk : k { st with pos := st.pos + n } = some r) :
    run text (f + 1) (.rep b lo none .greedy) k st = some r := by
  rw [run, if_pos hb]
  dsimp only
  rw [hn, if_neg (by omega), greedy_counts hlo]
  exact tryCounts_cons_of_some hk

/-- **Greedy and bounded.** The same for a repetition with an upper bound, whose run stops there. -/
theorem run_greedy_longest_upto {b : Node} (hb : b.isUnit) {lo h n : Nat} {r : MState}
    (hn : unitRun text b st.pos (min h (text.size - st.pos)) = n) (hlo : lo ≤ n)
    (hk : k { st with pos := st.pos + n } = some r) :
    run text (f + 1) (.rep b lo (some h) .greedy) k st = some r := by
  rw [run, if_pos hb]
  dsimp only
  rw [hn, if_neg (by omega), greedy_counts hlo]
  exact tryCounts_cons_of_some hk

/-- Whatever an unbounded greedy repetition gives, the continuation gave after a run of at least
the least count and at most the longest run. -/
theorem exists_of_run_greedy {b : Node} (hb : b.isUnit) {lo : Nat} {r : MState}
    (h : run text (f + 1) (.rep b lo none .greedy) k st = some r) :
    ∃ c, lo ≤ c ∧ c ≤ unitRun text b st.pos (text.size - st.pos) ∧
      k { st with pos := st.pos + c } = some r := by
  rw [run, if_pos hb] at h
  dsimp only at h
  split at h
  · exact absurd h (by simp)
  · obtain ⟨c, hc, hk⟩ := exists_of_tryCounts h
    rw [List.mem_reverse, List.mem_range'_1] at hc
    exact ⟨c, hc.1, by omega, hk⟩

/-! ### Literal characters -/

/-- A run of literal characters, compared as they are, tests that the text goes on with them. -/
theorem runSeq_chars (ns : List Node) : ∀ (cs : List Char) (st : MState),
    runSeq text (f + 1 + cs.length) ((cs.map fun c => Node.char c {}) ++ ns) k st =
      if cs.isPrefixOf (text.toList.drop st.pos) then
        runSeq text (f + 1) ns k { st with pos := st.pos + cs.length }
      else none
  | [], st => by simp
  | c :: cs, st => by
    rw [show f + 1 + (c :: cs).length = (f + cs.length + 1) + 1 by simp; omega, List.map_cons,
      List.cons_append, runSeq_cons, run_unit rfl]
    rw [show f + cs.length + 1 = f + 1 + cs.length by omega, runSeq_chars ns cs]
    cases ht : text[st.pos]? with
    | none =>
      have hdrop : text.toList.drop st.pos = [] := by
        rw [List.drop_eq_nil_iff]
        simpa using ht
      simp [hdrop]
    | some t =>
      have hdrop : text.toList.drop st.pos = t :: text.toList.drop (st.pos + 1) := by
        rw [List.drop_eq_getElem_cons (by simpa using (Array.getElem?_eq_some_iff.mp ht).1)]
        simp [(Array.getElem?_eq_some_iff.mp ht).2]
      simp only [Option.any_some, unitHolds, charHolds, Bool.not_false, if_true, hdrop,
        List.isPrefixOf_cons_cons, Bool.and_comm (c == t)]
      by_cases hct : c = t
      · subst hct
        simp [Nat.add_assoc, Nat.add_comm 1]
      · simp [hct]

end Steps

/-! ### Finding a pattern -/

section Search

variable (r : Regex) (text : Array Char)

/-- Matching at a place without refusing empty matches goes on to `some` at the end. -/
theorem Regex.matchAt_eq (start : Nat) :
    r.matchAt text start = (run text (r.fuelFor text.size) r.node some
      ⟨start, Array.replicate r.groups none⟩).map fun s =>
        ⟨text, s.caps.set! 0 (some (start, s.pos))⟩ := by
  unfold Regex.matchAt
  congr 2

/-- A pattern found from the start of a text is found at some place of it. -/
theorem Regex.search_zero_isSome_iff :
    (r.search text 0).isSome ↔ ∃ p ≤ text.size, (r.matchAt text p).isSome := by
  unfold Regex.search
  rw [List.findSome?_isSome_iff]
  simp only [Bool.false_and, List.mem_range'_1, Nat.zero_add]
  constructor
  · rintro ⟨p, ⟨-, hp⟩, hm⟩
    exact ⟨p, by omega, hm⟩
  · rintro ⟨p, hp, hm⟩
    exact ⟨p, ⟨Nat.zero_le p, by omega⟩, hm⟩

/-- A pattern that matches at the start of a text is found there. -/
theorem Regex.search_zero_of_matchAt {m : Match} (h : r.matchAt text 0 = some m) :
    r.search text 0 = some m := by
  unfold Regex.search
  rw [show text.size + 1 - 0 = text.size + 1 by omega, List.range'_succ, List.findSome?_cons]
  simp [h]

end Search

end Scripture.Pattern
