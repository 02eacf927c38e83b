import Mathlib
import Scripture.Proofs.OddWords
import Scripture.Proofs.SearchRange

/-!
# What the marks of a mixed search do

A mixed search reads the first character of each of its terms: `!` excludes the verses the
term finds, `+` requires them, `|` adds them, `^` toggles them, and a term with none of these
marks narrows the verses found so far when every term must match, and widens them otherwise.
Whether a `+` or an unmarked term narrows is read off whether its set is still empty, so a term
that finds nothing lets the next one start the set again, and a required set that ends empty
requires nothing.

A mixed search that succeeds is one step folded over its terms and the verses their own
searches found (`Searcher.mixedSearch_gathers`), and each set at its end is described by the
way the step changes it:

* `MixedSets.step_excluded`, …, `MixedSets.step_found` — what one term does to each set.
* `MixedSets.mem_union_foldl`, `MixedSets.mem_symmDiff_foldl`, `MixedSets.mem_reseeded_foldl` —
  a set that the terms it picks widen, toggle, or fill and then narrow.
* `MixedSets.mem_result` — the required verses when there are any, and otherwise those found,
  added or toggled; less the excluded ones.
* `Searcher.mixedSearch_marks` — what the marks give, stated over what each term's own search
  finds.
* `Searcher.termSearch_letters` — a term of letters is searched for its one word.
-/

namespace Scripture.Search

namespace MixedSets

/-- A term of a mixed search without its mark. -/
def unmarked (t : String) : String := if "!+^|".contains t.front then (t.drop 1).toString else t

theorem contains_marks {c : Char} :
    "!+^|".contains c = true ↔ c = '!' ∨ c = '+' ∨ c = '^' ∨ c = '|' := by
  simp [String.contains]

theorem classify_snd (acc : MixedSets) (allTerms : Bool) (t : String) :
    (acc.classify allTerms t).2 = unmarked t := by
  unfold classify unmarked
  dsimp only
  split <;> rfl

/-- How a term is combined, mark by mark. -/
theorem classify_fst (acc : MixedSets) (allTerms : Bool) (t : String) :
    (acc.classify allTerms t).1 =
      if t.front = '!' then .exclude
      else if t.front = '+' then (if acc.required.isEmpty then .requireFirst else .require)
      else if t.front = '|' then .add
      else if t.front = '^' then .toggle
      else if allTerms && !acc.found.isEmpty then .narrow else .widen := by
  unfold classify
  dsimp only
  split
  · rename_i hmark
    rcases contains_marks.mp hmark with h | h | h | h <;> rw [h] <;> rfl
  · rename_i hmark
    obtain ⟨h1, h2, h3, h4⟩ :
        t.front ≠ '!' ∧ t.front ≠ '+' ∧ t.front ≠ '^' ∧ t.front ≠ '|' := by
      simpa only [contains_marks, not_or] using hmark
    rw [if_neg h1, if_neg h2, if_neg h4, if_neg h3]

/-- The sets with a term and the verses its search found combined in. -/
def step (allTerms : Bool) (acc : MixedSets) (p : String × ValueSet) : MixedSets :=
  acc.combine (acc.classify allTerms p.1).1 p.2

/-! ### One step, set by set -/

section Step

variable (allTerms : Bool) (acc : MixedSets) (p : String × ValueSet)

theorem step_excluded : (step allTerms acc p).excluded =
    if p.1.front = '!' then acc.excluded.union p.2 else acc.excluded := by
  rw [step, classify_fst]
  split_ifs <;> rfl

theorem step_required : (step allTerms acc p).required =
    if p.1.front = '+' then
      (if acc.required.isEmpty then acc.required.union p.2 else acc.required.inter p.2)
    else acc.required := by
  rw [step, classify_fst]
  split_ifs <;> first | rfl | simp_all

theorem step_added : (step allTerms acc p).added =
    if p.1.front = '|' then acc.added.union p.2 else acc.added := by
  rw [step, classify_fst]
  split_ifs <;> first | rfl | simp_all

theorem step_toggled : (step allTerms acc p).toggled =
    if p.1.front = '^' then acc.toggled.symmDiff p.2 else acc.toggled := by
  rw [step, classify_fst]
  split_ifs <;> first | rfl | simp_all

/-- An unmarked term narrows the found verses when every term must match and some are found,
and widens them otherwise. -/
theorem step_found : (step allTerms acc p).found =
    if "!+^|".contains p.1.front = false then
      (if allTerms && !acc.found.isEmpty then acc.found.inter p.2 else acc.found.union p.2)
    else acc.found := by
  rw [step, classify_fst]
  by_cases hmark : "!+^|".contains p.1.front = true
  · -- a marked term leaves the found verses alone, whichever mark it has
    rw [if_neg (show ¬("!+^|".contains p.1.front = false) by rw [hmark]; decide)]
    rcases contains_marks.mp hmark with h | h | h | h <;> rw [h] <;>
      cases acc.required.isEmpty <;> rfl
  · obtain ⟨h1, h2, h3, h4⟩ : p.1.front ≠ '!' ∧ p.1.front ≠ '+' ∧ p.1.front ≠ '^' ∧
        p.1.front ≠ '|' := by
      simpa only [contains_marks, not_or] using hmark
    rw [if_neg h1, if_neg h2, if_neg h4, if_neg h3, if_pos (Bool.eq_false_iff.mpr hmark)]
    split_ifs <;> rfl

end Step

/-! ### A set over a run of terms

Each set is changed only by the terms of its mark, each in one way; what it holds at the end
of the run follows from that way alone. -/

section Fold

variable (f : MixedSets → String × ValueSet → MixedSets) (sel : MixedSets → ValueSet)
  (pick : String → Prop) [DecidablePred pick]

omit [DecidablePred pick] in
/-- A set that only the terms it picks change is kept over terms none of which it picks. -/
theorem foldl_unpicked (hskip : ∀ acc p, ¬ pick p.1 → sel (f acc p) = sel acc)
    (L : List (String × ValueSet)) (hL : ∀ p ∈ L, ¬ pick p.1) (acc : MixedSets) :
    sel (L.foldl f acc) = sel acc := by
  induction L generalizing acc with
  | nil => rfl
  | cons p L ih =>
    rw [List.foldl_cons, ih (fun q hq => hL q (List.mem_cons_of_mem _ hq)),
      hskip acc p (hL p List.mem_cons_self)]

/-- A set that the terms it picks widen holds the verses any of them found. -/
theorem mem_union_foldl
    (hstep : ∀ acc p, sel (f acc p) = if pick p.1 then (sel acc).union p.2 else sel acc)
    (L : List (String × ValueSet)) (acc : MixedSets) (r : String) :
    .str r ∈ (sel (L.foldl f acc)).items ↔
      .str r ∈ (sel acc).items ∨ ∃ p ∈ L, pick p.1 ∧ .str r ∈ p.2.items := by
  induction L generalizing acc with
  | nil => simp
  | cons p L ih =>
    rw [List.foldl_cons, ih, hstep]
    by_cases hp : pick p.1 <;> simp [hp, or_assoc]

/-- A set that the terms it picks toggle holds a verse when it did and an even number of them
found it, or it did not and an odd number did. -/
theorem mem_symmDiff_foldl
    (hstep : ∀ acc p, sel (f acc p) = if pick p.1 then (sel acc).symmDiff p.2 else sel acc)
    (L : List (String × ValueSet)) (acc : MixedSets) (r : String) :
    .str r ∈ (sel (L.foldl f acc)).items ↔
      (L.countP (fun p => decide (pick p.1) && p.2.contains (.str r)) +
        ((sel acc).contains (.str r)).toNat) % 2 = 1 := by
  induction L generalizing acc with
  | nil =>
    rw [List.foldl_nil, List.countP_nil, Nat.zero_add, ← ValueSet.contains_str]
    cases (sel acc).contains (.str r) <;> decide
  | cons p L ih =>
    rw [List.foldl_cons, ih, hstep, List.countP_cons]
    by_cases hp : pick p.1 <;> simp only [hp, if_true, if_false, decide_true, decide_false,
      Bool.true_and, Bool.false_and, ValueSet.contains_symmDiff_str] <;>
      cases (sel acc).contains (.str r) <;> cases p.2.contains (.str r) <;>
      simp [Nat.add_assoc, Nat.add_mod_right]

/-- A set that the terms it picks narrow, once it holds a verse all of them find, holds what
it held and all of them found. -/
theorem mem_narrowed_foldl
    (hstep : ∀ acc p, sel (f acc p) = if pick p.1 then
      (if (sel acc).isEmpty then (sel acc).union p.2 else (sel acc).inter p.2) else sel acc)
    {r₀ : String} (L : List (String × ValueSet))
    (hcommon : ∀ p ∈ L, pick p.1 → .str r₀ ∈ p.2.items)
    (acc : MixedSets) (h₀ : .str r₀ ∈ (sel acc).items) (r : String) :
    .str r ∈ (sel (L.foldl f acc)).items ↔
      .str r ∈ (sel acc).items ∧ ∀ p ∈ L, pick p.1 → .str r ∈ p.2.items := by
  induction L generalizing acc with
  | nil => simp
  | cons p L ih =>
    have hcommon' : ∀ q ∈ L, pick q.1 → .str r₀ ∈ q.2.items :=
      fun q hq => hcommon q (List.mem_cons_of_mem _ hq)
    -- the set holds `r₀`, so the step narrows it and it still holds `r₀`
    have hnarrow : sel (f acc p) = if pick p.1 then (sel acc).inter p.2 else sel acc := by
      rw [hstep, ValueSet.isEmpty_eq_false h₀]
      rfl
    have h₁ : .str r₀ ∈ (sel (f acc p)).items := by
      rw [hnarrow]
      split_ifs with hp
      · exact ValueSet.mem_inter_str.mpr ⟨h₀, hcommon p List.mem_cons_self hp⟩
      · exact h₀
    rw [List.foldl_cons, ih hcommon' (f acc p) h₁, hnarrow]
    by_cases hp : pick p.1 <;> simp [hp, and_assoc]

/-- **A set filled and then narrowed.** A set that starts empty, that the terms it picks fill
while it is empty and narrow once it is not, ends holding exactly the verses all of them
found, when it picks any and some verse is found by all of them. -/
theorem mem_reseeded_foldl
    (hstep : ∀ acc p, sel (f acc p) = if pick p.1 then
      (if (sel acc).isEmpty then (sel acc).union p.2 else (sel acc).inter p.2) else sel acc)
    {r₀ : String} (L : List (String × ValueSet))
    (hcommon : ∀ p ∈ L, pick p.1 → .str r₀ ∈ p.2.items)
    (acc : MixedSets) (hacc : sel acc = {}) (r : String) :
    .str r ∈ (sel (L.foldl f acc)).items ↔
      (∃ p ∈ L, pick p.1) ∧ ∀ p ∈ L, pick p.1 → .str r ∈ p.2.items := by
  induction L generalizing acc with
  | nil => simp [hacc]
  | cons p L ih =>
    have hcommon' : ∀ q ∈ L, pick q.1 → .str r₀ ∈ q.2.items :=
      fun q hq => hcommon q (List.mem_cons_of_mem _ hq)
    rw [List.foldl_cons]
    by_cases hp : pick p.1
    · -- the first term it picks fills it, and from then on it is narrowed
      have hfill : sel (f acc p) = ({} : ValueSet).union p.2 := by
        rw [hstep, if_pos hp, hacc]
        rfl
      have h₀ : .str r₀ ∈ (sel (f acc p)).items := by
        rw [hfill]
        exact ValueSet.mem_union_str.mpr (Or.inr (hcommon p List.mem_cons_self hp))
      rw [mem_narrowed_foldl f sel pick hstep L hcommon' (f acc p) h₀, hfill]
      simp [hp]
    · have hkeep : sel (f acc p) = {} := by rw [hstep, if_neg hp, hacc]
      rw [ih hcommon' (f acc p) hkeep]
      simp [hp]

end Fold

/-- **The verses the sets give**: the required ones when any are required, and otherwise those
found, added or toggled; in both cases less the excluded ones. -/
theorem mem_result (acc : MixedSets) (r : String) :
    .str r ∈ acc.result.items ↔ .str r ∉ acc.excluded.items ∧
      if acc.required.isEmpty then
        .str r ∈ acc.found.items ∨ .str r ∈ acc.added.items ∨ .str r ∈ acc.toggled.items
      else .str r ∈ acc.required.items := by
  unfold result
  dsimp only
  cases hreq : acc.required.isEmpty with
  | true => simp [or_assoc, and_comm]
  | false =>
    cases hany : ((acc.found.union acc.added).union acc.toggled).isEmpty with
    | false =>
      simp only [Bool.not_false, Bool.true_and, ite_true, ValueSet.mem_diff_str,
        ValueSet.mem_union_str, ValueSet.mem_inter_str, Bool.false_eq_true, ite_false]
      tauto
    | true =>
      -- nothing was found, added or toggled, so the required verses join nothing
      have hnone : Json.str r ∉ ((acc.found.union acc.added).union acc.toggled).items :=
        fun h => absurd hany (by rw [ValueSet.isEmpty_eq_false h]; decide)
      simp only [ValueSet.mem_union_str] at hnone
      simp [hnone, and_comm]

/-! ### The sets gathered from a list of terms -/

/-- The sets a mixed search gathers from its terms, given the verses each term's search
finds. -/
def gather (allTerms : Bool) (V : String → ValueSet) (T : List String) : MixedSets :=
  (T.map fun t => (t, V t)).foldl (step allTerms) {}

section Gather

variable (allTerms : Bool) (V : String → ValueSet) (T : List String)

/-- A set that no term of the list changes stays empty. -/
theorem gather_unpicked (sel : MixedSets → ValueSet) (pick : String → Prop)
    (hskip : ∀ acc p, ¬ pick p.1 → sel (step allTerms acc p) = sel acc)
    (hT : ∀ t ∈ T, ¬ pick t) (hempty : sel {} = {}) : sel (gather allTerms V T) = {} := by
  rw [gather, foldl_unpicked _ sel pick hskip _ (by simpa using hT) {}, hempty]

theorem mem_gather_excluded (r : String) :
    .str r ∈ (gather allTerms V T).excluded.items ↔
      ∃ t ∈ T, t.front = '!' ∧ .str r ∈ (V t).items := by
  rw [gather, mem_union_foldl _ excluded (·.front = '!') (step_excluded allTerms) _ {} r]
  simp

theorem mem_gather_required
    (hcommon : ∃ r₀, ∀ t ∈ T, t.front = '+' → .str r₀ ∈ (V t).items) (r : String) :
    .str r ∈ (gather allTerms V T).required.items ↔
      (∃ t ∈ T, t.front = '+') ∧ ∀ t ∈ T, t.front = '+' → .str r ∈ (V t).items := by
  obtain ⟨r₀, h₀⟩ := hcommon
  have h₀' :
      ∀ p ∈ T.map (fun t => (t, V t)), p.1.front = '+' → .str r₀ ∈ p.2.items := by
    simpa using h₀
  rw [gather,
    mem_reseeded_foldl _ required (·.front = '+') (step_required allTerms) _ h₀' {} rfl r]
  simp

/-- When every term must match, the found verses are those all unmarked terms find, once some
verse is found by all of them. -/
theorem mem_gather_found (hall : allTerms = true)
    (hcommon : ∃ r₀, ∀ t ∈ T, "!+^|".contains t.front = false → .str r₀ ∈ (V t).items)
    (r : String) :
    .str r ∈ (gather allTerms V T).found.items ↔
      (∃ t ∈ T, "!+^|".contains t.front = false) ∧
        ∀ t ∈ T, "!+^|".contains t.front = false → .str r ∈ (V t).items := by
  obtain ⟨r₀, h₀⟩ := hcommon
  have h₀' : ∀ p ∈ T.map (fun t => (t, V t)), "!+^|".contains p.1.front = false →
      .str r₀ ∈ p.2.items := by
    simpa using h₀
  have hstep : ∀ acc p, (step allTerms acc p).found =
      if "!+^|".contains p.1.front = false then
        (if acc.found.isEmpty then acc.found.union p.2 else acc.found.inter p.2)
      else acc.found := by
    intro acc p
    rw [step_found, hall, Bool.true_and]
    cases acc.found.isEmpty <;> rfl
  rw [gather, mem_reseeded_foldl _ found (fun t => "!+^|".contains t.front = false) hstep _ h₀'
    {} rfl r]
  simp

theorem mem_gather_toggled (r : String) :
    .str r ∈ (gather allTerms V T).toggled.items ↔
      T.countP (fun t => decide (t.front = '^') && (V t).contains (.str r)) % 2 = 1 := by
  rw [gather, mem_symmDiff_foldl _ toggled (·.front = '^') (step_toggled allTerms) _ {} r,
    List.countP_map]
  rfl

/-- No verse the sets give is found by a term marked `!`. -/
theorem gather_excludes (r : String) (hr : .str r ∈ (gather allTerms V T).result.items) :
    ∀ t ∈ T, t.front = '!' → .str r ∉ (V t).items := fun t ht hbang hin =>
  ((mem_result _ r).mp hr).1 ((mem_gather_excluded allTerms V T r).mpr ⟨t, ht, hbang, hin⟩)

/-- When some term is marked `+` and some verse is found by all of them, the sets give exactly
the verses all of them find and no `!` term finds. -/
theorem gather_requires (hany : ∃ t ∈ T, t.front = '+')
    (hcommon : ∃ r₀, ∀ t ∈ T, t.front = '+' → .str r₀ ∈ (V t).items) (r : String) :
    .str r ∈ (gather allTerms V T).result.items ↔
      (∀ t ∈ T, t.front = '+' → .str r ∈ (V t).items) ∧
        ∀ t ∈ T, t.front = '!' → .str r ∉ (V t).items := by
  have hreq : (gather allTerms V T).required.isEmpty = false := by
    obtain ⟨r₀, h₀⟩ := hcommon
    exact ValueSet.isEmpty_eq_false
      ((mem_gather_required allTerms V T ⟨r₀, h₀⟩ r₀).mpr ⟨hany, h₀⟩)
  rw [mem_result, hreq, mem_gather_required allTerms V T hcommon, mem_gather_excluded]
  simp only [hany, true_and, Bool.false_eq_true, if_false, not_exists, not_and]
  exact and_comm

/-- When every term must match and none is marked `+`, `|` or `^`, and some verse is found by
all unmarked terms, the sets give exactly the verses all of them find and no `!` term finds,
when there is any unmarked term. -/
theorem gather_narrows (hall : allTerms = true)
    (hT : ∀ t ∈ T, t.front ≠ '+' ∧ t.front ≠ '|' ∧ t.front ≠ '^')
    (hcommon : ∃ r₀, ∀ t ∈ T, t.front ≠ '!' → .str r₀ ∈ (V t).items) (r : String) :
    .str r ∈ (gather allTerms V T).result.items ↔ (∃ t ∈ T, t.front ≠ '!') ∧
      (∀ t ∈ T, t.front ≠ '!' → .str r ∈ (V t).items) ∧
        ∀ t ∈ T, t.front = '!' → .str r ∉ (V t).items := by
  -- with no other marks, the unmarked terms are those not marked `!`
  have hmark : ∀ t ∈ T, ("!+^|".contains t.front = false ↔ t.front ≠ '!') := by
    intro t ht
    obtain ⟨h2, h3, h4⟩ := hT t ht
    rw [Bool.eq_false_iff, Ne, contains_marks]
    constructor
    · exact fun h h1 => h (Or.inl h1)
    · rintro h1 (h | h | h | h) <;> contradiction
  have hcommon' :
      ∃ r₀, ∀ t ∈ T, "!+^|".contains t.front = false → .str r₀ ∈ (V t).items := by
    obtain ⟨r₀, h₀⟩ := hcommon
    exact ⟨r₀, fun t ht h => h₀ t ht ((hmark t ht).mp h)⟩
  have hreq : (gather allTerms V T).required = {} :=
    gather_unpicked allTerms V T required (·.front = '+')
      (fun acc p h => by rw [step_required, if_neg h]) (fun t ht => (hT t ht).1) rfl
  have hadd : (gather allTerms V T).added = {} :=
    gather_unpicked allTerms V T added (·.front = '|')
      (fun acc p h => by rw [step_added, if_neg h]) (fun t ht => (hT t ht).2.1) rfl
  have htog : (gather allTerms V T).toggled = {} :=
    gather_unpicked allTerms V T toggled (·.front = '^')
      (fun acc p h => by rw [step_toggled, if_neg h]) (fun t ht => (hT t ht).2.2) rfl
  rw [mem_result, hreq, hadd, htog, mem_gather_found allTerms V T hall hcommon',
    mem_gather_excluded]
  have hany : (∃ t ∈ T, "!+^|".contains t.front = false) ↔ ∃ t ∈ T, t.front ≠ '!' :=
    exists_congr fun t => and_congr_right fun ht => hmark t ht
  have hevery : (∀ t ∈ T, "!+^|".contains t.front = false → .str r ∈ (V t).items) ↔
      ∀ t ∈ T, t.front ≠ '!' → .str r ∈ (V t).items :=
    forall₂_congr fun t ht => imp_congr_left (hmark t ht)
  rw [hany, hevery]
  simp only [ValueSet.isEmpty_empty, if_true, List.not_mem_nil, or_false, not_exists, not_and]
  exact and_comm.trans and_assoc

/-- When every term is marked `^`, the sets give the verses an odd number of them find. -/
theorem gather_toggles (hT : ∀ t ∈ T, t.front = '^') (r : String) :
    .str r ∈ (gather allTerms V T).result.items ↔
      T.countP (fun t => (V t).contains (.str r)) % 2 = 1 := by
  have hfound : (gather allTerms V T).found = {} :=
    gather_unpicked allTerms V T found (fun t => "!+^|".contains t.front = false)
      (fun acc p h => by rw [step_found, if_neg h])
      (fun t ht => by rw [hT t ht, Bool.eq_false_iff, not_not, contains_marks]; simp) rfl
  have hexcl : (gather allTerms V T).excluded = {} :=
    gather_unpicked allTerms V T excluded (·.front = '!')
      (fun acc p h => by rw [step_excluded, if_neg h]) (fun t ht => by rw [hT t ht]; decide) rfl
  have hreq : (gather allTerms V T).required = {} :=
    gather_unpicked allTerms V T required (·.front = '+')
      (fun acc p h => by rw [step_required, if_neg h]) (fun t ht => by rw [hT t ht]; decide) rfl
  have hadd : (gather allTerms V T).added = {} :=
    gather_unpicked allTerms V T added (·.front = '|')
      (fun acc p h => by rw [step_added, if_neg h]) (fun t ht => by rw [hT t ht]; decide) rfl
  have hcount : T.countP (fun t => decide (t.front = '^') && (V t).contains (.str r)) =
      T.countP (fun t => (V t).contains (.str r)) :=
    List.countP_congr fun t ht => by simp only [hT t ht, decide_true, Bool.true_and]
  rw [mem_result, hfound, hexcl, hreq, hadd, mem_gather_toggled, hcount]
  simp

end Gather

end MixedSets

/-! ### A mixed search over its terms -/

/-- The verses the search of a term of a mixed search finds on its own, its mark taken off;
none when it fails. -/
def Searcher.termVerses (s : Searcher) (st : Settings) (range : Json) (t : String) : ValueSet :=
  match s.termSearch (MixedSets.unmarked t) st range with
  | .ok got => got
  | .error _ => {}

/-- The term and the verses its own search finds, for an item of a mixed search. -/
def Searcher.termFound (s : Searcher) (st : Settings) (range : Json) (item : Json) :
    Except Failure (String × ValueSet) := do
  let t ← mixedTerm item
  pure (t, ← s.termSearch (MixedSets.unmarked t) st range)

theorem mixedTerm_str {t : String} (ht : t ≠ "") : mixedTerm (.str t) = .ok t := by
  unfold mixedTerm
  split <;> simp_all
  rfl

/-- The term of a text is the text, and its verses are those its own search found. -/
theorem Searcher.termFound_str (s : Searcher) (st : Settings) (range : Json) {t : String}
    {p : String × ValueSet} (h : s.termFound st range (.str t) = .ok p) :
    s.termSearch (MixedSets.unmarked t) st range = .ok (s.termVerses st range t) ∧
      (t, s.termVerses st range t) = p := by
  unfold Searcher.termFound at h
  by_cases ht : t = ""
  · subst ht
    cases h
  · rw [mixedTerm_str ht, Except.ok_bind] at h
    unfold Searcher.termVerses
    cases hs : s.termSearch (MixedSets.unmarked t) st range with
    | error e => rw [hs] at h; cases h
    | ok got => rw [hs] at h; cases h; exact ⟨rfl, rfl⟩

/-- A mixed search folds one step over each of its items and what the item's own search
found. -/
theorem Searcher.mixedSearch_eq (s : Searcher) (terms : Json) (st : Settings) (range : Json) :
    s.mixedSearch terms st range = (do
      let items ← terms.members
      let sets ← items.foldlM
        (fun acc item => MixedSets.step s.allTerms acc <$> s.termFound st range item) {}
      pure sets.result) := by
  unfold Searcher.mixedSearch
  congr 1
  funext items
  congr 2
  funext acc item
  unfold Searcher.termFound MixedSets.step
  cases mixedTerm item with
  | error e => rfl
  | ok t =>
    dsimp only [Except.ok_bind, bind, Except.bind, pure, Except.pure]
    rw [MixedSets.classify_snd]
    cases s.termSearch (MixedSets.unmarked t) st range <;> rfl

/-- **A mixed search gathers the sets of its terms.** A mixed search of a list of texts that
succeeds has searched each of them, and gives the verses of the sets gathered from what their
searches found. -/
theorem Searcher.mixedSearch_gathers (s : Searcher) (T : List String) (st : Settings)
    (range : Json) :
    Ensures (s.mixedSearch (.arr (T.map .str)) st range) fun R =>
      (∀ t ∈ T,
        s.termSearch (MixedSets.unmarked t) st range = .ok (s.termVerses st range t)) ∧
        R = (MixedSets.gather s.allTerms (s.termVerses st range) T).result := by
  rw [Searcher.mixedSearch_eq]
  refine ensures_bind (P := fun items => items = T.map .str) (fun _ h => by cases h; rfl) ?_
  rintro items rfl
  refine ensures_bind (ensures_foldlM_values (s.termFound st range) (MixedSets.step s.allTerms)
    _ {} _ fun _ _ => rfl) fun sets ⟨ys, hys, hsets⟩ => ensures_pure ?_
  -- the values are the terms, in order, each with the verses its search found
  obtain ⟨hsearch, hpairs⟩ := (List.forall₂_and_left _ _).mp
      ((List.forall₂_map_left_iff.mp hys).imp fun t p h => s.termFound_str st range h)
  have hys : T.map (fun t => (t, s.termVerses st range t)) = ys :=
    List.forall₂_eq_eq_eq ▸ List.forall₂_map_left_iff.mpr hpairs
  exact ⟨hsearch, by rw [hsets, ← hys]; rfl⟩

/-- A mixed search of terms none of which is empty, each of whose own searches succeeds,
succeeds, and gives the verses of the sets gathered from what they found. -/
theorem Searcher.mixedSearch_ok (s : Searcher) (T : List String) (st : Settings) (range : Json)
    (hT : ∀ t ∈ T, t ≠ "" ∧
      ∃ got, s.termSearch (MixedSets.unmarked t) st range = .ok got) :
    s.mixedSearch (.arr (T.map .str)) st range =
      .ok (MixedSets.gather s.allTerms (s.termVerses st range) T).result := by
  have hfound : ∀ item ∈ T.map Json.str, s.termFound st range item =
      .ok ((fun j => (j.str?.getD "", s.termVerses st range (j.str?.getD ""))) item) := by
    intro item hitem
    obtain ⟨t, ht, rfl⟩ := List.mem_map.mp hitem
    obtain ⟨hne, got, hgot⟩ := hT t ht
    have hverses : s.termVerses st range t = got := by rw [Searcher.termVerses, hgot]
    rw [Searcher.termFound, mixedTerm_str hne, Except.ok_bind, hgot]
    show _ = Except.ok (t, s.termVerses st range t)
    rw [hverses]
    rfl
  rw [Searcher.mixedSearch_eq,
    show (Json.arr (T.map Json.str)).members = .ok (T.map Json.str) from rfl, Except.ok_bind,
    foldlM_values_ok (s.termFound st range) (MixedSets.step s.allTerms) _ _ {} _
    (fun _ _ => rfl) hfound, List.map_map]
  rfl

/-- **What the marks of a mixed search give.** A mixed search of a list of terms that succeeds
has run each term's own search, with its mark taken off, and of the verses it gives:
* none is found by a term marked `!`;
* when some term is marked `+` and some verse is found by all of them, they are exactly the
  verses all of those terms find and no `!` term finds;
* when every term must match, no term is marked `+`, `|` or `^`, and some verse is found by all
  the unmarked terms, they are exactly the verses all of those terms find and no `!` term
  finds, when there is an unmarked term;
* when every term is marked `^`, they are the verses an odd number of the terms find.

A `+` or unmarked term that finds nothing lets the next one start its set again, so the
terms must share a verse; and `^` toggles, so a verse that three terms find is given. -/
theorem Searcher.mixedSearch_marks (s : Searcher) (T : List String) (st : Settings)
    (range : Json) :
    Ensures (s.mixedSearch (.arr (T.map .str)) st range) fun R =>
      (∀ t ∈ T,
        s.termSearch (MixedSets.unmarked t) st range = .ok (s.termVerses st range t)) ∧
      (∀ r, .str r ∈ R.items → ∀ t ∈ T, t.front = '!' →
        .str r ∉ (s.termVerses st range t).items) ∧
      ((∃ t ∈ T, t.front = '+') →
        (∃ r₀, ∀ t ∈ T, t.front = '+' → .str r₀ ∈ (s.termVerses st range t).items) →
        ∀ r, .str r ∈ R.items ↔
          (∀ t ∈ T, t.front = '+' → .str r ∈ (s.termVerses st range t).items) ∧
          ∀ t ∈ T, t.front = '!' → .str r ∉ (s.termVerses st range t).items) ∧
      (s.allTerms = true →
        (∀ t ∈ T, t.front ≠ '+' ∧ t.front ≠ '|' ∧ t.front ≠ '^') →
        (∃ r₀, ∀ t ∈ T, t.front ≠ '!' →
          .str r₀ ∈ (s.termVerses st range t).items) →
        ∀ r, .str r ∈ R.items ↔ (∃ t ∈ T, t.front ≠ '!') ∧
          (∀ t ∈ T, t.front ≠ '!' → .str r ∈ (s.termVerses st range t).items) ∧
          ∀ t ∈ T, t.front = '!' → .str r ∉ (s.termVerses st range t).items) ∧
      ((∀ t ∈ T, t.front = '^') →
        ∀ r, .str r ∈ R.items ↔
          T.countP (fun t => (s.termVerses st range t).contains (.str r)) % 2 = 1) := by
  refine (s.mixedSearch_gathers T st range).mono ?_
  rintro R ⟨hsearch, rfl⟩
  exact ⟨hsearch, MixedSets.gather_excludes _ _ T,
    fun hany hcommon => MixedSets.gather_requires _ _ T hany hcommon,
    fun hall hT hcommon => MixedSets.gather_narrows _ _ T hall hT hcommon,
    fun hT => MixedSets.gather_toggles _ _ T hT⟩

/-- A term of letters is searched for all its words. -/
theorem mixedMethod_letters {w : String} (hw : w.toList.all Char.isAlpha = true) :
    mixedMethod w = (.allWords, w) := by
  have hnot : ∀ c, c.isAlpha = false → c ∉ w.toList := fun c hc hmem =>
    ne_of_isAlpha (List.all_eq_true.mp hw c hmem) hc rfl
  unfold mixedMethod
  rw [if_neg, if_neg, if_neg]
  · simpa [String.contains_char_eq] using hnot '*' (by decide)
  · simpa [String.contains_char_eq] using hnot ' ' (by decide)
  · intro hamp
    obtain ⟨u, hu⟩ := String.startsWith_string_iff.mp hamp
    exact hnot '&' (by decide) (hu ▸ by simp)

/-- **A term of letters is searched as its word.** Its search asks for no Strong's number or tag,
since the term in upper case holds no digit, parenthesis or brace, and is the all-words search of
the term. -/
theorem Searcher.termSearch_letters (s : Searcher) {w : String}
    (hw : w.toList.all Char.isAlpha = true) (st : Settings) (range : Json) :
    s.termSearch w st range = s.find .allWords (.str w) { st with strongs := false, morph := false } range := by
  have hupper : ∀ c ∈ w.toList.flatMap Text.upperFull, c.isAlpha = true := by
    intro c hc
    obtain ⟨d, hd, hc⟩ := List.mem_flatMap.mp hc
    exact isAlpha_upperFull (List.all_eq_true.mp hw d hd) c hc
  have hstrongs : strongsNumber.matchStart? (Text.upper w) = none :=
    strongsNumber_matchAt_none (fun c hc => (unmarked_of_isAlpha (hupper c hc)).1) 0
  have hmorph : morphTag.matchStart? (Text.upper w) = none :=
    morphTag_matchAt_none (fun c hc => (unmarked_of_isAlpha (hupper c hc)).2) 0
  unfold Searcher.termSearch
  rw [mixedMethod_letters hw]
  simp only [hstrongs, hmorph, Option.isSome_none]

/-- A term toggled three times gives the verses it finds: on the four-word index, `light` toggled
three times gives Genesis 1:3, which all three toggles find. -/
theorem mixedSearch_thriceToggled :
    ∃ R, (⟨Index.fourWords, default, true⟩ : Searcher).mixedSearch
        (.arr (["^light", "^light", "^light"].map .str)) { caseSensitive := true } .null = .ok R ∧
      .str "Genesis 1:3" ∈ R.items := by
  set s : Searcher := ⟨Index.fourWords, default, true⟩
  have hunmarked : MixedSets.unmarked "^light" = "light" := by cbv
  have hlight : s.termSearch (MixedSets.unmarked "^light") { caseSensitive := true } .null =
      .ok (s.wordsFound { caseSensitive := true } "light") := by
    rw [hunmarked, s.termSearch_letters (by decide)]
    exact s.find_allWords_ok Index.fourWords_lists _ "light"
  have hok := s.mixedSearch_ok ["^light", "^light", "^light"] { caseSensitive := true } .null
    (by simp only [List.mem_cons, List.not_mem_nil, or_false, or_self, forall_eq]
        exact ⟨by decide, _, hlight⟩)
  refine ⟨_, hok, ?_⟩
  have hmarks := Searcher.mixedSearch_marks s ["^light", "^light", "^light"] { caseSensitive := true } .null _ hok
  -- `light` finds Genesis 1:3, and each of the three toggles finds it, an odd number
  have hfinds : (s.termVerses { caseSensitive := true } .null "^light").contains (.str "Genesis 1:3") = true := by
    rw [Searcher.termVerses, hlight, ValueSet.contains_str]
    refine (s.mem_wordsFound_letters Index.fourWords_lists (by decide) (by decide) _ ⟨rfl, rfl⟩ _).mpr
      (.inl ⟨[.str "Genesis 1:3"], ?_, List.mem_singleton_self _⟩)
    rw [Index.fourWords_entry (by decide)]
    rfl
  rw [hmarks.2.2.2.2 (by decide)]
  simp only [List.countP_cons, List.countP_nil, hfinds]
  decide

end Scripture.Search
