import Mathlib
import Scripture.Failure

/-!
# What a computation that may fail ensures

Most functions of the library may fail, and what is proved of them is what holds of a value
they return. `Ensures x P` says that every value `x` returns satisfies `P`; it is carried
through `pure`, `bind` and the loops the library writes (`forIn`, `foldlM`, `mapM`) by one
lemma each, so that a proof about a function follows the function's own steps and never
cases on the outcome of each of them.
-/

namespace Scripture

/-- Every value that a computation that may fail returns satisfies `P`. -/
def Ensures {ε α : Type} (x : Except ε α) (P : α → Prop) : Prop := ∀ a, x = .ok a → P a

section

variable {ε α β γ : Type}

theorem ensures_pure {a : α} {P : α → Prop} (h : P a) : Ensures (pure a : Except ε α) P := by
  rintro b ⟨⟩
  exact h

theorem ensures_error (e : ε) (P : α → Prop) : Ensures (.error e : Except ε α) P := by
  rintro b ⟨⟩

theorem Ensures.mono {x : Except ε α} {P Q : α → Prop} (h : Ensures x P)
    (hPQ : ∀ a, P a → Q a) : Ensures x Q :=
  fun a ha => hPQ a (h a ha)

theorem ensures_bind {x : Except ε α} {f : α → Except ε β} {P : α → Prop} {Q : β → Prop}
    (hx : Ensures x P) (hf : ∀ a, P a → Ensures (f a) Q) : Ensures (x >>= f) Q := by
  intro b hb
  cases hxa : x with
  | error e => rw [hxa] at hb; cases hb
  | ok a =>
    rw [hxa] at hb
    exact hf a (hx a hxa) b hb

/-- A value that satisfies `P` whatever it is. -/
theorem ensures_of_forall {x : Except ε α} {P : α → Prop} (h : ∀ a, P a) : Ensures x P :=
  fun a _ => h a

/-- A loop keeps an invariant that holds at its start and that each step keeps. -/
theorem ensures_forIn (I : β → Prop) (xs : List α) (init : β)
    (f : α → β → Except ε (ForInStep β)) (h0 : I init)
    (hf : ∀ a ∈ xs, ∀ b, I b → Ensures (f a b) fun r => I r.value) :
    Ensures (forIn xs init f) I := by
  induction xs generalizing init with
  | nil => exact ensures_pure h0
  | cons a as ih =>
    rw [List.forIn_cons]
    refine ensures_bind (hf a List.mem_cons_self init h0) ?_
    intro r hr
    cases r with
    | done b => exact ensures_pure hr
    | yield b => exact ih b hr fun a' ha' => hf a' (List.mem_cons_of_mem _ ha')

/-- A loop whose every step goes on and succeeds, keeping an invariant of the items taken so far,
succeeds, and ends with the invariant of all its items. -/
theorem forIn_yield_run (I : List α → β → Prop) (xs : List α) (init : β)
    (f : α → β → Except ε (ForInStep β)) (h0 : I [] init)
    (hf : ∀ pre a b, a ∈ xs → I pre b → ∃ b', f a b = .ok (.yield b') ∧ I (pre ++ [a]) b') :
    ∃ r, forIn xs init f = .ok r ∧ I xs r := by
  -- the loop over a part of the items, after a prefix of them
  have run : ∀ ys : List α, (∀ a ∈ ys, a ∈ xs) → ∀ pre b, I pre b →
      ∃ r, forIn ys b f = .ok r ∧ I (pre ++ ys) r := by
    intro ys
    induction ys with
    | nil => exact fun _ pre b h => ⟨b, rfl, by rwa [List.append_nil]⟩
    | cons a ys ih =>
      intro hys pre b h
      obtain ⟨b', hb', h'⟩ := hf pre a b (hys a List.mem_cons_self) h
      obtain ⟨r, hr, hI⟩ := ih (fun a' ha' => hys a' (List.mem_cons_of_mem _ ha')) _ b' h'
      refine ⟨r, ?_, by rwa [List.append_assoc, List.singleton_append] at hI⟩
      rw [List.forIn_cons, hb']
      exact hr
  simpa using run xs (fun _ h => h) [] init h0

/-- A loop, in any lawful monad, each of whose steps goes on at once with a state that a function
of the state and the item gives, is a fold of that function. -/
theorem forIn_yield_eq_foldl {m : Type → Type} [Monad m] [LawfulMonad m] (L : List α)
    (f : α → β → m (ForInStep β)) (step : β → α → β)
    (h : ∀ a ∈ L, ∀ b, f a b = pure (.yield (step b a))) (init : β) :
    forIn L init f = pure (L.foldl step init) := by
  induction L generalizing init with
  | nil => rfl
  | cons a L ih =>
    rw [List.forIn_cons, h a List.mem_cons_self, pure_bind, List.foldl_cons]
    exact ih (fun a' ha' => h a' (List.mem_cons_of_mem _ ha')) _

/-- A fold keeps an invariant that holds at its start and that each step keeps. -/
theorem ensures_foldlM (I : β → Prop) (xs : List α) (init : β) (f : β → α → Except ε β)
    (h0 : I init) (hf : ∀ a ∈ xs, ∀ b, I b → Ensures (f b a) I) :
    Ensures (xs.foldlM f init) I := by
  induction xs generalizing init with
  | nil => exact ensures_pure h0
  | cons a as ih =>
    rw [List.foldlM_cons]
    exact ensures_bind (hf a List.mem_cons_self init h0) fun b hb =>
      ih b hb fun a' ha' => hf a' (List.mem_cons_of_mem _ ha')

/-- A fold whose step takes a value from each item, which may fail, and changes the state by a
step that cannot fail, is that step folded over the values the items gave, in order. -/
theorem ensures_foldlM_values (g : α → Except ε γ) (step : β → γ → β) (xs : List α) (init : β)
    (f : β → α → Except ε β) (hf : ∀ b a, f b a = step b <$> g a) :
    Ensures (xs.foldlM f init) fun r =>
      ∃ ys, List.Forall₂ (fun a y => g a = .ok y) xs ys ∧ r = ys.foldl step init := by
  induction xs generalizing init with
  | nil => exact ensures_pure ⟨[], .nil, rfl⟩
  | cons a as ih =>
    rw [List.foldlM_cons, hf]
    cases hg : g a with
    | error e => exact ensures_error e _
    | ok y => exact (ih (step init y)).mono fun r ⟨ys, hys, hr⟩ => ⟨y :: ys, .cons hg hys, hr⟩

/-- The same fold returns the step folded over the values when every item gives one. -/
theorem foldlM_values_ok (g : α → Except ε γ) (step : β → γ → β) (v : α → γ) (xs : List α)
    (init : β) (f : β → α → Except ε β) (hf : ∀ b a, f b a = step b <$> g a)
    (hg : ∀ a ∈ xs, g a = .ok (v a)) : xs.foldlM f init = .ok ((xs.map v).foldl step init) := by
  induction xs generalizing init with
  | nil => rfl
  | cons a as ih =>
    rw [List.foldlM_cons, hf, hg a List.mem_cons_self]
    exact ih (step init (v a)) fun a' ha' => hg a' (List.mem_cons_of_mem _ ha')

/-- Mapping gives values each of which is related to an item it was made from. -/
theorem ensures_mapM (P : α → β → Prop) (xs : List α) (f : α → Except ε β)
    (hf : ∀ a ∈ xs, Ensures (f a) (P a)) :
    Ensures (xs.mapM f) fun ys => ∀ y ∈ ys, ∃ a ∈ xs, P a y := by
  induction xs with
  | nil => exact ensures_pure fun y hy => absurd hy List.not_mem_nil
  | cons a as ih =>
    rw [List.mapM_cons]
    refine ensures_bind (hf a List.mem_cons_self) fun b hb => ?_
    refine ensures_bind (ih fun a' ha' => hf a' (List.mem_cons_of_mem _ ha')) fun bs hbs => ?_
    refine ensures_pure fun y hy => ?_
    rcases List.mem_cons.mp hy with rfl | hy
    · exact ⟨a, List.mem_cons_self, hb⟩
    · obtain ⟨a', ha', hP⟩ := hbs y hy
      exact ⟨a', List.mem_cons_of_mem _ ha', hP⟩

end

end Scripture
