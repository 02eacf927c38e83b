import Mathlib
import Scripture.Proofs.MatchSemantics
import Scripture.Proofs.ReadingPatterns

/-!
# The places a pattern reads between

For a pattern run over a fixed text, `Denotes text n R` says which places the node `n` reads
between: every state it reaches from a state at place `i` stands at some `j` with `R i j`, and
for every `R i j` it reaches a state at `j` from any state at `i`. Matching states also carry the
spans of groups; they never change where a simple pattern can go, so the relation is on places
only. The fuel of the derivations it gives is twice the size of the node and the number of
characters read, which the fuel the matcher is given always covers.

There is a lemma for each kind of node: one character (`denotes_unit`), an anchor, a group, a
sequence, branches, a repetition of one character (`denotes_repUnit`) and a repetition of a
longer pattern required at most once (`denotes_repLoop`, `denotes_repLoop_one`).

* `Reaches.pos_le` — matching never moves back.
* `Regex.matchAt_of_reaches_unique` — where a simple pattern reaches just one state, the match is
  that state.
* `Regex.search_zero_isSome_iff_denotes` — a simple pattern is found in a text exactly when its
  relation holds between some places of it.
-/

namespace Scripture.Pattern

open Relation

/-! ### What every step keeps -/

section Order

variable {text : Array Char}

/-- A relation between matching states that every step of matching respects: a preorder that
holds when the place moves on and survives the recording of a group's span. -/
structure StepOrder (P : MState → MState → Prop) : Prop where
  refl : ∀ st, P st st
  trans : ∀ {a b c}, P a b → P b c → P a c
  advance : ∀ st c, P st { st with pos := st.pos + c }
  record : ∀ {st s} i span, P st s → P st (s.record i span)

/-- The statements of `StepOrder.orderedAt` at one fuel. -/
def OrderedAt (text : Array Char) (P : MState → MState → Prop) (f : Nat) : Prop :=
  (∀ n st s, Reaches text f n st s → P st s) ∧
  (∀ ns st s, ReachesSeq text f ns st s → P st s) ∧
  (∀ bs st s, ReachesAlt text f bs st s → P st s) ∧
  (∀ b lo hi count last st s, ReachesLoop text f b lo hi count last st s → P st s)

/-- A relation that every step respects holds between the ends of every derivation; the
induction is on the fuel, each rule using one step of it. -/
theorem StepOrder.orderedAt {P : MState → MState → Prop} (hP : StepOrder P) :
    ∀ f, OrderedAt text P f
  | 0 => ⟨fun _ _ _ h => (by cases h), fun _ _ _ h => (by cases h), fun _ _ _ h => (by cases h),
      fun _ _ _ _ _ _ _ h => (by cases h)⟩
  | f + 1 => by
    obtain ⟨hr, hs, ha, hl⟩ := hP.orderedAt f
    refine ⟨?_, ?_, ?_, ?_⟩
    · intro n st s h
      cases h with
      | empty => exact hP.refl _
      | unit _ _ => exact hP.advance _ 1
      | anchor _ => exact hP.refl _
      | group h => exact hP.record _ _ (hr _ _ _ h)
      | seq h => exact hs _ _ _ h
      | alt h => exact ha _ _ _ h
      | repUnit _ _ _ _ => exact hP.advance _ _
      | repLoop _ _ h => exact hl _ _ _ _ _ _ _ h
    · intro ns st s h
      cases h with
      | nil => exact hP.refl _
      | cons h₁ t => exact hP.trans (hr _ _ _ h₁) (hs _ _ _ t)
    · intro bs st s h
      cases h with
      | head h => exact hr _ _ _ h
      | tail h => exact ha _ _ _ h
    · intro b lo hi count last st s h
      cases h with
      | must _ h₁ t => exact hP.trans (hr _ _ _ h₁) (hl _ _ _ _ _ _ _ t)
      | stop _ => exact hP.refl _
      | more _ _ h₁ t => exact hP.trans (hr _ _ _ h₁) (hl _ _ _ _ _ _ _ t)

/-- The place only moves on. -/
theorem forward_order : StepOrder fun a b : MState => a.pos ≤ b.pos where
  refl _ := le_refl _
  trans h₁ h₂ := le_trans h₁ h₂
  advance _ _ := Nat.le_add_right _ _
  record _ _ h := h

/-- The spans of the groups stay as many as they were. -/
theorem capsSize_order : StepOrder fun a b : MState => b.caps.size = a.caps.size where
  refl _ := rfl
  trans h₁ h₂ := h₂.trans h₁
  advance _ _ := rfl
  record _ _ h := by simp [MState.record, h]

theorem Reaches.pos_le {f : Nat} {n : Node} {st s : MState} (h : Reaches text f n st s) :
    st.pos ≤ s.pos :=
  (forward_order.orderedAt f).1 n st s h

theorem ReachesLoop.pos_le {f : Nat} {b : Node} {lo : Nat} {hi : Option Nat} {count : Nat}
    {last : Option Nat} {st s : MState} (h : ReachesLoop text f b lo hi count last st s) :
    st.pos ≤ s.pos :=
  (forward_order.orderedAt f).2.2.2 b lo hi count last st s h

theorem Reaches.caps_size {f : Nat} {n : Node} {st s : MState} (h : Reaches text f n st s) :
    s.caps.size = st.caps.size :=
  (capsSize_order.orderedAt f).1 n st s h

end Order

/-! ### Reading a derivation back -/

section Inversion

variable {text : Array Char} {f : Nat} {st s : MState}

theorem Reaches.unit_inv {n : Node} (hn : n.isUnit) (h : Reaches text f n st s) :
    (text[st.pos]?).any (unitHolds · n) ∧ s = { st with pos := st.pos + 1 } := by
  cases h <;> simp_all [Node.isUnit]

theorem Reaches.anchor_inv {a : Anchor} {ml asc : Bool} (h : Reaches text f (.anchor a ml asc) st s) :
    anchorHolds text a ml asc st.pos ∧ s = st := by
  cases h with
  | unit hn _ => simp [Node.isUnit] at hn
  | anchor h => exact ⟨h, rfl⟩

theorem Reaches.group_inv {i : Nat} {b : Node} (h : Reaches text f (.group i b) st s) :
    ∃ f' s₁, f = f' + 1 ∧ Reaches text f' b st s₁ ∧ s = s₁.record i (st.pos, s₁.pos) := by
  cases h with
  | unit hn _ => simp [Node.isUnit] at hn
  | group h => exact ⟨_, _, rfl, h, rfl⟩

theorem Reaches.seq_inv {ns : List Node} (h : Reaches text f (.seq ns) st s) :
    ∃ f', f = f' + 1 ∧ ReachesSeq text f' ns st s := by
  cases h with
  | unit hn _ => simp [Node.isUnit] at hn
  | seq h => exact ⟨_, rfl, h⟩

theorem ReachesSeq.cons_inv {n : Node} {ns : List Node} (h : ReachesSeq text f (n :: ns) st s) :
    ∃ f' s₁, f = f' + 1 ∧ Reaches text f' n st s₁ ∧ ReachesSeq text f' ns s₁ s := by
  cases h with
  | cons h t => exact ⟨_, _, rfl, h, t⟩

theorem ReachesSeq.nil_inv (h : ReachesSeq text f [] st s) : s = st := by
  cases h with
  | nil => rfl

/-- A repetition of one character runs for some count between its bounds. -/
theorem Reaches.repUnit_inv {b : Node} (hb : b.isUnit) {lo : Nat} {hi : Option Nat} {g : Greed}
    (h : Reaches text f (.rep b lo hi g) st s) :
    ∃ c, lo ≤ c ∧ c ≤ unitRun text b st.pos (unitLimit text hi st.pos) ∧
      s = { st with pos := st.pos + c } := by
  cases h with
  | unit hn _ => simp [Node.isUnit] at hn
  | repUnit _ hlo hc _ => exact ⟨_, hlo, hc, rfl⟩
  | repLoop hb' _ _ => simp [hb] at hb'

end Inversion

/-! ### Finding a simple pattern at a place -/

section Find

variable {r : Regex} (hr : r.node.simple) {text : Array Char}
include hr

/-- A match records where it starts, when the pattern has the whole match among its groups. -/
theorem Regex.matchAt_start (hg : 0 < r.groups) {p : Nat} {m : Match}
    (hm : r.matchAt text p = some m) : m.start = p := by
  rw [Regex.matchAt_eq] at hm
  obtain ⟨x, hx, rfl⟩ := Option.map_eq_some_iff.mp hm
  obtain ⟨s, hs, hsx⟩ := (run_sound text _).1 _ _ _ _ hr hx
  obtain rfl : s = x := Option.some.inj hsx
  have hsize : 0 < s.caps.size := by rw [hs.caps_size]; simpa using hg
  simp [Match.start, Match.span?, Array.set!, hsize]

/-- Where a simple pattern reaches just one state from a place, its match there is that state. -/
theorem Regex.matchAt_of_reaches_unique {p : Nat} {s : MState}
    (h : Reaches text (r.fuelFor text.size) r.node ⟨p, Array.replicate r.groups none⟩ s)
    (huniq : ∀ s', Reaches text (r.fuelFor text.size) r.node ⟨p, Array.replicate r.groups none⟩ s' →
      s' = s) :
    r.matchAt text p = some ⟨text, s.caps.set! 0 (some (p, s.pos))⟩ := by
  rw [Regex.matchAt_eq]
  obtain ⟨x, hx⟩ := Option.isSome_iff_exists.mp ((run_complete text _).1 _ _ _ some h rfl)
  obtain ⟨s', hs', hsx⟩ := (run_sound text _).1 _ _ _ _ hr hx
  obtain rfl : s' = x := Option.some.inj hsx
  rw [hx, huniq s' hs']
  rfl

/-- A simple pattern that reaches no state from a place does not match there. -/
theorem Regex.matchAt_eq_none {p : Nat}
    (h : ∀ s, ¬Reaches text (r.fuelFor text.size) r.node ⟨p, Array.replicate r.groups none⟩ s) :
    r.matchAt text p = none := by
  cases hm : r.matchAt text p with
  | none => rfl
  | some m =>
    obtain ⟨s, hs⟩ := (Regex.matchAt_isSome_iff hr text p).mp (by rw [hm]; rfl)
    exact absurd hs (h s)

end Find

/-! ### Relations on places -/

theorem Node.size_pos (n : Node) : 0 < n.size := by
  cases n <;> simp [Node.size]

section Denotes

variable (text : Array Char)

/-- `Denotes text n R`: the node `n` reads from place `i` to place `j` exactly when `R i j`. -/
structure Denotes (n : Node) (R : Nat → Nat → Prop) : Prop where
  sound : ∀ {f st s}, Reaches text f n st s → R st.pos s.pos
  complete : ∀ {i j}, R i j → ∀ st : MState, st.pos = i → ∀ F, 2 * (n.size + (j - i)) ≤ F →
    ∃ s : MState, s.pos = j ∧ Reaches text F n st s

/-- The same for the parts of a sequence, one after another. -/
structure SeqDenotes (ns : List Node) (R : Nat → Nat → Prop) : Prop where
  sound : ∀ {f st s}, ReachesSeq text f ns st s → R st.pos s.pos
  complete : ∀ {i j}, R i j → ∀ st : MState, st.pos = i → ∀ F, 2 * (sizeList ns + (j - i)) + 1 ≤ F →
    ∃ s : MState, s.pos = j ∧ ReachesSeq text F ns st s

/-- The same for branches, one of which is taken. -/
structure AltDenotes (bs : List Node) (R : Nat → Nat → Prop) : Prop where
  sound : ∀ {f st s}, ReachesAlt text f bs st s → R st.pos s.pos
  complete : ∀ {i j}, R i j → ∀ st : MState, st.pos = i → ∀ F, 2 * (sizeList bs + (j - i)) + 1 ≤ F →
    ∃ s : MState, s.pos = j ∧ ReachesAlt text F bs st s

variable {text}

theorem Denotes.of_iff {n : Node} {R S : Nat → Nat → Prop} (h : Denotes text n R)
    (e : ∀ i j, R i j ↔ S i j) : Denotes text n S where
  sound hr := (e _ _).mp (h.sound hr)
  complete hs := h.complete ((e _ _).mpr hs)

theorem SeqDenotes.of_iff {ns : List Node} {R S : Nat → Nat → Prop} (h : SeqDenotes text ns R)
    (e : ∀ i j, R i j ↔ S i j) : SeqDenotes text ns S where
  sound hr := (e _ _).mp (h.sound hr)
  complete hs := h.complete ((e _ _).mpr hs)

/-- What a node reads, it reads forwards. -/
theorem Denotes.le {n : Node} {R : Nat → Nat → Prop} (h : Denotes text n R) {i j : Nat}
    (hij : R i j) : i ≤ j := by
  obtain ⟨s, hs, hr⟩ := h.complete hij ⟨i, #[]⟩ rfl _ (le_refl _)
  exact hs ▸ hr.pos_le

/-! #### One character and anchors -/

theorem denotes_unit {n : Node} (hn : n.isUnit) :
    Denotes text n fun i j => j = i + 1 ∧ (text[i]?).any (unitHolds · n) where
  sound h := by
    cases h <;> simp_all [Node.isUnit]
  complete := by
    rintro i j ⟨rfl, ht⟩ st rfl F hF
    obtain ⟨F, rfl⟩ : ∃ F', F = F' + 1 := ⟨F - 1, by omega⟩
    exact ⟨_, rfl, .unit hn ht⟩

theorem denotes_anchor (a : Anchor) (ml asc : Bool) :
    Denotes text (.anchor a ml asc) fun i j => j = i ∧ anchorHolds text a ml asc i where
  sound h := by
    cases h with
    | unit hn _ => simp [Node.isUnit] at hn
    | anchor h => exact ⟨rfl, h⟩
  complete := by
    rintro i j ⟨rfl, ha⟩ st rfl F hF
    simp only [Node.size] at hF
    obtain ⟨F, rfl⟩ : ∃ F', F = F' + 1 := ⟨F - 1, by omega⟩
    exact ⟨st, rfl, .anchor ha⟩

/-! #### Groups, sequences and branches -/

theorem denotes_group {b : Node} {R : Nat → Nat → Prop} (h : Denotes text b R) (g : Nat) :
    Denotes text (.group g b) R where
  sound hr := by
    cases hr with
    | unit hn _ => simp [Node.isUnit] at hn
    | group hb => exact (h.sound hb :)
  complete := by
    intro i j hij st hst F hF
    simp only [Node.size] at hF
    obtain ⟨F, rfl⟩ : ∃ F', F = F' + 1 := ⟨F - 1, by omega⟩
    obtain ⟨s, hs, hb⟩ := h.complete hij st hst F (by omega)
    exact ⟨s.record g (st.pos, s.pos), hs, .group hb⟩

theorem seqDenotes_nil : SeqDenotes text [] fun i j => j = i where
  sound h := by
    cases h with
    | nil => rfl
  complete := by
    rintro i j rfl st rfl F hF
    obtain ⟨F, rfl⟩ : ∃ F', F = F' + 1 := ⟨F - 1, by omega⟩
    exact ⟨st, rfl, .nil⟩

theorem seqDenotes_cons {n : Node} {ns : List Node} {R S : Nat → Nat → Prop} (h : Denotes text n R)
    (t : SeqDenotes text ns S) : SeqDenotes text (n :: ns) (Comp R S) where
  sound hr := by
    cases hr with
    | cons hn hrest => exact ⟨_, h.sound hn, t.sound hrest⟩
  complete := by
    rintro i j ⟨k, hik, hkj⟩ st hst F hF
    obtain ⟨F, rfl⟩ : ∃ F', F = F' + 1 := ⟨F - 1, by omega⟩
    have hle₁ := h.le hik
    have hle₂ : k ≤ j := by
      obtain ⟨s, hs, hr⟩ := t.complete hkj ⟨k, #[]⟩ rfl _ (le_refl _)
      have := (forward_order.orderedAt _).2.1 _ _ _ hr
      simp only at this
      omega
    have hpos := n.size_pos
    simp only [sizeList] at hF
    obtain ⟨s₁, hs₁, hn⟩ := h.complete hik st hst F (by omega)
    obtain ⟨s, hs, hrest⟩ := t.complete hkj s₁ hs₁ F (by omega)
    exact ⟨s, hs, .cons hn hrest⟩

theorem denotes_seq {ns : List Node} {R : Nat → Nat → Prop} (h : SeqDenotes text ns R) :
    Denotes text (.seq ns) R where
  sound hr := by
    cases hr with
    | unit hn _ => simp [Node.isUnit] at hn
    | seq hs => exact h.sound hs
  complete := by
    intro i j hij st hst F hF
    simp only [Node.size] at hF
    obtain ⟨F, rfl⟩ : ∃ F', F = F' + 1 := ⟨F - 1, by omega⟩
    obtain ⟨s, hs, hrest⟩ := h.complete hij st hst F (by omega)
    exact ⟨s, hs, .seq hrest⟩

theorem altDenotes_nil : AltDenotes text [] fun _ _ => False where
  sound h := by cases h
  complete h := h.elim

theorem altDenotes_cons {b : Node} {bs : List Node} {R S : Nat → Nat → Prop} (h : Denotes text b R)
    (t : AltDenotes text bs S) : AltDenotes text (b :: bs) fun i j => R i j ∨ S i j where
  sound hr := by
    cases hr with
    | head hb => exact .inl (h.sound hb)
    | tail hbs => exact .inr (t.sound hbs)
  complete := by
    intro i j hij st hst F hF
    obtain ⟨F, rfl⟩ : ∃ F', F = F' + 1 := ⟨F - 1, by omega⟩
    have hpos := b.size_pos
    simp only [sizeList] at hF
    rcases hij with hij | hij
    · obtain ⟨s, hs, hb⟩ := h.complete hij st hst F (by omega)
      exact ⟨s, hs, .head hb⟩
    · obtain ⟨s, hs, hbs⟩ := t.complete hij st hst F (by omega)
      exact ⟨s, hs, .tail hbs⟩

theorem denotes_alt {bs : List Node} {R : Nat → Nat → Prop} (h : AltDenotes text bs R) :
    Denotes text (.alt bs) R where
  sound hr := by
    cases hr with
    | unit hn _ => simp [Node.isUnit] at hn
    | alt hs => exact h.sound hs
  complete := by
    intro i j hij st hst F hF
    simp only [Node.size] at hF
    obtain ⟨F, rfl⟩ : ∃ F', F = F' + 1 := ⟨F - 1, by omega⟩
    obtain ⟨s, hs, hrest⟩ := h.complete hij st hst F (by omega)
    exact ⟨s, hs, .alt hrest⟩

/-- A sequence of one part reads as the part does. -/
theorem Denotes.of_seq_single {n : Node} {R : Nat → Nat → Prop} (h : SeqDenotes text [n] R) :
    Denotes text n R where
  sound := by
    intro f st s hr
    cases f with
    | zero => cases hr
    | succ f => exact h.sound (.cons hr .nil)
  complete := by
    intro i j hij st hst F hF
    obtain ⟨s, hs, hseq⟩ := h.complete hij st hst (F + 1) (by simp [sizeList]; omega)
    cases hseq with
    | cons hn hrest =>
      cases hrest with
      | nil => exact ⟨_, hs, hn⟩

theorem denotes_seqNode {ns : List Node} {R : Nat → Nat → Prop} (h : SeqDenotes text ns R) :
    Denotes text (seqNode ns) R := by
  rcases ns with _ | ⟨n, _ | ⟨m, ns⟩⟩
  · exact denotes_seq h
  · exact Denotes.of_seq_single h
  · exact denotes_seq h

/-- Branches of one branch read as the branch does. -/
theorem Denotes.of_alt_single {b : Node} {R : Nat → Nat → Prop} (h : AltDenotes text [b] R) :
    Denotes text b R where
  sound hr := h.sound (.head hr)
  complete := by
    intro i j hij st hst F hF
    obtain ⟨s, hs, halt⟩ := h.complete hij st hst (F + 1) (by simp [sizeList]; omega)
    cases halt with
    | head hb => exact ⟨_, hs, hb⟩
    | tail hbs => cases hbs

theorem denotes_altNode {bs : List Node} {R : Nat → Nat → Prop} (h : AltDenotes text bs R) :
    Denotes text (altNode bs) R := by
  rcases bs with _ | ⟨b, _ | ⟨c, bs⟩⟩
  · exact denotes_alt h
  · exact Denotes.of_alt_single h
  · exact denotes_alt h

/-! #### Repetitions -/

/-- A run of characters each of which a one-character pattern matches is no longer than the run
the matcher counts. -/
theorem le_unitRun {b : Node} : ∀ (limit pos c : Nat), c ≤ limit →
    (∀ k, k < c → (text[pos + k]?).any (unitHolds · b)) → c ≤ unitRun text b pos limit
  | 0, _, _, hc, _ => by omega
  | _ + 1, _, 0, _, _ => Nat.zero_le _
  | limit + 1, pos, c + 1, hc, hall => by
    obtain ⟨t, ht, htb⟩ : ∃ t, text[pos]? = some t ∧ unitHolds t b = true := by
      have h0 := hall 0 (by omega)
      cases ht : text[pos]? <;> simp_all
    rw [unitRun, ht]
    dsimp only
    rw [if_pos htb]
    have hrest := le_unitRun limit (pos + 1) c (by omega) fun k hk => by
      simpa [Nat.add_assoc, Nat.add_comm 1 k] using hall (k + 1) (by omega)
    omega

/-- The characters of a run no longer than the run the matcher counts all match. -/
theorem unitRun_holds_le {b : Node} {pos limit c : Nat} (hc : c ≤ unitRun text b pos limit) :
    ∀ p, pos ≤ p → p < pos + c → (text[p]?).any (unitHolds · b) := by
  intro p hp hpc
  have h : (text[pos + (p - pos)]?).any (unitHolds · b) :=
    unitRun_holds (show p - pos < unitRun text b pos limit by omega)
  rwa [Nat.add_sub_cancel' hp] at h

theorem denotes_repUnit {b : Node} (hb : b.isUnit) (lo : Nat) {g : Greed} (hg : g ≠ .possessive) :
    Denotes text (.rep b lo none g) fun i j =>
      i + lo ≤ j ∧ ∀ p, i ≤ p → p < j → (text[p]?).any (unitHolds · b) where
  sound hr := by
    cases hr with
    | unit hn _ => simp [Node.isUnit] at hn
    | repUnit _ hlo hc _ => exact ⟨by simp only; omega, unitRun_holds_le hc⟩
    | repLoop hb' _ _ => simp [hb] at hb'
  complete := by
    rintro i j ⟨hlo, hall⟩ st rfl F hF
    obtain ⟨F, rfl⟩ : ∃ F', F = F' + 1 := ⟨F - 1, by simp only [Node.size] at hF; omega⟩
    have hsize : j - st.pos ≤ text.size - st.pos := by
      rcases Nat.eq_zero_or_pos (j - st.pos) with h0 | hpos
      · omega
      · have hlast := hall (j - 1) (by omega) (by omega)
        have : j - 1 < text.size := by
          by_contra hge
          rw [getElem?_neg text (j - 1) hge] at hlast
          simp at hlast
        omega
    have hc := le_unitRun (text.size - st.pos) st.pos (j - st.pos) hsize fun k hk => by
      simpa using hall (st.pos + k) (by omega) (by omega)
    refine ⟨_, ?_, .repUnit hb (by omega) hc fun h => absurd h hg⟩
    simp only
    omega

/-- A chain of steps that each read something, from a chain of steps that may read nothing. -/
theorem chain_strict {R : Nat → Nat → Prop} (hmono : ∀ a b, R a b → a ≤ b) {i j : Nat}
    (h : ReflTransGen R i j) : ReflTransGen (fun a b => R a b ∧ a < b) i j := by
  induction h with
  | refl => exact .refl
  | @tail b c _ hbc ih =>
    rcases Nat.eq_or_lt_of_le (hmono _ _ hbc) with rfl | hlt
    · exact ih
    · exact ih.tail ⟨hbc, hlt⟩

theorem chain_le {R : Nat → Nat → Prop} {i j : Nat} (h : ReflTransGen (fun a b => R a b ∧ a < b) i j) :
    i ≤ j := by
  induction h with
  | refl => exact le_refl _
  | tail _ hbc ih => exact le_trans ih (le_of_lt hbc.2)

/-- What the loop of a repetition reads is a chain of what its body reads. -/
theorem Denotes.loop_sound {b : Node} {R : Nat → Nat → Prop} (h : Denotes text b R) :
    ∀ {f lo : Nat} {hi : Option Nat} {count : Nat} {last : Option Nat} {st s : MState},
      ReachesLoop text f b lo hi count last st s → ReflTransGen R st.pos s.pos := by
  intro f
  induction f with
  | zero => intro _ _ _ _ _ _ hl; cases hl
  | succ f ih =>
    intro lo hi count last st s hl
    cases hl with
    | must _ h₁ t => exact .head (h.sound h₁) (ih t)
    | stop _ => exact .refl
    | more _ _ h₁ t => exact .head (h.sound h₁) (ih t)

/-- The loop of a repetition with no upper bound, once its required repetitions are done, reads
every chain of steps of its body that each read something. The repetitions are the optional
ones, each starting after the last. -/
theorem Denotes.loop_complete {b : Node} {R : Nat → Nat → Prop} (h : Denotes text b R) (lo : Nat)
    {i j : Nat} (hc : ReflTransGen (fun a b => R a b ∧ a < b) i j) :
    ∀ st : MState, st.pos = i → ∀ count, lo ≤ count → ∀ last : Option Nat,
      (∀ p, last = some p → p < i) → ∀ F, 2 * (b.size + (j - i)) + 1 ≤ F →
        ∃ s : MState, s.pos = j ∧ ReachesLoop text F b lo none count last st s := by
  induction hc using ReflTransGen.head_induction_on with
  | refl =>
    intro st hst count hcount last _ F hF
    obtain ⟨F, rfl⟩ : ∃ F', F = F' + 1 := ⟨F - 1, by omega⟩
    exact ⟨st, hst, .stop hcount⟩
  | @head a k hak hkj ih =>
    intro st hst count hcount last hlast F hF
    subst hst
    obtain ⟨F, rfl⟩ : ∃ F', F = F' + 1 := ⟨F - 1, by omega⟩
    have hkj' := chain_le hkj
    obtain ⟨s₁, hs₁, h₁⟩ := h.complete hak.1 st rfl F (by omega)
    obtain ⟨s, hs, t⟩ := ih s₁ hs₁ (count + 1) (by omega) (some st.pos)
      (fun p hp => by cases hp; exact hak.2) F (by omega)
    have hmore : mayRepeat none count last st.pos = true := by
      have : last ≠ some st.pos := fun he => absurd (hlast _ he) (by omega)
      simp [mayRepeat, this]
    exact ⟨s, hs, .more hcount hmore h₁ t⟩

/-- A repetition, any number of times, of a pattern of more than one character reads the
chains of what the pattern reads. -/
theorem denotes_repLoop {b : Node} (hb : b.isUnit = false) {g : Greed} (hg : g ≠ .possessive)
    {R : Nat → Nat → Prop} (h : Denotes text b R) :
    Denotes text (.rep b 0 none g) (ReflTransGen R) where
  sound hr := by
    cases hr with
    | unit hn _ => simp [Node.isUnit] at hn
    | repUnit hb' _ _ _ => simp [hb] at hb'
    | repLoop _ _ hl => exact h.loop_sound hl
  complete := by
    intro i j hij st hst F hF
    simp only [Node.size] at hF
    obtain ⟨F, rfl⟩ : ∃ F', F = F' + 1 := ⟨F - 1, by omega⟩
    obtain ⟨s, hs, hl⟩ := h.loop_complete 0 (chain_strict (fun _ _ => h.le) hij) st hst 0 (le_refl 0)
      none (by simp) F (by omega)
    exact ⟨s, hs, .repLoop hb hg hl⟩

/-- A repetition, at least once, of a pattern of more than one character reads the chains of what
the pattern reads that read something, or, where the pattern reads nothing, nothing. -/
theorem denotes_repLoop_one {b : Node} (hb : b.isUnit = false) {g : Greed} (hg : g ≠ .possessive)
    {R : Nat → Nat → Prop} (h : Denotes text b R) :
    Denotes text (.rep b 1 none g) fun i j => ReflTransGen R i j ∧ (i < j ∨ R i i) where
  sound hr := by
    cases hr with
    | unit hn _ => simp [Node.isUnit] at hn
    | repUnit hb' _ _ _ => simp [hb] at hb'
    | repLoop _ _ hl =>
      refine ⟨h.loop_sound hl, ?_⟩
      cases hl with
      | must _ h₁ t =>
        have hr₁ := h.sound h₁
        rcases Nat.eq_or_lt_of_le h₁.pos_le with heq | hlt
        · exact .inr (heq ▸ hr₁)
        · exact .inl (lt_of_lt_of_le hlt t.pos_le)
      | stop hc => omega
      | more hc _ _ _ => omega
  complete := by
    rintro i j ⟨hij, hne⟩ st hst F hF
    simp only [Node.size] at hF
    obtain ⟨F, rfl⟩ : ∃ F', F = F' + 2 := ⟨F - 2, by omega⟩
    rcases Nat.lt_or_ge i j with hlt | hge
    · -- the required repetition reads the first step of the chain
      rcases (chain_strict (fun _ _ => h.le) hij).cases_head with heq | ⟨k, hik, hkj⟩
      · omega
      have hkj' := chain_le hkj
      obtain ⟨s₁, hs₁, h₁⟩ := h.complete hik.1 st hst F (by omega)
      obtain ⟨s, hs, t⟩ := h.loop_complete 1 hkj s₁ hs₁ 1 (le_refl 1) none (by simp) F (by omega)
      exact ⟨s, hs, .repLoop hb hg (.must (by omega) h₁ t)⟩
    · -- the required repetition reads nothing
      have hji : j = i := le_antisymm hge (chain_le (chain_strict (fun _ _ => h.le) hij))
      subst hji
      have hii : R j j := hne.resolve_left (lt_irrefl j)
      obtain ⟨s₁, hs₁, h₁⟩ := h.complete hii st hst F (by omega)
      obtain ⟨F, rfl⟩ : ∃ F', F = F' + 1 := ⟨F - 1, by have := b.size_pos; omega⟩
      exact ⟨s₁, hs₁, .repLoop hb hg (.must (by omega) h₁ (.stop (le_refl 1)))⟩

end Denotes

/-! ### Finding a pattern by its relation -/

/-- **A simple pattern is found in a text exactly when its relation holds between some places
of the text.** -/
theorem Regex.search_zero_isSome_iff_denotes {r : Regex} (hr : r.node.simple) {text : Array Char}
    {R : Nat → Nat → Prop} (h : Denotes text r.node R) (hle : ∀ i j, R i j → j ≤ text.size) :
    (r.search text 0).isSome ↔ ∃ i j, R i j := by
  rw [Regex.search_zero_isSome_iff_reaches hr]
  constructor
  · rintro ⟨p, -, s, hs⟩
    exact ⟨p, s.pos, h.sound hs⟩
  · rintro ⟨i, j, hij⟩
    have hi := h.le hij
    have hj := hle i j hij
    have hfuel : 2 * (r.node.size + (j - i)) ≤ r.fuelFor text.size := by
      have : 2 * (r.node.size + text.size) ≤ 8 * (text.size + 2) * (r.node.size + 2) := by nlinarith
      unfold Regex.fuelFor
      omega
    obtain ⟨s, -, hs⟩ := h.complete hij ⟨i, Array.replicate r.groups none⟩ rfl _ hfuel
    exact ⟨i, by omega, s, hs⟩

end Scripture.Pattern
