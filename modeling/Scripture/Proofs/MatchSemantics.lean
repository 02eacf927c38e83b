import Mathlib
import Scripture.Proofs.PatternSteps

/-!
# What a pattern can match

The matcher of `Scripture.Pattern.Match` tries the ways a pattern can match one after another,
with continuations, and gives what the continuation gives for the first way that it accepts.
For a simple pattern (no back references, look-arounds, atomic groups, conditionals, and no
possessive repetition of more than one character) the ways it tries are all the ways there are,
so what it finds is described by a relation: `Reaches text f n st s` says that the node `n`,
started in the matching state `st`, can end in the state `s`. The relation is stated rule by
rule, one rule for each way a node can match; `f` bounds the nesting of the steps, as the
matcher's fuel does.

* `run_sound` — whatever the matcher gives, the continuation gave it at a state the node
  reaches.
* `run_complete` — when the node reaches a state at which the continuation succeeds, the matcher
  succeeds.
* `Reaches.mono` — a match found within some fuel is found within more.
* `Regex.search_zero_isSome_iff_reaches` — a simple pattern is found in a text exactly when its
  node reaches some state from some place of the text.
-/

namespace Scripture.Pattern

mutual

/-- Whether the matcher tries every way a node can match: no back references, look-arounds,
atomic groups or conditionals, and no possessive repetition of more than one character. -/
def Node.simple : Node → Bool
  | .empty | .char .. | .any _ | .set .. | .anchor .. => true
  | .group _ b => b.simple
  | .seq ns => simpleList ns
  | .alt ns => simpleList ns
  | .rep b _ _ g => b.simple && (b.isUnit || g != .possessive)
  | .backref .. | .atomic _ | .look .. | .ifGroup .. => false

/-- Whether every node of a list is simple. -/
def simpleList : List Node → Bool
  | [] => true
  | n :: ns => n.simple && simpleList ns

end

/-- How far a repetition of one character with upper bound `hi` may run from `pos`. -/
def unitLimit (text : Array Char) (hi : Option Nat) (pos : Nat) : Nat :=
  match hi with
  | some h => min h (text.size - pos)
  | none => text.size - pos

/-- Whether a repetition that has made `count` repetitions, the last optional one of which
started at `last`, may try one more at `pos`: it is below its upper bound, and the last
repetition was not empty. -/
def mayRepeat (hi : Option Nat) (count : Nat) (last : Option Nat) (pos : Nat) : Bool :=
  (match hi with
    | some h => decide (count < h)
    | none => true) && last != some pos

section Equations

variable {text : Array Char} {f : Nat} {k : Cont} {st : MState}

/-- A repetition of one character tries, from the longest run down, each count it may run
for. -/
theorem run_rep_unit_greedy {b : Node} (hb : b.isUnit) (lo : Nat) (hi : Option Nat) :
    run text (f + 1) (.rep b lo hi .greedy) k st =
      if unitRun text b st.pos (unitLimit text hi st.pos) < lo then none
      else tryCounts k st
        (List.range' lo (unitRun text b st.pos (unitLimit text hi st.pos) + 1 - lo)).reverse := by
  cases hi <;> rw [run] <;> simp only [hb, if_true] <;> rfl

/-- A lazy repetition of one character tries each count it may run for, from the least up. -/
theorem run_rep_unit_lazy {b : Node} (hb : b.isUnit) (lo : Nat) (hi : Option Nat) :
    run text (f + 1) (.rep b lo hi .lazy) k st =
      if unitRun text b st.pos (unitLimit text hi st.pos) < lo then none
      else tryCounts k st
        (List.range' lo (unitRun text b st.pos (unitLimit text hi st.pos) + 1 - lo)) := by
  cases hi <;> rw [run] <;> simp only [hb, if_true] <;> rfl

/-- A possessive repetition of one character takes its longest run. -/
theorem run_rep_unit_possessive {b : Node} (hb : b.isUnit) (lo : Nat) (hi : Option Nat) :
    run text (f + 1) (.rep b lo hi .possessive) k st =
      if unitRun text b st.pos (unitLimit text hi st.pos) < lo then none
      else k { st with pos := st.pos + unitRun text b st.pos (unitLimit text hi st.pos) } := by
  cases hi <;> rw [run] <;> simp only [hb, if_true] <;> rfl

/-- A greedy repetition of a node that is not one character runs its loop, trying one more
repetition first. -/
theorem run_rep_loop_greedy {b : Node} (hb : b.isUnit = false) (lo : Nat) (hi : Option Nat) :
    run text (f + 1) (.rep b lo hi .greedy) k st = repeatLoop text f b lo hi true k 0 none st := by
  cases hi <;> rw [run] <;> simp [hb]

/-- A lazy repetition of a node that is not one character runs its loop, trying to stop first. -/
theorem run_rep_loop_lazy {b : Node} (hb : b.isUnit = false) (lo : Nat) (hi : Option Nat) :
    run text (f + 1) (.rep b lo hi .lazy) k st = repeatLoop text f b lo hi false k 0 none st := by
  cases hi <;> rw [run] <;> simp [hb]

/-- One step of the loop of a repetition: a required repetition, or else one more repetition
and stopping, in the order the greed gives. -/
theorem repeatLoop_succ (b : Node) (lo : Nat) (hi : Option Nat) (greedy : Bool) (count : Nat)
    (last : Option Nat) :
    repeatLoop text (f + 1) b lo hi greedy k count last st =
      if count < lo then
        run text f b (fun s => repeatLoop text f b lo hi greedy k (count + 1) last s) st
      else if greedy then
        (if mayRepeat hi count last st.pos then
          run text f b (fun s => repeatLoop text f b lo hi greedy k (count + 1) (some st.pos) s) st
        else none).or (k st)
      else
        (k st).or (if mayRepeat hi count last st.pos then
          run text f b (fun s => repeatLoop text f b lo hi greedy k (count + 1) (some st.pos) s) st
        else none) := by
  cases hi <;> rw [repeatLoop] <;> dsimp only [mayRepeat] <;> split_ifs
  all_goals first
    | rfl
    | (rename_i h; simp only [h, ↓reduceIte]; split <;> simp_all)

theorem run_empty : run text (f + 1) .empty k st = k st := by
  rw [run]

theorem run_anchor (a : Anchor) (ml asc : Bool) :
    run text (f + 1) (.anchor a ml asc) k st = if anchorHolds text a ml asc st.pos then k st else none := by
  rw [run]

theorem run_alt (bs : List Node) : run text (f + 1) (.alt bs) k st = runAlt text f bs k st := by
  rw [run]

theorem runAlt_nil : runAlt text (f + 1) [] k st = none := by
  rw [runAlt]

/-- The branches are tried in order, the first that leads to a match giving it. -/
theorem runAlt_cons (b : Node) (bs : List Node) :
    runAlt text (f + 1) (b :: bs) k st = (run text f b k st).or (runAlt text f bs k st) := by
  rw [runAlt]
  cases run text f b k st <;> rfl

end Equations

/-! ### The relation -/

section Relation

variable (text : Array Char)

mutual

/-- `Reaches text f n st s`: the node `n`, started in the state `st`, can end in the state
`s`, within `f` steps of nesting. -/
inductive Reaches : Nat → Node → MState → MState → Prop
  | empty {f st} : Reaches (f + 1) .empty st st
  | unit {f n st} (hn : n.isUnit) (ht : (text[st.pos]?).any (unitHolds · n)) :
      Reaches (f + 1) n st { st with pos := st.pos + 1 }
  | anchor {f a ml asc st} (h : anchorHolds text a ml asc st.pos) :
      Reaches (f + 1) (.anchor a ml asc) st st
  | group {f i b st s} (h : Reaches f b st s) :
      Reaches (f + 1) (.group i b) st (s.record i (st.pos, s.pos))
  | seq {f ns st s} (h : ReachesSeq f ns st s) : Reaches (f + 1) (.seq ns) st s
  | alt {f bs st s} (h : ReachesAlt f bs st s) : Reaches (f + 1) (.alt bs) st s
  /-- A repetition of one character runs for some count between its bounds; a possessive
  one for as long as it can. -/
  | repUnit {f b lo hi g st c} (hb : b.isUnit) (hlo : lo ≤ c)
      (hc : c ≤ unitRun text b st.pos (unitLimit text hi st.pos))
      (hg : g = .possessive → c = unitRun text b st.pos (unitLimit text hi st.pos)) :
      Reaches (f + 1) (.rep b lo hi g) st { st with pos := st.pos + c }
  | repLoop {f b lo hi g st s} (hb : b.isUnit = false) (hg : g ≠ .possessive)
      (h : ReachesLoop f b lo hi 0 none st s) : Reaches (f + 1) (.rep b lo hi g) st s

/-- The parts of a sequence, one after another. -/
inductive ReachesSeq : Nat → List Node → MState → MState → Prop
  | nil {f st} : ReachesSeq (f + 1) [] st st
  | cons {f n ns st s₁ s} (h : Reaches f n st s₁) (t : ReachesSeq f ns s₁ s) :
      ReachesSeq (f + 1) (n :: ns) st s

/-- One of the branches. -/
inductive ReachesAlt : Nat → List Node → MState → MState → Prop
  | head {f b bs st s} (h : Reaches f b st s) : ReachesAlt (f + 1) (b :: bs) st s
  | tail {f b bs st s} (h : ReachesAlt f bs st s) : ReachesAlt (f + 1) (b :: bs) st s

/-- The repetitions of a node that is not one character, after `count` of them, the last
optional one of which started at `last`: the required ones, then any number of optional
ones while `mayRepeat` allows. -/
inductive ReachesLoop : Nat → Node → Nat → Option Nat → Nat → Option Nat → MState → MState → Prop
  | must {f b lo hi count last st s₁ s} (hc : count < lo) (h : Reaches f b st s₁)
      (t : ReachesLoop f b lo hi (count + 1) last s₁ s) :
      ReachesLoop (f + 1) b lo hi count last st s
  | stop {f b lo hi count last st} (hc : lo ≤ count) : ReachesLoop (f + 1) b lo hi count last st st
  | more {f b lo hi count last st s₁ s} (hc : lo ≤ count) (hmore : mayRepeat hi count last st.pos)
      (h : Reaches f b st s₁) (t : ReachesLoop f b lo hi (count + 1) (some st.pos) s₁ s) :
      ReachesLoop (f + 1) b lo hi count last st s

end

end Relation

/-- Trying counts succeeds when the continuation succeeds after one of them. -/
theorem tryCounts_isSome_of_mem {k : Cont} {st : MState} {c : Nat} (hk : (k { st with pos := st.pos + c }).isSome) :
    ∀ {cs : List Nat}, c ∈ cs → (tryCounts k st cs).isSome
  | [], h => absurd h List.not_mem_nil
  | c' :: cs, h => by
    rw [tryCounts]
    cases hk' : k { st with pos := st.pos + c' } with
    | some r => rfl
    | none =>
      rcases List.mem_cons.mp h with rfl | h
      · rw [hk'] at hk
        cases hk
      · exact tryCounts_isSome_of_mem hk h

/-! ### Soundness: what the matcher gives, a node reaches -/

section Sound

variable (text : Array Char) (f : Nat)

/-- Whatever the matcher gives with fuel `f`, the continuation gave it at a state the node
reaches. -/
def RunSound : Prop :=
  ∀ n k st r, n.simple → run text f n k st = some r → ∃ s, Reaches text f n st s ∧ k s = some r

/-- The same for a sequence. -/
def SeqSound : Prop :=
  ∀ ns k st r, simpleList ns → runSeq text f ns k st = some r →
    ∃ s, ReachesSeq text f ns st s ∧ k s = some r

/-- The same for branches. -/
def AltSound : Prop :=
  ∀ bs k st r, simpleList bs → runAlt text f bs k st = some r →
    ∃ s, ReachesAlt text f bs st s ∧ k s = some r

/-- The same for the loop of a repetition. -/
def LoopSound : Prop :=
  ∀ b lo hi greedy k count last st r, b.simple →
    repeatLoop text f b lo hi greedy k count last st = some r →
      ∃ s, ReachesLoop text f b lo hi count last st s ∧ k s = some r

variable {text f}

theorem seqSound_succ (hr : RunSound text f) (hs : SeqSound text f) : SeqSound text (f + 1) := by
  intro ns k st r hns h
  cases ns with
  | nil =>
    rw [runSeq_nil] at h
    exact ⟨st, .nil, h⟩
  | cons n ns =>
    simp only [simpleList, Bool.and_eq_true] at hns
    rw [runSeq_cons] at h
    obtain ⟨s₁, hn, hk⟩ := hr n _ st r hns.1 h
    obtain ⟨s, hrest, hks⟩ := hs ns k s₁ r hns.2 hk
    exact ⟨s, .cons hn hrest, hks⟩

theorem altSound_succ (hr : RunSound text f) (ha : AltSound text f) : AltSound text (f + 1) := by
  intro bs k st r hbs h
  cases bs with
  | nil =>
    rw [runAlt_nil] at h
    cases h
  | cons b bs =>
    simp only [simpleList, Bool.and_eq_true] at hbs
    rw [runAlt_cons, Option.or_eq_some_iff] at h
    rcases h with h | ⟨-, h⟩
    · -- the first branch leads to a match
      obtain ⟨s, hb, hk⟩ := hr b k st r hbs.1 h
      exact ⟨s, .head hb, hk⟩
    · -- it does not, and a later one does
      obtain ⟨s, hb, hk⟩ := ha bs k st r hbs.2 h
      exact ⟨s, .tail hb, hk⟩

theorem loopSound_succ (hr : RunSound text f) (hl : LoopSound text f) : LoopSound text (f + 1) := by
  intro b lo hi greedy k count last st r hb h
  rw [repeatLoop_succ] at h
  by_cases hc : count < lo
  · rw [if_pos hc] at h
    obtain ⟨s₁, h₁, hk⟩ := hr b _ st r hb h
    obtain ⟨s, hrest, hks⟩ := hl b lo hi greedy k (count + 1) last s₁ r hb hk
    exact ⟨s, .must hc h₁ hrest, hks⟩
  · rw [if_neg hc] at h
    -- one more repetition, which `mayRepeat` must allow
    have hmore : (if mayRepeat hi count last st.pos then
        run text f b (fun s => repeatLoop text f b lo hi greedy k (count + 1) (some st.pos) s) st
        else none) = some r → ∃ s, ReachesLoop text (f + 1) b lo hi count last st s ∧ k s = some r := by
      intro hm
      split at hm
      · obtain ⟨s₁, h₁, hk⟩ := hr b _ st r hb hm
        obtain ⟨s, hrest, hks⟩ := hl b lo hi greedy k (count + 1) (some st.pos) s₁ r hb hk
        exact ⟨s, .more (by omega) ‹_› h₁ hrest, hks⟩
      · cases hm
    have hstop : k st = some r → ∃ s, ReachesLoop text (f + 1) b lo hi count last st s ∧ k s = some r :=
      fun hk => ⟨st, .stop (by omega), hk⟩
    cases greedy with
    | true =>
      rw [if_pos rfl, Option.or_eq_some_iff] at h
      rcases h with h | ⟨-, h⟩
      exacts [hmore h, hstop h]
    | false =>
      rw [if_neg Bool.false_ne_true, Option.or_eq_some_iff] at h
      rcases h with h | ⟨-, h⟩
      exacts [hstop h, hmore h]

/-- A node of one character reaches the next place when the character there matches it. -/
theorem unit_sound {n : Node} (hn : n.isUnit) {k : Cont} {st r : MState}
    (h : run text (f + 1) n k st = some r) : ∃ s, Reaches text (f + 1) n st s ∧ k s = some r := by
  rw [run_unit hn] at h
  split at h
  · exact ⟨_, .unit hn ‹_›, h⟩
  · cases h

/-- A repetition of one character reaches the place after each count it may run for. -/
theorem repUnit_sound {b : Node} (hb : b.isUnit) {lo : Nat} {hi : Option Nat} {g : Greed}
    {k : Cont} {st r : MState} (h : run text (f + 1) (.rep b lo hi g) k st = some r) :
    ∃ s, Reaches text (f + 1) (.rep b lo hi g) st s ∧ k s = some r := by
  cases g with
  | greedy =>
    rw [run_rep_unit_greedy hb] at h
    split at h
    · cases h
    · obtain ⟨c, hc, hk⟩ := exists_of_tryCounts h
      rw [List.mem_reverse, List.mem_range'_1] at hc
      exact ⟨_, .repUnit hb hc.1 (by omega) (fun h => by cases h), hk⟩
  | lazy =>
    rw [run_rep_unit_lazy hb] at h
    split at h
    · cases h
    · obtain ⟨c, hc, hk⟩ := exists_of_tryCounts h
      rw [List.mem_range'_1] at hc
      exact ⟨_, .repUnit hb hc.1 (by omega) (fun h => by cases h), hk⟩
  | possessive =>
    rw [run_rep_unit_possessive hb] at h
    split at h
    · cases h
    · exact ⟨_, .repUnit hb (by omega) (le_refl _) (fun _ => rfl), h⟩

theorem runSound_succ (hr : RunSound text f) (hs : SeqSound text f) (ha : AltSound text f)
    (hl : LoopSound text f) : RunSound text (f + 1) := by
  intro n k st r hn h
  cases n with
  | empty =>
    rw [run_empty] at h
    exact ⟨st, .empty, h⟩
  | char c m => exact unit_sound rfl h
  | any d => exact unit_sound rfl h
  | set neg items m => exact unit_sound rfl h
  | anchor a ml asc =>
    rw [run_anchor] at h
    split at h
    · exact ⟨st, .anchor ‹_›, h⟩
    · cases h
  | group i b =>
    rw [run_group] at h
    obtain ⟨s, hb, hk⟩ := hr b _ st r hn h
    exact ⟨_, .group hb, hk⟩
  | seq ns =>
    rw [run_seq] at h
    obtain ⟨s, hns, hk⟩ := hs ns k st r hn h
    exact ⟨s, .seq hns, hk⟩
  | alt bs =>
    rw [run_alt] at h
    obtain ⟨s, hbs, hk⟩ := ha bs k st r hn h
    exact ⟨s, .alt hbs, hk⟩
  | rep b lo hi g =>
    simp only [Node.simple, Bool.and_eq_true, Bool.or_eq_true, bne_iff_ne, ne_eq] at hn
    by_cases hb : b.isUnit
    · exact repUnit_sound hb h
    · have hb' : b.isUnit = false := by simpa using hb
      -- a repetition of more than one character is greedy or lazy, and runs its loop
      have hg : g ≠ .possessive := fun hg => by simp [hg, hb] at hn
      cases g with
      | greedy =>
        rw [run_rep_loop_greedy hb'] at h
        obtain ⟨s, hloop, hk⟩ := hl b lo hi true k 0 none st r hn.1 h
        exact ⟨s, .repLoop hb' hg hloop, hk⟩
      | lazy =>
        rw [run_rep_loop_lazy hb'] at h
        obtain ⟨s, hloop, hk⟩ := hl b lo hi false k 0 none st r hn.1 h
        exact ⟨s, .repLoop hb' hg hloop, hk⟩
      | possessive => exact absurd rfl hg
  | backref i m => simp [Node.simple] at hn
  | atomic b => simp [Node.simple] at hn
  | look behind neg w b => simp [Node.simple] at hn
  | ifGroup i y no => simp [Node.simple] at hn

variable (text) in
/-- **Soundness.** With any fuel, whatever the matcher gives for a simple node, a sequence,
branches or the loop of a repetition, the continuation gave at a state they reach. The
induction is on the fuel, which each step of the matcher and each rule of the relation use. -/
theorem run_sound : ∀ f, RunSound text f ∧ SeqSound text f ∧ AltSound text f ∧ LoopSound text f
  | 0 => by
    refine ⟨fun _ _ _ _ _ h => ?_, fun _ _ _ _ _ h => ?_, fun _ _ _ _ _ h => ?_,
      fun _ _ _ _ _ _ _ _ _ _ h => ?_⟩
    · rw [run] at h; cases h
    · rw [runSeq] at h; cases h
    · rw [runAlt] at h; cases h
    · rw [repeatLoop] at h; cases h
  | f + 1 => by
    obtain ⟨hr, hs, ha, hl⟩ := run_sound f
    exact ⟨runSound_succ hr hs ha hl, seqSound_succ hr hs, altSound_succ hr ha,
      loopSound_succ hr hl⟩

end Sound

/-! ### Completeness: where a node reaches, the matcher finds a match -/

section Complete

variable (text : Array Char) (f : Nat)

/-- With fuel `f`, the matcher succeeds when the node reaches a state at which the
continuation succeeds. -/
def RunComplete : Prop :=
  ∀ n st s k, Reaches text f n st s → (k s).isSome → (run text f n k st).isSome

/-- The same for a sequence. -/
def SeqComplete : Prop :=
  ∀ ns st s k, ReachesSeq text f ns st s → (k s).isSome → (runSeq text f ns k st).isSome

/-- The same for branches. -/
def AltComplete : Prop :=
  ∀ bs st s k, ReachesAlt text f bs st s → (k s).isSome → (runAlt text f bs k st).isSome

/-- The same for the loop of a repetition, whatever its greed. -/
def LoopComplete : Prop :=
  ∀ b lo hi greedy count last st s k, ReachesLoop text f b lo hi count last st s → (k s).isSome →
    (repeatLoop text f b lo hi greedy k count last st).isSome

variable {text f}

theorem seqComplete_succ (hr : RunComplete text f) (hs : SeqComplete text f) :
    SeqComplete text (f + 1) := by
  intro ns st s k h hk
  cases h with
  | nil => rwa [runSeq_nil]
  | cons hn hrest =>
    rw [runSeq_cons]
    exact hr _ _ _ _ hn (hs _ _ _ _ hrest hk)

theorem altComplete_succ (hr : RunComplete text f) (ha : AltComplete text f) :
    AltComplete text (f + 1) := by
  intro bs st s k h hk
  cases h with
  | head hb =>
    rw [runAlt_cons, Option.isSome_or, Bool.or_eq_true]
    exact .inl (hr _ _ _ _ hb hk)
  | tail hbs =>
    rw [runAlt_cons, Option.isSome_or, Bool.or_eq_true]
    exact .inr (ha _ _ _ _ hbs hk)

theorem loopComplete_succ (hr : RunComplete text f) (hl : LoopComplete text f) :
    LoopComplete text (f + 1) := by
  intro b lo hi greedy count last st s k h hk
  rw [repeatLoop_succ]
  cases h with
  | must hc h₁ hrest =>
    rw [if_pos hc]
    exact hr _ _ _ _ h₁ (hl _ _ _ _ _ _ _ _ _ hrest hk)
  | stop hc =>
    rw [if_neg (by omega)]
    cases greedy <;> simp [Option.isSome_or, hk]
  | more hc hmore h₁ hrest =>
    rw [if_neg (by omega)]
    have hagain := hr _ _ _ _ h₁ (hl b lo hi greedy (count + 1) (some st.pos) _ _ k hrest hk)
    cases greedy <;> simp [Option.isSome_or, hmore, hagain]

theorem runComplete_succ (hr : RunComplete text f) (hs : SeqComplete text f)
    (ha : AltComplete text f) (hl : LoopComplete text f) : RunComplete text (f + 1) := by
  intro n st s k h hk
  cases h with
  | empty => rwa [run_empty]
  | unit hn ht => rwa [run_unit hn, if_pos ht]
  | anchor ha' => rwa [run_anchor, if_pos ha']
  | group hb =>
    rw [run_group]
    exact hr _ _ _ _ hb hk
  | seq hns =>
    rw [run_seq]
    exact hs _ _ _ _ hns hk
  | alt hbs =>
    rw [run_alt]
    exact ha _ _ _ _ hbs hk
  | @repUnit _ b lo hi g _ c hb hlo hc hg =>
    cases g with
    | greedy =>
      rw [run_rep_unit_greedy hb, if_neg (by omega)]
      exact tryCounts_isSome_of_mem hk (by rw [List.mem_reverse, List.mem_range'_1]; omega)
    | lazy =>
      rw [run_rep_unit_lazy hb, if_neg (by omega)]
      exact tryCounts_isSome_of_mem hk (by rw [List.mem_range'_1]; omega)
    | possessive =>
      rw [run_rep_unit_possessive hb, if_neg (by omega), ← hg rfl]
      exact hk
  | repLoop hb hg hloop =>
    cases ‹Greed› with
    | greedy =>
      rw [run_rep_loop_greedy hb]
      exact hl _ _ _ _ _ _ _ _ _ hloop hk
    | lazy =>
      rw [run_rep_loop_lazy hb]
      exact hl _ _ _ _ _ _ _ _ _ hloop hk
    | possessive => exact absurd rfl hg

variable (text) in
/-- **Completeness.** With any fuel, when a node, a sequence, branches or the loop of a
repetition reach a state at which the continuation succeeds, the matcher succeeds. -/
theorem run_complete : ∀ f, RunComplete text f ∧ SeqComplete text f ∧ AltComplete text f ∧
    LoopComplete text f
  | 0 => by
    refine ⟨?_, ?_, ?_, ?_⟩ <;> intro _ _ _ _ <;> intros <;> rename_i h _ <;> cases h
  | f + 1 => by
    obtain ⟨hr, hs, ha, hl⟩ := run_complete f
    exact ⟨runComplete_succ hr hs ha hl, seqComplete_succ hr hs, altComplete_succ hr ha,
      loopComplete_succ hr hl⟩

end Complete

/-! ### More fuel -/

section Mono

variable (text : Array Char)

/-- Every derivation with fuel `f` is one with any more fuel. -/
def FuelMono (f : Nat) : Prop :=
  (∀ n st s, Reaches text f n st s → ∀ g, f ≤ g → Reaches text g n st s) ∧
  (∀ ns st s, ReachesSeq text f ns st s → ∀ g, f ≤ g → ReachesSeq text g ns st s) ∧
  (∀ bs st s, ReachesAlt text f bs st s → ∀ g, f ≤ g → ReachesAlt text g bs st s) ∧
  (∀ b lo hi count last st s, ReachesLoop text f b lo hi count last st s → ∀ g, f ≤ g →
    ReachesLoop text g b lo hi count last st s)

/-- Fuel can be raised; the induction is on the fuel, each rule using one step of it. -/
theorem fuelMono : ∀ f, FuelMono text f
  | 0 => ⟨fun _ _ _ h => (by cases h), fun _ _ _ h => (by cases h), fun _ _ _ h => (by cases h),
      fun _ _ _ _ _ _ _ h => (by cases h)⟩
  | f + 1 => by
    obtain ⟨hr, hs, ha, hl⟩ := fuelMono f
    refine ⟨?_, ?_, ?_, ?_⟩
    · intro n st s h g hg
      obtain ⟨g, rfl⟩ : ∃ g', g = g' + 1 := ⟨g - 1, by omega⟩
      have hfg : f ≤ g := by omega
      cases h with
      | empty => exact .empty
      | unit hn ht => exact .unit hn ht
      | anchor h => exact .anchor h
      | group h => exact .group (hr _ _ _ h g hfg)
      | seq h => exact .seq (hs _ _ _ h g hfg)
      | alt h => exact .alt (ha _ _ _ h g hfg)
      | repUnit hb hlo hc hg' => exact .repUnit hb hlo hc hg'
      | repLoop hb hg' h => exact .repLoop hb hg' (hl _ _ _ _ _ _ _ h g hfg)
    · intro ns st s h g hg
      obtain ⟨g, rfl⟩ : ∃ g', g = g' + 1 := ⟨g - 1, by omega⟩
      have hfg : f ≤ g := by omega
      cases h with
      | nil => exact .nil
      | cons hn hrest => exact .cons (hr _ _ _ hn g hfg) (hs _ _ _ hrest g hfg)
    · intro bs st s h g hg
      obtain ⟨g, rfl⟩ : ∃ g', g = g' + 1 := ⟨g - 1, by omega⟩
      have hfg : f ≤ g := by omega
      cases h with
      | head hb => exact .head (hr _ _ _ hb g hfg)
      | tail hbs => exact .tail (ha _ _ _ hbs g hfg)
    · intro b lo hi count last st s h g hg
      obtain ⟨g, rfl⟩ : ∃ g', g = g' + 1 := ⟨g - 1, by omega⟩
      have hfg : f ≤ g := by omega
      cases h with
      | must hc h₁ hrest => exact .must hc (hr _ _ _ h₁ g hfg) (hl _ _ _ _ _ _ _ hrest g hfg)
      | stop hc => exact .stop hc
      | more hc hmore h₁ hrest =>
        exact .more hc hmore (hr _ _ _ h₁ g hfg) (hl _ _ _ _ _ _ _ hrest g hfg)

variable {text}

theorem Reaches.mono {f g : Nat} {n : Node} {st s : MState} (h : Reaches text f n st s)
    (hfg : f ≤ g) : Reaches text g n st s :=
  (fuelMono text f).1 n st s h g hfg

theorem ReachesSeq.mono {f g : Nat} {ns : List Node} {st s : MState}
    (h : ReachesSeq text f ns st s) (hfg : f ≤ g) : ReachesSeq text g ns st s :=
  (fuelMono text f).2.1 ns st s h g hfg

theorem ReachesAlt.mono {f g : Nat} {bs : List Node} {st s : MState}
    (h : ReachesAlt text f bs st s) (hfg : f ≤ g) : ReachesAlt text g bs st s :=
  (fuelMono text f).2.2.1 bs st s h g hfg

theorem ReachesLoop.mono {f g : Nat} {b : Node} {lo : Nat} {hi : Option Nat} {count : Nat}
    {last : Option Nat} {st s : MState} (h : ReachesLoop text f b lo hi count last st s)
    (hfg : f ≤ g) : ReachesLoop text g b lo hi count last st s :=
  (fuelMono text f).2.2.2 b lo hi count last st s h g hfg

end Mono

/-! ### Finding a simple pattern -/

section Find

variable {r : Regex} (hr : r.node.simple) (text : Array Char)
include hr

/-- **A simple pattern matches at a place exactly when its node reaches some state from
there** within the fuel the matcher is given. -/
theorem Regex.matchAt_isSome_iff (p : Nat) :
    (r.matchAt text p).isSome ↔
      ∃ s, Reaches text (r.fuelFor text.size) r.node ⟨p, Array.replicate r.groups none⟩ s := by
  rw [Regex.matchAt_eq, Option.isSome_map]
  constructor
  · intro h
    obtain ⟨m, hm⟩ := Option.isSome_iff_exists.mp h
    obtain ⟨s, hs, -⟩ := (run_sound text _).1 _ _ _ _ hr hm
    exact ⟨s, hs⟩
  · rintro ⟨s, hs⟩
    exact (run_complete text _).1 _ _ _ _ hs rfl

/-- **A simple pattern is found in a text exactly when its node reaches some state from some
place of the text.** -/
theorem Regex.search_zero_isSome_iff_reaches :
    (r.search text 0).isSome ↔ ∃ p ≤ text.size,
      ∃ s, Reaches text (r.fuelFor text.size) r.node ⟨p, Array.replicate r.groups none⟩ s := by
  rw [Regex.search_zero_isSome_iff]
  constructor
  · rintro ⟨p, hp, hm⟩
    exact ⟨p, hp, (Regex.matchAt_isSome_iff hr text p).mp hm⟩
  · rintro ⟨p, hp, hs⟩
    exact ⟨p, hp, (Regex.matchAt_isSome_iff hr text p).mpr hs⟩

end Find

end Scripture.Pattern
