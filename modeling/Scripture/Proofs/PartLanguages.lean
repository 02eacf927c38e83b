import Mathlib
import Scripture.Proofs.NodeLanguages

/-!
# The places a written pattern reads between

A pattern written as `Part`s is read into the node `Part.node` builds, numbering its capturing
groups from a given number on. Which places the node reads between does not depend on that
number, so the relation of a part is stated for every numbering: `PartDenotes text f p R`, and
`SeqPartsDenote`, `AltPartsDenote` for parts one after another and for branches. Each lemma here
builds the relation of a written form from the relations of its pieces, so the relation of a whole
pattern follows its text.

* `Part.node_simple` — every pattern written as parts is simple: it has no back reference,
  look-around or possessive repetition, so `Regex.search_zero_isSome_iff_denotes` applies.
* `partDenotes_group`, `seqPartsDenote_cons`, `altPartsDenote_cons` — groups, sequences and
  branches.
* `partDenotes_repUnit`, `partDenotes_opt`, `partDenotes_star`, `partDenotes_plus` —
  repetitions of one character and of longer parts.
-/

namespace Scripture.Pattern

open Relation

/-! ### Written patterns are simple -/

section Simple

variable {f : Flags}

theorem seqNode_simple {ns : List Node} (h : simpleList ns = true) : (seqNode ns).simple = true := by
  rcases ns with _ | ⟨n, _ | ⟨m, ns⟩⟩
  · rfl
  · simpa [seqNode, simpleList] using h
  · simpa [seqNode, Node.simple] using h

theorem altNode_simple {ns : List Node} (h : simpleList ns = true) : (altNode ns).simple = true := by
  rcases ns with _ | ⟨n, _ | ⟨m, ns⟩⟩
  · rfl
  · simpa [altNode, simpleList] using h
  · simpa [altNode, Node.simple] using h

theorem escNode_simple (c : Char) : (escNode f c).simple = true := by
  unfold escNode
  split
  all_goals try rfl
  split <;> rfl

theorem greedOf_ne (lazy : Bool) : greedOf lazy ≠ .possessive := by
  cases lazy <;> simp [greedOf]

mutual

/-- The node of a written part is simple: a repetition is read greedy or lazy, never
possessive. -/
theorem Part.node_simple : ∀ (g : Nat) (p : Part), (p.node f g).1.simple = true
  | _, .lit _ => rfl
  | _, .esc c => escNode_simple c
  | _, .cls .. => rfl
  | g, .group true bs => by
    simpa [Part.node, Node.simple] using altNode_simple (altNodes_simple (g + 1) bs)
  | g, .group false bs => by
    simpa [Part.node] using altNode_simple (altNodes_simple g bs)
  | g, .rep p q lazy => by
    simp [Part.node, Node.simple, Part.node_simple g p, greedOf_ne lazy]

theorem seqNodes_simple : ∀ (g : Nat) (ps : List Part), simpleList (seqNodes f g ps).1 = true
  | _, [] => rfl
  | g, p :: ps => by
    simp [seqNodes, simpleList, Part.node_simple g p, seqNodes_simple _ ps]

theorem altNodes_simple : ∀ (g : Nat) (bs : List (List Part)), simpleList (altNodes f g bs).1 = true
  | _, [] => rfl
  | g, b :: bs => by
    simp [altNodes, simpleList, seqNode_simple (seqNodes_simple g b), altNodes_simple _ bs]

end

end Simple

/-! ### Relations of written parts -/

section Parts

variable (text : Array Char) (f : Flags)

/-- `PartDenotes text f p R`: read under the flags `f`, the part `p` reads from place `i` to place
`j` exactly when `R i j`, whatever number its first group gets. -/
def PartDenotes (p : Part) (R : Nat → Nat → Prop) : Prop := ∀ g, Denotes text (p.node f g).1 R

/-- The same for parts one after another. -/
def SeqPartsDenote (ps : List Part) (R : Nat → Nat → Prop) : Prop :=
  ∀ g, SeqDenotes text (seqNodes f g ps).1 R

/-- The same for branches, one of which is taken. -/
def AltPartsDenote (bs : List (List Part)) (R : Nat → Nat → Prop) : Prop :=
  ∀ g, AltDenotes text (altNodes f g bs).1 R

variable {text f}

theorem PartDenotes.of_iff {p : Part} {R S : Nat → Nat → Prop} (h : PartDenotes text f p R)
    (e : ∀ i j, R i j ↔ S i j) : PartDenotes text f p S :=
  fun g => (h g).of_iff e

theorem SeqPartsDenote.of_iff {ps : List Part} {R S : Nat → Nat → Prop} (h : SeqPartsDenote text f ps R)
    (e : ∀ i j, R i j ↔ S i j) : SeqPartsDenote text f ps S :=
  fun g => (h g).of_iff e

theorem AltPartsDenote.of_iff {bs : List (List Part)} {R S : Nat → Nat → Prop}
    (h : AltPartsDenote text f bs R) (e : ∀ i j, R i j ↔ S i j) : AltPartsDenote text f bs S :=
  fun g => { sound := fun hr => (e _ _).mp ((h g).sound hr)
             complete := fun hs => (h g).complete ((e _ _).mpr hs) }

/-- A part whose node does not depend on the numbering reads as its node does. -/
theorem partDenotes_of_node {p : Part} {n : Node} (hn : ∀ g, (p.node f g).1 = n) {R : Nat → Nat → Prop}
    (h : Denotes text n R) : PartDenotes text f p R := by
  intro g
  rw [hn g]
  exact h

theorem partDenotes_lit (c : Char) :
    PartDenotes text f (.lit c) fun i j => j = i + 1 ∧ (text[i]?).any (charHolds (f.charMode c) c) :=
  partDenotes_of_node (fun _ => rfl) (denotes_unit rfl)

theorem partDenotes_boundary :
    PartDenotes text f (.esc 'b') fun i j => j = i ∧ anchorHolds text .boundary f.multiline f.ascii i :=
  partDenotes_of_node (fun _ => rfl) (denotes_anchor _ _ _)

theorem seqPartsDenote_nil : SeqPartsDenote text f [] fun i j => j = i :=
  fun _ => seqDenotes_nil

theorem seqPartsDenote_cons {p : Part} {ps : List Part} {R S : Nat → Nat → Prop}
    (h : PartDenotes text f p R) (t : SeqPartsDenote text f ps S) :
    SeqPartsDenote text f (p :: ps) (Comp R S) :=
  fun g => seqDenotes_cons (h g) (t _)

theorem altPartsDenote_nil : AltPartsDenote text f [] fun _ _ => False :=
  fun _ => altDenotes_nil

theorem altPartsDenote_cons {b : List Part} {bs : List (List Part)} {R S : Nat → Nat → Prop}
    (h : SeqPartsDenote text f b R) (t : AltPartsDenote text f bs S) :
    AltPartsDenote text f (b :: bs) fun i j => R i j ∨ S i j :=
  fun g => altDenotes_cons (denotes_seqNode (h g)) (t _)

/-- A group reads as its branches do, capturing or not. -/
theorem partDenotes_group {bs : List (List Part)} {R : Nat → Nat → Prop} (h : AltPartsDenote text f bs R)
    (cap : Bool) : PartDenotes text f (.group cap bs) R := by
  intro g
  cases cap with
  | false => exact denotes_altNode (h g)
  | true => exact denotes_group (denotes_altNode (h (g + 1))) g

/-! #### Repetitions -/

/-- A repetition with no upper bound of a part that reads one character. -/
theorem partDenotes_repUnit {p : Part} {n : Node} (hp : ∀ g, (p.node f g).1 = n) (hn : n.isUnit)
    {q : Quant} (hq : q.hi = none) (lazy : Bool) :
    PartDenotes text f (.rep p q lazy) fun i j =>
      i + q.lo ≤ j ∧ ∀ k, i ≤ k → k < j → (text[k]?).any (unitHolds · n) := by
  intro g
  simp only [Part.node, hp, hq]
  exact denotes_repUnit hn q.lo (greedOf_ne lazy)

/-- A repetition at most once of a part that reads one character: nothing, or that character. -/
theorem partDenotes_opt {p : Part} {n : Node} (hp : ∀ g, (p.node f g).1 = n) (hn : n.isUnit)
    (lazy : Bool) :
    PartDenotes text f (.rep p .opt lazy) fun i j => j = i ∨ j = i + 1 ∧ (text[i]?).any (unitHolds · n) := by
  intro g
  simp only [Part.node, hp, Quant.lo, Quant.hi]
  constructor
  · intro F st s hr
    cases hr with
    | unit hu _ => simp [Node.isUnit] at hu
    | @repUnit _ _ _ _ _ _ c _ _ hc _ =>
      have hle : unitRun text n st.pos (unitLimit text (some 1) st.pos) ≤ 1 :=
        le_trans unitRun_le (by simp [unitLimit])
      rcases Nat.le_one_iff_eq_zero_or_eq_one.mp (le_trans hc hle) with rfl | rfl
      · exact .inl rfl
      · exact .inr ⟨rfl, by simpa using unitRun_holds_le hc st.pos le_rfl (by omega)⟩
    | repLoop hb _ _ => simp [hn] at hb
  · rintro i j hij st rfl F hF
    obtain ⟨F, rfl⟩ : ∃ F', F = F' + 1 := ⟨F - 1, by simp only [Node.size] at hF; omega⟩
    rcases hij with rfl | ⟨rfl, ht⟩
    · exact ⟨_, by simp, .repUnit hn (Nat.zero_le 0) (Nat.zero_le _) fun h => absurd h (greedOf_ne lazy)⟩
    · have hsize : 1 ≤ text.size - st.pos := by
        cases hx : text[st.pos]? with
        | none => simp [hx] at ht
        | some x => have := (getElem?_eq_some_iff.mp hx).1; omega
      have hc := le_unitRun (unitLimit text (some 1) st.pos) st.pos 1 (by simp [unitLimit]; omega)
        fun k hk => by simpa [show k = 0 by omega] using ht
      exact ⟨_, rfl, .repUnit hn (Nat.zero_le 1) hc fun h => absurd h (greedOf_ne lazy)⟩

/-- A repetition, any number of times, of a part that reads more than one character. -/
theorem partDenotes_star {p : Part} {R : Nat → Nat → Prop} (h : PartDenotes text f p R)
    (hu : ∀ g, (p.node f g).1.isUnit = false) (lazy : Bool) :
    PartDenotes text f (.rep p .star lazy) (ReflTransGen R) := by
  intro g
  exact denotes_repLoop (hu g) (greedOf_ne lazy) (h g)

/-- A repetition, at least once, of a part that reads more than one character. -/
theorem partDenotes_plus {p : Part} {R : Nat → Nat → Prop} (h : PartDenotes text f p R)
    (hu : ∀ g, (p.node f g).1.isUnit = false) (lazy : Bool) :
    PartDenotes text f (.rep p .plus lazy) fun i j => ReflTransGen R i j ∧ (i < j ∨ R i i) := by
  intro g
  exact denotes_repLoop_one (hu g) (greedOf_ne lazy) (h g)

end Parts

end Scripture.Pattern
