import Mathlib
import Scripture.Pattern.Parse

/-!
# Reading simple patterns

`Regex.read` reads the text of a pattern unit by unit, keeping its place in a state and looping
with fuel. This module describes a family of pattern texts by their syntax, `Part`: literal
characters, escapes, bracketed classes, groups of branches (capturing or not) and the
repetitions `*`, `+` and `?`, greedy or lazy. `Part.text` writes a part and `Part.node` gives
the node it stands for, numbering the capturing groups in the order of their parentheses.

Main statement: `Regex.read_altText` — reading the text of well-formed branches gives their
node, and as many groups as they open.

The proof follows the reader. `PState.standAt` is the reader's state standing before the unit
at a place of the text; each primitive (`peek`, `advance`, `accept`, `take`, `tell`) has a lemma
saying where it leaves such a state, each kind of part a lemma for the step of the loop that
reads it, and the loops of a branch, of the branches and of a group are followed by induction on
the fuel, which every nested group uses.
-/

namespace Scripture.Pattern

/-! ### Simple pattern texts -/

/-- The repetition marks. -/
inductive Quant where
  /-- `*`: any number of times. -/
  | star
  /-- `+`: at least once. -/
  | plus
  /-- `?`: at most once. -/
  | opt
deriving DecidableEq, Repr

/-- The character of a repetition mark. -/
def Quant.char : Quant → Char
  | .star => '*'
  | .plus => '+'
  | .opt => '?'

/-- The least count of a repetition mark. -/
def Quant.lo : Quant → Nat
  | .plus => 1
  | _ => 0

/-- The greatest count of a repetition mark, none for no bound. -/
def Quant.hi : Quant → Option Nat
  | .opt => some 1
  | _ => none

/-- The written form of a simple pattern. -/
inductive Part where
  /-- A character written as itself. -/
  | lit (c : Char)
  /-- A backslash and a character: an anchor, a class, or the character itself. -/
  | esc (c : Char)
  /-- A bracketed class of characters and escapes, maybe negated, maybe ending with `-`. -/
  | cls (negated : Bool) (units : List Tok) (dash : Bool)
  /-- A parenthesised group of branches, capturing or not (`(?:`). -/
  | group (capture : Bool) (branches : List (List Part))
  /-- A part repeated, lazily when the mark is followed by `?`. -/
  | rep (p : Part) (q : Quant) (lazy : Bool)
deriving Repr

/-- The characters of a unit. -/
def Tok.chars (t : Tok) : List Char := if t.escaped then ['\\', t.c] else [t.c]

/-- The text of a class after its opening bracket. -/
def classBody (neg : Bool) (us : List Tok) (dash : Bool) : List Char :=
  (if neg then ['^'] else []) ++ us.flatMap Tok.chars ++ (if dash then ['-'] else []) ++ [']']

mutual

/-- The text of a part. -/
def Part.text : Part → List Char
  | .lit c => [c]
  | .esc c => ['\\', c]
  | .cls neg units dash => '[' :: classBody neg units dash
  | .group cap bs => '(' :: ((if cap then [] else ['?', ':']) ++ altText bs ++ [')'])
  | .rep p q lazy => p.text ++ q.char :: (if lazy then ['?'] else [])

/-- The text of parts one after another. -/
def seqText : List Part → List Char
  | [] => []
  | p :: ps => p.text ++ seqText ps

/-- The text of branches, separated by `|`. -/
def altText : List (List Part) → List Char
  | [] => []
  | [b] => seqText b
  | b :: bs => seqText b ++ '|' :: altText bs

end

/-- The node of the escape of a character that stands for itself, an anchor or a class. -/
def escNode (f : Flags) (c : Char) : Node :=
  match c with
  | 'A' => .anchor .textStart f.multiline f.ascii
  | 'Z' => .anchor .textEnd f.multiline f.ascii
  | 'b' => .anchor .boundary f.multiline f.ascii
  | 'B' => .anchor .notBoundary f.multiline f.ascii
  | _ =>
    match categoryEscape? c with
    | some cat => .set false [.category cat] (f.classMode [])
    | none => lit f c

/-- The item of a unit of a class. -/
def Tok.classItem (t : Tok) : ClassItem :=
  if t.escaped then
    match categoryEscape? t.c with
    | some cat => .category cat
    | none => .char t.c
  else .char t.c

/-- The items of a class: its units, then `-` when it ends with one. -/
def classItems (units : List Tok) (dash : Bool) : List ClassItem :=
  units.map Tok.classItem ++ (if dash then [.char '-'] else [])

/-- The node of a class. -/
def classNode (f : Flags) (neg : Bool) (units : List Tok) (dash : Bool) : Node :=
  .set neg (classItems units dash).eraseDups (f.classMode (classItems units dash))

/-- The node of a branch: its part when it has one, else their sequence. -/
def seqNode : List Node → Node
  | [n] => n
  | ns => .seq ns

/-- The node of branches: the branch when there is one, else the choice among them. -/
def altNode : List Node → Node
  | [b] => b
  | bs => .alt bs

/-- The greed a repetition is read with. -/
def greedOf (lazy : Bool) : Greed := if lazy then .lazy else .greedy

mutual

/-- The node of a part whose first capturing group is numbered `g`, and the number after its
last one. -/
def Part.node (f : Flags) : Nat → Part → Node × Nat
  | g, .lit c => (lit f c, g)
  | g, .esc c => (escNode f c, g)
  | g, .cls neg units dash => (classNode f neg units dash, g)
  | g, .group true bs =>
    let r := altNodes f (g + 1) bs
    (.group g (altNode r.1), r.2)
  | g, .group false bs =>
    let r := altNodes f g bs
    (altNode r.1, r.2)
  | g, .rep p q lazy =>
    let r := p.node f g
    (.rep r.1 q.lo q.hi (greedOf lazy), r.2)

/-- The nodes of parts one after another. -/
def seqNodes (f : Flags) : Nat → List Part → List Node × Nat
  | g, [] => ([], g)
  | g, p :: ps =>
    let r := p.node f g
    let rs := seqNodes f r.2 ps
    (r.1 :: rs.1, rs.2)

/-- The nodes of branches. -/
def altNodes (f : Flags) : Nat → List (List Part) → List Node × Nat
  | g, [] => ([], g)
  | g, b :: bs =>
    let r := seqNodes f g b
    let rs := altNodes f r.2 bs
    (seqNode r.1 :: rs.1, rs.2)

end

/-- A character that a pattern reads as itself. -/
def isLitChar (c : Char) : Bool := !".\\[\x7b()*+?^$|".contains c

/-- A character whose escape the reader takes as an anchor, a class, or the character itself,
reading nothing more. -/
def isEscChar (c : Char) : Bool := "bBAZdDsSwW".contains c || (!isAsciiLetter c && !isDec c)

/-- A unit of a class that stands for one character or a class, and is neither the closing
bracket nor a range. -/
def Tok.isClassUnit (t : Tok) : Bool :=
  if t.escaped then "dDsSwW".contains t.c || (!isAsciiLetter t.c && !isDec t.c)
  else t.c != ']' && t.c != '-' && t.c != '^' && t.c != '\\'

/-- Whether a part may be repeated: it is not an anchor and not a repetition already. -/
def Part.repeatable : Part → Bool
  | .lit _ | .cls .. | .group .. => true
  | .esc c => !"bBAZ".contains c
  | .rep .. => false

mutual

/-- Whether a part is written as the reader reads it: its characters, escapes and class units
are of the kinds above, its classes and groups are not empty, and it repeats only what may be
repeated. -/
def Part.wf : Part → Bool
  | .lit c => isLitChar c
  | .esc c => isEscChar c
  | .cls _ units _ => !units.isEmpty && units.all Tok.isClassUnit
  | .group _ bs => !bs.isEmpty && altWf bs
  | .rep p _ _ => p.repeatable && p.wf

/-- Whether every part of a branch is well formed. -/
def seqWf : List Part → Bool
  | [] => true
  | p :: ps => p.wf && seqWf ps

/-- Whether every part of every branch is well formed. -/
def altWf : List (List Part) → Bool
  | [] => true
  | b :: bs => seqWf b && altWf bs

end

/-! ### The reader's place -/

/-- The unit at place `p` of a pattern text, if one can be read there. -/
def unitAt (src : Array Char) (p : Nat) : Option Tok :=
  match tokAt src p with
  | .ok (t, _) => t
  | .error _ => none

/-- The place after the unit at place `p`. -/
def placeAfter (src : Array Char) (p : Nat) : Nat :=
  match tokAt src p with
  | .ok (_, j) => j
  | .error _ => p

/-- The reader's state standing before the unit at place `p` of the pattern. -/
def PState.standAt (s : PState) (p : Nat) : PState :=
  { s with next := unitAt s.src p, i := placeAfter s.src p }

/-- A pattern text that does not end with a lone backslash, so that a unit can be read at every
place. -/
def Readable (src : Array Char) : Prop := ∀ q, ∃ r, tokAt src q = .ok r

section Place

variable {s : PState} {p q : Nat}

@[simp] theorem standAt_src : (s.standAt p).src = s.src := rfl

@[simp] theorem standAt_groups : (s.standAt p).groups = s.groups := rfl

@[simp] theorem standAt_flags : (s.standAt p).flags = s.flags := rfl

@[simp] theorem standAt_next : (s.standAt p).next = unitAt s.src p := rfl

@[simp] theorem standAt_i : (s.standAt p).i = placeAfter s.src p := rfl

@[simp] theorem standAt_standAt : (s.standAt p).standAt q = s.standAt q := rfl

@[simp] theorem standAt_closed : (s.standAt p).closed = s.closed := rfl

@[simp] theorem standAt_names : (s.standAt p).names = s.names := rfl

@[simp] theorem standAt_condRefs : (s.standAt p).condRefs = s.condRefs := rfl

@[simp] theorem standAt_lookbehind : (s.standAt p).lookbehind = s.lookbehind := rfl

/-- A state written out field by field that stands at `p` with new groups is `standAt` of them. -/
@[simp] theorem mk_standAt (g : Nat) (cl : List Nat) :
    (⟨s.src, placeAfter s.src p, unitAt s.src p, g, cl, s.names, s.flags, s.condRefs, s.lookbehind⟩ :
      PState) = { s with groups := g, closed := cl }.standAt p := rfl

theorem getElem?_of_drop {src : Array Char} {c : Char} {rest : List Char}
    (h : src.toList.drop p = c :: rest) : src[p]? = some c := by
  rw [← Array.getElem?_toList, ← List.head?_drop, h]
  rfl

/-- A unit written at a place is read there, and the place after it follows. -/
theorem tokAt_of_drop {src : Array Char} {t : Tok} {rest : List Char}
    (h : src.toList.drop p = t.chars ++ rest) (ht : t.escaped = false → t.c ≠ '\\') :
    tokAt src p = .ok (some t, p + t.chars.length) := by
  obtain ⟨c, escaped⟩ := t
  cases escaped with
  | false =>
    have hc : c ≠ '\\' := ht rfl
    have hp : src[p]? = some c := getElem?_of_drop h
    unfold tokAt
    rw [hp]
    split
    · rename_i h'; cases h'
    · rename_i h'; cases h'; exact absurd rfl hc
    · rename_i h'; cases h'; rfl
  | true =>
    have hp : src[p]? = some '\\' := getElem?_of_drop h
    have hp1 : src[p + 1]? = some c := by
      have h1 : src.toList.drop (p + 1) = c :: rest := by
        rw [← List.drop_drop, h]; rfl
      exact getElem?_of_drop h1
    unfold tokAt
    rw [hp]
    simp only [hp1]
    rfl

/-- At the end of the text there is no unit. -/
theorem tokAt_of_drop_nil {src : Array Char} (h : src.toList.drop p = []) :
    tokAt src p = .ok (none, p) := by
  have hp : src[p]? = none := by
    rw [← Array.getElem?_toList, ← List.head?_drop, h]
    rfl
  unfold tokAt
  rw [hp]

theorem unitAt_of_drop {src : Array Char} {t : Tok} {rest : List Char}
    (h : src.toList.drop p = t.chars ++ rest) (ht : t.escaped = false → t.c ≠ '\\') :
    unitAt src p = some t ∧ placeAfter src p = p + t.chars.length := by
  unfold unitAt placeAfter
  rw [tokAt_of_drop h ht]
  exact ⟨rfl, rfl⟩

theorem unitAt_of_drop_nil {src : Array Char} (h : src.toList.drop p = []) :
    unitAt src p = none ∧ placeAfter src p = p := by
  unfold unitAt placeAfter
  rw [tokAt_of_drop_nil h]
  exact ⟨rfl, rfl⟩

theorem drop_append_of_drop {src : List Char} {T rest : List Char} (h : src.drop p = T ++ rest) :
    src.drop (p + T.length) = rest := by
  rw [← List.drop_drop, h, List.drop_left]

/-- A unit read where a character other than `c` is written is not the plain `c`. -/
theorem is_false_of_drop {src : Array Char} {q : Nat} {d c : Char} {r : List Char}
    (h : src.toList.drop q = d :: r) (hd : d ≠ c) (t : Tok) (ht : unitAt src q = some t) :
    t.is c = false := by
  have hq : src[q]? = some d := getElem?_of_drop h
  by_cases hb : d = '\\'
  · subst hb
    cases h1 : src[q + 1]? <;> simp [unitAt, tokAt, hq, h1] at ht
    rw [← ht]
    rfl
  · rw [(unitAt_of_drop (t := ⟨d, false⟩) (h.trans rfl) fun _ => hb).1] at ht
    cases ht
    simp [Tok.is, hd]

theorem unitAt_of_drop_plain {src : Array Char} {q : Nat} {c : Char} {rest : List Char}
    (h : src.toList.drop q = c :: rest) (hc : c ≠ '\\') :
    unitAt src q = some ⟨c, false⟩ ∧ placeAfter src q = q + 1 :=
  unitAt_of_drop (t := ⟨c, false⟩) (h.trans rfl) fun _ => hc

theorem Tok.not_is_of_drop {src : Array Char} {q : Nat} {u : Tok} {c : Char} {rest : List Char}
    (h : src.toList.drop q = u.chars ++ rest) (hu : u.escaped = false → u.c ≠ '\\') (hc : u.is c = false) :
    ∀ t, unitAt src q = some t → t.is c = false := by
  intro t ht
  rw [(unitAt_of_drop h hu).1] at ht
  cases ht
  exact hc

end Place

/-! ### The primitives of the reader -/

section Primitives

variable {s : PState} {p : Nat}

@[simp] theorem peek_run (s : PState) : (peek).run s = pure (s.next, s) := rfl

@[simp] theorem get_run (s : PState) : (get : P PState).run s = pure (s, s) := rfl

@[simp] theorem set_run (s s' : PState) : (set s' : P PUnit).run s = pure (PUnit.unit, s') := rfl

/-- Moving past a unit leaves the reader standing before the next one. -/
theorem advance_standAt (hr : Readable s.src) :
    (advance).run (s.standAt p) = pure ((), s.standAt (placeAfter s.src p)) := by
  obtain ⟨⟨t, j⟩, htok⟩ := hr (placeAfter s.src p)
  have hu : unitAt s.src (placeAfter s.src p) = t := by rw [unitAt, htok]
  have hj : placeAfter s.src (placeAfter s.src p) = j := by rw [placeAfter, htok]
  unfold advance
  simp only [StateT.run_bind, get_run, pure_bind, standAt_src, standAt_i]
  rw [show (liftM (tokAt s.src (placeAfter s.src p)) : P (Option Tok × Nat)).run (s.standAt p) =
    pure ((t, j), s.standAt p) by simp [liftM, monadLift, MonadLift.monadLift, htok]; rfl]
  simp only [pure_bind, set_run, PState.standAt, hu, hj]

/-- The reader always stands where its next unit begins. -/
theorem tokAt_place {src : Array Char} {t : Option Tok} {j : Nat} (h : tokAt src p = .ok (t, j)) :
    j = p + (t.map Tok.len).getD 0 := by
  unfold tokAt at h
  split at h
  · cases h; rfl
  · split at h
    · cases h; rfl
    · cases h
  · cases h; rfl

theorem placeAfter_eq (src : Array Char) (p : Nat) :
    placeAfter src p = p + ((unitAt src p).map Tok.len).getD 0 := by
  unfold placeAfter unitAt
  split
  · rename_i t j h; exact tokAt_place h
  · rfl

@[simp] theorem tell_standAt : (tell).run (s.standAt p) = pure (p, s.standAt p) := by
  simp only [tell, StateT.run_bind, get_run, pure_bind, standAt_i, standAt_next, placeAfter_eq,
    Nat.add_sub_cancel]
  rfl

theorem take_standAt (hr : Readable s.src) :
    (take).run (s.standAt p) = pure (unitAt s.src p, s.standAt (placeAfter s.src p)) := by
  simp only [take, StateT.run_bind, peek_run, pure_bind, standAt_next, advance_standAt hr]
  rfl

theorem accept_of_is (hr : Readable s.src) {t : Tok} {c : Char} (ht : unitAt s.src p = some t)
    (hc : t.is c = true) : (accept c).run (s.standAt p) = pure (true, s.standAt (placeAfter s.src p)) := by
  simp only [accept, StateT.run_bind, peek_run, pure_bind, standAt_next, ht, hc, ↓reduceIte,
    advance_standAt hr]
  rfl

theorem accept_of_not (c : Char) (ht : ∀ t, unitAt s.src p = some t → t.is c = false) :
    (accept c).run (s.standAt p) = pure (false, s.standAt p) := by
  simp only [accept, StateT.run_bind, peek_run, pure_bind, standAt_next]
  cases hu : unitAt s.src p with
  | none => rfl
  | some t => simp only [ht t hu, Bool.false_eq_true, ↓reduceIte]; rfl

end Primitives

/-! ### Escapes -/

section Escapes

variable {c : Char} (f : Flags) (s : PState)

/-- A character that is no ASCII letter or digit: its escape stands for itself. -/
structure PlainEscape (c : Char) : Prop where
  not_letter : isAsciiLetter c = false
  not_digit : isDec c = false

theorem PlainEscape.ne {d : Char} (hc : PlainEscape c) (hd : isAsciiLetter d = true ∨ isDec d = true) :
    (c == d) = false := by
  rw [beq_eq_false_iff_ne]
  rintro rfl
  rcases hd with hd | hd
  · rw [hc.not_letter] at hd; cases hd
  · rw [hc.not_digit] at hd; cases hd

theorem PlainEscape.categoryEscape (hc : PlainEscape c) : categoryEscape? c = none := by
  have hl := hc.not_letter
  unfold categoryEscape?
  split <;> simp_all [isAsciiLetter]

/-- Of the plain characters only the backslash has a simple escape, which is itself. -/
theorem PlainEscape.simpleEscape (hc : PlainEscape c) {ch : Char} (hs : simpleEscape? c = some ch) :
    c = '\\' ∧ ch = '\\' := by
  have hl := hc.not_letter
  have hb : c = '\\' := by
    unfold simpleEscape? at hs
    split at hs <;> simp_all [isAsciiLetter]
  subst hb
  cases hs
  exact ⟨rfl, rfl⟩

theorem escNode_of_plain (hc : PlainEscape c) : escNode f c = lit f c := by
  have hl := hc.not_letter
  unfold escNode
  split <;> simp_all [isAsciiLetter, hc.categoryEscape]

theorem escapeNode_of_plain (hc : PlainEscape c) : (escapeNode c f).run s = pure (lit f c, s) := by
  have hl := hc.not_letter
  unfold escapeNode
  split
  · simp [isAsciiLetter] at hl
  · simp [isAsciiLetter] at hl
  · simp [isAsciiLetter] at hl
  · simp [isAsciiLetter] at hl
  · rw [hc.categoryEscape]
    dsimp only
    cases hs : simpleEscape? c with
    | some ch =>
      obtain ⟨rfl, rfl⟩ := hc.simpleEscape hs
      rfl
    | none =>
      simp only [hc.ne (d := 'x') (by decide), hc.ne (d := 'u') (by decide),
        hc.ne (d := 'U') (by decide), hc.ne (d := '0') (by decide), hc.ne (d := 'N') (by decide),
        hc.not_digit, hl, Bool.false_eq_true, ↓reduceIte]
      rfl

theorem plainEscape_of_not_mem {cs : List Char} (h : (cs.contains c || (!isAsciiLetter c && !isDec c)) = true)
    (hk : c ∉ cs) : PlainEscape c := by
  simp only [Bool.or_eq_true, List.contains_iff_mem, hk, false_or, Bool.and_eq_true,
    Bool.not_eq_true'] at h
  exact ⟨h.1, h.2⟩

/-- An escape outside a class is read as the node `escNode` gives, reading nothing more. -/
theorem escapeNode_run (hc : isEscChar c = true) : (escapeNode c f).run s = pure (escNode f c, s) := by
  by_cases hk : c ∈ ['b', 'B', 'A', 'Z', 'd', 'D', 's', 'S', 'w', 'W']
  · simp only [List.mem_cons, List.not_mem_nil, or_false] at hk
    rcases hk with rfl | rfl | rfl | rfl | rfl | rfl | rfl | rfl | rfl | rfl <;> rfl
  · have hp : PlainEscape c := by
      unfold isEscChar at hc
      rw [String.contains_char_eq, show "bBAZdDsSwW".toList =
        ['b', 'B', 'A', 'Z', 'd', 'D', 's', 'S', 'w', 'W'] from rfl] at hc
      exact plainEscape_of_not_mem (by simpa [List.contains_iff_mem] using hc) hk
    rw [escNode_of_plain f hp, escapeNode_of_plain f s hp]

/-- An escape inside a class is read as the item `Tok.classItem` gives, reading nothing more. -/
theorem classEscape_run (hc : Tok.isClassUnit ⟨c, true⟩ = true) :
    ∃ u, (classEscape c).run s = pure (u, s) ∧ u.item = Tok.classItem ⟨c, true⟩ := by
  by_cases hk : c ∈ ['d', 'D', 's', 'S', 'w', 'W']
  · simp only [List.mem_cons, List.not_mem_nil, or_false] at hk
    rcases hk with rfl | rfl | rfl | rfl | rfl | rfl <;> exact ⟨_, rfl, rfl⟩
  · have hp : PlainEscape c := by
      unfold Tok.isClassUnit at hc
      rw [if_pos rfl, String.contains_char_eq, show "dDsSwW".toList =
        ['d', 'D', 's', 'S', 'w', 'W'] from rfl] at hc
      exact plainEscape_of_not_mem (by simpa [List.contains_iff_mem] using hc) hk
    have hitem : Tok.classItem ⟨c, true⟩ = .char c := by
      simp only [Tok.classItem, if_pos, hp.categoryEscape]
    rw [hitem]
    unfold classEscape
    cases hs : simpleEscape? c with
    | some ch =>
      obtain ⟨rfl, rfl⟩ := hp.simpleEscape hs
      exact ⟨_, rfl, rfl⟩
    | none =>
      have hoct : isOct c = false := by
        have hd := hp.not_digit
        simp only [isOct, isDec, Bool.and_eq_false_iff, decide_eq_false_iff_not] at hd ⊢
        rcases hd with hd | hd
        · exact .inl hd
        · exact .inr fun h => hd (le_trans h (by decide))
      refine ⟨.char c, ?_, rfl⟩
      simp only [hp.ne (d := 'b') (by decide), hp.categoryEscape, hp.ne (d := 'x') (by decide),
        hp.ne (d := 'u') (by decide), hp.ne (d := 'U') (by decide), hoct,
        hp.ne (d := 'N') (by decide), hp.not_digit, hp.not_letter, Bool.false_eq_true,
        Bool.or_self, ↓reduceIte]
      rfl

end Escapes

/-! ### Loops

The reader's loops run their body over `List.range (fuel + 1)`, ignoring the index; a loop that
has `k` steps left to take and more room than that gives the same as the rest of the loop after
those steps. -/

section Loop

variable {β : Type} {step : β → P (ForInStep β)} {b b' : β} {st st' : PState}

theorem forIn_cons_yield (x : Nat) (xs : List Nat) (h : (step b).run st = pure (.yield b', st')) :
    (forIn (x :: xs) b fun _ σ => step σ).run st = (forIn xs b' fun _ σ => step σ).run st' := by
  rw [List.forIn_cons, StateT.run_bind, h, pure_bind]

theorem forIn_cons_done (x : Nat) (xs : List Nat) (h : (step b).run st = pure (.done b', st')) :
    (forIn (x :: xs) b fun _ σ => step σ).run st = pure (b', st') := by
  rw [List.forIn_cons, StateT.run_bind, h, pure_bind]
  rfl

/-- One step that goes on moves the loop one place along its list. -/
theorem forIn_yield {xs : List Nat} (hx : 0 < xs.length) (h : (step b).run st = pure (.yield b', st')) :
    (forIn xs b fun _ σ => step σ).run st = (forIn (xs.drop 1) b' fun _ σ => step σ).run st' := by
  obtain ⟨x, xs, rfl⟩ := List.exists_cons_of_length_pos hx
  exact forIn_cons_yield x xs h

/-- One step that stops ends the loop. -/
theorem forIn_done {xs : List Nat} (hx : 0 < xs.length) (h : (step b).run st = pure (.done b', st')) :
    (forIn xs b fun _ σ => step σ).run st = pure (b', st') := by
  obtain ⟨x, xs, rfl⟩ := List.exists_cons_of_length_pos hx
  exact forIn_cons_done x xs h

end Loop

/-! ### Classes -/

section Classes

variable {s : PState} {p : Nat} {here : Nat} {items : List ClassItem} {rest : List Char}

theorem classStep_unit (hr : Readable s.src) {u : Tok} (hu : u.isClassUnit = true)
    (h : s.src.toList.drop p = u.chars ++ rest)
    (hnext : ∀ t, unitAt s.src (p + u.chars.length) = some t → t.is '-' = false) :
    (classStep here items).run (s.standAt p) =
      pure (.yield (items ++ [u.classItem]), s.standAt (p + u.chars.length)) := by
  obtain ⟨c, e⟩ := u
  have hne : (⟨c, e⟩ : Tok).escaped = false → (⟨c, e⟩ : Tok).c ≠ '\\' := by
    intro he; subst he; simp_all [Tok.isClassUnit]
  obtain ⟨hu1, hu2⟩ := unitAt_of_drop h hne
  unfold classStep
  have hclose : (⟨c, e⟩ : Tok).is ']' = false := by
    cases e <;> simp_all [Tok.isClassUnit, Tok.is]
  have hdash := accept_of_not (s := s) (p := p + (⟨c, e⟩ : Tok).chars.length) '-' hnext
  simp only [StateT.run_bind, take_standAt hr, hu1, hu2, pure_bind, hclose, Bool.false_and,
    Bool.false_eq_true, ↓reduceIte]
  cases e with
  | false =>
    simp only [Bool.false_eq_true, ↓reduceIte, StateT.run_bind, hdash, pure_bind]
    rfl
  | true =>
    obtain ⟨u1, hu1, hitem⟩ := classEscape_run (s.standAt (p + (⟨c, true⟩ : Tok).chars.length)) hu
    simp only [↓reduceIte, StateT.run_bind, hu1, hdash, pure_bind, Bool.false_eq_true, hitem]
    rfl

theorem classStep_dash (hr : Readable s.src) {u : Tok} (hu : u.isClassUnit = true)
    (h : s.src.toList.drop p = u.chars ++ '-' :: ']' :: rest) :
    (classStep here items).run (s.standAt p) =
      pure (.done (items ++ [u.classItem, .char '-']), s.standAt (p + u.chars.length + 2)) := by
  obtain ⟨c, e⟩ := u
  have hne : (⟨c, e⟩ : Tok).escaped = false → (⟨c, e⟩ : Tok).c ≠ '\\' := by
    intro he; subst he; simp_all [Tok.isClassUnit]
  obtain ⟨hu1, hu2⟩ := unitAt_of_drop h hne
  have h1 := drop_append_of_drop h
  obtain ⟨hd1, hd2⟩ := unitAt_of_drop_plain h1 (by decide)
  have h2 : s.src.toList.drop (p + (⟨c, e⟩ : Tok).chars.length + 1) = ']' :: rest := by
    rw [← List.drop_drop, h1]; rfl
  obtain ⟨hc1, hc2⟩ := unitAt_of_drop_plain h2 (by decide)
  have hclose : (⟨c, e⟩ : Tok).is ']' = false := by
    cases e <;> simp_all [Tok.isClassUnit, Tok.is]
  have hdash := accept_of_is (s := s) (p := p + (⟨c, e⟩ : Tok).chars.length) (c := '-') hr hd1 (by decide)
  unfold classStep
  simp only [StateT.run_bind, take_standAt hr, hu1, hu2, pure_bind, hclose, Bool.false_and,
    Bool.false_eq_true, ↓reduceIte]
  cases e with
  | false =>
    simp only [Bool.false_eq_true, ↓reduceIte, StateT.run_bind, hdash, pure_bind, take_standAt hr,
      hd2, hc1, hc2]
    rfl
  | true =>
    obtain ⟨u1, hu1, hitem⟩ := classEscape_run (s.standAt (p + (⟨c, true⟩ : Tok).chars.length)) hu
    simp only [↓reduceIte, StateT.run_bind, hu1, hdash, pure_bind, take_standAt hr, hd2, hc1, hc2,
      hitem]
    rfl

theorem classStep_close (hr : Readable s.src) (h : s.src.toList.drop p = ']' :: rest) (hne : items ≠ []) :
    (classStep here items).run (s.standAt p) = pure (.done items, s.standAt (p + 1)) := by
  obtain ⟨hu1, hu2⟩ := unitAt_of_drop_plain h (by decide)
  have hitems : items.isEmpty = false := List.isEmpty_eq_false_iff.mpr hne
  simp only [classStep, StateT.run_bind, take_standAt hr, hu1, hu2, pure_bind, hitems]
  rfl

theorem Tok.isClassUnit_plain {u : Tok} (hu : u.isClassUnit = true) : u.escaped = false → u.c ≠ '\\' := by
  intro he
  simp_all [Tok.isClassUnit]

theorem Tok.isClassUnit_not_is {u : Tok} (hu : u.isClassUnit = true) {c : Char} (hc : c ∈ [']', '-', '^']) :
    u.is c = false := by
  obtain ⟨d, e⟩ := u
  cases e
  · simp only [List.mem_cons, List.not_mem_nil, or_false] at hc
    simp only [Tok.isClassUnit, Bool.false_eq_true, ↓reduceIte, Bool.and_eq_true, bne_iff_ne, ne_eq] at hu
    simp only [Tok.is, Bool.not_false, beq_eq_false_iff_ne, Bool.true_and, ne_eq]
    rcases hc with rfl | rfl | rfl <;> tauto
  · rfl

/-- The units of a class after the first: each is read as its item, and the class ends at its
closing bracket, after a `-` when it has one. -/
theorem classLoop (hr : Readable s.src) (here : Nat) (dash : Bool) : ∀ (us : List Tok) (items : List ClassItem) (p : Nat)
    (xs : List Nat), us ≠ [] → us.all Tok.isClassUnit = true → us.length < xs.length →
    s.src.toList.drop p = us.flatMap Tok.chars ++ (if dash then ['-'] else []) ++ ']' :: rest →
    (forIn xs items fun _ its => classStep here its).run (s.standAt p) =
      pure (items ++ classItems us dash,
        s.standAt (p + (us.flatMap Tok.chars).length + (if dash then 1 else 0) + 1))
  | [], _, _, _, hne, _, _, _ => absurd rfl hne
  | [u], items, p, xs, _, hall, hlen, h => by
    have hu : u.isClassUnit = true := by simpa using hall
    cases dash with
    | true =>
      have h' : s.src.toList.drop p = u.chars ++ '-' :: ']' :: rest := by simpa using h
      rw [forIn_done (by simp at hlen; omega) (classStep_dash hr hu h')]
      simp [classItems, Tok.chars]
    | false =>
      have h' : s.src.toList.drop p = u.chars ++ ']' :: rest := by simpa using h
      have hnext := Tok.not_is_of_drop (u := ⟨']', false⟩) (drop_append_of_drop h') (fun _ => by decide)
        (c := '-') rfl
      rw [forIn_yield (by simp at hlen; omega) (classStep_unit hr hu h' hnext)]
      rw [forIn_done (by simp at hlen ⊢; omega) (classStep_close hr (drop_append_of_drop h') (by simp))]
      simp [classItems]
  | u :: u' :: us, items, p, xs, _, hall, hlen, h => by
    simp only [List.all_cons, Bool.and_eq_true] at hall
    have h' : s.src.toList.drop p = u.chars ++ ((u' :: us).flatMap Tok.chars ++
        (if dash then ['-'] else []) ++ ']' :: rest) := by simpa using h
    have h'' : s.src.toList.drop (p + u.chars.length) = u'.chars ++ (us.flatMap Tok.chars ++
        (if dash then ['-'] else []) ++ ']' :: rest) := by
      rw [drop_append_of_drop h']; simp
    have hnext := Tok.not_is_of_drop h'' (Tok.isClassUnit_plain hall.2.1)
      (Tok.isClassUnit_not_is hall.2.1 (c := '-') (by simp))
    rw [forIn_yield (by simp at hlen; omega) (classStep_unit hr hall.1 h' hnext)]
    rw [classLoop hr here dash (u' :: us) _ _ _ (by simp) (by simp [hall.2.1, hall.2.2])
      (by simp at hlen ⊢; omega) (by rw [drop_append_of_drop h'])]
    simp [classItems, Nat.add_assoc]

theorem classBody_length (neg : Bool) (us : List Tok) (dash : Bool) :
    (classBody neg us dash).length =
      (if neg then 1 else 0) + (us.flatMap Tok.chars).length + (if dash then 1 else 0) + 1 := by
  cases neg <;> cases dash <;> simp [classBody] <;> omega

/-- A class whose opening bracket has been passed is read whole, given one loop step for each
of its units. -/
theorem readClass_run (hr : Readable s.src) (f : Flags) {neg dash : Bool} {us : List Tok} (hne : us ≠ [])
    (hall : us.all Tok.isClassUnit = true) {fuel : Nat} (hfuel : us.length ≤ fuel)
    (h : s.src.toList.drop p = classBody neg us dash ++ rest) :
    (readClass here f fuel).run (s.standAt p) =
      pure (classNode f neg us dash, s.standAt (p + (classBody neg us dash).length)) := by
  obtain ⟨u, us', rfl⟩ := List.exists_cons_of_ne_nil hne
  have hu : u.isClassUnit = true := by simp_all
  have hunits : s.src.toList.drop (p + (if neg then 1 else 0)) =
      (u :: us').flatMap Tok.chars ++ (if dash then ['-'] else []) ++ ']' :: rest := by
    have h' : s.src.toList.drop p = (if neg then ['^'] else []) ++
        ((u :: us').flatMap Tok.chars ++ (if dash then ['-'] else []) ++ ']' :: rest) := by
      simp [h, classBody]
    have := drop_append_of_drop h'
    cases neg <;> simpa using this
  have hacc : (accept '^').run (s.standAt p) = pure (neg, s.standAt (p + (if neg then 1 else 0))) := by
    cases neg with
    | true =>
      have h1 : s.src.toList.drop p = '^' :: ((u :: us').flatMap Tok.chars ++
          (if dash then ['-'] else []) ++ ']' :: rest) := by simp [h, classBody]
      obtain ⟨hc1, hc2⟩ := unitAt_of_drop_plain h1 (by decide)
      rw [accept_of_is (c := '^') hr hc1 (by decide), hc2]
      rfl
    | false =>
      have h1 : s.src.toList.drop p = u.chars ++ (us'.flatMap Tok.chars ++
          (if dash then ['-'] else []) ++ ']' :: rest) := by simp [h, classBody]
      have := Tok.not_is_of_drop h1 (Tok.isClassUnit_plain hu)
        (Tok.isClassUnit_not_is hu (c := '^') (by simp))
      rw [accept_of_not '^' this]
      rfl
  have hloop := classLoop hr here dash (u :: us') [] (p + (if neg then 1 else 0)) (List.range (fuel + 1))
    hne hall (by simp at hfuel ⊢; omega) hunits
  unfold readClass
  simp only [StateT.run_bind, hacc, pure_bind, hloop, StateT.run_pure, List.nil_append,
    classBody_length, Nat.add_assoc]
  rfl

end Classes

/-! ### One step of a branch -/

section BranchStep

theorem isLitChar_iff {c : Char} :
    isLitChar c = true ↔ c ∉ ['.', '\\', '[', '\x7b', '(', ')', '*', '+', '?', '^', '$', '|'] := by
  rw [isLitChar, Bool.not_eq_true', String.contains_char_eq,
    show ".\\[\x7b()*+?^$|".toList = ['.', '\\', '[', '\x7b', '(', ')', '*', '+', '?', '^', '$', '|'] from rfl]
  simp

theorem isLitChar_of_mem {c : Char} (h : c ∈ ['.', '\\', '[', '\x7b', '(', ')', '*', '+', '?', '^', '$', '|']) :
    isLitChar c = false := by
  rw [Bool.eq_false_iff]
  intro hc
  exact isLitChar_iff.mp hc h

variable {group : Flags → Bool → Nat → Bool → Bool → Nat → P GroupResult} {nested : Nat} {first : Bool}
  {fuel : Nat} {s : PState} {p : Nat} {rest : List Char} {items : List Node} {f : Flags} {lg : Bool}

theorem seqStep_lit (hr : Readable s.src) {c : Char} (hc : isLitChar c = true) (h : s.src.toList.drop p = c :: rest) :
    (seqStep group nested first fuel (items, f, false, lg)).run (s.standAt p) =
      pure (.yield (items ++ [lit f c], f, false, false), s.standAt (p + 1)) := by
  have hl := isLitChar_iff.mp hc
  simp only [List.mem_cons, List.not_mem_nil, or_false, not_or] at hl
  obtain ⟨-, hb, -, -, -, hp, -, -, -, -, -, hbar⟩ := hl
  obtain ⟨hu1, hu2⟩ := unitAt_of_drop_plain h hb
  have hc' : (!".\\[\x7b()*+?^$|".contains c) = true := hc
  simp only [seqStep, StateT.run_bind, peek_run, standAt_next, hu1, pure_bind, Tok.is, Bool.not_false,
    Bool.true_and, beq_eq_false_iff_ne.mpr hbar, beq_eq_false_iff_ne.mpr hp, Bool.or_false,
    Bool.false_eq_true, ↓reduceIte, advance_standAt hr, hu2, Bool.false_and, hc']
  rfl

theorem seqStep_esc (hr : Readable s.src) {c : Char} (hc : isEscChar c = true)
    (h : s.src.toList.drop p = '\\' :: c :: rest) :
    (seqStep group nested first fuel (items, f, false, lg)).run (s.standAt p) =
      pure (.yield (items ++ [escNode f c], f, false, false), s.standAt (p + 2)) := by
  obtain ⟨hu1, hu2⟩ := unitAt_of_drop (t := ⟨c, true⟩) (h.trans rfl) (fun h => nomatch h)
  simp only [seqStep, StateT.run_bind, peek_run, standAt_next, hu1, pure_bind, Tok.is, Bool.not_true,
    Bool.false_and, Bool.or_false, Bool.false_eq_true, ↓reduceIte, advance_standAt hr, hu2,
    escapeNode_run f _ hc]
  rfl

theorem seqStep_end (hend : ∀ t, unitAt s.src p = some t → (t.is '|' || t.is ')') = true) :
    (seqStep group nested first fuel (items, f, false, lg)).run (s.standAt p) =
      pure (.done (items, f, false, lg), s.standAt p) := by
  simp only [seqStep, StateT.run_bind, peek_run, standAt_next, pure_bind]
  cases hu : unitAt s.src p with
  | none => rfl
  | some t => simp only [hend t hu, ↓reduceIte]; rfl

theorem seqStep_cls (hr : Readable s.src) {neg dash : Bool} {us : List Tok} (hne : us ≠ [])
    (hall : us.all Tok.isClassUnit = true) (hfuel : us.length ≤ fuel)
    (h : s.src.toList.drop p = '[' :: (classBody neg us dash ++ rest)) :
    (seqStep group nested first fuel (items, f, false, lg)).run (s.standAt p) =
      pure (.yield (items ++ [classNode f neg us dash], f, false, false),
        s.standAt (p + 1 + (classBody neg us dash).length)) := by
  obtain ⟨hu1, hu2⟩ := unitAt_of_drop_plain h (by decide)
  have hbody : s.src.toList.drop (p + 1) = classBody neg us dash ++ rest :=
    drop_append_of_drop (T := ['[']) h
  have hlit : isLitChar '[' = false := isLitChar_of_mem (by simp)
  have hlit' : (!".\\[\x7b()*+?^$|".contains '[') = false := hlit
  simp only [seqStep, StateT.run_bind, peek_run, standAt_next, hu1, pure_bind, Tok.is, Bool.not_false,
    Bool.true_and, Bool.or_false, Bool.false_eq_true, ↓reduceIte, advance_standAt hr, hu2,
    Bool.false_and, hlit', show ('[' == '|') = false from rfl, show ('[' == ')') = false from rfl,
    show ('[' == '[') = true from rfl, tell_standAt, Nat.add_sub_cancel,
    readClass_run hr f hne hall hfuel hbody, StateT.run_pure]

theorem seqStep_group (hr : Readable s.src) {n : Node} {s' : PState} (h : s.src.toList.drop p = '(' :: rest)
    (hg : (group f false nested first items.isEmpty p).run (s.standAt (p + 1)) = pure (.node n, s')) :
    (seqStep group nested first fuel (items, f, false, lg)).run (s.standAt p) =
      pure (.yield (items ++ [n], f, false, true), s') := by
  obtain ⟨hu1, hu2⟩ := unitAt_of_drop_plain h (by decide)
  have hlit' : (!".\\[\x7b()*+?^$|".contains '(') = false := isLitChar_of_mem (by simp)
  simp only [seqStep, StateT.run_bind, peek_run, standAt_next, hu1, pure_bind, Tok.is, Bool.not_false,
    Bool.true_and, Bool.or_false, Bool.false_eq_true, ↓reduceIte, advance_standAt hr, hu2,
    Bool.false_and, hlit', show ('(' == '|') = false from rfl, show ('(' == ')') = false from rfl,
    show ('(' == '[') = false from rfl, show ('(' == '*') = false from rfl,
    show ('(' == '+') = false from rfl, show ('(' == '?') = false from rfl,
    show ('(' == '\x7b') = false from rfl, show ('(' == '.') = false from rfl,
    show ('(' == '(') = true from rfl, tell_standAt, Nat.add_sub_cancel, hg]
  rfl

theorem seqStep_quant (hr : Readable s.src) (q : Quant) (lazy : Bool) {pre : List Node} {last : Node}
    (hlast : lg = false → last.isAnchor = false ∧ last.isRep = false)
    (h : s.src.toList.drop p = q.char :: ((if lazy then ['?'] else []) ++ rest))
    (hnext : lazy = false → ∀ t, unitAt s.src (p + 1) = some t → t.is '?' = false ∧ t.is '+' = false) :
    (seqStep group nested first fuel (pre ++ [last], f, false, lg)).run (s.standAt p) =
      pure (.yield (pre ++ [.rep last q.lo q.hi (greedOf lazy)], f, false, false),
        s.standAt (p + 1 + (if lazy then 1 else 0))) := by
  have hq : q.char ≠ '\\' := by cases q <;> decide
  obtain ⟨hu1, hu2⟩ := unitAt_of_drop_plain h hq
  have hlit : isLitChar q.char = false := isLitChar_of_mem (by cases q <;> simp [Quant.char])
  have hlit' : (!".\\[\x7b()*+?^$|".contains q.char) = false := hlit
  have hacc : (accept '?').run (s.standAt (p + 1)) = pure (lazy, s.standAt (p + 1 + (if lazy then 1 else 0))) := by
    cases lazy with
    | true =>
      have h1 : s.src.toList.drop (p + 1) = '?' :: rest := by
        simpa using drop_append_of_drop (T := [q.char]) h
      obtain ⟨hv1, hv2⟩ := unitAt_of_drop_plain h1 (by decide)
      rw [accept_of_is (c := '?') hr hv1 rfl, hv2]
      rfl
    | false => rw [accept_of_not '?' fun t ht => (hnext rfl t ht).1]; rfl
  have hplus : lazy = false → (accept '+').run (s.standAt (p + 1)) = pure (false, s.standAt (p + 1)) :=
    fun hl => accept_of_not '+' fun t ht => (hnext hl t ht).2
  have hchecks : (!lg && last.isAnchor) = false ∧ (!lg && last.isRep) = false := by
    cases lg
    · simp [hlast rfl]
    · simp
  have hspecial : (q.char == '|') = false ∧ (q.char == ')') = false ∧ (q.char == '[') = false ∧
      (q.char == '*' || q.char == '+' || q.char == '?' || q.char == '{') = true := by
    cases q <;> decide
  simp only [seqStep, StateT.run_bind, peek_run, standAt_next, hu1, pure_bind, Tok.is, Bool.not_false,
    Bool.true_and, hspecial, Bool.or_false, Bool.false_eq_true, ↓reduceIte, advance_standAt hr, hu2,
    Bool.false_and, hlit', tell_standAt, List.getLast?_concat, List.dropLast_concat, hchecks]
  -- the mark sets the counts, and the unit after it the greed
  have hmarks : ('*' == '?') = false ∧ ('*' == '+') = false ∧ ('*' == '\x7b') = false ∧
      ('+' == '?') = false ∧ ('+' == '+') = true ∧ ('?' == '?') = true := by decide
  cases lazy with
  | true =>
    cases q <;> simp only [Quant.char, Quant.lo, Quant.hi, greedOf, hmarks, StateT.run_bind, hacc,
      pure_bind, Bool.false_eq_true, ↓reduceIte] <;> rfl
  | false =>
    have hp := hplus rfl
    cases q <;> simp only [Quant.char, Quant.lo, Quant.hi, greedOf, hmarks, StateT.run_bind, hacc,
      hp, pure_bind, Bool.false_eq_true, ↓reduceIte] <;> rfl

end BranchStep

/-! ### Parts -/

/-- The text of a group after its opening parenthesis. -/
def groupBody (cap : Bool) (bs : List (List Part)) : List Char :=
  (if cap then [] else ['?', ':']) ++ altText bs ++ [')']

theorem Part.text_group (cap : Bool) (bs : List (List Part)) :
    (Part.group cap bs).text = '(' :: groupBody cap bs := by
  simp [Part.text, groupBody]

/-- The first character of a part's text. -/
def Part.lead : Part → Char
  | .lit c => c
  | .esc _ => '\\'
  | .cls .. => '['
  | .group .. => '('
  | .rep p _ _ => p.lead

theorem Part.text_cons : ∀ p : Part, ∃ r, p.text = p.lead :: r
  | .lit _ => ⟨[], rfl⟩
  | .esc c => ⟨[c], rfl⟩
  | .cls .. => ⟨_, rfl⟩
  | .group .. => ⟨_, rfl⟩
  | .rep p _ _ => by
    obtain ⟨r, hr⟩ := p.text_cons
    exact ⟨_, by rw [Part.text, hr]; rfl⟩

/-- No part begins with a character that ends a branch or marks a repetition. -/
theorem Part.lead_not_mem : ∀ p : Part, p.wf = true → p.lead ∉ ['|', ')', '?', '+']
  | .lit c, h => by
    have := isLitChar_iff.mp h
    simp only [List.mem_cons, List.not_mem_nil, or_false, not_or] at this ⊢
    simp only [Part.lead]
    tauto
  | .esc _, _ => by simp [Part.lead]
  | .cls .., _ => by simp [Part.lead]
  | .group .., _ => by simp [Part.lead]
  | .rep p _ _, h => by
    simp only [Part.wf, Bool.and_eq_true] at h
    exact p.lead_not_mem h.2

/-- What follows the text of parts begins as the first part does, or as what comes after. -/
theorem seqText_append_head {c : Char} (hc : c ∈ ['|', ')', '?', '+']) :
    ∀ {ps : List Part}, seqWf ps = true → ∀ {l : List Char}, l.head? ≠ some c →
      (seqText ps ++ l).head? ≠ some c
  | [], _, _, hl => hl
  | p :: _, h, _, _ => by
    simp only [seqWf, Bool.and_eq_true] at h
    obtain ⟨r, hr⟩ := p.text_cons
    rw [seqText, hr]
    simp only [List.cons_append, List.head?_cons, ne_eq, Option.some.injEq]
    rintro rfl
    exact p.lead_not_mem h.1 hc

theorem altText_cons_cons (b b' : List Part) (bs : List (List Part)) :
    altText (b :: b' :: bs) = seqText b ++ '|' :: altText (b' :: bs) := by
  rw [altText]
  simp

theorem altText_append_head {c : Char} (hc : c ∈ [')', '?', '+']) :
    ∀ {bs : List (List Part)}, altWf bs = true → ∀ {l : List Char}, l.head? ≠ some c →
      (altText bs ++ l).head? ≠ some c
  | [], _, _, hl => hl
  | [b], h, _, hl => by
    simp only [altWf, Bool.and_eq_true] at h
    exact seqText_append_head (by simp at hc ⊢; tauto) h.1 hl
  | b :: b' :: bs, h, _, _ => by
    simp only [altWf, Bool.and_eq_true] at h
    rw [altText_cons_cons, List.append_assoc]
    refine seqText_append_head (by simp at hc ⊢; tauto) h.1 ?_
    simp only [List.cons_append, List.head?_cons, ne_eq, Option.some.injEq]
    rintro rfl
    simp at hc

theorem not_is_of_head {src : Array Char} {q : Nat} {l : List Char} {c : Char}
    (h : src.toList.drop q = l) (hc : l.head? ≠ some c) : ∀ t, unitAt src q = some t → t.is c = false := by
  intro t ht
  cases l with
  | nil => rw [(unitAt_of_drop_nil h).1] at ht; cases ht
  | cons d r => exact is_false_of_drop h (fun hd => hc (by rw [hd]; rfl)) t ht

/-- A reader's state that reads its pattern unit by unit and does not skip blanks. -/
structure Plain (s : PState) : Prop where
  readable : Readable s.src
  not_verbose : s.flags.verbose = false

theorem Plain.with_groups {s : PState} (hs : Plain s) (g : Nat) (cl : List Nat) :
    Plain { s with groups := g, closed := cl } := ⟨hs.readable, hs.not_verbose⟩

/-- Where a branch may end: at the end of the pattern, a `|` or a closing parenthesis. -/
def SeqEnds (rest : List Char) : Prop :=
  rest.head? = none ∨ rest.head? = some '|' ∨ rest.head? = some ')'

/-- Where branches may end: at the end of the pattern or a closing parenthesis. -/
def AltEnds (rest : List Char) : Prop := rest.head? = none ∨ rest.head? = some ')'

/-- `read` reads the text `T` wherever it stands before it and what follows is allowed by `ends`:
it gives `(out g).1`, where `g` numbers the next group, counts the groups up to `(out g).2`, and
stands after `T`. -/
def Reads {α : Type} (read : P α) (T : List Char) (ends : List Char → Prop) (out : Nat → α × Nat) :
    Prop :=
  ∀ (s : PState) (p : Nat) (rest : List Char), Plain s → s.src.toList.drop p = T ++ rest → ends rest →
    ∃ cl, read.run (s.standAt p) =
      pure ((out s.groups).1, { s with groups := (out s.groups).2, closed := cl }.standAt (p + T.length))

/-- Whether a part is a repetition. -/
def Part.isRep : Part → Bool
  | .rep .. => true
  | _ => false

/-- Whether a part is a group. -/
def Part.isGroup : Part → Bool
  | .group .. => true
  | _ => false

/-- The steps of the branch loop a part takes: two for a repetition, one otherwise. -/
def Part.steps (p : Part) : Nat := if p.isRep then 2 else 1

/-- A reader of groups that reads every group whose text is short enough for `B`. -/
def GroupsRead (group : Flags → Bool → Nat → Bool → Bool → Nat → P GroupResult) (f : Flags) (B : Nat) :
    Prop :=
  ∀ nested first empty start cap bs, altWf bs = true → bs ≠ [] → 3 * (altText bs).length + 4 ≤ B →
    Reads (group f false nested first empty start) (groupBody cap bs) (fun _ => True)
      fun g => (.node ((Part.group cap bs).node f g).1, ((Part.group cap bs).node f g).2)

theorem length_le_flatMap_chars : ∀ us : List Tok, us.length ≤ (us.flatMap Tok.chars).length
  | [] => le_refl _
  | u :: us => by
    have := length_le_flatMap_chars us
    have hu : 1 ≤ u.chars.length := by unfold Tok.chars; split <;> simp
    simp only [List.flatMap_cons, List.length_append, List.length_cons]
    omega

section Parts

variable {group : Flags → Bool → Nat → Bool → Bool → Nat → P GroupResult} {B : Nat} {s : PState} {q : Nat}
  {rest : List Char} {f : Flags} (nested : Nat) (first : Bool) (items : List Node) (lg : Bool)

theorem atomStep (hs : Plain s) (hg : GroupsRead group f B) {p : Part} (hp : p.wf = true)
    (hrep : p.isRep = false) (hB : 3 * p.text.length + 1 ≤ B) (h : s.src.toList.drop q = p.text ++ rest) :
    ∃ cl, (seqStep group nested first B (items, f, false, lg)).run (s.standAt q) =
      pure (.yield (items ++ [(p.node f s.groups).1], f, false, p.isGroup),
        { s with groups := (p.node f s.groups).2, closed := cl }.standAt (q + p.text.length)) := by
  cases p with
  | lit c => exact ⟨s.closed, seqStep_lit hs.readable hp h⟩
  | esc c => exact ⟨s.closed, seqStep_esc hs.readable hp h⟩
  | cls neg us dash =>
    simp only [Part.wf, Bool.and_eq_true, Bool.not_eq_true', List.isEmpty_eq_false_iff] at hp
    have hlen : us.length ≤ B := by
      have := length_le_flatMap_chars us
      simp only [Part.text, List.length_cons, classBody_length] at hB
      omega
    refine ⟨s.closed, ?_⟩
    have hpos : q + 1 + (classBody neg us dash).length = q + (Part.cls neg us dash).text.length := by
      simp only [Part.text, List.length_cons]
      omega
    rw [seqStep_cls hs.readable hp.1 hp.2 hlen h, hpos]
    rfl
  | group cap bs =>
    simp only [Part.wf, Bool.and_eq_true, Bool.not_eq_true', List.isEmpty_eq_false_iff] at hp
    rw [Part.text_group] at h hB ⊢
    obtain ⟨cl, hcl⟩ := hg nested first items.isEmpty q cap bs hp.2 hp.1 (by simp [groupBody] at hB ⊢; omega)
      s (q + 1) rest hs (drop_append_of_drop (T := ['(']) h) trivial
    exact ⟨cl, by rw [seqStep_group hs.readable h hcl]; simp [Part.isGroup, Nat.add_assoc, Nat.add_comm 1]⟩
  | rep => cases hrep

/-- What may be repeated, other than a group, reads as no anchor and no repetition. -/
theorem Part.node_repeatable {p : Part} (hp : p.repeatable = true) (hg : p.isGroup = false) (g : Nat) :
    (p.node f g).1.isAnchor = false ∧ (p.node f g).1.isRep = false := by
  cases p with
  | lit c => exact ⟨rfl, rfl⟩
  | esc c =>
    simp only [Part.repeatable, Bool.not_eq_true', String.contains_char_eq, decide_eq_false_iff_not,
      show "bBAZ".toList = ['b', 'B', 'A', 'Z'] from rfl, List.mem_cons, List.not_mem_nil, or_false,
      not_or] at hp
    simp only [Part.node, escNode]
    split
    · exact absurd rfl hp.2.2.1
    · exact absurd rfl hp.2.2.2
    · exact absurd rfl hp.1
    · exact absurd rfl hp.2.1
    · split <;> exact ⟨rfl, rfl⟩
  | cls => exact ⟨rfl, rfl⟩
  | group => cases hg
  | rep => cases hp

/-- Reading a part takes its steps of the branch loop and leaves its node last among the parts
read. -/
theorem partLoop (hs : Plain s) (hg : GroupsRead group f B) {p : Part} (hp : p.wf = true)
    (hB : 3 * p.text.length + 1 ≤ B) (h : s.src.toList.drop q = p.text ++ rest)
    (hnext : rest.head? ≠ some '?' ∧ rest.head? ≠ some '+') (xs : List Nat) (hxs : p.steps ≤ xs.length) :
    ∃ cl lg', (forIn xs (items, f, false, lg) fun _ σ => seqStep group nested first B σ).run (s.standAt q) =
      (forIn (xs.drop p.steps) (items ++ [(p.node f s.groups).1], f, false, lg')
        fun _ σ => seqStep group nested first B σ).run
        ({ s with groups := (p.node f s.groups).2, closed := cl }.standAt (q + p.text.length)) := by
  cases hrep : p.isRep with
  | false =>
    obtain ⟨cl, hstep⟩ := atomStep nested first items lg hs hg hp hrep hB h
    have hsteps : p.steps = 1 := by simp [Part.steps, hrep]
    rw [hsteps] at hxs ⊢
    exact ⟨cl, _, forIn_yield hxs hstep⟩
  | true =>
    cases p with
    | rep p' qq lazy =>
      simp only [Part.wf, Bool.and_eq_true] at hp
      have hrep' : p'.isRep = false := by cases p' <;> simp_all [Part.repeatable, Part.isRep]
      have htext : (Part.rep p' qq lazy).text = p'.text ++ qq.char :: (if lazy then ['?'] else []) := rfl
      rw [htext, List.append_assoc] at h
      rw [htext] at hB
      have hB' : 3 * p'.text.length + 1 ≤ B := by simp at hB; omega
      obtain ⟨cl, hstep⟩ := atomStep nested first items lg hs hg hp.2 hrep' hB' h
      -- the mark follows the part it repeats
      have hs1 := hs.with_groups (p'.node f s.groups).2 cl
      have hq : s.src.toList.drop (q + p'.text.length) = qq.char :: ((if lazy then ['?'] else []) ++ rest) :=
        drop_append_of_drop h
      have hnext' : lazy = false → ∀ t, unitAt s.src (q + p'.text.length + 1) = some t →
          t.is '?' = false ∧ t.is '+' = false := by
        intro hl t ht
        have hd : s.src.toList.drop (q + p'.text.length + 1) = rest := by
          simpa [hl] using drop_append_of_drop (T := [qq.char]) hq
        exact ⟨not_is_of_head hd hnext.1 t ht, not_is_of_head hd hnext.2 t ht⟩
      have hsteps : (Part.rep p' qq lazy).steps = 1 + 1 := rfl
      rw [hsteps] at hxs ⊢
      refine ⟨cl, false, ?_⟩
      rw [forIn_yield (by omega) hstep, forIn_yield (by simp; omega) (seqStep_quant hs1.readable qq lazy
        (fun hlg => Part.node_repeatable hp.1 hlg s.groups) hq hnext'), List.drop_drop]
      have hpos : q + p'.text.length + 1 + (if lazy then 1 else 0) =
          q + (Part.rep p' qq lazy).text.length := by
        rw [htext]
        cases lazy <;> simp <;> omega
      rw [hpos]
      rfl
    | _ => cases hrep

end Parts

/-- The steps of the branch loop that parts take. -/
def seqSteps (ps : List Part) : Nat := (ps.map Part.steps).sum

theorem Part.steps_le_length (p : Part) : p.steps ≤ p.text.length := by
  cases p with
  | rep p' qq lazy =>
    obtain ⟨r, hr⟩ := p'.text_cons
    simp [Part.steps, Part.isRep, Part.text, hr]
    omega
  | _ => simp [Part.steps, Part.isRep, Part.text]

theorem seqSteps_le_length : ∀ ps : List Part, seqSteps ps ≤ (seqText ps).length
  | [] => le_refl _
  | p :: ps => by
    have := seqSteps_le_length ps
    have := p.steps_le_length
    simp only [seqSteps, List.map_cons, List.sum_cons, seqText, List.length_append] at *
    omega

section Branches

variable {group : Flags → Bool → Nat → Bool → Bool → Nat → P GroupResult} {B : Nat} {rest : List Char}
  {f : Flags} (nested : Nat) (first : Bool)

/-- Reading parts one after another takes their steps of the branch loop and adds their nodes to
the parts read. -/
theorem seqLoop (hg : GroupsRead group f B) (hend : SeqEnds rest) :
    ∀ (ps : List Part) (s : PState) (q : Nat) (items : List Node) (lg : Bool) (xs : List Nat),
    Plain s → seqWf ps = true → 3 * (seqText ps).length + 1 ≤ B → seqSteps ps ≤ xs.length →
    s.src.toList.drop q = seqText ps ++ rest →
    ∃ cl lg', (forIn xs (items, f, false, lg) fun _ σ => seqStep group nested first B σ).run (s.standAt q) =
      (forIn (xs.drop (seqSteps ps)) (items ++ (seqNodes f s.groups ps).1, f, false, lg')
        fun _ σ => seqStep group nested first B σ).run
        ({ s with groups := (seqNodes f s.groups ps).2, closed := cl }.standAt (q + (seqText ps).length))
  | [], s, q, items, lg, xs, _, _, _, _, _ => ⟨s.closed, lg, by simp [seqSteps, seqNodes, seqText]⟩
  | p :: ps, s, q, items, lg, xs, hs, hwf, hB, hxs, h => by
    simp only [seqWf, Bool.and_eq_true] at hwf
    have hlen : (seqText (p :: ps)).length = p.text.length + (seqText ps).length := by
      simp [seqText]
    have hsteps : seqSteps (p :: ps) = p.steps + seqSteps ps := by simp [seqSteps]
    rw [hlen] at hB
    rw [hsteps] at hxs
    have hrest : SeqEnds rest → rest.head? ≠ some '?' ∧ rest.head? ≠ some '+' := by
      rintro (h0 | h0 | h0) <;> rw [h0] <;> simp
    have h' : s.src.toList.drop q = p.text ++ (seqText ps ++ rest) := by simpa [seqText] using h
    obtain ⟨cl, lg', hp⟩ := partLoop nested first items lg hs hg hwf.1 (by omega) h'
      ⟨seqText_append_head (by simp) hwf.2 (hrest hend).1, seqText_append_head (by simp) hwf.2 (hrest hend).2⟩
      xs (by omega)
    obtain ⟨cl', lg'', hps⟩ := seqLoop hg hend ps _ (q + p.text.length) _ lg' (xs.drop p.steps)
      (hs.with_groups _ cl) hwf.2 (by omega) (by simp; omega) (drop_append_of_drop h')
    refine ⟨cl', lg'', ?_⟩
    rw [hp, hps, List.drop_drop, hsteps, hlen]
    simp only [seqNodes, List.append_assoc, List.singleton_append, Nat.add_assoc]

end Branches

/-! ### Branches, alternatives and groups -/

theorem seqEnds_unit {src : Array Char} {q : Nat} {rest : List Char} (h : src.toList.drop q = rest)
    (hend : SeqEnds rest) : ∀ t, unitAt src q = some t → (t.is '|' || t.is ')') = true := by
  intro t ht
  cases rest with
  | nil => rw [(unitAt_of_drop_nil h).1] at ht; cases ht
  | cons d r =>
    rcases hend with h0 | h0 | h0 <;> simp only [List.head?_cons, Option.some.injEq, reduceCtorEq] at h0
    · subst h0
      rw [(unitAt_of_drop_plain h (by decide)).1] at ht
      cases ht; rfl
    · subst h0
      rw [(unitAt_of_drop_plain h (by decide)).1] at ht
      cases ht; rfl

variable {f : Flags} (nested : Nat) (first : Bool)

theorem readSeq_reads {F : Nat} (hg : GroupsRead (fun f v n fi e s => readGroup f v n fi e s F) f F)
    {b : List Part} (hwf : seqWf b = true) (hF : 3 * (seqText b).length + 1 ≤ F) :
    Reads (readSeq f false nested first (F + 1)) (seqText b) SeqEnds
      fun g => ((seqNode (seqNodes f g b).1, f), (seqNodes f g b).2) := by
  intro s p rest hs h hend
  have hsteps := seqSteps_le_length b
  obtain ⟨cl, lg', hloop⟩ := seqLoop nested first hg hend b s p [] false (List.range (F + 1)) hs hwf hF
    (by simp; omega) h
  refine ⟨cl, ?_⟩
  have hx : 0 < ((List.range (F + 1)).drop (seqSteps b)).length := by simp; omega
  rw [readSeq]
  simp only [StateT.run_bind, hloop]
  rw [forIn_done hx (seqStep_end (s := { s with groups := (seqNodes f s.groups b).2, closed := cl })
    (seqEnds_unit (drop_append_of_drop h) hend))]
  simp only [pure_bind, List.nil_append]
  -- a branch of one part is that part
  generalize (seqNodes f s.groups b).1 = ns
  rcases ns with _ | ⟨n, _ | ⟨n', ns⟩⟩ <;> rfl

section AltStep

variable {seq : Flags → Bool → Bool → P (Node × Flags)} {nested : Nat} {branches : List Node} {f : Flags}
  {s s' : PState} {p q : Nat} {n : Node}

theorem altStep_yield (hs' : Plain s')
    (hseq : (seq f false (nested == 0 && branches.isEmpty)).run (s.standAt p) = pure ((n, f), s'.standAt q))
    {r : List Char} (hbar : s'.src.toList.drop q = '|' :: r) :
    (altStep seq nested (branches, false, f)).run (s.standAt p) =
      pure (.yield (branches ++ [n], false, f), s'.standAt (q + 1)) := by
  obtain ⟨hu1, hu2⟩ := unitAt_of_drop_plain hbar (by decide)
  have hacc := accept_of_is (c := '|') hs'.readable hu1 rfl
  rw [hu2] at hacc
  simp only [altStep, StateT.run_bind, hseq, pure_bind, hacc, Bool.not_true, Bool.false_eq_true,
    ↓reduceIte]
  -- at the top level the flags of the whole pattern say whether blanks are skipped
  split
  · simp only [StateT.run_bind, get_run, pure_bind, standAt_flags, hs'.not_verbose]
    rfl
  · rfl

theorem altStep_done (hseq : (seq f false (nested == 0 && branches.isEmpty)).run (s.standAt p) =
      pure ((n, f), s'.standAt q))
    (hend : ∀ t, unitAt s'.src q = some t → t.is '|' = false) :
    (altStep seq nested (branches, false, f)).run (s.standAt p) =
      pure (.done (branches ++ [n], false, f), s'.standAt q) := by
  simp only [altStep, StateT.run_bind, hseq, pure_bind, accept_of_not '|' hend, Bool.not_false,
    ↓reduceIte]
  rfl

end AltStep

/-- A reader of branches that reads every branch whose text is short enough for `B`. -/
def BranchesRead (seq : Flags → Bool → Bool → P (Node × Flags)) (f : Flags) (B : Nat) : Prop :=
  ∀ first b, seqWf b = true → 3 * (seqText b).length + 2 ≤ B →
    Reads (seq f false first) (seqText b) SeqEnds
      fun g => ((seqNode (seqNodes f g b).1, f), (seqNodes f g b).2)

section Alternatives

variable {seq : Flags → Bool → Bool → P (Node × Flags)} {f : Flags} {B : Nat} {rest : List Char}
  (nested : Nat)

/-- Reading branches separated by `|` takes one step of the loop for each and gives their nodes. -/
theorem altLoop (hseq : BranchesRead seq f B) (hend : AltEnds rest) :
    ∀ (bs : List (List Part)) (s : PState) (p : Nat) (branches : List Node) (xs : List Nat),
    Plain s → bs ≠ [] → altWf bs = true → 3 * (altText bs).length + 2 ≤ B → bs.length ≤ xs.length →
    s.src.toList.drop p = altText bs ++ rest →
    ∃ cl, (forIn xs (branches, false, f) fun _ σ => altStep seq nested σ).run (s.standAt p) =
      pure ((branches ++ (altNodes f s.groups bs).1, false, f),
        { s with groups := (altNodes f s.groups bs).2, closed := cl }.standAt (p + (altText bs).length))
  | [], _, _, _, _, _, hne, _, _, _, _ => absurd rfl hne
  | [b], s, p, branches, xs, hs, _, hwf, hB, hxs, h => by
    simp only [altWf, Bool.and_eq_true] at hwf
    have hends : SeqEnds rest := by rcases hend with h0 | h0 <;> simp [SeqEnds, h0]
    obtain ⟨cl, hb⟩ := hseq (nested == 0 && branches.isEmpty) b hwf.1 (by simpa [altText] using hB)
      s p rest hs (by simpa [altText] using h) hends
    have hnot : ∀ t, unitAt s.src (p + (seqText b).length) = some t → t.is '|' = false := by
      refine not_is_of_head (drop_append_of_drop (by simpa [altText] using h)) ?_
      rcases hend with h0 | h0 <;> simp [h0]
    refine ⟨cl, ?_⟩
    rw [forIn_done (by simp at hxs; omega) (altStep_done hb hnot)]
    simp [altNodes, altText]
  | b :: b' :: bs, s, p, branches, xs, hs, _, hwf, hB, hxs, h => by
    rw [altWf, Bool.and_eq_true] at hwf
    rw [altText_cons_cons] at h hB
    have h' : s.src.toList.drop p = seqText b ++ ('|' :: altText (b' :: bs) ++ rest) := by simpa using h
    obtain ⟨cl, hb⟩ := hseq (nested == 0 && branches.isEmpty) b hwf.1 (by simp at hB; omega)
      s p _ hs h' (by simp [SeqEnds])
    have hs1 := hs.with_groups (seqNodes f s.groups b).2 cl
    have hstep := altStep_yield hs1 hb (drop_append_of_drop h')
    have h2 : s.src.toList.drop (p + (seqText b).length + 1) = altText (b' :: bs) ++ rest := by
      have := drop_append_of_drop (T := seqText b ++ ['|']) (by simpa using h')
      simpa [Nat.add_assoc] using this
    obtain ⟨cl', hrest⟩ := altLoop hseq hend (b' :: bs) _ (p + (seqText b).length + 1) (branches ++ [_])
      (xs.drop 1) hs1 (by simp) hwf.2 (by simp at hB ⊢; omega) (by simp at hxs ⊢; omega) h2
    refine ⟨cl', ?_⟩
    rw [forIn_yield (by simp at hxs; omega) hstep, hrest]
    simp [altNodes, altText_cons_cons, Nat.add_assoc, Nat.add_comm 1]

end Alternatives

theorem length_le_altText : ∀ bs : List (List Part), bs.length ≤ (altText bs).length + 1
  | [] => by simp
  | [_] => by simp
  | b :: b' :: bs => by
    have := length_le_altText (b' :: bs)
    rw [altText_cons_cons]
    simp only [List.length_cons, List.length_append] at this ⊢
    omega

theorem readAlt_reads {f : Flags} (nested : Nat) {F : Nat}
    (hseq : BranchesRead (fun f v first => readSeq f v nested first F) f F) {bs : List (List Part)}
    (hne : bs ≠ []) (hwf : altWf bs = true) (hF : 3 * (altText bs).length + 2 ≤ F) :
    Reads (readAlt f false nested (F + 1)) (altText bs) AltEnds
      fun g => (altNode (altNodes f g bs).1, (altNodes f g bs).2) := by
  intro s p rest hs h hend
  have := length_le_altText bs
  obtain ⟨cl, hloop⟩ := altLoop nested hseq hend bs s p [] (List.range (F + 1)) hs hne hwf hF
    (by simp; omega) h
  refine ⟨cl, ?_⟩
  rw [readAlt]
  simp only [StateT.run_bind, hloop, pure_bind, List.nil_append]
  -- one branch is read as itself
  generalize (altNodes f s.groups bs).1 = ns
  rcases ns with _ | ⟨n, _ | ⟨n', ns⟩⟩ <;> rfl

theorem readGroup_reads {f : Flags} {nested : Nat} {first empty : Bool} {start G : Nat} (cap : Bool)
    {bs : List (List Part)} (hwf : altWf bs = true)
    (halt : Reads (readAlt f false (nested + 1) G) (altText bs) AltEnds
      fun g => (altNode (altNodes f g bs).1, (altNodes f g bs).2)) :
    Reads (readGroup f false nested first empty start (G + 1)) (groupBody cap bs) (fun _ => True)
      fun g => (.node ((Part.group cap bs).node f g).1, ((Part.group cap bs).node f g).2) := by
  intro s p rest hs h _
  cases cap with
  | true =>
    have h' : s.src.toList.drop p = altText bs ++ ')' :: rest := by simpa [groupBody] using h
    have hq : ∀ t, unitAt s.src p = some t → t.is '?' = false :=
      not_is_of_head h' (altText_append_head (by simp) hwf (by simp))
    rw [readGroup]
    obtain ⟨cl, hr⟩ := halt { s with groups := s.groups + 1 } p (')' :: rest) (hs.with_groups _ _) h'
      (by simp [AltEnds])
    simp only [StateT.run_bind, accept_of_not '?' hq, pure_bind, Bool.false_eq_true, ↓reduceIte,
      get_run, set_run, standAt_src, standAt_i, standAt_next, standAt_groups, standAt_closed,
      standAt_names, standAt_flags, standAt_condRefs, standAt_lookbehind, mk_standAt,
      show combine f {} = f from rfl, List.contains_nil, Bool.or_false, Bool.not_false, Bool.false_and]
    rw [hr]
    obtain ⟨hc1, hc2⟩ := unitAt_of_drop_plain (drop_append_of_drop h') (by decide)
    have hs1 := hs.with_groups (altNodes f (s.groups + 1) bs).2 cl
    refine ⟨s.groups :: cl, ?_⟩
    simp only [StateT.run_bind, accept_of_is (c := ')') hs1.readable hc1 rfl, hc2, pure_bind, Bool.not_true,
      Bool.false_eq_true,
      ↓reduceIte, get_run, set_run, standAt_src, standAt_i, standAt_next, standAt_groups, standAt_closed,
      standAt_names, standAt_flags, standAt_condRefs, standAt_lookbehind, mk_standAt]
    have hpos : p + (altText bs).length + 1 = p + (groupBody true bs).length := by
      simp [groupBody, Nat.add_assoc]
    rw [hpos]
    rfl
  | false =>
    have h' : s.src.toList.drop p = '?' :: ':' :: (altText bs ++ ')' :: rest) := by
      simpa [groupBody] using h
    have h2 : s.src.toList.drop (p + 2) = altText bs ++ ')' :: rest := drop_append_of_drop (T := ['?', ':']) h'
    obtain ⟨hq1, hq2⟩ := unitAt_of_drop_plain h' (by decide)
    have h1 : s.src.toList.drop (p + 1) = ':' :: (altText bs ++ ')' :: rest) :=
      drop_append_of_drop (T := ['?']) h'
    obtain ⟨hc1, hc2⟩ := unitAt_of_drop_plain h1 (by decide)
    obtain ⟨cl, hr⟩ := halt s (p + 2) (')' :: rest) hs h2 (by simp [AltEnds])
    obtain ⟨he1, he2⟩ := unitAt_of_drop_plain (drop_append_of_drop h2) (by decide)
    have hs1 := hs.with_groups (altNodes f s.groups bs).2 cl
    rw [readGroup]
    simp only [StateT.run_bind, accept_of_is (c := '?') hs.readable hq1 rfl, hq2, pure_bind, ↓reduceIte,
      take_standAt hs.readable, hc1, hc2, Tok.is, Bool.not_false, Bool.true_and,
      show (':' == 'P') = false from rfl, show (':' == ':') = true from rfl, Bool.false_eq_true,
      show combine f {} = f from rfl, List.contains_nil, Bool.or_false, Bool.false_and]
    rw [show p + 1 + 1 = p + 2 from rfl, hr]
    refine ⟨cl, ?_⟩
    simp only [pure_bind, accept_of_is (c := ')') hs1.readable he1 rfl, he2,
      Bool.not_true, Bool.false_eq_true, ↓reduceIte]
    have hpos : p + 2 + (altText bs).length + 1 = p + (groupBody false bs).length := by
      simp [groupBody]
      omega
    rw [hpos]
    rfl

/-! ### Whole patterns -/

/-- With enough fuel the reader reads every well-formed group, branch and list of branches. Each
kind of reading spends fuel on the next, so the three are proved together by induction on it. -/
theorem reads_of_fuel : ∀ F : Nat,
    (∀ f, GroupsRead (fun f v n fi e s => readGroup f v n fi e s F) f F) ∧
    (∀ f nested, BranchesRead (fun f v first => readSeq f v nested first F) f F) ∧
    (∀ f nested bs, bs ≠ [] → altWf bs = true → 3 * (altText bs).length + 3 ≤ F →
      Reads (readAlt f false nested F) (altText bs) AltEnds
        fun g => (altNode (altNodes f g bs).1, (altNodes f g bs).2))
  | 0 => ⟨fun _ _ _ _ _ _ _ _ _ hB => by omega, fun _ _ _ _ _ hB => by omega, fun _ _ _ _ _ hB => by omega⟩
  | F + 1 => by
    obtain ⟨hgroup, hseq, halt⟩ := reads_of_fuel F
    refine ⟨?_, ?_, ?_⟩
    · intro f nested first empty start cap bs hwf hne hB
      exact readGroup_reads cap hwf (halt f (nested + 1) bs hne hwf (by omega))
    · intro f nested first b hwf hB
      exact readSeq_reads nested first (hgroup f) hwf (by omega)
    · intro f nested bs hne hwf hB
      exact readAlt_reads nested (hseq f nested) hne hwf (by omega)

/-- A text that does not end with a backslash can be read unit by unit. -/
theorem readable_of_getLast {src : Array Char} (h : src.toList.getLast? ≠ some '\\') : Readable src := by
  intro q
  unfold tokAt
  cases hq : src[q]? with
  | none => exact ⟨_, rfl⟩
  | some c =>
    by_cases hc : c = '\\'
    · subst hc
      cases hq1 : src[q + 1]? with
      | some d => exact ⟨(some ⟨d, true⟩, q + 2), rfl⟩
      | none =>
        exfalso
        apply h
        have hlt : q < src.size := by
          rcases Array.getElem?_eq_some_iff.mp hq with ⟨hlt, _⟩
          exact hlt
        have hge : src.size ≤ q + 1 := by
          rcases Nat.lt_or_ge (q + 1) src.size with hlt' | hge
          · rw [Array.getElem?_eq_getElem hlt'] at hq1; cases hq1
          · exact hge
        rw [List.getLast?_eq_getElem?, Array.length_toList, show src.size - 1 = q by omega,
          Array.getElem?_toList, hq]
    · refine ⟨(some ⟨c, false⟩, q + 1), ?_⟩
      simp

section LookBehind

variable (gw : Nat → Nat × Option Nat) (f : Flags)

theorem fixList_of_forall : ∀ ns : List Node, (∀ n ∈ ns, n.fixLookbehind gw = .ok n) →
    fixList gw ns = .ok ns
  | [], _ => rfl
  | n :: ns, h => by
    rw [fixList, h n (by simp), fixList_of_forall ns fun m hm => h m (by simp [hm])]
    rfl

theorem seqNode_fix {ns : List Node} (h : ∀ n ∈ ns, n.fixLookbehind gw = .ok n) :
    (seqNode ns).fixLookbehind gw = .ok (seqNode ns) := by
  rcases ns with _ | ⟨n, _ | ⟨n', ns⟩⟩
  · rfl
  · exact h n (by simp)
  · simp only [seqNode, Node.fixLookbehind, fixList_of_forall gw _ h]
    rfl

theorem altNode_fix {ns : List Node} (h : ∀ n ∈ ns, n.fixLookbehind gw = .ok n) :
    (altNode ns).fixLookbehind gw = .ok (altNode ns) := by
  rcases ns with _ | ⟨n, _ | ⟨n', ns⟩⟩
  · rfl
  · exact h n (by simp)
  · simp only [altNode, Node.fixLookbehind, fixList_of_forall gw _ h]
    rfl

mutual

/-- The nodes of parts hold no look-behind, so fixing the widths of look-behinds keeps them. -/
theorem Part.node_fix : ∀ (p : Part) (g : Nat), (p.node f g).1.fixLookbehind gw = .ok (p.node f g).1
  | .lit _, _ => rfl
  | .esc c, _ => by
    simp only [Part.node, escNode]
    split
    · rfl
    · rfl
    · rfl
    · rfl
    · split <;> rfl
  | .cls .., _ => rfl
  | .group true bs, g => by
    simp only [Part.node, Node.fixLookbehind, altNode_fix gw (altNodes_fix bs (g + 1))]
    rfl
  | .group false bs, g => altNode_fix gw (altNodes_fix bs g)
  | .rep p _ _, g => by
    simp only [Part.node, Node.fixLookbehind, Part.node_fix p g]
    rfl

theorem seqNodes_fix : ∀ (ps : List Part) (g : Nat), ∀ n ∈ (seqNodes f g ps).1,
    n.fixLookbehind gw = .ok n
  | [], _ => by simp [seqNodes]
  | p :: ps, g => by
    intro n hn
    simp only [seqNodes, List.mem_cons] at hn
    rcases hn with rfl | hn
    · exact Part.node_fix p g
    · exact seqNodes_fix ps _ n hn

theorem altNodes_fix : ∀ (bs : List (List Part)) (g : Nat), ∀ n ∈ (altNodes f g bs).1,
    n.fixLookbehind gw = .ok n
  | [], _ => by simp [altNodes]
  | b :: bs, g => by
    intro n hn
    simp only [altNodes, List.mem_cons] at hn
    rcases hn with rfl | hn
    · exact seqNode_fix gw (seqNodes_fix b g)
    · exact altNodes_fix bs _ n hn

end

end LookBehind

/-- Reading the text of well-formed branches gives their node and counts their groups. -/
theorem Regex.read_altText {bs : List (List Part)} (hne : bs ≠ []) (hwf : altWf bs = true)
    (hlast : (altText bs).getLast? ≠ some '\\') {flags : Flags} (hv : flags.verbose = false) :
    Regex.read (String.ofList (altText bs)) flags =
      .ok ⟨String.ofList (altText bs), altNode (altNodes flags 1 bs).1, (altNodes flags 1 bs).2, [],
        flags.ignoreCase⟩ := by
  let s0 : PState := { src := (altText bs).toArray, i := 0, next := none, flags := flags }
  have hr : Readable s0.src := readable_of_getLast (by simpa [s0] using hlast)
  obtain ⟨⟨t, j⟩, htok⟩ := hr 0
  have hstart : ({ src := (altText bs).toArray, i := j, next := t, flags := flags } : PState) =
      s0.standAt 0 := by
    simp only [PState.standAt, unitAt, placeAfter, s0, htok]
  obtain ⟨cl, hread⟩ := (reads_of_fuel (4 * ((altText bs).length + 2))).2.2 flags 0 bs hne hwf
    (by omega) s0 0 [] ⟨hr, hv⟩ (by simp [s0]) (by simp [AltEnds])
  have hbind : ∀ {α β : Type} (a : α) (g : α → Except PatternError β), (Except.ok a >>= g) = g a :=
    fun _ _ => rfl
  unfold Regex.read
  simp only [String.toList_ofList, List.size_toArray, hv]
  rw [show tokAt (altText bs).toArray 0 = .ok (t, j) from htok, hbind]
  have hend : unitAt s0.src (0 + (altText bs).length) = none :=
    (unitAt_of_drop_nil (by simp [s0])).1
  have hfix := fun gw => altNode_fix gw (altNodes_fix gw flags bs 1)
  have hc : s0.condRefs = [] := rfl
  have hg : s0.groups = 1 := rfl
  simp only [hstart, StateT.run_bind, hread, pure_bind, peek_run, standAt_next, hend, Option.isSome_none,
    Bool.false_eq_true, ↓reduceIte, get_run, standAt_condRefs, hc, hg, List.forIn_nil, StateT.run_pure,
    hfix, hbind]
  rfl

end Scripture.Pattern
