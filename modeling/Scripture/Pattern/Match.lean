import Scripture.Pattern.Parse
import Scripture.Pattern.Fold

/-!
# Matching patterns

Matching tries the parts of a pattern in order and backtracks: a branch is tried before
the next one, a greedy repetition takes one more repetition before it gives up, a lazy one
one fewer. A repetition that has reached its least count stops repeating once a repetition
has matched the empty text, so empty repetitions cannot go on for ever. A group records the
span of its last match; on backtracking, what it recorded is forgotten with the rest.

`Regex.matchAt` matches at one place; `Regex.search` finds the first place, from a given
start, where the pattern matches. A search may be asked to pass over an empty match at its
start (see `mustAdvance`), which is how a run of matches moves on after an empty one.

The matcher is written with continuations: each step is given what to do with the rest of
the text. The `fuel` argument bounds the nesting of steps; the amount given by
`Regex.fuelFor` is more than any match of the pattern can use.
-/

namespace Scripture.Pattern

/-- Where matching stands: the place in the text and the spans recorded by the groups. -/
structure MState where
  pos : Nat
  caps : Array (Option (Nat × Nat))

/-- What to do with the rest of the text after a step. -/
abbrev Cont := MState → Option MState

section
variable (text : Array Char)

/-- Whether a character belongs to a named class. -/
def categoryHolds (ascii : Bool) (cat : Category) (c : Char) : Bool :=
  let digit := if ascii then '0' ≤ c && c ≤ '9' else Text.isDigit c
  let space := if ascii then c == ' ' || (9 ≤ c.toNat && c.toNat ≤ 13) else Text.isBlank c
  let word := if ascii then c.toNat < 128 && (c.isAlphanum || c == '_') else Text.isWordChar c
  match cat with
  | .digit => digit
  | .notDigit => !digit
  | .space => space
  | .notSpace => !space
  | .word => word
  | .notWord => !word

/-- Whether a text character `t` is the pattern character `c`. -/
def charHolds (m : Mode) (c t : Char) : Bool :=
  if !m.fold then c == t
  else if m.ascii then asciiLower c == asciiLower t
  else foldEq c t

/-- Whether a text character belongs to a class item. -/
def itemHolds (m : Mode) (t : Char) : ClassItem → Bool
  | .char c => charHolds m c t
  | .range lo hi =>
    if !m.fold then lo ≤ t && t ≤ hi
    else if m.ascii then
      (lo ≤ t && t ≤ hi) || (lo ≤ asciiLower t && asciiLower t ≤ hi) ||
        (lo ≤ t.toUpper && t.toUpper ≤ hi && t.toNat < 128)
    else foldInRange lo hi t
  | .category cat =>
    categoryHolds m.ascii cat (if !m.fold then t else if m.ascii then asciiLower t else Text.lowerChar t)

/-- Whether a text character matches a one-character pattern. -/
def unitHolds (t : Char) : Node → Bool
  | .char c m => charHolds m c t
  | .any dotAll => dotAll || t != '\n'
  | .set neg items m => neg != items.any (itemHolds m t)
  | _ => false

/-- Whether a pattern always matches exactly one character and records nothing. -/
def Node.isUnit : Node → Bool
  | .char .. | .any _ | .set .. => true
  | _ => false

/-- Whether the character before `pos` is a word character. -/
def wordAt (ascii : Bool) (i : Nat) : Bool :=
  match text[i]? with
  | some c => categoryHolds ascii .word c
  | none => false

/-- Whether a zero-width test holds at `pos`. -/
def anchorHolds (a : Anchor) (multiline ascii : Bool) (pos : Nat) : Bool :=
  match a with
  | .lineStart => pos == 0 || (multiline && text[pos - 1]? == some '\n')
  | .lineEnd =>
    if multiline then pos == text.size || text[pos]? == some '\n'
    else pos == text.size || (pos + 1 == text.size && text[pos]? == some '\n')
  | .textStart => pos == 0
  | .textEnd => pos == text.size
  | .boundary =>
    text.size != 0 && ((pos > 0 && wordAt text ascii (pos - 1)) != wordAt text ascii pos)
  | .notBoundary =>
    text.size != 0 && ((pos > 0 && wordAt text ascii (pos - 1)) == wordAt text ascii pos)

/-- How many characters from `pos` match a one-character pattern, up to `limit`. -/
def unitRun (n : Node) (pos : Nat) : Nat → Nat
  | 0 => 0
  | limit + 1 =>
    match text[pos]? with
    | some t => if unitHolds t n then unitRun n (pos + 1) limit + 1 else 0
    | none => 0

/-- Tries the continuation after each count of a one-character repetition, in the given
order of counts. -/
def tryCounts (k : Cont) (st : MState) : List Nat → Option MState
  | [] => none
  | c :: cs =>
    match k { st with pos := st.pos + c } with
    | some r => some r
    | none => tryCounts k st cs

/-- Whether the text at `pos` repeats the span `a … b`. -/
def spanAt (m : Mode) (a b pos : Nat) : Bool :=
  (List.range (b - a)).all fun i =>
    match text[a + i]?, text[pos + i]? with
    | some x, some y =>
      if !m.fold then x == y
      else if m.ascii then asciiLower x == asciiLower y
      else Text.lowerChar x == Text.lowerChar y
    | _, _ => false

/-- Records a span for group `i`. -/
def MState.record (st : MState) (i : Nat) (span : Nat × Nat) : MState :=
  { st with caps := st.caps.set! i (some span) }

mutual

/-- Matches a pattern at the current place and goes on with `k`. -/
def run : Nat → Node → Cont → MState → Option MState
  | 0, _, _, _ => none
  | f + 1, node, k, st =>
    match node with
    | .empty => k st
    | .char .. | .any _ | .set .. =>
      match text[st.pos]? with
      | some t => if unitHolds t node then k { st with pos := st.pos + 1 } else none
      | none => none
    | .anchor a ml asc => if anchorHolds text a ml asc st.pos then k st else none
    | .group i b => run f b (fun s => k (s.record i (st.pos, s.pos))) st
    | .backref i m =>
      match st.caps[i]? with
      | some (some (a, b)) =>
        if spanAt text m a b st.pos then k { st with pos := st.pos + (b - a) } else none
      | _ => none
    | .seq ns => runSeq f ns k st
    | .alt bs => runAlt f bs k st
    | .rep b lo hi g =>
      if b.isUnit then
        let limit := match hi with
          | some h => min h (text.size - st.pos)
          | none => text.size - st.pos
        let n := unitRun text b st.pos limit
        if n < lo then none
        else match g with
          | .greedy => tryCounts k st ((List.range' lo (n + 1 - lo)).reverse)
          | .lazy => tryCounts k st (List.range' lo (n + 1 - lo))
          | .possessive => k { st with pos := st.pos + n }
      else match g with
        | .possessive =>
          match repeatLoop f b lo hi true some 0 none st with
          | some s => k s
          | none => none
        | .greedy => repeatLoop f b lo hi true k 0 none st
        | .lazy => repeatLoop f b lo hi false k 0 none st
    | .atomic b =>
      match run f b some st with
      | some s => k s
      | none => none
    | .look false neg _ b =>
      match run f b some st, neg with
      | some s, false => k { st with caps := s.caps }
      | none, true => k st
      | _, _ => none
    | .look true neg w b =>
      let found := if w ≤ st.pos then
          run f b (fun s => if s.pos == st.pos then some s else none) { st with pos := st.pos - w }
        else none
      match found, neg with
      | some s, false => k { st with caps := s.caps }
      | none, true => k st
      | _, _ => none
    | .ifGroup i y n =>
      match st.caps[i]? with
      | some (some _) => run f y k st
      | _ => run f n k st

/-- Matches parts one after another. -/
def runSeq : Nat → List Node → Cont → MState → Option MState
  | 0, _, _, _ => none
  | _ + 1, [], k, st => k st
  | f + 1, n :: ns, k, st => run f n (fun s => runSeq f ns k s) st

/-- Matches the first branch that leads to a match. -/
def runAlt : Nat → List Node → Cont → MState → Option MState
  | 0, _, _, _ => none
  | _ + 1, [], _, _ => none
  | f + 1, b :: bs, k, st =>
    match run f b k st with
    | some r => some r
    | none => runAlt f bs k st

/-- Repeats a body: `count` repetitions are done, and `last` is where the last optional
repetition began. -/
def repeatLoop : Nat → Node → Nat → Option Nat → Bool → Cont → Nat → Option Nat → MState →
    Option MState
  | 0, _, _, _, _, _, _, _, _ => none
  | f + 1, b, lo, hi, greedy, k, count, last, st =>
    if count < lo then
      run f b (fun s => repeatLoop f b lo hi greedy k (count + 1) last s) st
    else
      let more := (match hi with
        | some h => count < h
        | none => true) && last != some st.pos
      let again := fun (_ : Unit) =>
        if more then run f b (fun s => repeatLoop f b lo hi greedy k (count + 1) (some st.pos) s) st
        else none
      if greedy then
        match again () with
        | some r => some r
        | none => k st
      else
        match k st with
        | some r => some r
        | none => again ()

end

end

/-- A match: the text it was found in and the span of the whole match and of each group. -/
structure Match where
  text : Array Char
  spans : Array (Option (Nat × Nat))

namespace Match

/-- The span of group `i` (zero: the whole match), if it matched. -/
def span? (m : Match) (i : Nat) : Option (Nat × Nat) := (m.spans[i]?).getD none

/-- The text of group `i`, if it matched. -/
def group? (m : Match) (i : Nat) : Option String :=
  (m.span? i).map fun (a, b) => String.ofList (m.text.extract a b).toList

/-- The text of group `i`, or the empty text when it did not match. -/
def group (m : Match) (i : Nat) : String := (m.group? i).getD ""

/-- Where the whole match starts. -/
def start (m : Match) : Nat := ((m.span? 0).map (·.1)).getD 0

/-- Where the whole match ends. -/
def stop (m : Match) : Nat := ((m.span? 0).map (·.2)).getD 0

end Match

/-- Fuel enough for any match of a pattern in a text of `n` characters. -/
def Regex.fuelFor (r : Regex) (n : Nat) : Nat := 8 * (n + 2) * (r.node.size + 2) + 1000

/-- Matches a pattern at place `start` of a text; with `mustAdvance`, an empty match is
refused. -/
def Regex.matchAt (r : Regex) (text : Array Char) (start : Nat) (mustAdvance : Bool := false) :
    Option Match :=
  let st : MState := ⟨start, Array.replicate r.groups none⟩
  let finish : Cont := fun s => if mustAdvance && s.pos == start then none else some s
  (run text (r.fuelFor text.size) r.node finish st).map fun s =>
    ⟨text, s.caps.set! 0 (some (start, s.pos))⟩

/-- The first match at or after place `start`; with `mustAdvance`, an empty match at
`start` itself is passed over. -/
def Regex.search (r : Regex) (text : Array Char) (start : Nat) (mustAdvance : Bool := false) :
    Option Match :=
  (List.range' start (text.size + 1 - start)).findSome? fun p =>
    r.matchAt text p (mustAdvance && p == start)

end Scripture.Pattern
