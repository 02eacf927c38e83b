import Scripture.Pattern.Syntax
import Scripture.Pattern.Fold
import Scripture.Text.Classes
import Scripture.Text.Quote

/-!
# Reading patterns

Reads the text of a regular expression into a `Regex`, or says why it cannot be read and
where. The syntax is the usual one: literals, `.`, classes in brackets, the escapes
`\d \D \s \S \w \W \b \B \A \Z`, character escapes (`\n`, `\x41`, `é`, octal),
groups (capturing, named with `(?P<name>…)`, non-capturing, atomic), back references
(`\1`, `(?P=name)`), look-arounds, conditionals `(?(1)…|…)`, comments, inline flags
(`i`, `m`, `s`, `x`, `a`, `u`, for the whole pattern at its start or for a group), and
the repetitions `* + ? {m} {m,} {,n} {m,n}`, each greedy, lazy (`?`) or possessive (`+`).
A `{` that does not begin a valid count is a literal. In verbose mode, blanks and
comments outside classes are skipped.

Characters are read in units of one character, or of a backslash and the character after
it; a failure is placed at a position in characters from the start of the pattern.
-/

namespace Scripture.Pattern

/-- A pattern that cannot be read: what is wrong, and where, when a place is known. -/
structure PatternError where
  msg : String
  pos : Option Nat
  /-- Whether the failure is a number too large to be used, rather than bad syntax. -/
  tooLarge : Bool := false
deriving Repr

/-- The text of a failure for the pattern `src`: the cause, then the place, with the line
and column when the pattern has several lines. -/
def PatternError.message (src : String) (e : PatternError) : String :=
  match e.pos with
  | none => e.msg
  | some p =>
    let base := e.msg ++ " at position " ++ toString p
    if src.contains '\n' then
      let before := src.toList.take p
      let line := before.count '\n' + 1
      let col := (before.reverse.takeWhile (· ≠ '\n')).length + 1
      base ++ " (line " ++ toString line ++ ", column " ++ toString col ++ ")"
    else base

/-- The flags that a pattern can set. -/
structure Flags where
  ignoreCase : Bool := false
  multiline : Bool := false
  dotAll : Bool := false
  verbose : Bool := false
  ascii : Bool := false
  unicode : Bool := false
deriving Repr

/-- A unit of the pattern text: one character, or a backslash and the character after it. -/
structure Tok where
  c : Char
  escaped : Bool
deriving DecidableEq, Repr

/-- The length of a unit in characters. -/
def Tok.len (t : Tok) : Nat := if t.escaped then 2 else 1

/-- The text of a unit. -/
def Tok.text (t : Tok) : String := if t.escaped then "\\" ++ t.c.toString else t.c.toString

/-- Whether a unit is the plain character `c`. -/
def Tok.is (t : Tok) (c : Char) : Bool := !t.escaped && t.c == c

/-- What reading has found so far. -/
structure PState where
  src : Array Char
  /-- The place just after the next unit. -/
  i : Nat
  next : Option Tok
  /-- One more than the number of groups opened so far. -/
  groups : Nat := 1
  closed : List Nat := []
  names : List (String × Nat) := []
  flags : Flags
  /-- Groups named by conditionals, with the place of each name. -/
  condRefs : List (Nat × Nat) := []
  /-- The first group opened inside the look-behind being read, if any. -/
  lookbehind : Option Nat := none

/-- Reading a pattern: a state that may fail. -/
abbrev P := StateT PState (Except PatternError)

/-- The unit of `src` at `i`, if any, and the place after it. -/
def tokAt (src : Array Char) (i : Nat) : Except PatternError (Option Tok × Nat) :=
  match src[i]? with
  | none => .ok (none, i)
  | some '\\' => match src[i + 1]? with
    | some d => .ok (some ⟨d, true⟩, i + 2)
    | none => .error ⟨"bad escape (end of pattern)", some (src.size - 1), false⟩
  | some c => .ok (some ⟨c, false⟩, i + 1)

/-- The place of the next unit. -/
def tell : P Nat := do
  let s ← get
  pure (s.i - ((s.next.map Tok.len).getD 0))

/-- A failure placed `offset` characters before the next unit. -/
def fail {α : Type} (msg : String) (offset : Nat := 0) : P α := do
  let t ← tell
  throw ⟨msg, some (t - offset), false⟩

/-- Moves past the next unit. -/
def advance : P Unit := do
  let s ← get
  let (t, j) ← liftM (tokAt s.src s.i)
  set { s with next := t, i := j }

/-- The next unit, without moving. -/
def peek : P (Option Tok) := do pure (← get).next

/-- The next unit, moving past it. -/
def take : P (Option Tok) := do
  let t ← peek
  advance
  pure t

/-- Moves past the next unit when it is the plain character `c`. -/
def accept (c : Char) : P Bool := do
  match ← peek with
  | some t =>
    if t.is c then
      advance
      pure true
    else pure false
  | none => pure false

/-- Moves back to the place `i`. -/
def seek (i : Nat) : P Unit := do
  let s ← get
  let (t, j) ← liftM (tokAt s.src i)
  set { s with next := t, i := j }

/-- Up to `n` plain characters of which `ok` holds. -/
def takeWhileN (ok : Char → Bool) : Nat → P (List Char)
  | 0 => pure []
  | n + 1 => do
    match ← peek with
    | some t =>
      if !t.escaped && ok t.c then
        advance
        pure (t.c :: (← takeWhileN ok n))
      else pure []
    | none => pure []

/-- The text up to a terminator, which is passed; `what` names what is read, for the
failures. `fuel` bounds the units read. -/
def takeUntil (term : Char) (what : String) : Nat → List Char → P String
  | 0, acc => pure (String.ofList acc.reverse)
  | fuel + 1, acc => do
    let t ← take
    match t with
    | none =>
      if acc.isEmpty then fail ("missing " ++ what)
      else fail ("missing " ++ term.toString ++ ", unterminated name") acc.length
    | some t =>
      if t.is term then
        if acc.isEmpty then fail ("missing " ++ what) 1
        else pure (String.ofList acc.reverse)
      else takeUntil term what fuel (t.text.toList.reverse ++ acc)

/-- Whether a text is a name: a letter or underscore and then letters, digits and
underscores. -/
def isName (s : String) : Bool :=
  match s.toList with
  | c :: rest => (c == '_' || (Text.isAlnum c && !Text.isDigit c)) && rest.all Text.isWordChar
  | [] => false

/-- Checks that a group name is a name. -/
def checkName (name : String) (offset : Nat) : P Unit := do
  if !isName name then fail ("bad character in group name " ++ Text.quote name) (name.length + offset)

/-- The value of hexadecimal digits. -/
def hexValue (cs : List Char) : Nat :=
  cs.foldl (fun acc c =>
    let d := if '0' ≤ c && c ≤ '9' then c.toNat - 48
      else if 'a' ≤ c && c ≤ 'f' then c.toNat - 87 else c.toNat - 55
    acc * 16 + d) 0

/-- The value of octal digits. -/
def octValue (cs : List Char) : Nat := cs.foldl (fun acc c => acc * 8 + (c.toNat - 48)) 0

/-- A hexadecimal digit. -/
def isHex (c : Char) : Bool := ('0' ≤ c && c ≤ '9') || ('a' ≤ c && c ≤ 'f') || ('A' ≤ c && c ≤ 'F')

/-- An octal digit. -/
def isOct (c : Char) : Bool := '0' ≤ c && c ≤ '7'

/-- An ASCII decimal digit. -/
def isDec (c : Char) : Bool := '0' ≤ c && c ≤ '9'

/-- An ASCII letter. -/
def isAsciiLetter (c : Char) : Bool := ('a' ≤ c && c ≤ 'z') || ('A' ≤ c && c ≤ 'Z')

/-- The character of a simple escape such as `\n`. -/
def simpleEscape? (c : Char) : Option Char :=
  match c with
  | 'a' => some (Char.ofNat 7) | 'f' => some (Char.ofNat 12) | 'n' => some '\n'
  | 'r' => some '\r' | 't' => some '\t' | 'v' => some (Char.ofNat 11) | '\\' => some '\\'
  | _ => none

/-- The class an escape names, if any. -/
def categoryEscape? (c : Char) : Option Category :=
  match c with
  | 'd' => some .digit | 'D' => some .notDigit | 's' => some .space | 'S' => some .notSpace
  | 'w' => some .word | 'W' => some .notWord
  | _ => none

/-- What an escape inside a class stands for: a character or a class. -/
inductive ClassUnit where
  | char (c : Char)
  | category (cat : Category)

/-- Reads the digits of a `\x`, `\u` or `\U` escape (the escape letter is passed). -/
def hexEscape (letter : Char) (n : Nat) : P Char := do
  let ds ← takeWhileN isHex n
  let text := "\\" ++ letter.toString ++ String.ofList ds
  if ds.length != n then fail ("incomplete escape " ++ text) text.length
  else
    let v := hexValue ds
    if v > 0x10FFFF then fail ("bad escape " ++ text) text.length
    else pure (Char.ofNat v)

/-- Reads the braced name of a `\N` escape, whose unit has been passed. No table of
character names is kept, so a name, once read, is an undefined one. -/
def namedEscape : P Char := do
  if !(← accept '\x7b') then fail "missing \x7b"
  let name ← takeUntil '\x7d' "character name" (← get).src.size []
  fail ("undefined character name " ++ Text.quote name) (name.length + 4)

/-- Reads an escape inside a class; its unit has been passed. -/
def classEscape (c : Char) : P ClassUnit := do
  match simpleEscape? c with
  | some ch => pure (.char ch)
  | none =>
  if c == 'b' then pure (.char (Char.ofNat 8)) else
  match categoryEscape? c with
  | some cat => pure (.category cat)
  | none =>
    if c == 'x' then pure (.char (← hexEscape 'x' 2))
    else if c == 'u' then pure (.char (← hexEscape 'u' 4))
    else if c == 'U' then pure (.char (← hexEscape 'U' 8))
    else if isOct c then do
      let ds ← takeWhileN isOct 2
      let v := octValue (c :: ds)
      if v > 0o377 then
        fail ("octal escape value \\" ++ String.ofList (c :: ds) ++ " outside of range 0-0o377") (ds.length + 2)
      else pure (.char (Char.ofNat v))
    else if c == 'N' then pure (.char (← namedEscape))
    else if isDec c || isAsciiLetter c then fail ("bad escape \\" ++ c.toString) 2
    else pure (.char c)

/-- What reading a parenthesised group gives: a node, nothing (a comment), or a change of
the flags of the whole pattern. -/
inductive GroupResult where
  | node (n : Node)
  | skip
  | global

/-- The flags a letter of an inline flag group sets. -/
def flagLetter? (c : Char) : Option (Flags → Flags) :=
  match c with
  | 'i' => some fun f => { f with ignoreCase := true }
  | 'm' => some fun f => { f with multiline := true }
  | 's' => some fun f => { f with dotAll := true }
  | 'x' => some fun f => { f with verbose := true }
  | 'a' => some fun f => { f with ascii := true }
  | 'u' => some fun f => { f with unicode := true }
  | _ => none

/-- Whether a character names a flag, including those a text pattern refuses. -/
def isFlagChar (c : Char) : Bool := (flagLetter? c).isSome || c == 'L' || c == 't'

/-- The flags of a group: those it turns on and those it turns off. -/
structure FlagChange where
  on : List Char := []
  off : List Char := []

/-- Applies a list of flag letters. -/
def applyLetters (f : Flags) (cs : List Char) : Flags :=
  cs.foldl (fun f c => match flagLetter? c with
    | some g => g f
    | none => f) f

/-- The flags inside a group: turning on `a` or `u` clears the other, then the flags
turned on are added and those turned off removed. -/
def combine (f : Flags) (ch : FlagChange) : Flags :=
  let f := if ch.on.contains 'a' || ch.on.contains 'u' then { f with ascii := false, unicode := false } else f
  let f := applyLetters f ch.on
  ch.off.foldl (fun f c => match c with
    | 'i' => { f with ignoreCase := false }
    | 'm' => { f with multiline := false }
    | 's' => { f with dotAll := false }
    | 'x' => { f with verbose := false }
    | _ => f) f

/-- The mode of a test under some flags. -/
def Flags.mode (f : Flags) : Mode := ⟨f.ignoreCase, f.ascii⟩

/-- How a literal character is compared under the flags: case is ignored only when the
flags say so and case matters for the character. -/
def Flags.charMode (f : Flags) (c : Char) : Mode := ⟨f.ignoreCase && isCased f.ascii c, f.ascii⟩

/-- How a class is tested under the flags: case is ignored only when the flags say so and
case matters for some character the class names; otherwise the text character is tested
as it is. -/
def Flags.classMode (f : Flags) (items : List ClassItem) : Mode :=
  ⟨f.ignoreCase && items.any (fun
    | .char c => isCased f.ascii c
    | .range lo hi => rangeHasCased f.ascii lo hi
    | .category _ => false), f.ascii⟩

/-- A literal character under the flags. -/
def lit (f : Flags) (c : Char) : Node := .char c (f.charMode c)

/-- Reads the letters of an inline flag group after its first letter `c`: gives none for
flags of the whole pattern (the group ends at once), or the change for a scoped group
(ended by a colon). -/
def readFlags (c : Char) : Nat → P (Option FlagChange)
  | fuel => do
    let mut on : List Char := []
    let mut ch : Option Tok := some ⟨c, false⟩
    if c != '-' then
      for _ in List.range fuel do
        match ch with
        | some t =>
          if t.is 'L' then fail "bad inline flags: cannot use 'L' flag with a str pattern"
          on := on ++ [t.c]
          if (on.filter (fun x => x == 'a' || x == 'u')).eraseDups.length > 1 then
            fail "bad inline flags: flags 'a', 'u' and 'L' are incompatible"
          ch ← take
          match ch with
          | none => fail "missing -, : or )"
          | some t2 =>
            if t2.is ')' || t2.is '-' || t2.is ':' then break
            if t2.escaped || !isFlagChar t2.c then
              fail (if !t2.escaped && t2.c.isAlpha then "unknown flag" else "missing -, : or )") t2.len
        | none => break
    match ch with
    | some t =>
      if t.is ')' then
        let s ← get
        set { s with flags := applyLetters s.flags on }
        return none
    | none => pure ()
    if on.contains 't' then fail "bad inline flags: cannot turn on global flag" 1
    let mut off : List Char := []
    match ch with
    | some t =>
      if t.is '-' then
        ch ← take
        match ch with
        | none => fail "missing flag"
        | some t2 =>
          if t2.escaped || !isFlagChar t2.c then
            fail (if !t2.escaped && t2.c.isAlpha then "unknown flag" else "missing flag") t2.len
        for _ in List.range fuel do
          match ch with
          | some t3 =>
            if t3.c == 'a' || t3.c == 'u' || t3.c == 'L' then
              fail "bad inline flags: cannot turn off flags 'a', 'u' and 'L'"
            off := off ++ [t3.c]
            ch ← take
            match ch with
            | none => fail "missing :"
            | some t4 =>
              if t4.is ':' then break
              if t4.escaped || !isFlagChar t4.c then
                fail (if !t4.escaped && t4.c.isAlpha then "unknown flag" else "missing :") t4.len
          | none => break
    | none => pure ()
    if off.contains 't' then fail "bad inline flags: cannot turn off global flag" 1
    if on.any off.contains then fail "bad inline flags: flag turned on and off" 1
    pure (some ⟨on, off⟩)

/-- Checks a reference to group `gid` made inside a look-behind. -/
def checkLookbehindRef (gid : Nat) : P Unit := do
  let s ← get
  match s.lookbehind with
  | some first =>
    if !(gid < s.groups && s.closed.contains gid) then fail "cannot refer to an open group"
    if gid ≥ first then fail "cannot refer to group defined in the same lookbehind subpattern"
  | none => pure ()

/-- Reads an escape outside a class; its unit has been passed. -/
def escapeNode (c : Char) (f : Flags) : P Node := do
  match c with
  | 'A' => pure (.anchor .textStart f.multiline f.ascii)
  | 'Z' => pure (.anchor .textEnd f.multiline f.ascii)
  | 'b' => pure (.anchor .boundary f.multiline f.ascii)
  | 'B' => pure (.anchor .notBoundary f.multiline f.ascii)
  | _ =>
  match categoryEscape? c with
  | some cat => pure (.set false [.category cat] (f.classMode []))
  | none =>
  match simpleEscape? c with
  | some ch => pure (lit f ch)
  | none =>
    if c == 'x' then pure (lit f (← hexEscape 'x' 2))
    else if c == 'u' then pure (lit f (← hexEscape 'u' 4))
    else if c == 'U' then pure (lit f (← hexEscape 'U' 8))
    else if c == '0' then do
      let ds ← takeWhileN isOct 2
      pure (lit f (Char.ofNat (octValue ('0' :: ds))))
    else if isDec c then do
      let mut digits := [c]
      match ← peek with
      | some t =>
        if !t.escaped && isDec t.c then
          advance
          digits := digits ++ [t.c]
          match ← peek with
          | some t3 =>
            if isOct c && isOct t.c && !t3.escaped && isOct t3.c then
              advance
              let ds := digits ++ [t3.c]
              let v := octValue ds
              if v > 0o377 then
                fail ("octal escape value \\" ++ String.ofList ds ++ " outside of range 0-0o377") 4
              return lit f (Char.ofNat v)
          | none => pure ()
      | none => pure ()
      let gid := digits.foldl (fun acc d => acc * 10 + (d.toNat - 48)) 0
      let s ← get
      if gid < s.groups then
        if !s.closed.contains gid then fail "cannot refer to an open group" (digits.length + 1)
        checkLookbehindRef gid
        pure (.backref gid f.mode)
      else fail ("invalid group reference " ++ toString gid) digits.length
    else if c == 'N' then pure (lit f (← namedEscape))
    else if isAsciiLetter c then fail ("bad escape \\" ++ c.toString) 2
    else pure (lit f c)

/-- The class item of a unit. -/
def ClassUnit.item : ClassUnit → ClassItem
  | .char c => .char c
  | .category cat => .category cat

/-- One step of reading a bracketed class opened at `here`: the next item or range, or the
closing bracket, which ends the class once it holds an item. -/
def classStep (here : Nat) (items : List ClassItem) : P (ForInStep (List ClassItem)) := do
  let t ← take
  match t with
  | none => fail "unterminated character set" ((← tell) - here)
  | some t =>
    if t.is ']' && !items.isEmpty then return .done items
    let u1 : ClassUnit ← if t.escaped then classEscape t.c else pure (.char t.c)
    if ← accept '-' then
      let t2 ← take
      match t2 with
      | none => fail "unterminated character set" ((← tell) - here)
      | some t2 =>
        if t2.is ']' then return .done (items ++ [u1.item, .char '-'])
        let u2 : ClassUnit ← if t2.escaped then classEscape t2.c else pure (.char t2.c)
        match u1, u2 with
        | .char lo, .char hi =>
          if hi < lo then
            fail ("bad character range " ++ t.text ++ "-" ++ t2.text) (t.len + 1 + t2.len)
          else return .yield (items ++ [.range lo hi])
        | _, _ => fail ("bad character range " ++ t.text ++ "-" ++ t2.text) (t.len + 1 + t2.len)
    else return .yield (items ++ [u1.item])

/-- Reads a bracketed class; the opening bracket, at `here`, has been passed. -/
def readClass (here : Nat) (f : Flags) : Nat → P Node
  | fuel => do
    let negated ← accept '^'
    let items ← forIn (List.range (fuel + 1)) ([] : List ClassItem) fun _ items =>
      classStep here items
    pure (.set negated items.eraseDups (f.classMode items))

/-- Whether a node is a zero-width test, which cannot be repeated. -/
def Node.isAnchor : Node → Bool
  | .anchor .. => true
  | _ => false

/-- Whether a node is a repetition. -/
def Node.isRep : Node → Bool
  | .rep .. => true
  | _ => false

/-- The largest repetition count. -/
def maxRepeat : Nat := 4294967295

/-- One step of reading branches: reads a branch with `seq` (given the flags, whether blanks
are skipped and whether it is the first branch of the pattern), and goes on when a `|`
follows it. -/
def altStep (seq : Flags → Bool → Bool → P (Node × Flags)) (nested : Nat) :
    List Node × Bool × Flags → P (ForInStep (List Node × Bool × Flags))
  | (branches, verbose, f) => do
    let (b, f') ← seq f verbose (nested == 0 && branches.isEmpty)
    let branches := branches ++ [b]
    if !(← accept '|') then return .done (branches, verbose, f')
    if nested == 0 then return .yield (branches, (← get).flags.verbose, f')
    return .yield (branches, verbose, f')

/-- One step of reading a branch: the next part, or a repetition of the part before, or the
end of the branch at `|`, a closing parenthesis or the end of the pattern. The loop state is
the parts read, the flags, whether blanks are skipped and whether the last part is a
parenthesised group, which may be repeated. `group` reads a parenthesised group (given the
flags, whether blanks are skipped, the depth, whether this is the first branch, whether no part
was read yet, and the place of its parenthesis). -/
def seqStep (group : Flags → Bool → Nat → Bool → Bool → Nat → P GroupResult) (nested : Nat)
    (first : Bool) (fuel : Nat) :
    List Node × Flags × Bool × Bool → P (ForInStep (List Node × Flags × Bool × Bool))
  | (items, f, verbose, lastGroup) => do
    let mut items := items
    let mut f := f
    let mut verbose := verbose
    let mut lastGroup := lastGroup
    let some t ← peek | return .done (items, f, verbose, lastGroup)
    if t.is '|' || t.is ')' then return .done (items, f, verbose, lastGroup)
    advance
    if verbose && !t.escaped then
      if t.c == ' ' || t.c == '\t' || t.c == '\n' || t.c == '\r' || t.c.toNat == 11 || t.c.toNat == 12 then
        return .yield (items, f, verbose, lastGroup)
      if t.c == '#' then
        for _ in List.range (fuel + 1) do
          match ← take with
          | none => break
          | some u => if u.is '\n' then break
        return .yield (items, f, verbose, lastGroup)
    if t.escaped then
      items := items ++ [← escapeNode t.c f]
      lastGroup := false
    else if !".\\[\x7b()*+?^$|".contains t.c then
      items := items ++ [lit f t.c]
      lastGroup := false
    else if t.c == '[' then
      items := items ++ [← readClass ((← tell) - 1) f fuel]
      lastGroup := false
    else if t.c == '*' || t.c == '+' || t.c == '?' || t.c == '{' then
      let here ← tell
      let mut lo := 0
      let mut hi : Option Nat := none
      if t.c == '?' then hi := some 1
      else if t.c == '+' then lo := 1
      else if t.c == '{' then
        match ← peek with
        | some u =>
          if u.is '}' then
            items := items ++ [lit f '{']
            lastGroup := false
            return .yield (items, f, verbose, lastGroup)
        | none => pure ()
        let loDigits ← takeWhileN isDec fuel
        let hiDigits ← if ← accept ',' then takeWhileN isDec fuel else pure loDigits
        if !(← accept '}') then
          items := items ++ [lit f '{']
          lastGroup := false
          seek here
          return .yield (items, f, verbose, lastGroup)
        let value := fun (ds : List Char) => ds.foldl (fun acc d => acc * 10 + (d.toNat - 48)) 0
        if !loDigits.isEmpty then
          lo := value loDigits
          if lo ≥ maxRepeat then throw ⟨"the repetition number is too large", none, true⟩
        if !hiDigits.isEmpty then
          let h := value hiDigits
          if h ≥ maxRepeat then throw ⟨"the repetition number is too large", none, true⟩
          if h < lo then fail "min repeat greater than max repeat" ((← tell) - here)
          hi := some h
      match items.getLast? with
      | none => fail "nothing to repeat" ((← tell) - here + 1)
      | some last =>
        if !lastGroup && last.isAnchor then fail "nothing to repeat" ((← tell) - here + 1)
        if !lastGroup && last.isRep then fail "multiple repeat" ((← tell) - here + 1)
        let mut greed := Greed.greedy
        if ← accept '?' then greed := .lazy
        else if ← accept '+' then greed := .possessive
        items := items.dropLast ++ [.rep last lo hi greed]
        lastGroup := false
    else if t.c == '.' then
      items := items ++ [.any f.dotAll]
      lastGroup := false
    else if t.c == '(' then
      let start := (← tell) - 1
      match ← group f verbose nested first items.isEmpty start with
      | .node n =>
        items := items ++ [n]
        lastGroup := true
        return .yield (items, f, verbose, lastGroup)
      | .skip => pure ()
      | .global =>
        let s ← get
        f := { f with ignoreCase := f.ignoreCase || s.flags.ignoreCase,
                      multiline := f.multiline || s.flags.multiline,
                      dotAll := f.dotAll || s.flags.dotAll,
                      ascii := f.ascii || s.flags.ascii }
        verbose := s.flags.verbose
    else if t.c == '^' then
      items := items ++ [.anchor .lineStart f.multiline f.ascii]
      lastGroup := false
    else if t.c == '$' then
      items := items ++ [.anchor .lineEnd f.multiline f.ascii]
      lastGroup := false
    return .yield (items, f, verbose, lastGroup)

mutual

/-- Reads branches separated by `|`, up to a closing parenthesis or the end. -/
def readAlt (f : Flags) (verbose : Bool) (nested : Nat) : Nat → P Node
  | 0 => pure .empty
  | fuel + 1 => do
    let (branches, _, _) ← forIn (List.range (fuel + 1)) (([] : List Node), verbose, f)
      fun _ σ => altStep (fun f v first => readSeq f v nested first fuel) nested σ
    match branches with
    | [b] => pure b
    | bs => pure (.alt bs)
  termination_by structural fuel => fuel

/-- Reads one branch: parts up to `|`, a closing parenthesis or the end. Gives the flags
in force at its end, which flags for the whole pattern may have changed. -/
def readSeq (f : Flags) (verbose : Bool) (nested : Nat) (first : Bool) : Nat → P (Node × Flags)
  | 0 => pure (.empty, f)
  | fuel + 1 => do
    let (items, f, _, _) ← forIn (List.range (fuel + 1)) (([] : List Node), f, verbose, false)
      fun _ σ => seqStep (fun f v n fi e s => readGroup f v n fi e s fuel) nested first fuel σ
    match items with
    | [n] => pure (n, f)
    | ns => pure (.seq ns, f)
  termination_by structural fuel => fuel

/-- Reads a parenthesised group whose opening parenthesis, at `start`, has been passed. -/
def readGroup (f : Flags) (verbose : Bool) (nested : Nat) (first empty : Bool) (start : Nat) :
    Nat → P GroupResult
  | 0 => pure .skip
  | fuel + 1 => do
    let mut name : Option String := none
    let mut capture := true
    let mut atomic := false
    let mut change : FlagChange := {}
    if ← accept '?' then
      let some c ← take | fail "unexpected end of pattern"
      if c.is 'P' then
        if ← accept '<' then
          let n ← takeUntil '>' "group name" fuel []
          checkName n 1
          name := some n
        else if ← accept '=' then
          let n ← takeUntil ')' "group name" fuel []
          checkName n 1
          let s ← get
          match s.names.lookup n with
          | none => fail ("unknown group name " ++ Text.quote n) (n.length + 1)
          | some gid =>
            if !s.closed.contains gid then fail "cannot refer to an open group" (n.length + 1)
            checkLookbehindRef gid
            return .node (.backref gid f.mode)
        else
          let some c2 ← take | fail "unexpected end of pattern"
          fail ("unknown extension ?P" ++ c2.text) (c2.len + 2)
      else if c.is ':' then capture := false
      else if c.is '#' then
        for _ in List.range (fuel + 1) do
          match ← take with
          | none => fail "missing ), unterminated comment" ((← tell) - start)
          | some u => if u.is ')' then break
        return .skip
      else if c.is '=' || c.is '!' || c.is '<' then
        let mut kind := c
        let mut behind := false
        let saved := (← get).lookbehind
        if c.is '<' then
          let some c2 ← take | fail "unexpected end of pattern"
          if !(c2.is '=' || c2.is '!') then fail ("unknown extension ?<" ++ c2.text) (c2.len + 2)
          kind := c2
          behind := true
          let s ← get
          if s.lookbehind.isNone then set { s with lookbehind := some s.groups }
        let body ← readAlt f verbose (nested + 1) fuel
        if behind && saved.isNone then
          let s ← get
          set { s with lookbehind := none }
        if !(← accept ')') then fail "missing ), unterminated subpattern" ((← tell) - start)
        return .node (.look behind (kind.is '!') 0 body)
      else if c.is '(' then
        let condName ← takeUntil ')' "group name" fuel []
        let mut gid := 0
        if isName condName then
          checkName condName 1
          match (← get).names.lookup condName with
          | none => fail ("unknown group name " ++ Text.quote condName) (condName.length + 1)
          | some g => gid := g
        else
          match condName.toNat? with
          | none => fail ("bad character in group name " ++ Text.quote condName) (condName.length + 1)
          | some g =>
            if g == 0 then fail "bad group number" (condName.length + 1)
            gid := g
            let s ← get
            if !(s.condRefs.any (·.1 == g)) then
              set { s with condRefs := s.condRefs ++ [(g, (← tell) - condName.length - 1)] }
        checkLookbehindRef gid
        let (yes, _) ← readSeq f verbose (nested + 1) false fuel
        let mut no := Node.empty
        if ← accept '|' then
          let (n, _) ← readSeq f verbose (nested + 1) false fuel
          no := n
          match ← peek with
          | some u => if u.is '|' then fail "conditional backref with more than two branches"
          | none => pure ()
        if !(← accept ')') then fail "missing ), unterminated subpattern" ((← tell) - start)
        return .node (.ifGroup gid yes no)
      else if c.is '>' then
        capture := false
        atomic := true
      else if !c.escaped && (isFlagChar c.c || c.c == '-') then
        match ← readFlags c.c fuel with
        | none =>
          if !first || !empty then
            fail "global flags not at the start of the expression" ((← tell) - start)
          return .global
        | some ch =>
          change := ch
          capture := false
      else fail ("unknown extension ?" ++ c.text) (c.len + 1)
    let mut gid := 0
    if capture then
      let s ← get
      gid := s.groups
      match name with
      | some n =>
        match s.names.lookup n with
        | some old =>
          fail ("redefinition of group name " ++ Text.quote n ++ " as group " ++ toString gid ++
            "; was group " ++ toString old) (n.length + 1)
        | none => set { s with groups := s.groups + 1, names := s.names ++ [(n, gid)] }
      | none => set { s with groups := s.groups + 1 }
    let inner := combine f change
    let subVerbose := (verbose || change.on.contains 'x') && !change.off.contains 'x'
    let body ← readAlt inner subVerbose (nested + 1) fuel
    if !(← accept ')') then fail "missing ), unterminated subpattern" ((← tell) - start)
    if capture then
      let s ← get
      set { s with closed := gid :: s.closed }
      pure (.node (.group gid body))
    else if atomic then pure (.node (.atomic body))
    else pure (.node body)
  termination_by structural fuel => fuel

end

/-! ### Widths and the whole pattern -/

mutual

/-- The least and greatest number of characters a pattern can match (none when there is
no bound); `groupWidth` gives the widths of the groups. -/
def Node.width (groupWidth : Nat → Nat × Option Nat) : Node → Nat × Option Nat
  | .empty => (0, some 0)
  | .char .. | .any _ | .set .. => (1, some 1)
  | .anchor .. | .look .. => (0, some 0)
  | .group _ b | .atomic b => b.width groupWidth
  | .backref i _ => groupWidth i
  | .seq ns => widthSeq groupWidth ns
  | .alt bs => widthAlt groupWidth bs
  | .rep b lo hi _ =>
    let (i, j) := b.width groupWidth
    (i * lo, match hi, j with
      | none, some 0 => some 0
      | none, _ => none
      | some h, some j => some (j * h)
      | some _, none => none)
  | .ifGroup _ y n =>
    let (i1, j1) := y.width groupWidth
    let (i2, j2) := n.width groupWidth
    (min i1 i2, match j1, j2 with
      | some a, some b => some (max a b)
      | _, _ => none)

/-- The widths of parts one after another. -/
def widthSeq (groupWidth : Nat → Nat × Option Nat) : List Node → Nat × Option Nat
  | [] => (0, some 0)
  | n :: ns =>
    let (i, j) := n.width groupWidth
    let (k, l) := widthSeq groupWidth ns
    (i + k, match j, l with
      | some a, some b => some (a + b)
      | _, _ => none)

/-- The widths of branches. -/
def widthAlt (groupWidth : Nat → Nat × Option Nat) : List Node → Nat × Option Nat
  | [] => (0, some 0)
  | [b] => b.width groupWidth
  | b :: bs =>
    let (i, j) := b.width groupWidth
    let (k, l) := widthAlt groupWidth bs
    (min i k, match j, l with
      | some a, some b => some (max a b)
      | _, _ => none)

end

mutual

/-- The bodies of the groups of a pattern, by number. -/
def Node.groupBodies : Node → List (Nat × Node)
  | .group i b => (i, b) :: b.groupBodies
  | .atomic b | .rep b .. | .look _ _ _ b => b.groupBodies
  | .seq ns | .alt ns => bodiesList ns
  | .ifGroup _ y n => y.groupBodies ++ n.groupBodies
  | _ => []

/-- The bodies of the groups of several patterns. -/
def bodiesList : List Node → List (Nat × Node)
  | [] => []
  | n :: ns => n.groupBodies ++ bodiesList ns

end

mutual

/-- Sets the width of every look-behind, or fails when one can match texts of different
lengths. -/
def Node.fixLookbehind (gw : Nat → Nat × Option Nat) : Node → Except PatternError Node
  | .look true neg _ b => do
    let b ← b.fixLookbehind gw
    match b.width gw with
    | (lo, some hi) =>
      if lo == hi then pure (.look true neg lo b)
      else throw ⟨"look-behind requires fixed-width pattern", none, false⟩
    | _ => throw ⟨"look-behind requires fixed-width pattern", none, false⟩
  | .look false neg w b => do pure (.look false neg w (← b.fixLookbehind gw))
  | .group i b => do pure (.group i (← b.fixLookbehind gw))
  | .atomic b => do pure (.atomic (← b.fixLookbehind gw))
  | .rep b lo hi g => do pure (.rep (← b.fixLookbehind gw) lo hi g)
  | .seq ns => do pure (.seq (← fixList gw ns))
  | .alt ns => do pure (.alt (← fixList gw ns))
  | .ifGroup i y n => do pure (.ifGroup i (← y.fixLookbehind gw) (← n.fixLookbehind gw))
  | n => pure n

/-- Sets the widths of the look-behinds of several patterns. -/
def fixList (gw : Nat → Nat × Option Nat) : List Node → Except PatternError (List Node)
  | [] => pure []
  | n :: ns => do pure ((← n.fixLookbehind gw) :: (← fixList gw ns))

end

/-- Reads a pattern under the given flags. -/
def Regex.read (src : String) (flags : Flags := {}) : Except PatternError Regex := do
  let cs := src.toList.toArray
  let fuel := 4 * (cs.size + 2)
  let (t, j) ← tokAt cs 0
  let st : PState := { src := cs, i := j, next := t, flags := flags }
  let prog : P Node := do
    let n ← readAlt flags flags.verbose 0 fuel
    if (← peek).isSome then fail "unbalanced parenthesis"
    let s ← get
    for (g, pos) in s.condRefs do
      if g ≥ s.groups then throw ⟨"invalid group reference " ++ toString g, some pos, false⟩
    pure n
  let (node, s) ← prog.run st
  let bodies := node.groupBodies
  let gw : Nat → Nat × Option Nat := fun i =>
    match bodies.lookup i with
    | some b => b.width (fun _ => (0, none))
    | none => (0, some 0)
  let node ← node.fixLookbehind gw
  pure ⟨src, node, s.groups, s.names, s.flags.ignoreCase⟩

end Scripture.Pattern
