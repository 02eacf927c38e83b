import Scripture.Pattern.Match
import Scripture.Failure
import Scripture.Json.Basic
import Scripture.Text.Quote

/-!
# Searching and replacing

The operations built on matching: compiling a pattern (its failures become `Failure`s),
the run of matches through a text, the list of found texts, replacement by a function of
the match or by a template, and the escaping of text so that a pattern matches it as it is.

A run of matches starts each search where the last match ended; after an empty match the
next match may not be empty at the same place, so the run always moves on and ends.

A template is text with group references: `\1`, `\g<1>`, `\g<name>` give a group's text
(empty when the group did not match), `\0` and three-digit octal numbers give characters,
`\n`, `\t` and the like give their characters, and a backslash before any other character
that is not a letter is kept with that character.
-/

namespace Scripture.Pattern

/-- Compiles a pattern; a pattern that cannot be read fails with the reason and place. -/
def compile (src : String) (flags : Flags := {}) : Except Failure Regex :=
  match Regex.read src flags with
  | .ok r => .ok r
  | .error e => .error ⟨if e.tooLarge then .overflow else .refused, e.message src⟩

/-- Compiles a pattern that this library writes itself, with the flags given; such a
pattern always reads. -/
def fixed (src : String) (flags : Flags := {}) : Regex :=
  match Regex.read src flags with
  | .ok r => r
  | .error _ => default

/-- The matches of a pattern through a text, from place `pos`, each search starting where
the last match ended. `fuel` bounds the number of matches. -/
def Regex.scan (r : Regex) (text : Array Char) : Nat → Nat → Bool → List Match
  | 0, _, _ => []
  | fuel + 1, pos, mustAdvance =>
    match r.search text pos mustAdvance with
    | none => []
    | some m => m :: r.scan text fuel m.stop (m.start == m.stop)

/-- All the matches of a pattern in a text, in order. A text of `n` characters has at most
`2 * n + 2` of them: a match is either not empty, or followed by a match that starts later
or is not empty. -/
def Regex.allMatches (r : Regex) (text : String) : List Match :=
  let cs := text.toList.toArray
  r.scan cs (2 * cs.size + 3) 0 false

/-- The first match of a pattern anywhere in a text. -/
def Regex.find? (r : Regex) (text : String) : Option Match :=
  r.search text.toList.toArray 0

/-- A match of a pattern at the start of a text. -/
def Regex.matchStart? (r : Regex) (text : String) : Option Match :=
  r.matchAt text.toList.toArray 0

/-- Whether a pattern matches somewhere in a text. -/
def Regex.test (r : Regex) (text : String) : Bool := (r.find? text).isSome

/-- What a search for all matches gives for one match: the whole match when the pattern
has no groups, else the text of every group, empty when the group did not match. -/
def Match.found (m : Match) (groups : Nat) : List String :=
  if groups ≤ 1 then [m.group 0] else (List.range' 1 (groups - 1)).map m.group

/-- The found texts of all matches. -/
def Regex.findAll (r : Regex) (text : String) : List (List String) :=
  (r.allMatches text).map (·.found r.groups)

/-- The texts of the groups of a match, from group 1 on. -/
def Match.groupList (m : Match) (groups : Nat) : List (Option String) :=
  (List.range' 1 (groups - 1)).map m.group?

/-- Replaces every match, at most `limit` of them when a limit is given, by what `f`
gives for it; also says how many were replaced. -/
def Regex.replaceBy (r : Regex) (text : String) (f : Match → String)
    (limit : Option Nat := none) : String × Nat :=
  let cs := text.toList.toArray
  let ms := r.allMatches text
  let ms := match limit with
    | some n => if n = 0 then ms else ms.take n
    | none => ms
  let (out, last) := ms.foldl (fun (acc : String × Nat) m =>
      (acc.1 ++ String.ofList (cs.extract acc.2 m.start).toList ++ f m, m.stop)) ("", 0)
  (out ++ String.ofList (cs.extract last cs.size).toList, ms.length)

/-- A piece of a template: text, or the text of a group. -/
inductive Piece where
  | text (s : String)
  | group (i : Nat)
deriving Repr, DecidableEq

/-- Puts text after a list of pieces, joining it to text already there. -/
def addText (acc : List Piece) (s : String) : List Piece :=
  match acc with
  | .text t :: rest => .text (t ++ s) :: rest
  | _ => .text s :: acc

/-- The characters given by the escapes of single letters. -/
def letterEscape? (c : Char) : Option Char :=
  match c with
  | 'a' => some (Char.ofNat 7)
  | 'b' => some (Char.ofNat 8)
  | 'f' => some (Char.ofNat 12)
  | 'n' => some '\n'
  | 'r' => some '\r'
  | 't' => some '\t'
  | 'v' => some (Char.ofNat 11)
  | '\\' => some '\\'
  | _ => none

/-- The largest group number a template may name. -/
def maxGroups : Nat := 1073741823

/-- Reads the pieces of a template for a pattern with `groups` groups (group 0 counted) and
the given group names, in reverse order. The failures name the place in the template;
an unknown group name fails outside of that scheme, as a missing index. -/
def readPieces (groups : Nat) (names : List (String × Nat)) :
    Nat → List Piece → P (Except Failure (List Piece))
  | 0, acc => pure (.ok acc)
  | fuel + 1, acc => do
    match ← take with
    | none => pure (.ok acc)
    | some t =>
      if !t.escaped then readPieces groups names fuel (addText acc t.c.toString)
      else
        let addGroup := fun (i : Nat) (offset : Nat) => do
          if i ≥ groups then fail ("invalid group reference " ++ toString i) offset
          readPieces groups names fuel (.group i :: acc)
        match t.c with
        | 'g' =>
          if !(← accept '<') then fail "missing <"
          let name ← takeUntil '>' "group name" (fuel + 1) []
          if isName name then
            match names.lookup name with
            | some i => readPieces groups names fuel (.group i :: acc)
            | none => pure (.error ⟨.outOfRange, "unknown group name " ++ Text.quote name⟩)
          else
            match Json.parseInteger? name with
            | some n =>
              if n < 0 then fail ("bad character in group name " ++ Text.quote name) (name.length + 1)
              else if n.toNat ≥ maxGroups then
                fail ("invalid group reference " ++ toString n) (name.length + 1)
              else addGroup n.toNat (name.length + 1)
            | none => fail ("bad character in group name " ++ Text.quote name) (name.length + 1)
        | '0' =>
          let ds ← takeWhileN isOct 2
          readPieces groups names fuel (addText acc (Char.ofNat (octValue ds % 256)).toString)
        | c =>
          if isDec c then
            match ← peek with
            | some d =>
              if !d.escaped && isDec d.c then
                advance
                let third ← peek
                match third with
                | some e =>
                  if isOct c && isOct d.c && !e.escaped && isOct e.c then
                    advance
                    let v := octValue [c, d.c, e.c]
                    if v > 255 then
                      fail ("octal escape value \\" ++ String.ofList [c, d.c, e.c] ++
                        " outside of range 0-0o377") 4
                    else readPieces groups names fuel (addText acc (Char.ofNat v).toString)
                  else addGroup ((c.toNat - 48) * 10 + (d.c.toNat - 48)) 2
                | none => addGroup ((c.toNat - 48) * 10 + (d.c.toNat - 48)) 2
              else addGroup (c.toNat - 48) 1
            | none => addGroup (c.toNat - 48) 1
          else match letterEscape? c with
            | some e => readPieces groups names fuel (addText acc e.toString)
            | none =>
              if isAsciiLetter c then fail ("bad escape \\" ++ c.toString) 2
              else readPieces groups names fuel (addText acc t.text)

/-- Reads a template for a pattern. -/
def Regex.template (r : Regex) (src : String) : Except Failure (List Piece) :=
  let cs := src.toList.toArray
  match tokAt cs 0 with
  | .error e => .error ⟨.refused, e.message src⟩
  | .ok (t, j) =>
    let st : PState := { src := cs, i := j, next := t, flags := {} }
    match (readPieces r.groups r.names (cs.size + 1) []).run st with
    | .ok (.ok ps, _) => .ok ps.reverse
    | .ok (.error f, _) => .error f
    | .error e => .error ⟨.refused, e.message src⟩

/-- The text a template gives for a match. -/
def Match.expand (m : Match) (ps : List Piece) : String :=
  String.join (ps.map fun
    | .text s => s
    | .group i => m.group i)

/-- Replaces every match by what the template gives for it; the template is read first,
so a bad template fails even when nothing matches. -/
def Regex.replace (r : Regex) (text template : String) (limit : Option Nat := none) :
    Except Failure (String × Nat) := do
  let ps ← r.template template
  pure (r.replaceBy text (·.expand ps) limit)

/-- Whether a character is escaped by `escape`. -/
def isSpecial (c : Char) : Bool :=
  "()[]{}?*+-|^$\\.&~# \t\n\r".contains c || c.toNat == 11 || c.toNat == 12

/-- A text with a backslash before each character that patterns treat specially, so that
the text read as a pattern matches exactly itself. -/
def escape (s : String) : String :=
  String.join (s.toList.map fun c => if isSpecial c then "\\" ++ c.toString else c.toString)

end Scripture.Pattern
