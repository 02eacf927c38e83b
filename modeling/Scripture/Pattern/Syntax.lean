/-!
# Patterns

The syntax tree of a regular expression. A pattern is read (see `Scripture.Pattern.Parse`)
into a `Node`, in which every choice that depends on the flags in force has been settled:
a literal or a class remembers whether case is ignored, a dot whether it matches a line
break, and an anchor whether lines count.

Groups are numbered from one in the order of their opening parentheses; group zero is the
whole match.
-/

namespace Scripture.Pattern

/-- The classes of characters that a pattern can name with a backslash. -/
inductive Category where
  | digit
  | notDigit
  | space
  | notSpace
  | word
  | notWord
deriving DecidableEq, Repr

/-- An item of a bracketed character class. -/
inductive ClassItem where
  | char (c : Char)
  | range (lo hi : Char)
  | category (cat : Category)
deriving DecidableEq, Repr

/-- The zero-width tests of a pattern. -/
inductive Anchor where
  /-- `^`: the start of the text, or of a line when lines count. -/
  | lineStart
  /-- `$`: the end of the text or just before a final line break, or the end of a line
  when lines count. -/
  | lineEnd
  /-- `\A`: the start of the text. -/
  | textStart
  /-- `\Z`: the end of the text. -/
  | textEnd
  /-- `\b`: between a word character and a character that is not one. -/
  | boundary
  /-- `\B`: not between a word character and one that is not. -/
  | notBoundary
deriving DecidableEq, Repr

/-- How a repetition chooses how many times to repeat. -/
inductive Greed where
  /-- As many times as possible, giving back one at a time. -/
  | greedy
  /-- As few times as possible, taking one more at a time. -/
  | lazy
  /-- As many times as possible, never giving back. -/
  | possessive
deriving DecidableEq, Repr

/-- What the flags in force settle for one test: whether case is ignored and whether the
character classes know only ASCII. -/
structure Mode where
  fold : Bool := false
  ascii : Bool := false
deriving DecidableEq, Repr

/-- A pattern. -/
inductive Node where
  /-- Matches the empty text. -/
  | empty
  /-- One given character. -/
  | char (c : Char) (mode : Mode)
  /-- Any character; a line break only when `dotAll`. -/
  | any (dotAll : Bool)
  /-- A character in (or, when `negated`, not in) a class. -/
  | set (negated : Bool) (items : List ClassItem) (mode : Mode)
  /-- A zero-width test. -/
  | anchor (a : Anchor) (multiline : Bool) (ascii : Bool)
  /-- A numbered group, which records where its match lies. -/
  | group (index : Nat) (body : Node)
  /-- The text a group matched, again. -/
  | backref (index : Nat) (mode : Mode)
  /-- The parts one after another. -/
  | seq (items : List Node)
  /-- The first branch that leads to a match. -/
  | alt (branches : List Node)
  /-- A repetition between `min` and `max` times (no upper bound when `max` is none). -/
  | rep (body : Node) (min : Nat) (max : Option Nat) (greed : Greed)
  /-- The first match of the body, never revisited. -/
  | atomic (body : Node)
  /-- A look ahead (or behind, over exactly `width` characters) that the body matches, or
  does not match when `negated`. -/
  | look (behind : Bool) (negated : Bool) (width : Nat) (body : Node)
  /-- `yes` when a group has matched, `no` otherwise. -/
  | ifGroup (index : Nat) (yes no : Node)
deriving Inhabited, Repr

/-- A read pattern: its tree, its number of groups and its group names. -/
structure Regex where
  /-- The text the pattern was read from. -/
  source : String
  node : Node
  groups : Nat
  names : List (String × Nat)
  /-- Whether case is ignored by the pattern as a whole (its flags at the end of reading). -/
  ignoreCase : Bool
deriving Inhabited, Repr

mutual

/-- The number of nodes of a pattern, which bounds the work of matching it. -/
def Node.size : Node → Nat
  | .group _ b => b.size + 1
  | .seq xs => sizeList xs + 1
  | .alt xs => sizeList xs + 1
  | .rep b _ _ _ => b.size + 1
  | .atomic b => b.size + 1
  | .look _ _ _ b => b.size + 1
  | .ifGroup _ y n => y.size + n.size + 1
  | _ => 1

/-- The number of nodes of a list of patterns. -/
def sizeList : List Node → Nat
  | [] => 0
  | x :: xs => x.size + sizeList xs

end

end Scripture.Pattern
