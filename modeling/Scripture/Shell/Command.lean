import Scripture.Pattern.Replace
import Scripture.Text.Quote
import Scripture.Text.Case

/-!
# Commands of the search shell

The shell reads one line at a time. A line names its command by its first characters that
are ASCII letters, digits or `_`; the rest, trimmed, is the command's argument. A line
starting with `?` asks for help and one starting with `!` runs a system command. Every
search type is a command of its own name as well, which also chooses that type.

* `Command.ofName?` — the command of a name; `commandNames` lists them in the order
  `help` shows them, which is the order of their names by code point.
* `Line.read` — a line taken apart into its command name and argument.
* `columns` — names set out in columns that fit a width, filled column by column, with the
  fewest rows that fit.
* `splitArguments` — an argument read as words and quoted phrases: a phrase between
  single or double quotes is one item, without its quotes; everything else is split at
  blanks.
-/

namespace Scripture.Shell

open Pattern

/-- The commands of the shell. -/
inductive Command where
  /-- Searches the Bible by the chosen search type. -/
  | search
  /-- Lists how a word or number is translated, verse by verse. -/
  | concordance
  /-- Prints the terms of copying or the disclaimer of warranty. -/
  | terms
  /-- Ends the shell at the end of its input. -/
  | endOfInput
  /-- Ends the shell. -/
  | quit
  /-- Lists the commands, or prints the description of one. -/
  | help
  /-- Prints the greeting again. -/
  | intro
  /-- Prints the verses found or looked up. -/
  | showResults
  /-- Looks verses up by their references. -/
  | lookup
  /-- Looks Strong's numbers up in the Greek and Hebrew lexicons. -/
  | numbers
  /-- Looks morphological tags up. -/
  | tags
  /-- Looks words up in the general dictionary. -/
  | dictionary
  /-- Looks words up in the dictionary of the Bible's words. -/
  | wordBook
  /-- Prints the devotional of a day. -/
  | devotional
  /-- Shows or changes the settings. -/
  | set
  /-- Hands a line to the system. -/
  | system
  /-- Shows how an argument is split into items. -/
  | test
deriving DecidableEq, Repr

/-- The search types that are also commands; the `sword_` ones search an external library
by the type after the prefix. -/
def searchTypes : List String :=
  ["mixed", "mixed_phrase", "multiword", "anyword", "combined", "partial_word",
   "ordered_multiword", "regex", "eitheror", "sword_lucene", "sword_phrase",
   "sword_multiword", "sword_entryattrib"]

/-- The names of the commands, ordered by code point. -/
def commandNames : List (String × Command) :=
  [("EOF", .endOfInput), ("anyword", .search), ("combined", .search),
   ("concordance", .concordance), ("daily", .devotional), ("eitheror", .search),
   ("help", .help), ("intro", .intro), ("kjvd", .wordBook), ("lookup", .lookup),
   ("mixed", .search), ("mixed_phrase", .search), ("morph", .tags),
   ("multiword", .search), ("ordered_multiword", .search), ("partial_word", .search),
   ("quit", .quit), ("regex", .search), ("search", .search), ("set", .set),
   ("shell", .system), ("show", .terms), ("show_results", .showResults),
   ("strongs", .numbers), ("sword_entryattrib", .search), ("sword_lucene", .search),
   ("sword_multiword", .search), ("sword_phrase", .search), ("test", .test),
   ("websters", .dictionary)]

/-- The command of a name. -/
def Command.ofName? (name : String) : Option Command := commandNames.lookup name

/-- Whether a character may stand in a command name. -/
def isNameChar (c : Char) : Bool :=
  ('a' ≤ c && c ≤ 'z') || ('A' ≤ c && c ≤ 'Z') || ('0' ≤ c && c ≤ '9') || c == '_'

/-- A line as the shell runs it: the line after trimming and rewriting `?` and `!`, the
name of its command, and its argument. -/
structure Line where
  text : String
  name : String
  argument : String
deriving Repr

/-- A line taken apart; a line of blanks only has nothing to run. -/
def Line.read (line : String) : Option Line :=
  let trimmed := Text.trimBlank line
  match trimmed.toList with
  | [] => none
  | c :: rest =>
    let text :=
      if c == '?' then "help " ++ String.ofList rest
      else if c == '!' then "shell " ++ String.ofList rest
      else trimmed
    let cs := text.toList
    let name := cs.takeWhile isNameChar
    some ⟨text, String.ofList name, Text.trimBlank (String.ofList (cs.drop name.length))⟩

/-- Names cut into columns of `rows` names, the last perhaps shorter. -/
def columnsOf (names : List String) (rows : Nat) : List (List String) :=
  go names.length names
where
  /-- Cuts on, at most `fuel` more columns. -/
  go : Nat → List String → List (List String)
    | 0, _ => []
    | _, [] => []
    | fuel + 1, rest => rest.take rows :: go fuel (rest.drop rows)

/-- The widths of the columns of `names` set out in `rows` rows. -/
def columnWidths (names : List String) (rows : Nat) : List Nat :=
  (columnsOf names rows).map fun col => (col.map String.length).foldl max 0

/-- The width that columns of the given widths take, two blanks apart. -/
def spanOf (widths : List Nat) : Nat := widths.foldl (· + ·) 0 + 2 * (widths.length - 1)

/-- The fewest rows, from one up to one less than the number of names, whose columns fit in
`width`, with their column widths. -/
def fittingRows (names : List String) (width : Nat) : Option (Nat × List Nat) :=
  ((List.range' 1 (names.length - 1)).find? fun rows =>
    spanOf (columnWidths names rows) ≤ width).map fun rows => (rows, columnWidths names rows)

/-- Names set out in columns that fit in `width`, filled column by column; each name is
padded to the widest name of its column. Names that fit in no layout of two columns or more
stand one to a line. -/
def columns (names : List String) (width : Nat) : List String :=
  match names with
  | [] => ["<empty>"]
  | [n] => [n]
  | _ =>
    let (rows, widths) := (fittingRows names width).getD (names.length, [0])
    let cols := columnsOf names rows
    (List.range rows).map fun r =>
      let cells : List String := cols.filterMap (·[r]?)
      let padded := (cells.zip widths).map fun (cell, w) => cell.pushn ' ' (w - cell.length)
      "  ".intercalate padded

/-- An item of an argument: a quoted phrase with its quotes, and the quote, or a run of
text without quotes. -/
def argumentPiece : Regex := fixed "((?P<quote>'|\").*?(?P=quote)|[^'\"]*)"

/-- A text with every leading and trailing `c` removed. -/
def stripAll (c : Char) (s : String) : String :=
  String.ofList (((s.toList.dropWhile (· == c)).reverse.dropWhile (· == c)).reverse)

/-- The items of an argument: quoted phrases without their quotes, and the words of the
rest. -/
def splitArguments (args : String) : List String :=
  (argumentPiece.findAll args).flatMap fun g => match g with
    | [piece, q] => if q == "'" || q == "\"" then [stripAll q.front piece] else Text.fields piece
    | _ => []

/-- The pieces of an argument as the `test` command shows them: each piece with its quote,
as a list of pairs. -/
def shownPieces (args : String) : String :=
  let pair (g : List String) := "(" ++ ", ".intercalate (g.map Text.quote) ++ ")"
  "[" ++ ", ".intercalate ((argumentPiece.findAll args).map pair) ++ "]"

/-- Texts shown as a list. -/
def shownList (xs : List String) : String := "[" ++ ", ".intercalate (xs.map Text.quote) ++ "]"

end Scripture.Shell
