import Scripture.Store.Table
import Scripture.Text.Wrap
import Scripture.Markup.Tree

/-!
# Looking up entries of a module

A module (a Bible, a lexicon, a dictionary) is a table of entries keyed by reference,
number or word. An entry is shown in one of three ways:

* `Table.raw` — as stored.
* `Table.wrapped` — wrapped into lines of eighty characters; an entry must be a text.
* `Table.formatted` — with its markup turned into terminal colours: bold words in bold,
  italic words in cyan, line breaks as line feeds, the word inside brackets in yellow,
  inside braces in magenta, inside parentheses in blue, and every other tag removed.

A Bible's verses are read as stored, as plain text rendered from their markup (see
`Markup.plainText`), or wrapped. A stored value that is not a text is rendered from the
text it shows (so a missing verse, the empty list, renders as `[]`).
-/

namespace Scripture

open Pattern

/-- The terminal code that ends a colour. -/
def plainCode : String := "\x1b[m"

/-- A word in bold markup. -/
def boldWord : Regex := fixed "<b>(\\w+)</b>" { ignoreCase := true }

/-- Words in italic markup. -/
def italicWords : Regex := fixed
  "\n                            (?:<i>|<hi\\s*type=\"italic\">)\n                            ([\\w\\s]+)(?:</i>|</hi>)\n                            "
  { ignoreCase := true, verbose := true }

/-- A line break with the blank after it. -/
def lineBreak : Regex := fixed "(<br[\\s]*/>|<lb/>)[\\s]?" { ignoreCase := true }

/-- Any tag. -/
def anyTag : Regex := fixed "<[^>]*>"

/-- A word between braces, with the non-word characters around it. -/
def bracedWord : Regex := fixed "\\\x7b([\\W]*)([\\w]*)([\\W]*)\\\x7d"

/-- A word between parentheses, with the non-word characters around it. -/
def parenthesizedWord : Regex := fixed "\\(([\\W]*)([\\w]*)([\\W]*)\\)"

/-- Words between brackets, with the non-word characters around them. -/
def bracketedWords : Regex := fixed "\\[([\\W]*)([\\w ]*)([\\W]*)\\]"

/-- A scripture reference element, written over several lines; entries never hold it. -/
def scriptureRef : Regex := fixed
  "\n                            <scripRef[^>]*>\n                            ([^<]*)\n                            </scripRef>\n                            "
  { ignoreCase := true }

namespace Table

/-- An entry as stored; a missing key reads as the empty list. -/
def raw (t : Table) (key : String) : Json := t.lookup key

/-- An entry when it counts as true, otherwise `default`. -/
def getOr (t : Table) (key : String) (default : Json) : Json :=
  let v := t.lookup key
  if v.truthy then v else default

/-- An entry wrapped into lines of eighty characters. -/
def wrapped (t : Table) (key : String) : Except Failure String :=
  match t.lookup key with
  | .str s => .ok (Text.wrap s)
  | j => .error ⟨.missingMember, "'" ++ j.kindName ++ "' object has no attribute 'expandtabs'"⟩

/-- Markup of an entry turned into terminal colours. -/
def colourMarkup (text : String) : String :=
  let wrapIn (code : String) (m : Match) (i : Nat) := code ++ m.group i ++ plainCode
  let text := (boldWord.replaceBy text fun m => wrapIn "\x1b[1m" m 1).1
  let text := (italicWords.replaceBy text fun m => wrapIn "\x1b[36m" m 1).1
  let text := (lineBreak.replaceBy text fun _ => "\n").1
  let text := (bracketedWords.replaceBy text fun m =>
    "[" ++ m.group 1 ++ wrapIn "\x1b[33m" m 2 ++ m.group 3 ++ "]").1
  let text := (bracedWord.replaceBy text fun m =>
    "\x7b" ++ m.group 1 ++ wrapIn "\x1b[35m" m 2 ++ m.group 3 ++ "\x7d").1
  let text := (parenthesizedWord.replaceBy text fun m =>
    "(" ++ m.group 1 ++ wrapIn "\x1b[34m" m 2 ++ m.group 3 ++ ")").1
  let text := (scriptureRef.replaceBy text fun m => wrapIn "\x1b[32m" m 1).1
  (anyTag.replaceBy text fun _ => "").1

/-- An entry with its markup turned into terminal colours; an entry must be a text. -/
def formatted (t : Table) (key : String) : Except Failure String := do
  pure (colourMarkup (← textOf (t.lookup key)))

/-- Entries of several keys, separated by blanks or commas, each under its key in bold. -/
def listing (t : Table) (items : String) : Except Failure String := do
  let keys := ",".intercalate (Text.fields items) |>.splitOn ","
  let shown ← keys.mapM fun k => do
    pure ("\x1b[1m" ++ k ++ plainCode ++ ":\n" ++ (← t.formatted k))
  pure ("\n\n".intercalate shown)

end Table

/-- How a verse of a Bible is read. -/
inductive VerseForm where
  /-- As stored. -/
  | raw
  /-- As plain text rendered from its markup. -/
  | plain
  /-- Wrapped into lines. -/
  | wrapped
deriving DecidableEq, Repr

/-- A verse's markup rendered as plain text. A stored value that is not a text is rendered
from the text it shows, and fails when that is not markup either. -/
def renderVerse (raw : Json) (strongs morph : Bool) : Except Failure String :=
  match Markup.renderedText? raw.display strongs morph with
  | some s => .ok (Markup.tidy s)
  | none => do pure (Markup.tidy (← textOf raw))

/-- A verse of a Bible read in a form. -/
def Table.verse (t : Table) (ref : Json) (form : VerseForm) (strongs morph : Bool) :
    Except Failure Json := do
  let key ← textOf ref
  match form with
  | .raw => pure (t.raw key)
  | .plain => pure (.str (← renderVerse (t.raw key) strongs morph))
  | .wrapped => pure (.str (← t.wrapped key))

end Scripture
