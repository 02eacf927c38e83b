import Scripture.Search.Highlight
import Scripture.Search.Report
import Scripture.Store.Lookup

/-!
# Listing verses in a terminal

A listing shows each verse as `reference: text`, wrapped to eighty columns without
breaking at hyphens, and then coloured: the words of the reference in green, added words
(between `<i>` and `</i>`, whose marks are dropped) underlined word by word, Strong's
numbers in cyan and tags in magenta when shown, and the search terms in reverse video when
highlighting is asked for. Wrapping comes before colouring, so that colour codes do not
count towards the width of a line.

The text of a verse comes from the index (`ListingSource.index`), with the paragraph mark
kept only when added words are; from the Bible's markup rendered as plain text
(`ListingSource.markup`); or from the Bible's markup read for its facts
(`ListingSource.facts`), when the facts of each verse are printed first, key by key.
-/

namespace Scripture.Search

open Pattern

/-- Where the verses of a listing come from. -/
inductive ListingSource where
  | index
  | markup
  | facts
deriving DecidableEq, Repr

/-- How verses are listed. -/
structure Listing where
  wrap : Bool := true
  strongs : Bool := false
  morph : Bool := false
  added : Bool := true
  notes : Bool := false
  source : ListingSource := .index
  /-- The patterns of the search terms to highlight, when highlighting. -/
  highlights : Option (List Regex) := none
  /-- What the highlighter takes for a colour code around a highlighted word. -/
  highlightTag : String := colourCode

/-- A word, with hyphens, between word bounds. -/
def hyphenWord : Regex := fixed "\\b([\\w-]+)\\b"

/-- A terminal colour code. -/
def colourRun : Regex := fixed "\x1b\\[[\\d;]*m"

/-- Added words with their marks and the blanks inside them. -/
def addedRun : Regex := fixed "<i>\\s?(.*?)\\s?</i>" { dotAll := true }

/-- A Strong's number between angle brackets, colour codes inside it allowed. -/
def numberMark : Regex := fixed
  "\n                    <((?:\\033\\[[\\d;]*m)*?[GH]?\\d+?(?:\\033\\[[\\d;]*m)*?)>\n                    "
  { ignoreCase := true, verbose := true }

/-- A tag between braces, colour codes inside it allowed. -/
def tagMark : Regex := fixed
  "\n                    \\\x7b((?:\\033\\[[\\d+;]*m)*?[\\w-]*?(?:\\033\\[[\\d+;]*m)*?)\\\x7d\n                    "
  { verbose := true }

/-- Every word of a text between a colour code and the code that ends colour. -/
def colourWords (code text : String) : String :=
  (hyphenWord.replaceBy text fun m => code ++ m.group 1 ++ plainCode).1

/-- The text a value shows inside a list of the verse facts: texts quoted. -/
def shownTexts (xs : List String) : String := "[" ++ ", ".intercalate (xs.map Text.quote) ++ "]"

/-- The facts of a verse as they are printed: the words with their attributes first, then
every list, each with the text it shows. -/
def factLines (f : Markup.VerseFacts) : List (String × String) :=
  let table (inner : String) := "defaultdict(<class 'list'>, \x7b" ++ inner ++ "\x7d)"
  let attrs (a : Markup.WordAttrs) :=
    table (", ".intercalate (a.fields.map fun (k, vs) => Text.quote k ++ ": " ++ shownTexts vs))
  let words := table (", ".intercalate (f.words.map fun (w, as) =>
    Text.quote w ++ ": [" ++ ", ".intercalate (as.map attrs) ++ "]"))
  ("_words", "[" ++ words ++ "]") :: f.lists.map fun (k, vs) => (k, shownTexts vs)

/-- Prints the facts of a verse, each key padded to the longest. -/
def printFacts (lines : List (String × String)) : Printing Unit := do
  let width := (lines.map (·.1.length)).foldl max 0
  for (k, v) in lines do
    say ("\x1b[33m" ++ padTo width k ++ plainCode ++ ": " ++ v)

/-- The text of one verse for a listing, before it is coloured. -/
def listingText (ix : Index) (bible : Table) (l : Listing) (ref : Json) :
    Printing String := do
  match l.source with
  | .index =>
    let view : TextView := { strongs := l.strongs, morph := l.morph, italicMarkers := true,
                             added := l.added, paragraph := l.added, notes := l.notes }
    lift (ix.verseText view ref)
  | .markup =>
    let raw := bible.raw (← lift (textOf ref))
    lift (renderVerse raw l.strongs l.morph)
  | .facts =>
    let raw := bible.raw (← lift (textOf ref))
    match Markup.readVerseFacts raw.display true true with
    | some (_, f) =>
      printFacts (factLines f)
      match f.lists.lookup "_verse_text" with
      | some (t :: _) => pure t
      | _ => throw ⟨.outOfRange, "list index out of range"⟩
    | none =>
      printFacts [("_verse_text", "[" ++ raw.shown ++ "]"),
        ("_words", "[defaultdict(<class 'list'>, \x7b\x7d)]")]
      match raw with
      | .str t => pure t
      | j => throw ⟨.missingMember, "'" ++ j.kindName ++ "' object has no attribute 'strip'"⟩

/-- One verse of a listing, wrapped and coloured. -/
def listingLine (ix : Index) (bible : Table) (l : Listing) (ref : Json) : Printing String := do
  let body ← listingText ix bible l ref
  let refText := ref.display
  let line := refText ++ ": " ++ Text.trimBlank body
  let line := if l.wrap then Text.wrap line { breakOnHyphens := false } else line
  let refPattern ← lift (compile refText)
  let (line, _) ← lift (refPattern.replace line (colourWords "\x1b[32m" refText))
  let line := if l.added then
      (addedRun.replaceBy line fun m =>
        colourWords "\x1b[4m" (colourRun.replaceBy (m.group 1) fun _ => "").1).1
    else line
  let line := if l.strongs then
      (numberMark.replaceBy line fun m => "<\x1b[36m" ++ m.group 1 ++ plainCode ++ ">").1
    else line
  let line := if l.morph then
      (tagMark.replaceBy line fun m => "\x7b\x1b[35m" ++ m.group 1 ++ plainCode ++ "\x7d").1
    else line
  match l.highlights with
  | some patterns => pure (highlight line patterns reverseVideo l.highlightTag .current)
  | none => pure line

/-- The lines of a listing of verses. -/
def listVerses (ix : Index) (bible : Table) (l : Listing) (refs : List Json) :
    Printing (List String) :=
  refs.mapM (listingLine ix bible l)

end Scripture.Search
