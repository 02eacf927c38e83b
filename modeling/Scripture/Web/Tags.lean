import Scripture.Pattern.Replace
import Scripture.Text.Case

/-!
# Verse markup as HTML

A verse of the Bible is stored with its markup: words with their Strong's numbers and
morphology (`<w lemma="…" morph="…">`), added words (`<transChange type="added">`), the
divine name, titles, foreign words, paragraph milestones, segments, notes, references to
other passages (`<scripRef passage="…">`) and quotations. The site shows each element as an
HTML `span` of its own class, and a reference as a link that looks the passage up.

An element is found by its name (one of a fixed list, some with either case of the first
letter), its attributes up to the first `>`, and either `/>` or its text up to the nearest
closing tag of the same spelling. Each element is replaced as `Tag.html` says; an element
without what its span needs (added words of another type, a foreign word without `n`, a
milestone without `marker`) is dropped with its text. Titles, words, segments and quotations
have their text converted too; added words, the divine name, foreign words, milestones and
notes keep theirs as it is.

Attributes are read as `name="value"` pairs, the name being everything up to the `=` after
the blanks; a later pair of the same name wins, and a value may not be empty. They are read
from the lower-cased attribute text, except for words, whose attributes keep their case.
For foreign words, milestones and words, an attribute named `text` takes the place of the
element's text where the span is written.

A passage is read as a list of `book chapter:verse` references, a book being an optional
digit and the characters up to the next digit or hyphen, so that the separator before a
reference belongs to its book; a reference without a book takes the book before it. The
link names each reference as `book+chapter:verse`, joined by `;`. The book `jud` is written
`Judg`, and `Jud ` in the shown text becomes `Judg `, so that Judges is not read as Jude.
-/

namespace Scripture.Web

open Pattern

/-- A marked-up element: its name, its attributes, the closing `/>` of an empty element,
and its text. -/
def elementPattern : Regex := fixed
  ("<(?P<tag>[Ss]eg|[Nn]ote|[Ww]|[Mm]ilestone|[Ff]oreign|[Tt]itle|trans[cC]hange|" ++
   "divine[nN]ame|scrip[Rr]ef|[Qq])(?P<attr>[^>]*)(?:(?P<end>/>)|>(?P<text>[\\w\\W]*?)</(?P=tag)>)")

/-- One `name="value"` attribute. -/
def attributePattern : Regex := fixed "\\s*(?P<name>[^=]+)=\"(?P<value>[^\"]+)\\s*\""

/-- One reference of a passage: its book, chapters and verses. -/
def passagePattern : Regex := fixed "(?P<book>\\d?[^\\d-]+)\\s*(?P<chap>[\\d,-]*):(?P<verse>[\\d,-]*)"

/-- The kinds of marked-up element. -/
inductive Tag where
  | segment
  | note
  | word
  | milestone
  | foreign
  | title
  | change
  | divineName
  | reference
  | quotation
deriving DecidableEq, Repr

/-- The kind of an element from its lower-cased name. -/
def Tag.ofName? : String → Option Tag
  | "seg" => some .segment
  | "note" => some .note
  | "w" => some .word
  | "milestone" => some .milestone
  | "foreign" => some .foreign
  | "title" => some .title
  | "transchange" => some .change
  | "divinename" => some .divineName
  | "scripref" => some .reference
  | "q" => some .quotation
  | _ => none

/-- The attributes of an attribute text, each name once with its last value. -/
def attributes (text : String) : List (String × String) :=
  let pairs := (attributePattern.findAll text).filterMap fun g => match g with
    | [k, v] => some (k, v)
    | _ => none
  pairs.foldl (fun acc (k, v) =>
    if acc.any (·.1 == k) then acc.map fun (k', v') => if k' == k then (k', v) else (k', v')
    else acc ++ [(k, v)]) []

/-- The link target of a passage, and the shown text with `Jud ` made `Judg ` when the
passage names the book `jud`. -/
def passageLink (passage text : String) : String × String :=
  let refs := (passagePattern.findAll (Text.trimBlank passage)).filterMap fun g => match g with
    | [b, c, v] => some (Text.trimBlank b, c, v)
    | _ => none
  let step := fun (acc : List String × String × String) (r : String × String × String) =>
    let (links, last, shown) := acc
    let (b, c, v) := r
    let book := if b.isEmpty then last else b
    let (name, shown) :=
      if Text.lower book == "jud" then ("Judg", shown.replace "Jud " "Judg ") else (book, shown)
    (links ++ [name ++ "+" ++ c ++ ":" ++ v], book, shown)
  let (links, _, shown) := refs.foldl step ([], "", text)
  (";".intercalate links, shown)

/-- The HTML of one element of kind `t` with attribute text `attr` and text `text`;
`inner` converts the text of the elements whose text is converted. -/
def Tag.html (t : Tag) (attr text : String) (inner : String → String) : String :=
  let attrs := attributes (Text.lower attr)
  let field (name : String) (default : String) := (attrs.lookup name).getD default
  match t with
  | .change =>
    if attrs.lookup "type" == some "added" then "<span class=\"added-text\">" ++ text ++ "</span>"
    else ""
  | .divineName => "<span class=\"divine-name\">" ++ text ++ "</span>"
  | .title => "<span class=\"title-text\">" ++ inner text ++ "</span> "
  | .foreign =>
    match attrs.lookup "n" with
    | some n => "<span class=\"foreign-text\">" ++ n ++ "</span> " ++ field "text" text
    | none => ""
  | .milestone =>
    match attrs.lookup "marker" with
    | some m => "<span class=\"paragraph-marker\">" ++ m ++ "</span> " ++ field "text" text
    | none => ""
  | .word =>
    let own := attributes attr
    let number := (own.lookup "lemma").map fun l => "data-lemma=\"" ++ l ++ "\" "
    let parsing := (own.lookup "morph").map fun m => "data-morph=\"" ++ m ++ "\""
    "<span class=\"word\" " ++ number.getD "" ++ parsing.getD "" ++ ">" ++
      inner ((own.lookup "text").getD text) ++ "</span>"
  | .segment => "<span class=\"seg\">" ++ inner text ++ "</span>"
  | .note => "<span class=\"note\">" ++ text ++ "</span>"
  | .reference =>
    let (target, shown) := passageLink (field "passage" "") text
    "<a class=\"verseref verselist\" href=\"/biblesearch/lookup?verse_refs=" ++ target ++ "\">" ++
      shown ++ "</a>"
  | .quotation => "<span class=\"red-quote\">" ++ inner text ++ "</span>"

/-- Converts the elements of a text; `fuel` bounds the depth of elements inside elements. -/
def htmlWithin : Nat → String → String
  | 0, text => text
  | fuel + 1, text =>
    (elementPattern.replaceBy text fun m =>
      match Tag.ofName? (Text.lower (m.group 1)) with
      | some t => t.html (m.group 2) (m.group 4) (htmlWithin fuel)
      | none => m.group 0).1

/-- A verse's markup as HTML. The text of an element is shorter than the element, so the
depth of elements inside elements is less than the length of the text. -/
def verseHtml (text : String) : String := htmlWithin (text.length + 1) text

end Scripture.Web
