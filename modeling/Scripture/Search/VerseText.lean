import Scripture.Store.Index

/-!
# Verse text from the index

The index holds each verse's text with its markup: Strong's numbers as `<H430>`, tags as
`{H8804}`, added words between `<i>` and `</i>`, a paragraph mark between `<p>` and
`</p>` and notes between `<n>` and `</n>`. A `TextView` says which of these a reader keeps.

* `TextView.render` — the text with the markup the view drops taken out (numbers and tags
  with the blanks before them, added words with their marks or only the marks, the
  paragraph mark or only its marks), notes dropped or written as ` (Notes: …)`, and the
  blanks at the ends trimmed.
* `Index.verseText` — the rendered text of a verse; an entry that is not a text fails.
-/

namespace Scripture.Search

open Pattern

/-- Which of a verse's markup a reader keeps. -/
structure TextView where
  strongs : Bool := false
  morph : Bool := false
  italicMarkers : Bool := false
  added : Bool := true
  paragraph : Bool := true
  notes : Bool := false
deriving Repr

/-- The pattern of the markup a view drops. -/
def TextView.dropped (v : TextView) : Regex :=
  let parts :=
    (if v.strongs then [] else ["\\s*<([GH]\\d+)>"]) ++
    (if v.morph then [] else ["\\s*\\\x7b([\\w-]+)\\\x7d"]) ++
    (if v.added then [] else ["\\s?<i>\\s?(.*?)\\s?</i>"]) ++
    (if v.italicMarkers then [] else ["(<i>\\s?|\\s?</i>)"]) ++
    (if v.paragraph then ["(<p>\\s?|\\s?</p>)"] else ["\\s?<p>\\s?(.*?)\\s?</p>"])
  fixed ("(?:" ++ "|".intercalate parts ++ ")") { dotAll := true }

/-- A note with the blanks around it. -/
def notePattern : Regex := fixed "\\s?<n>\\s?(.*?)\\s?</n>" { dotAll := true }

/-- A verse's text as a view shows it. -/
def TextView.render (v : TextView) (text : String) : String :=
  let kept := (v.dropped.replaceBy text fun _ => "").1
  let noted := (notePattern.replaceBy kept fun m =>
    if v.notes then " (Notes: " ++ m.group 1 ++ ")" else "").1
  Text.trimBlank noted

end Scripture.Search

namespace Scripture

/-- The text of a verse from the index as a view shows it. -/
def Index.verseText (ix : Index) (v : Search.TextView) (ref : Json) : Except Failure String := do
  let entry ← ix.entryOf ref
  pure (v.render (← textOf entry))

end Scripture
