import Scripture.Pattern.Replace
import Scripture.Text.Format

/-!
# Rendering verse markup

Verse text is stored as markup: words in `<w>` elements whose attributes carry Strong's
numbers (`strong:H430`) and morphology (`robinson:N-NSM`, `strongMorph:TH8804`), words
added by the translators in `<transChange type="added">`, notes, quotations, paragraph
milestones and the divine name. Rendering turns it into plain text with light marks:
`<i>…</i>` for added words, ` <n>…</n>` for notes, `<p>¶</p> ` for a paragraph mark, the
divine name in capitals, and, when asked, ` <H430>` after a word for its Strong's numbers
and ` {N-NSM}` for its morphology.

Both renderings read the text as a run of pieces, each some text, one element and the text
after it up to the next `<`; text that is not part of such a piece is dropped.

* `renderFlat` looks one level into an element: when the element holds elements itself,
  each of those is rendered in its place, and an added element's marks then go around
  the whole of it, with the text after it inside the format of the mark.
* `renderNested` renders elements inside elements to any depth.
-/

namespace Scripture.Markup

open Pattern

/-- The Strong's numbers of an attribute text. -/
def strongsAttr : Regex := fixed "strong:([GH]\\d+)" { ignoreCase := true }

/-- The morphology of an attribute text. -/
def morphAttr : Regex := fixed "(?:Morph|robinson):([\\w-]*)" { ignoreCase := true }

/-- A paragraph mark given by a `marker` attribute. -/
def markerAttr : Regex := fixed ".*marker=\"(.)\".*" { ignoreCase := true }

/-- One piece of verse markup: leading text, an element with its name, attributes and
content, and the text after it. -/
def piecePattern (names : String) : Regex :=
  fixed ("\n                ([^<]*)\n                <(?P<tag>" ++ names ++
    ")([^>]*)>\n                ([\\w\\W]*?)\n                </(?P=tag)>\n                ([^<]*)\n                ")
    { ignoreCase := true, verbose := true }

/-- The pieces that `renderFlat` reads. -/
def flatPiece : Regex := piecePattern "q|w|transChange|note"

/-- The pieces that `renderNested` reads. -/
def nestedPiece : Regex := piecePattern "seg|q|w|transChange|note"

/-- The divine name, possibly inside a `<seg>`, with a possessive ending kept apart. -/
def flatDivineName : Regex :=
  fixed ("\n                (?:<seg>)?\n                <(?:divineName)>+\n                ([^<]*?)\n" ++
    "                ([\\'s]*)\n                </(?:divineName)>\n                (?:</seg>)?\n                ")
    { ignoreCase := true, verbose := true }

/-- The divine name, with a possessive ending kept apart. -/
def nestedDivineName : Regex :=
  fixed ("\n                <(?:divineName)>\n                ([^<]*?)\n                ([\\'s]*)\n" ++
    "                </(?:divineName)>\n                ")
    { ignoreCase := true, verbose := true }

/-- A segment marked as added by the translators. -/
def addedSegment : Regex := fixed "<seg subType=\"x-added\"[^>]*>([^<]*)</seg>" { ignoreCase := true }

/-- The parts of a piece: leading text, element name, attributes, content, trailing text. -/
structure Piece where
  lead : String
  name : String
  attrs : String
  body : String
  trail : String

/-- The piece a match of a piece pattern found. -/
def Piece.ofGroups (gs : List String) : Piece :=
  match gs with
  | [a, b, c, d, e] => ⟨a, b, c, d, e⟩
  | _ => ⟨"", "", "", "", ""⟩

/-- The piece of a match. -/
def Piece.ofMatch (m : Match) : Piece := Piece.ofGroups ((List.range 5).map fun i => m.group (i + 1))

/-- The divine name in capitals, with its ending as it is. -/
def capitalName (r : Regex) (text : String) : String :=
  (r.replaceBy text fun m => Text.upper (m.group 1) ++ m.group 2).1

/-- The marks for the Strong's numbers and the morphology of an element's attributes, as
asked for. -/
def attrMarks (attrs : String) (strongs morph : Bool) : String :=
  let ss := (strongsAttr.findAll attrs).map (·.headD "")
  let ms := (morphAttr.findAll attrs).map (·.headD "")
  (if strongs && !ss.isEmpty then " <" ++ "> <".intercalate ss ++ ">" else "") ++
    (if morph && !ms.isEmpty then " \x7b" ++ "\x7d \x7b".intercalate ms ++ "\x7d" else "")

/-- Whether a text, in lower case, contains a word. -/
def mentions (text word : String) : Bool := (Text.lower text).contains word

/-- Wraps text in the marks of added words. -/
def italic (text : String) : String := "<i>" ++ text ++ "</i>"

/-- Renders one piece found inside an element (or the element's own piece), for
`renderFlat`. -/
def flatPart (strongs morph : Bool) (p : Piece) : String :=
  let body := (addedSegment.replaceBy (capitalName flatDivineName p.body) fun m =>
    "<i>" ++ m.group 1 ++ "</i>").1
  let (para, lead) :=
    if mentions p.lead "marker" then
      ("<p>" ++ (markerAttr.replaceBy p.lead fun m => m.group 1).1 ++ "</p> ", "")
    else ("", p.lead)
  let isNote := mentions p.name "note" || mentions p.attrs "study"
  let (note, body) := if isNote then (" <n>" ++ body ++ "</n>", "") else ("", body)
  let shown := if mentions p.attrs "added" then italic (lead ++ body) else lead ++ body
  let marks :=
    if ["transchange", "w", "seg"].contains (Text.lower (Text.trimBlank p.name)) then
      attrMarks p.attrs strongs morph
    else ""
  para ++ note ++ shown ++ marks ++ p.trail

/-- Renders verse markup one level deep. The marks of an added element that holds elements
are a format around its rendering, which ends with the text after the element; that text
is read as part of the format, so a `%` in it is a conversion, and may fail. -/
def renderFlat (text : String) (strongs morph : Bool := false) : Except Failure String := do
  let parts ← (flatPiece.allMatches text).mapM fun m => do
    let p := Piece.ofMatch m
    if flatPiece.test p.body then
      let added := mentions p.attrs "added"
      let inner := if added then p.body else p.body ++ p.trail
      let pieces := (flatPiece.findAll inner).map Piece.ofGroups
      let rendered := String.join (pieces.map (flatPart strongs morph))
      if added then Text.fill ("<i>%s</i>" ++ p.trail) rendered else pure rendered
    else pure (flatPart strongs morph p)
  pure (String.join parts)

/-- Renders verse markup to any depth; `fuel` bounds the depth, and the length of the text
is always enough, since each level reads a shorter text. -/
def renderNestedWith (strongs morph : Bool) : Nat → String → String
  | 0, _ => ""
  | fuel + 1, text =>
    String.join ((nestedPiece.allMatches text).map fun m =>
      let p := Piece.ofMatch m
      let marks := attrMarks p.attrs strongs morph
      let isNote := mentions p.name "note" || mentions p.attrs "study"
      let wrap := fun (s : String) =>
        let s := if mentions p.attrs "added" then italic s else s
        if isNote then " <n>" ++ s ++ "</n>" else s
      let shown :=
        if nestedPiece.test p.body then wrap (renderNestedWith strongs morph fuel p.body ++ marks)
        else
          (markerAttr.replaceBy p.lead fun m => "<p>" ++ m.group 1 ++ "</p> ").1 ++
            wrap (capitalName nestedDivineName p.body) ++ marks
      shown ++ p.trail)

/-- Renders verse markup to any depth. -/
def renderNested (text : String) (strongs morph : Bool := false) : String :=
  renderNestedWith strongs morph (text.length + 1) text

end Scripture.Markup
