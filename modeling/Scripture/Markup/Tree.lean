import Scripture.Markup.Xml
import Scripture.Pattern.Replace

/-!
# Reading verse markup as a tree

Verse markup is read as XML, wrapped in a root element whose namespace names what the root
stands for. Two readings of the tree are given.

`plainText` renders the verse as text: the text of each node is put after a blank; an
element with attributes is marked as added (`<i>…</i>`) or as a note (`<n>…</n>`) by them,
starts with `<p>¶</p>` when it has a `marker`, and is followed by its Strong's numbers and
morphology when these are asked for; the divine name is put in capitals. Blanks are then
tidied around punctuation and marks. Markup that is not well formed, or whose attributes
cannot be read, is given back tidied but otherwise as it is.

`verseFacts` gathers what the markup says about the verse: for each Strong's number and
morphological tag, the words it is attached to; for each word with attributes, those
attributes; the added words, notes, paragraph marks and headings; and the whole text of
the verse under the root's name.
-/

namespace Scripture.Markup

open Pattern

/-- Updates the entry for `k` of an association list, adding it at the end when it is new. -/
def upsert {α : Type} (xs : List (String × α)) (k : String) (f : Option α → α) : List (String × α) :=
  if xs.any (·.1 == k) then xs.map fun (k', v) => if k' == k then (k', f (some v)) else (k', v)
  else xs ++ [(k, f none)]

/-- The value of an attribute, if the element has it. -/
def attrOf (attrs : List (String × String)) (k : String) : Option String := attrs.lookup k

/-- The part of an attribute item after its first colon (`strong:H430` gives `H430`); an
item without a colon cannot be read. -/
def afterColon (item : String) : Except Failure String :=
  match item.splitOn ":" with
  | _ :: v :: _ => pure v
  | _ => throw ⟨.outOfRange, "list index out of range"⟩

/-- A word and the possessive ending after it, in the divine name. -/
def nameWord : Regex := fixed "(\\w+)([\\'s]*)"

/-- Blanks before punctuation. -/
def blanksBeforeStop : Regex := fixed "\\s+([\\.:\\?!,;])"

/-- Blanks after anything but the end of a sentence. -/
def blanksAfterWord : Regex := fixed "([^\\.:\\?!])\\s+"

/-- Blanks after an opening mark. -/
def blanksAfterMark : Regex := fixed "(<[npi]>)\\s*"

/-- Blanks before a closing mark. -/
def blanksBeforeMark : Regex := fixed "\\s*(</[npi]>)"

/-- Blanks after an opening italic mark. -/
def blanksAfterItalic : Regex := fixed "(<i>)\\s*"

/-- Blanks before a closing italic mark. -/
def blanksBeforeItalic : Regex := fixed "\\s*(</i>)"

/-- An italic mark with a blank inside it. -/
def italicMark : Regex := fixed "(<i>\\s?|\\s?</i>)"

/-- Replaces every match by its first group, followed by `after`. -/
def keepGroup (r : Regex) (after : String) (s : String) : String :=
  (r.replaceBy s fun m => m.group 1 ++ after).1

/-- Tidies blanks around punctuation and the marks of notes, paragraphs and added words,
and removes line ends. -/
def tidy (s : String) : String :=
  let s := keepGroup blanksBeforeStop "" s
  let s := keepGroup blanksAfterWord " " s
  let s := keepGroup blanksAfterMark "" s
  (keepGroup blanksBeforeMark "" s).replace "\n" ""

/-- The rendering of one node; `fuel` bounds the depth of the tree. -/
def plainNode (strongs morph : Bool) : Nat → XmlNode → Except Failure String
  | 0, _ => pure ""
  | _ + 1, .text d | _ + 1, .cdata d | _ + 1, .comment d | _ + 1, .instruction _ d => pure d
  | fuel + 1, .element _ name attrs children => do
    let divine := (Text.lower name).contains "divine"
    let mut body := ""
    for c in children do
      let s ← plainNode strongs morph fuel c
      body := body ++ " " ++ (if divine then
        (nameWord.replaceBy s fun m => Text.upper (m.group 1) ++ m.group 2).1 else s)
    if attrs.isEmpty then return Text.trimBlank body
    let mut italic := false
    let mut note := false
    let mut numbers := ""
    let mut tags := ""
    for (k, v) in attrs do
      if (Text.lower v).contains "added" then italic := true
      else if (Text.lower v).contains "study" || (Text.lower name).contains "note" then note := true
      else if (Text.lower k).contains "lemma" && strongs then
        for item in Text.fields v do
          numbers := numbers ++ " <" ++ (← afterColon item) ++ "> "
      else if (Text.lower k).contains "morph" && morph then
        for item in Text.fields v do
          tags := tags ++ " \x7b" ++ (← afterColon item) ++ "\x7d "
    let lead := match attrOf attrs "marker" with
      | some m => "<p>" ++ m ++ "</p>"
      | none => ""
    let inner := lead ++ body ++ numbers ++ tags
    let inner := if note then "<n>" ++ inner ++ "</n>" else inner
    pure (if italic then "<i>" ++ inner ++ "</i>" else inner)

/-- Verse markup wrapped in a root element with the namespace `space`. -/
def wrapMarkup (space raw : String) : String :=
  "<?xml version=\"1.0\"?>\n        <root xmlns=\"" ++ space ++ "\">\n        " ++ raw ++ "\n        </root>"

/-- Renders verse markup as text, as described above, before its spacing is tidied; markup
that is not well formed, or whose attributes cannot be read, has no rendering. -/
def renderedText? (raw : String) (strongs morph : Bool := false) : Option String :=
  let rendered : Except String String := do
    let nodes ← parseXml (wrapMarkup "verse" raw)
    let mut out := ""
    for n in nodes do
      match plainNode strongs morph (raw.length + 4) n with
      | .ok s => out := out ++ " " ++ s
      | .error _ => throw "unreadable attributes"
    pure (Text.trimBlank out)
  match rendered with
  | .ok s => some s
  | .error _ => none

/-- Renders verse markup as text, as described above; markup that cannot be rendered stands
as it is. -/
def plainText (raw : String) (strongs morph : Bool := false) : String :=
  tidy ((renderedText? raw strongs morph).getD raw)

/-! ### What the markup says about the verse -/

/-- The attributes of one word: its Strong's numbers and its morphology, each present when
the word's element had such an attribute. -/
structure WordAttrs where
  fields : List (String × List String)
deriving Repr, Inhabited

/-- What the markup says about a verse or part of it: lists of texts by key, and the
attributes of each word with attributes. How often a list holds a text is meant, its order
is not: where texts are taken from a set, they are listed in the order they first appear. -/
structure VerseFacts where
  lists : List (String × List String) := []
  words : List (String × List WordAttrs) := []
deriving Repr, Inhabited

/-- Adds texts to the list under `k`. -/
def VerseFacts.add (f : VerseFacts) (k : String) (vs : List String) : VerseFacts :=
  { f with lists := upsert f.lists k fun old => old.getD [] ++ vs }

/-- What a list of the whole becomes when a list of a part under the same key is added: the
whole keeps its texts and is followed by each text, not empty, that either list holds, once
(the union of the two as sets); an empty list of the part adds nothing. -/
def mergeTexts (whole part : List String) : List String :=
  whole ++ if part.isEmpty then [] else ((part ++ whole).filter (!·.isEmpty)).eraseDups

/-- Adds the facts of a part to the facts of the whole: each list of the part by
`mergeTexts`, making its key when the whole has none, and the attributes of each word of the
part after those of the whole. -/
def VerseFacts.merge (f g : VerseFacts) : VerseFacts :=
  let lists := g.lists.foldl (fun acc (k, vs) => upsert acc k fun old => mergeTexts (old.getD []) vs)
    f.lists
  let words := g.words.foldl (fun acc (k, ws) => upsert acc k fun old => old.getD [] ++ ws) f.words
  ⟨lists, words⟩

/-- The facts that the items of one lemma or morph attribute add: the part after the colon of
each item is a number or tag, listed under `label` in the word attributes, with the element's
clean text listed under it; `write` gives what to write for it after the text. The list under
`label` is then left without repeats. -/
def itemFacts (label : String) (write : String → String) (clean : String) (items : List String)
    (facts : VerseFacts) (wordAttrs : List (String × List String)) (marks : String) :
    Except Failure (VerseFacts × List (String × List String) × String) := do
  let mut facts := facts
  let mut wordAttrs := wordAttrs
  let mut marks := marks
  for item in items do
    let n ← afterColon item
    wordAttrs := upsert wordAttrs label fun old => old.getD [] ++ [n]
    facts := facts.add n [clean]
    marks := marks ++ write n
  return (facts, upsert wordAttrs label fun old => (old.getD []).eraseDups, marks)

/-- The facts that the word attributes of an element add: the part after the colon of each item
of a lemma attribute is a Strong's number and of a morph attribute a morphological tag, and the
element's clean text is listed under it. Also gives the element's word attributes, each list
without repeats, and the numbers and tags to write after its text when they are asked for. An
item without a colon cannot be read. -/
def attrFacts (strongs morph : Bool) (clean : String) (attrs : List (String × String))
    (facts : VerseFacts) :
    Except Failure (VerseFacts × List (String × List String) × String × String) := do
  let mut facts := facts
  let mut wordAttrs : List (String × List String) := []
  let mut numbers := ""
  let mut tags := ""
  for (k, v) in attrs do
    if (Text.lower k).contains "lemma" then
      let (f, w, n) ← itemFacts "strongs" (fun n => if strongs then " <" ++ n ++ "> " else "")
        clean (Text.fields v) facts wordAttrs numbers
      facts := f
      wordAttrs := w
      numbers := n
    else if (Text.lower k).contains "morph" then
      let (f, w, t) ← itemFacts "morph" (fun t => if morph then " \x7b" ++ t ++ "\x7d " else "")
        clean (Text.fields v) facts wordAttrs tags
      facts := f
      wordAttrs := w
      tags := t
  return (facts, wordAttrs, numbers, tags)

/-- The paragraph mark or note that the type of an element makes it: an element of type `x-p`, or
with a `marker`, is a paragraph mark and must have a `marker`; a study note, or an element named
as a note, is a note with its text. -/
def markFacts (name kind : String) (marker : Option String) (text : String)
    (facts : VerseFacts) : Except Failure VerseFacts :=
  if Text.lower kind == "x-p" || marker.isSome then
    match marker with
    | some m => pure (facts.add "_x-p" [Text.trimBlank m])
    | none => throw ⟨.missingKey, "'marker'"⟩
  else if (Text.lower kind).contains "study" || (Text.lower name).contains "note" then
    pure (facts.add "_notes" [Text.trimBlank text])
  else pure facts

/-- The added words or heading that the type of an element makes its text: added words without
a `marker` are set in italics, a section or preverse heading is kept, and the text of any other
typed element is dropped. Gives the text, whether it is in italics, and the facts. -/
def headingFacts (kind subType : String) (marker : Option String) (text : String)
    (facts : VerseFacts) : String × Bool × VerseFacts :=
  if (Text.lower kind).contains "added" || (Text.lower subType).contains "added" then
    if marker.isNone then (text, true, facts.add "_added" [Text.trimBlank text])
    else (text, false, facts)
  else if (Text.lower kind).contains "section" || (Text.lower subType).contains "preverse" then
    (text, false, facts.add "_preverse" [Text.trimBlank text])
  else ("", false, facts)

/-- The text read from the children of an element with its blanks tidied around punctuation
and italic marks, and its line ends removed. -/
def spacedText (body : String) : String :=
  let text := keepGroup blanksBeforeStop "" body
  let text := keepGroup blanksAfterWord " " text
  let text := keepGroup blanksAfterItalic "" text
  (keepGroup blanksBeforeItalic "" text).replace "\n" ""

/-- The clean text of an element: its tidied text without italic marks and without blanks at
the ends. It is the text that the element's numbers and tags are listed with. -/
def cleanText (text : String) : String := Text.trimBlank (italicMark.replaceBy text fun _ => "").1

/-- The text and facts of an element with attributes, from the text read from its children and
the facts gathered from them. A word with attributes is listed with them; otherwise the type of
the element says what its text is, and the root adds the whole text under its namespace. -/
def elementFacts (strongs morph : Bool) (name : String) (attrs : List (String × String))
    (body : String) (facts : VerseFacts) : Except Failure (String × VerseFacts) := do
  let text := spacedText body
  let clean := cleanText text
  let (facts, wordAttrs, numbers, tags) ← attrFacts strongs morph clean attrs facts
  if !wordAttrs.isEmpty then
    pure (text ++ numbers ++ tags,
      { facts with words := upsert facts.words clean fun old => old.getD [] ++ [⟨wordAttrs⟩] })
  else if (attrOf attrs "type").isSome || (attrOf attrs "subType").isSome then
    let subType := (attrOf attrs "subType").getD ""
    let kind := (attrOf attrs "type").getD subType
    let marker := attrOf attrs "marker"
    let facts ← markFacts name kind marker text facts
    let (text, italic, facts) := headingFacts kind subType marker text facts
    let whole := text ++ numbers ++ tags
    pure (if italic then "<i>" ++ whole ++ "</i>" else whole, facts)
  else match attrOf attrs "xmlns" with
    | some space =>
      let text := Text.trimBlank text
      pure (text ++ numbers ++ tags, facts.add ("_" ++ space) [text])
    | none => pure (text ++ numbers ++ tags, facts)

mutual

/-- The text and facts of one node. A text, CDATA section, comment or instruction is its own
text and says nothing; an element gathers its children and, when it has attributes, adds
what they say. -/
def factsNode (strongs morph : Bool) : XmlNode → Except Failure (String × VerseFacts)
  | .text d | .cdata d | .comment d | .instruction _ d => pure (d, {})
  | .element _ name attrs children => do
    let (body, facts) ←
      gatherFacts strongs morph ((Text.lower name).contains "divine") ("", {}) children
    if attrs.isEmpty then return (body, facts)
    elementFacts strongs morph name attrs body facts

/-- The text and facts of a list of sibling nodes read one after another, after the text and
facts `acc` gathered before them: each text follows a blank (in capitals under the divine
name), and the facts of each node are merged into those before it. -/
def gatherFacts (strongs morph divine : Bool) (acc : String × VerseFacts) :
    List XmlNode → Except Failure (String × VerseFacts)
  | [] => pure acc
  | c :: cs => do
    let (s, cf) ← factsNode strongs morph c
    gatherFacts strongs morph divine
      (acc.1 ++ " " ++ (if divine then Text.upper s else s), acc.2.merge cf) cs

end

/-- The text of the top-level nodes of verse markup and what they say about the verse, when
the attributes of every node can be read: the nodes are gathered as the children of the
document. -/
def readNodes (strongs morph : Bool) (nodes : List XmlNode) : Option (String × VerseFacts) :=
  (gatherFacts strongs morph false ("", {}) nodes).toOption

/-- The text of verse markup and what it says about the verse, when the markup is well formed
and its attributes can be read. -/
def readVerseFacts (raw : String) (strongs morph : Bool := true) : Option (String × VerseFacts) :=
  match parseXml (wrapMarkup "verse_text" raw) with
  | .ok nodes => readNodes strongs morph nodes
  | .error _ => none

/-- The text of verse markup and what it says about the verse. Markup that is not well
formed, or whose attributes cannot be read, gives itself as the text and the whole verse. -/
def verseFacts (raw : String) (strongs morph : Bool := true) : String × VerseFacts :=
  (readVerseFacts raw strongs morph).getD (raw, { lists := [("_verse_text", [raw])] })

end Scripture.Markup
