import Scripture.Web.Tags
import Scripture.Web.Pages
import Scripture.Web.Request
import Scripture.Search.Engine
import Scripture.Search.Highlight
import Scripture.Reference.SortKey
import Scripture.Json.Read

/-!
# Passages for the site

What the site does with references and search terms before it writes a page.

* `readingRefs` — the verses of a reference list in reading order; a list that counts as
  false names none, and a list of texts is read as the texts joined by commas.
* `paragraphEdge` — the first verse of a run of verses that opens a paragraph (its markup
  has a `marker` attribute), or the verse before it, or the last verse before the run
  crosses into another book. Paragraphs are taken not to cross books.
* `paragraphOf` — the paragraph of a verse, as a range from its first verse to the verse
  before the next paragraph, looking at most 200 verses to either side.
* `chapterOf` — the chapter of a verse, which the standalone build cannot give.
* `lookupRows` — looked-up verses with context: the verses asked for have the search terms
  highlighted, every verse's markup is written as HTML, and an empty row stands between
  two books. A reference is shown only when there are search terms. Strong's numbers are
  not highlighted: they are taken out of the terms, as are terms that exclude.
* `siteSearch` — a mixed search of the quoted phrases and single words of a query
  within a range of books, in reading order, with the cookie that records the query.
* `definitionPanel` — the definitions of Strong's numbers and of morphology tags.
* `devotionalHtml` — the devotional of a date with its markup written as HTML.

The site is built in two ways (`AppBuild`). The standalone build asks the reference library
for context verses in a way the library does not take, so its verse lookups always fail; the
embedded build looks verses up.
-/

namespace Scripture.Web

open Pattern

/-- The two ways the site is built. -/
inductive AppBuild where
  /-- Routes and helpers at the top level; its verse lookups and chapter ranges fail. -/
  | standalone
  /-- Routes and helpers on one object; it has no chapter ranges. -/
  | embedded
deriving DecidableEq, Repr

/-- The text of a reference list: a text as it is, the texts of a list joined by commas,
the names of an object joined by commas. -/
def refListText (refs : Json) : Except Failure String :=
  match refs with
  | .str s => pure s
  | .arr xs => do
    let ss ← xs.zipIdx.mapM fun (x, i) => match x with
      | .str s => pure s
      | y => throw ⟨.wrongType, "sequence item " ++ toString i ++ ": expected str instance, " ++
          y.kindName ++ " found"⟩
    pure (",".intercalate ss)
  | .obj fs => pure (",".intercalate (Json.fieldNames fs))
  | _ => throw ⟨.wrongType, "can only join an iterable"⟩

/-- The offsets of the verses of a reference list; a list that counts as false has none. -/
def listedOffsets (refs : Json) : Except Failure (List Nat) := do
  if !refs.truthy then return []
  RangeList.offsets (← refListText refs)

/-- The verses of a reference list in reading order. -/
def readingRefs (refs : Json) : Except Failure (List String) := do
  pure ((← listedOffsets refs).map Canon.refText)

/-- Whether a value counts as the number zero. -/
def isZeroCount : Json → Bool
  | .int 0 => true
  | .dec m _ => m == 0
  | .bool false => true
  | _ => false

/-- What widening a reference list by a count gives: the list itself, as it was given, or the
offsets of the widened verses. -/
inductive Widened where
  | given (refs : Json)
  | verses (offsets : List Nat)

/-- Widens a reference list by a count of verses on either side: a count equal to zero gives
the list back as it is; a list given as one text leaves the joined text unset, which fails;
any other list is joined with commas and each of its verses widened by
`RangeList.withContext`. -/
def addContext (refs count : Json) : Except Failure Widened := do
  if isZeroCount count then return .given refs
  if let .str _ := refs then
    throw ⟨.unsetName, "cannot access local variable 'reference' where it is not associated with a value"⟩
  return .verses (← RangeList.withContext (← refListText refs) count)

/-- A `marker` attribute, which opens a paragraph. -/
def paragraphMark : Regex := fixed "marker=\"[^\"]+\""

/-- The book of a reference: the part before its chapter and verse, without blanks at the
ends. -/
def bookOf? (ref : String) : Option String :=
  (passagePattern.find? ref).map fun m => Text.trimBlank (m.group 1)

/-- The failure of reading a book where no reference was found. -/
def noBook : Failure := ⟨.missingMember, "'NoneType' object has no attribute 'groupdict'"⟩

/-- The edge of a paragraph in a run of verses, as `paragraphEdge` says; `last` is the
verse before the rest of the run and `seen` the last verse of the run so far. -/
def paragraphWalk (bible : Table) (inclusive : Bool) :
    List Json → String → Option String → Except Failure String
  | [], last, seen =>
    if inclusive then
      match seen with
      | some r => pure r
      | none => throw ⟨.unsetName, "cannot access local variable 'ref' where it is not associated with a value"⟩
    else pure last
  | r :: rest, last, _ => do
    let raw ← bible.lookupOf r
    let ref ← textOf r
    let book := bookOf? ref
    if !last.isEmpty && book.isSome then
      match bookOf? last with
      | none => throw noBook
      | some lastBook => if some lastBook != book then return last
    if paragraphMark.test (← textOf raw) then
      return (if inclusive then ref else last)
    paragraphWalk bible inclusive rest ref (some ref)

/-- The verse of a run that starts a paragraph (`inclusive`) or the one before it; the run
starts after `default`. -/
def paragraphEdge (bible : Table) (refs : List Json) (inclusive : Bool) (default : String) :
    Except Failure String :=
  paragraphWalk bible inclusive refs default none

/-- How many verses to either side of a verse its paragraph is looked for in. -/
def paragraphReach : Nat := 200

/-- The paragraph of a verse, as a range of two references. -/
def paragraphOf (bible : Table) (ref : Json) : Except Failure String := do
  let text ← refListText (.arr [ref])
  let around := (← RangeList.withContext text (.int paragraphReach)).map Canon.refText
  let place ← match around.idxOf? text with
    | some i => pure i
    | none => throw ⟨.badValue, Text.quote text ++ " is not in list"⟩
  let before := (around.take (place + 1)).reverse.map Json.str
  let after := (around.drop (place + 1)).map Json.str
  let first ← paragraphEdge bible before true text
  let last ← paragraphEdge bible after false text
  pure (first ++ "-" ++ last)

/-- The chapter of a verse, which the standalone build asks of the reference library by a name
the library does not have: it fails for every verse it can read. -/
def chapterOf (ref : Json) : Except Failure String := do
  let _ ← Verse.ofJson ref
  throw ⟨.missingMember, "'Verse' object has no attribute 'get_book_name'"⟩

/-- A Strong's number in search terms. -/
def numberTerm : Regex := fixed "(H|G)\\d+" { ignoreCase := true }

/-- A quoted phrase or a single word of a query. -/
def queryPart : Regex := fixed "(?:\"(?P<quoted>[^\"]+)\"|(?P<unquoted>[^\\s\"]+))"

/-- The quoted phrases (without their quotes) and single words of a query, in order. -/
def queryParts (text : String) : List String := (queryPart.findAll text).map String.join

/-- The markup of Strong's numbers, whose name the highlighter must not take for a word. -/
def numberMarkup : Regex := fixed "(stron)g(:|Morph:|sMarkup)" { ignoreCase := true }

/-- The markup of Strong's numbers with its name changed while the highlighter runs. -/
def hiddenNumberMarkup : Regex := fixed "(stron)k(:|Morph:|sMarkup)" { ignoreCase := true }

/-- What a tag of the HTML the highlighter passes over looks like. -/
def spanTag : String := "</?span[^>]*>"

/-- A verse's markup with the search terms highlighted. -/
def highlightMarkup (text : String) (patterns : List Regex) : String :=
  let hidden := (numberMarkup.replaceBy text fun m => m.group 1 ++ "k" ++ m.group 2).1
  let marked := Search.highlight hidden patterns "<span class=\"query-highlight\">\\1</span>" spanTag
  (hiddenNumberMarkup.replaceBy marked fun m => m.group 1 ++ "g" ++ m.group 2).1

/-- The book of a reference written in reading form: the text before its last blank. -/
def bookPart (ref : String) : String := ((Reference.splitLastSpace ref).map (·.1)).getD ref

/-- Looked-up verses for a reference list, search terms and a number of context verses. -/
def lookupRows (build : AppBuild) (bible : Table) (refs terms context : Json) :
    Except Failure (List VerseRow) := do
  let asked ← listedOffsets refs
  if build == .standalone then
    match context with
    | .int _ | .dec _ _ | .bool _ => pure ()
    | j => throw ⟨.wrongType, "'>=' not supported between instances of '" ++ j.kindName ++ "' and 'int'"⟩
    throw ⟨.wrongType, "add_context() takes from 1 to 2 positional arguments but 3 were given"⟩
  let listed ← if isZeroCount context then pure asked
    else RangeList.withContext (",".intercalate (asked.map Canon.refText)) context
  let text ← textOf terms
  let shownTerms := Text.trimBlank (numberTerm.replaceBy text fun _ => "").1
  let highlighted := (queryParts shownTerms).filter (!·.startsWith "!")
  let mut rows : List VerseRow := []
  let mut last : Option String := none
  for o in listed do
    let ref := Canon.refText o
    let raw := bible.lookup ref
    let marked ← if asked.contains o then do
        let patterns ← Search.highlightPatterns highlighted false false spanTag "</span>"
        pure (highlightMarkup (← textOf raw) patterns)
      else textOf raw
    let html := verseHtml marked
    if let some prev := last then
      if bookPart prev != bookPart ref then rows := rows ++ [⟨false, "", ""⟩]
    last := some ref
    rows := rows ++ [⟨asked.contains o, if shownTerms.isEmpty then "" else ref, html⟩]
  pure rows

/-- A mixed search of a query's phrases and words within the books from `lowest` to
`highest`, in reading order, with the cookie that records the query. -/
def siteSearch (s : Search.Searcher) (terms lowest highest : Json) :
    Except Failure (List String × Cookie) := do
  let text ← textOf terms
  let range := lowest.display ++ "-" ++ highest.display
  let parts := Json.arr ((queryParts text).map Json.str)
  let found ← s.mixedSearch parts {} (.str range)
  let refs ← Reference.sortByKey (found.items.filterMap Json.str?)
  pure (refs, ← Cookie.make "search_terms" (Json.render terms))

/-- A Strong's number of a query: its number and its language letter. -/
def numberOfQuery : Regex := fixed "((H|G)\\d+)" { ignoreCase := true }

/-- A link to a Strong's definition in a definition's text. -/
def definitionLink : Regex := fixed "sword://StrongsReal(H|G)(ebrew|reek)/(\\d+?)" { ignoreCase := true }

/-- A definition's own name, without leading zeros. -/
def definitionName : Regex := fixed "name=\"0*([^\"]+)\""

/-- A morphology definition's pieces: an italic term, the text after it and a line break. -/
def morphologyPiece : Regex := fixed
  "(?:<(?P<italic>hi)[^>]+?>([^<]+)</(?P=italic)>([^><]+)<(?P<break>lb)/>)" { ignoreCase := true }

/-- The definitions of the Strong's numbers and morphology tags of a query, each followed
or preceded by the pieces the panel shows. -/
def definitionPanel (store : Store) (numbers tags : String) : Except Failure (List String) := do
  let mut pieces : List String := []
  for n in Text.fields numbers do
    let (num, lang) ← match numberOfQuery.findAll n with
      | [num, lang] :: _ => pure (num, lang)
      | _ => throw ⟨.outOfRange, "list index out of range"⟩
    let language := if Text.upper lang == "H" then "Hebrew" else "Greek"
    let table ← store.table ("StrongsReal" ++ language)
    let digits := String.ofList ((num.toList.drop 1).dropWhile (· == '0'))
    let key := (if lang == "H" then "0" else "") ++ digits
    let entry := table.lookup key
    let shown := match entry with
      | .str t =>
        let named := match definitionName.replace t
            ("data-name=\"" ++ Text.upper lang ++ (if lang == "H" then "0" else "") ++ "\\1\"") with
          | .ok (r, _) => r
          | .error _ => t
        (definitionLink.replaceBy named fun m => "/biblesearch/strongs?strongs=" ++ m.group 1).1
      | j => j.display
    pieces := pieces ++ [shown, "<br/>"]
  for tag in Text.fields tags do
    let (kind, name) ← match tag.splitOn ":" with
      | [k, n] => pure (k, n)
      | [_] => throw ⟨.badValue, "not enough values to unpack (expected 2, got 1)"⟩
      | _ => throw ⟨.badValue, "too many values to unpack (expected 2)"⟩
    pieces := pieces ++ ["<br/><b>" ++ name ++ "</b>"]
    if Text.lower kind == "robinson" then
      let table ← store.table "Robinson"
      let text ← textOf (table.lookup (Text.upper name))
      if (morphologyPiece.matchStart? text).isNone then pieces := pieces ++ [text]
      pieces := pieces ++ (morphologyPiece.allMatches text).map fun m =>
        "<i>" ++ m.group 2 ++ "</i>" ++ m.group 3 ++ "<br/>"
  pure pieces

/-- The devotional of a date, its markup written as HTML. -/
def devotionalHtml (store : Store) (date : String) : Except Failure String := do
  let table ← store.table "Daily"
  pure (verseHtml (← textOf (table.lookup date)))

end Scripture.Web
