import Scripture.Search.VerseText
import Scripture.Search.Terms
import Scripture.Markup.Tree
import Scripture.Reference.SortKey

/-!
# Word reports

Besides finding verses, the searches can print reports of how the words of a search are
rendered in the verses that hold them: which Strong's numbers and tags stand on each word,
and which words stand on each number or tag. A report is printed line by line; most end the
program when they are done.

* `Printing` — a run that prints lines and may fail; what was printed before a failure is
  kept.
* `wordReport` — for a number or tag, the words it stands on in each verse; for a word, the
  numbers and tags of each marked word holding it. A marked word's list of numbers grows by
  the word itself each time it is reported, in every line that shows that list.
* `numberReport` — for each term, the phrase of the verse text before each run of numbers
  or tags that follows the term.
* `tagReport`, `concordance` — for each term, the numbers, tags or attribute each marked
  element holding the term carries, with the element's text; `concordance` reads elements
  inside elements and does not end the program.
-/

namespace Scripture.Search

open Pattern

/-- A run that prints lines and may fail; the lines printed before a failure are kept. -/
abbrev Printing := ExceptT Failure (StateM String)

/-- Prints a line. -/
def say (line : String) : Printing Unit := modify (· ++ line ++ "\n")

/-- The result of a step that may fail, as a step of a printing run. -/
def lift {α : Type} (r : Except Failure α) : Printing α :=
  match r with
  | .ok a => pure a
  | .error e => throw e

/-- The program ends on purpose. -/
def stop : Failure := ⟨.exit, ""⟩

/-- References in reading order; a reference whose book cannot be named ends the program. -/
def inReadingOrder (refs : ValueSet) : Except Failure (List Json) :=
  Reference.sortRefs refs.items

/-- The length of the longest reference of a set, which must not be empty. -/
def longestRef (refs : ValueSet) : Except Failure Nat := do
  if refs.isEmpty then throw ⟨.badValue, "max() arg is an empty sequence"⟩
  let sizes ← refs.items.mapM Json.size
  pure (sizes.foldl max 0)

/-- A text followed by blanks up to `width` characters. -/
def padTo (width : Nat) (s : String) : String :=
  s ++ String.ofList (List.replicate (width - s.length) ' ')

/-- Texts in double quotes, separated by commas. -/
def quotedList (xs : List String) : String := "\"" ++ "\", \"".intercalate xs ++ "\""

/-- A text without the characters of `cs` at its ends. -/
def stripChars (cs : List Char) (s : String) : String :=
  String.ofList (((s.toList.dropWhile (cs.contains ·)).reverse.dropWhile (cs.contains ·)).reverse)

/-- A text without angle brackets and braces. -/
def unmarked (s : String) : String :=
  String.ofList (s.toList.filter fun c => !"<>\x7b\x7d".contains c)

/-- Adds a line under a key, keeping keys in the order they were first met. -/
def addUnder {α : Type} (xs : List (String × List α)) (k : String) (a : α) :
    List (String × List α) :=
  if xs.any (·.1 == k) then xs.map fun (k', as) => if k' == k then (k', as ++ [a]) else (k', as)
  else xs ++ [(k, [a])]

/-- The references of the verses holding any of the words, within the range when one is
given. -/
def reportRefs (ix : Index) (words : List String) (caseSensitive : Bool) (range : ValueSet) :
    Except Failure ValueSet := do
  let refs ← ix.anyOf words caseSensitive
  pure (if range.isEmpty then refs else refs.inter range)

/-! ### Words and their numbers -/

/-- What a line of the word report shows after its reference. -/
inductive WordLine where
  /-- The words a number or tag stands on. -/
  | words (ws : List String)
  /-- The numbers or tags (`field`) of the marked word `word` of the `verse`-th verse,
  first as the verse gave them. -/
  | marks (verse : Nat) (word field : String) (given : List String)

/-- The words a number or tag stands on in a verse's facts; a verse whose markup could not
be read has no such list. -/
def wordsFor (facts : Option Markup.VerseFacts) (key : String) : Except Failure (List String) :=
  match facts with
  | some f => .ok ((f.lists.lookup key).getD [])
  | none => .error ⟨.missingKey, Text.quote key⟩

/-- The lines the word report adds for one term in one verse. -/
def wordLines (facts : Option Markup.VerseFacts) (verse : Nat) (ref : String) (term : String)
    (strongs morph : Bool) : Except Failure (List (String × String × WordLine)) := do
  let marked (r : Regex) : String := Text.upper (r.replaceBy term fun m => m.group 1).1
  if (strongsNumber.matchStart? term).isSome || (morphTag.matchStart? term).isSome then
    let key := if (strongsNumber.matchStart? term).isSome then marked strongsNumber
      else marked morphTag
    let ws := (← wordsFor facts key).eraseDups
    return if ws.isEmpty then [] else [(key, ref, .words ws)]
  let words := (facts.map (·.words)).getD []
  let mut out := []
  for (w, attrs) in words do
    unless Text.hasPart (" " ++ Text.lower w ++ " ") (" " ++ Text.lower term ++ " ") do
      continue
    let fields := (attrs.head?.map (·.fields)).getD []
    for (want, field) in [(strongs, "strongs"), (morph, "morph")] do
      if want then
        if let some given := fields.lookup field then
          out := out ++ [(term, ref, .marks verse w field given)]
  pure out

/-- The word report: the lines of every term in every verse holding one of the words,
printed by term; it ends the program. -/
def wordReport (ix : Index) (bible : Table) (terms : String) (strongs morph caseSensitive : Bool)
    (range : ValueSet) : Printing ValueSet := do
  let words := Text.fields terms
  let refs ← lift (reportRefs ix words caseSensitive range)
  let ordered ← lift (inReadingOrder refs)
  let mut report : List (String × List (String × WordLine)) := []
  for (r, i) in ordered.zipIdx do
    let raw ← lift (bible.lookupOf r)
    let facts := (Markup.readVerseFacts raw.display true true).map (·.2)
    let ref ← lift (textOf r)
    for term in words do
      for (k, at_, line) in ← lift (wordLines facts i ref term strongs morph) do
        report := addUnder report k (at_, line)
  let longest ← lift (longestRef refs)
  let grown : List (Nat × String × String) := report.flatMap fun (_, ls) =>
    ls.filterMap fun (_, l) => match l with
      | .marks i w f _ => some (i, w, f)
      | .words _ => none
  for (k, lines) in report do
    let width := (lines.map (·.1.length)).foldl max 0
    say (k ++ ":")
    for (ref, line) in lines do
      let shown := match line with
        | .words ws => quotedList ws
        | .marks i w f given =>
          let times := grown.count (i, w, f)
          let all := given ++ List.replicate times w
          padTo width (quotedList all.dropLast) ++ ": " ++ quotedList [all.getLastD ""]
      say ("\t" ++ padTo longest ref ++ ": " ++ shown)
  throw stop

/-! ### Phrases before numbers -/

/-- The characters that separate words in verse text, as a pattern alternative. -/
def wordOrPunct : String := "\\b\\w+\\b|[\\s,\\?\\!\\.;:\\\\/_\\(\\)\\[\\]\"\\'-]"

/-- The pattern of the phrase before a run of Strong's numbers `term`. -/
def numberPhrase (term : String) : String :=
  "\n                            \\s\n                            ((?:" ++ wordOrPunct ++
  ")+)\n                            \\s\n                            ((?:" ++ term ++
  ")+)\n                            "

/-- The pattern of the phrase before a run of tags `term`. -/
def tagPhrase (term : String) : String :=
  "\n                            \\s((?:" ++ wordOrPunct ++
  ")+)\n                            (?:<[^>]*>|\\s)+\n                            ((?:" ++ term ++
  ")+)\n                            "

/-- The pattern of a phrase holding the word `term` and the numbers and tags after it. -/
def wordPhrase (term : String) : String :=
  "\n                            ((?:" ++ wordOrPunct ++ ")*?\n                            " ++
  term ++ "\n                            (?:" ++ wordOrPunct ++
  ")+)+\n                            ((?:<[^>]*>|\\\x7b[^\\\x7d]*\\\x7d|\\s)+)\n                            "

/-- The phrase of a match, without the punctuation and blanks at its ends. -/
def tidyPhrase (s : String) : String :=
  let s := Text.trimBlank (stripChars ['.'] (stripChars [','] s))
  Text.trimBlank (stripChars [':'] (stripChars ['?'] (stripChars [';'] s)))

/-- The lines of one term in one verse of the number report. A match with no phrase or no
number ends the term's lines in that verse, or, when numbers are asked for, prints the
verse and the match and ends the program. -/
def phraseLines (longest : Nat) (ref text term : String) (strongs : Bool) :
    Printing (List String) := do
  let src :=
    if (strongsNumber.matchStart? term).isSome then numberPhrase term
    else if (morphTag.matchStart? term).isSome then tagPhrase term
    else wordPhrase term
  let r ← lift (compile src { ignoreCase := true, verbose := true })
  let mut out := []
  for m in r.allMatches text do
    let phrase := tidyPhrase (m.group 1)
    let num := unmarked (m.group 2)
    if phrase.isEmpty || (Text.trimBlank num).isEmpty then
      if !strongs then break
      say (ref ++ " " ++ text)
      say (m.group 0 ++ " (" ++ Text.quote (m.group 1) ++ ", " ++ Text.quote (m.group 2) ++ ")")
      throw stop
    out := out ++ ["\t" ++ padTo longest ref ++ ": " ++ padTo 18 (quotedList (Text.fields num)) ++
      ": \"" ++ phrase ++ "\""]
  pure out

/-- The number report: for each term, the phrase before each run of numbers or tags in
the verses holding one of the words; it ends the program. -/
def numberReport (ix : Index) (terms : String) (strongs morph added caseSensitive : Bool)
    (range : ValueSet) : Printing ValueSet := do
  let words := Text.fields terms
  let refs ← lift (reportRefs ix words caseSensitive range)
  let ordered ← lift (inReadingOrder refs)
  let view : TextView := { strongs := true, morph := morph, added := added }
  let longest ← lift (longestRef refs)
  let mut report : List (String × List String) := []
  for r in ordered do
    let ref ← lift (textOf r)
    let text ← lift (ix.verseText view r)
    for term in words do
      for line in ← phraseLines longest ref text term strongs do
        report := addUnder report term line
  for (term, lines) in report do
    say (unmarked term ++ ":\n" ++ "\n".intercalate lines)
  throw stop

/-! ### Marked elements -/

/-- A marked element with the text before it and after it, as the tag report reads them. -/
def flatElement : Regex := fixed
  "\n                ([^<]*)                             # Before tag.\n                <(?P<tag>q|w|transChange|note)      # Tag name.\n                ([^>]*)>                            # Tag attributes.\n                ([\\w\\W]*?)</(?P=tag)>               # Tag text and end.\n                ([^<]*)                             # Between tags.\n                "
  { ignoreCase := true, verbose := true }

/-- A marked element with the text before it and after it, as the concordance reads them. -/
def nestedElement : Regex := fixed
  "\n                ([^<>]*)                                # Before tag.\n                <(?P<tag>seg|q|w|transChange|note|title)# Tag name.\n                ([^>]*)>                                # Tag attributes.\n                ([\\w\\W]*?)</(?P=tag)>                   # Tag text and end.\n                ([^<]*)                                 # Between tags.\n                "
  { ignoreCase := true, verbose := true }

/-- The name of God, in a segment or not, as the tag report reads it. -/
def flatDivine : Regex := fixed
  "\n                    (?:<seg>)?\n                    <(?:divineName)>+\n                    ([^<]*?)\n                    ([\\'s]*)\n                    </(?:divineName)>\n                    (?:</seg>)?\n                    "
  { ignoreCase := true, verbose := true }

/-- The name of God as the concordance reads it. -/
def nestedDivine : Regex := fixed
  "\n                    <(?:divineName)>\n                    ([^<]*?)\n                    ([\\'s]*)\n                    </(?:divineName)>\n                    "
  { ignoreCase := true, verbose := true }

/-- Added words inside an element. -/
def addedWords : Regex := fixed "<seg subType=\"x-added\"[^>]*>([^<]*)</seg>" { ignoreCase := true }

/-- A Strong's number in an attribute. -/
def lemmaNumber : Regex := fixed "strong:([GH]\\d+)" { ignoreCase := true }

/-- A morphological tag in an attribute. -/
def morphology : Regex := fixed "(?:Morph|robinson):([\\w-]*)" { ignoreCase := true }

/-- Text holding a paragraph marker. -/
def markerText : Regex := fixed ".*marker=\"(.)\".*" { ignoreCase := true }

/-- The name of God in upper case, followed by its ending. -/
def upperDivine (r : Regex) (s : String) : String :=
  (r.replaceBy s fun m => Text.upper (m.group 1) ++ m.group 2).1

/-- The marks an element holding a term reports: the term itself when its attributes name
it, otherwise, when its text holds the term, its numbers (unless only tags are asked for)
and its tags (when asked for). Each non-empty list is one line. -/
def elementMarks (termPattern : Regex) (term attrs outer text : String) (strongs morph : Bool) :
    List (List String) :=
  if Text.hasPart attrs (Text.upper term) || Text.hasPart outer (Text.upper term)
  then [[Text.upper term]]
  else if termPattern.test text then
    let numbers := if strongs || !morph then
      (lemmaNumber.findAll attrs ++ lemmaNumber.findAll outer).map fun g => g.headD "" else []
    let tags := if morph then
      (morphology.findAll attrs ++ morphology.findAll outer).map fun g => g.headD "" else []
    [numbers, tags].filter (!·.isEmpty)
  else []

/-- A report line: the marks joined, and the element's text. -/
def markLine (marks : List String) (text : String) : String × String :=
  ("\", \"".intercalate marks ++ "\"", Text.trimBlank text)

/-- The lines of one term in one verse of the tag report. -/
def tagLines (termPattern : Regex) (term text : String) (strongs morph : Bool) :
    List (String × String) :=
  (flatElement.allMatches text).flatMap fun m =>
    let inner := (addedWords.replaceBy (m.group 4) fun a => a.group 1).1
    let parts : List (List String) :=
      if flatElement.test inner then flatElement.findAll (inner ++ m.group 5)
      else [[m.group 1, m.group 2, m.group 3, m.group 4, m.group 5]]
    parts.flatMap fun p =>
      let attrs := p.getD 2 ""
      let body := upperDivine flatDivine (p.getD 3 "")
      (elementMarks termPattern term attrs "" body strongs morph).map fun ms => markLine ms body

/-- The lines of one term in a verse text for the concordance, reading elements inside
elements; `outer` is the attributes of the element around `text`. `fuel` bounds the depth. -/
def concordanceLines (termPattern : Regex) (term : String) (strongs morph : Bool) :
    Nat → String → String → List (String × String)
  | 0, _, _ => []
  | fuel + 1, text, outer =>
    (nestedElement.allMatches text).flatMap fun m =>
      let body := m.group 4
      if nestedElement.test body then
        concordanceLines termPattern term strongs morph fuel body (m.group 3)
      else
        let lead := if (markerText.matchStart? (m.group 1)).isSome then "" else m.group 1
        let shown := lead ++ upperDivine nestedDivine body ++ m.group 5
        (elementMarks termPattern term (m.group 3) outer shown strongs morph).map fun ms =>
          markLine ms shown

/-- Prints the lines of the tag report or the concordance by term. -/
def printMarks (longest : Nat) (report : List (String × List (String × String × String))) :
    Printing Unit := do
  let width := (report.flatMap fun (_, ls) => ls.map (·.2.1.length)).foldl max 0
  for (term, lines) in report do
    say (term ++ ":")
    for (ref, marks, text) in lines do
      say ("\t" ++ padTo longest ref ++ ": \"" ++ padTo width marks ++ ": \"" ++ text ++ "\"")

/-- The lines of the tag report or the concordance for every term in every verse holding
one of the words, read from the Bible's raw markup. -/
def markReport (ix : Index) (bible : Table) (terms : String) (strongs morph caseSensitive : Bool)
    (range : ValueSet) (nested : Bool) : Printing Unit := do
  let words := Text.fields terms
  let refs ← lift (reportRefs ix words caseSensitive range)
  if refs.isEmpty then throw stop
  let ordered ← lift (inReadingOrder refs)
  let mut report : List (String × List (String × String × String)) := []
  for r in ordered do
    let ref ← lift (textOf r)
    let raw ← lift (bible.lookupOf r)
    for word in words do
      let term := unmarked word
      let termPattern ← lift (compile ("\\b" ++ term ++ "\\b") { ignoreCase := true })
      let text ← lift (textOf raw)
      let lines := if nested then concordanceLines termPattern term strongs morph (text.length + 1) text ""
        else tagLines termPattern term text strongs morph
      for (marks, shown) in lines do
        report := addUnder report term (ref, marks, shown)
  printMarks (← lift (longestRef refs)) report

/-- The tag report; it ends the program. -/
def tagReport (ix : Index) (bible : Table) (terms : String) (strongs morph caseSensitive : Bool)
    (range : ValueSet) : Printing ValueSet := do
  markReport ix bible terms strongs morph caseSensitive range false
  throw stop

/-- The concordance; it finds no verses of its own. -/
def concordance (ix : Index) (bible : Table) (terms : String) (strongs morph caseSensitive : Bool)
    (range : ValueSet) : Printing ValueSet := do
  markReport ix bible terms strongs morph caseSensitive range true
  pure {}

end Scripture.Search
