import Scripture.Search.Report
import Scripture.Search.Combined
import Scripture.Reference.RangeList

/-!
# Searching the index

A search takes terms and settings and gives the set of verses found, as references. Most
searches are answered from the index's verse lists alone; phrase and pattern searches then
read the text of each candidate verse.

* `Method` — the ways of searching, with the names the program gives them.
* `Searcher.search` — runs one search. Terms given as a list are joined with blanks. Before
  most methods look at the terms, Strong's numbers and tags in them are put in their marked
  form (`<H430>`, `{V-AAI-3S}`), and word searches and phrase searches keep only the
  characters of words. The range, a reference list, limits the verses found.
* A phrase search first finds the verses holding every word of the phrase (or, with `*`,
  a partial word) and then keeps those whose text the phrase pattern finds.
* A pattern search reads every verse of the range, or of the whole Bible from its first
  verse, and keeps those whose text, or text with only word characters, the pattern finds.
  A verse with no text in the index fails.
* A combined search reads `AND`, `OR` and `NOT` (see `combined`) and passes its case and
  range settings on shifted by one place: its word and phrase searches tell case apart
  exactly when a range was given, and search the whole index.
* A mixed search reads each term's first character: `!` excludes, `+` requires, `|` and `^`
  add verses, otherwise the verses are added, or, for a searcher wanting every term, kept
  in common. A term starting with `&` is a pattern, one holding a blank a phrase (`~` for
  the words in order), one holding `*` a partial word.
-/

namespace Scripture.Search

open Pattern

/-- The ways of searching. -/
inductive Method where
  /-- Verses holding every word. -/
  | allWords
  /-- Verses holding any word. -/
  | anyWord
  /-- Verses holding an odd number of the words. -/
  | oddWords
  /-- Verses holding words that partial words match. -/
  | partialWords
  /-- Verses holding a phrase, words joined by punctuation or markup. -/
  | phrase
  /-- Verses holding the words in order, with numbers and tags between them skipped. -/
  | loosePhrase
  /-- Verses holding the words in order, with anything between them. -/
  | orderedWords
  /-- Verses whose text a pattern finds. -/
  | pattern
  /-- Verses a combined search describes. -/
  | combined
  /-- Verses holding any phrase a combined search describes. -/
  | combinedPhrase
  /-- Verses of a list of marked terms. -/
  | mixed
  /-- A search of an external Bible library, which is not present: it finds nothing. -/
  | library
  /-- The report of words and their numbers. -/
  | wordReport
  /-- The report of phrases before numbers. -/
  | numberReport
  /-- The report of marked elements. -/
  | tagReport
  /-- The concordance of marked elements. -/
  | concordance
deriving DecidableEq, Repr

/-- The method of a name. -/
def Method.ofName? : String → Option Method
  | "multiword" => some .allWords
  | "anyword" => some .anyWord
  | "eitheror" => some .oddWords
  | "partial_word" => some .partialWords
  | "phrase" => some .phrase
  | "mixed_phrase" => some .loosePhrase
  | "ordered_multiword" => some .orderedWords
  | "regex" => some .pattern
  | "combined" => some .combined
  | "combined_phrase" => some .combinedPhrase
  | "mixed" => some .mixed
  | "sword" => some .library
  | "test" => some .wordReport
  | "test2" => some .numberReport
  | "test3" => some .tagReport
  | "test4" | "concordance" => some .concordance
  | _ => none

/-- The settings of a search. -/
structure Settings where
  strongs : Bool := false
  morph : Bool := false
  added : Bool := true
  caseSensitive : Bool := false
deriving Repr

/-- What a search reads: the index of the Bible it searches, the Bible's raw verses, and
whether mixed searches keep only the verses every term finds. -/
structure Searcher where
  index : Index
  bible : Table
  allTerms : Bool := false

/-- The searcher of the default Bible of a store. -/
def Searcher.load (s : Store) (allTerms : Bool) : Except Failure Searcher := do
  pure ⟨← Index.load s Store.bible, ← s.table Store.bible, allTerms⟩

/-- Terms joined with blanks: a text as it is, the texts of a list, the names of an
object. -/
def joinTerms (terms : Json) : Except Failure String :=
  match terms with
  | .str s => pure s
  | .arr xs => do
    let ss ← xs.zipIdx.mapM fun (x, i) => match x with
      | .str s => pure s
      | y => throw ⟨.wrongType, "sequence item " ++ toString i ++ ": expected str instance, " ++
          y.kindName ++ " found"⟩
    pure (" ".intercalate ss)
  | .obj fs => pure (" ".intercalate (Json.fieldNames fs))
  | _ => throw ⟨.wrongType, "can only join an iterable"⟩

/-- The verses of a range: a reference list, or texts joined into one; a range that counts
as false is none. -/
def rangeRefs (range : Json) : Except Failure ValueSet := do
  if !range.truthy then return {}
  let text ← match range with
    | .str s => pure s
    | .arr xs => do
      let ss ← xs.zipIdx.mapM fun (x, i) => match x with
        | .str s => pure s
        | y => throw ⟨.wrongType, "sequence item " ++ toString i ++ ": expected str instance, " ++
            y.kindName ++ " found"⟩
      pure (",".intercalate ss)
    | .obj fs => pure (",".intercalate (Json.fieldNames fs))
    | _ => throw ⟨.wrongType, "can only join an iterable"⟩
  pure (ValueSet.ofTexts ((← RangeList.offsets text).map Canon.refText))

/-- The pattern of a phrase: between the words, anything up to the next number when
numbers are searched, anything up to the next tag when tags are, and otherwise markup and
non-word characters. -/
def phraseSource (terms : String) (strongs morph : Bool) : String :=
  if strongs then terms.replace " " "[^<]*"
  else if morph then terms.replace " " "[^\\\x7b]*"
  else "\\b" ++ terms.replace " " "\\b(<[^>]*>|\\\x7b[^\\\x7d]*\\\x7d|\\W)*\\b" ++ "\\b"

/-- The verses among `refs` whose text the pattern finds; with `tryClean` also those whose
text with only word characters it finds, unless numbers or tags are shown. -/
def Searcher.findIn (s : Searcher) (refs : List Json) (r : Regex) (strongs morph tryClean : Bool) :
    Except Failure ValueSet := do
  let view : TextView := { strongs := strongs, morph := morph }
  let mut found : ValueSet := {}
  for ref in refs do
    let text ← s.index.verseText view ref
    if r.test text then found := found.insert ref
    else if tryClean && !strongs && !morph && r.test (cleanText text) then
      found := found.insert ref
  pure found

/-- Every verse of the Bible, from its first. -/
def wholeBible : List Json := (List.range Canon.verseTotal).map fun o => .str (Canon.refText o)

/-- A phrase search: the verses holding every word of the phrase, within the range, whose
text the phrase's pattern finds. A phrase of one word needs no pattern. -/
def Searcher.phraseSearch (s : Searcher) (m : Method) (terms : String) (st : Settings)
    (within : ValueSet) : Except Failure ValueSet := do
  let cs := st.caseSensitive
  let r ← match m with
    | .orderedWords => termsPattern terms cs "\\\\b" "" true
    | .loosePhrase => termsPattern terms cs
    | _ => compile (phraseSource terms st.strongs st.morph) { ignoreCase := !cs }
  let words := Text.fields terms
  let refs ← if terms.contains '*' then s.index.partialMatches words cs 5000
    else s.index.allOf words cs
  let refs := if within.isEmpty then refs else refs.inter within
  if words.length == 1 then return refs
  let ordered ← inReadingOrder refs
  s.findIn ordered r (strongsNumber.test terms) (morphTag.test terms) false

/-- A pattern search over the range, or over the whole Bible when no range is given. A
pattern that cannot be read ends the program. -/
def Searcher.patternSearch (s : Searcher) (terms : String) (st : Settings) (within : ValueSet) :
    Except Failure ValueSet := do
  let r ← (compile terms { ignoreCase := !st.caseSensitive }).mapError fun _ => stop
  let refs ← if within.isEmpty then pure wholeBible else inReadingOrder within
  s.findIn refs r st.strongs st.morph true

/-- Whether a method keeps its terms as given, without marking numbers and tags. -/
def Method.keepsTerms (m : Method) : Bool := m == .pattern || m == .partialWords

/-- Whether a method keeps only the characters of words in its terms. -/
def Method.cleansTerms (m : Method) : Bool :=
  m == .allWords || m == .anyWord || m == .phrase || m == .loosePhrase

/-- Whether a method limits its verses to the range after searching. -/
def Method.rangeAfter (m : Method) : Bool :=
  m == .allWords || m == .anyWord || m == .partialWords

/-- The terms and range of a search as its method reads them. -/
def prepare (m : Method) (terms : Json) (st : Settings) (range : Json) :
    Except Failure (String × ValueSet) := do
  let joined ← joinTerms terms
  let within ← rangeRefs range
  let marked := if m.keepsTerms then joined else markTerms joined
  let ready :=
    if m.cleansTerms then
      let clean := cleanText marked
      if st.strongs || st.morph then Text.trimBlank (Text.upper clean) else clean
    else marked
  pure (ready, within)

/-- A search by a method that prints nothing: the verses found from the index, and for phrase
and pattern searches from the verse texts, limited to the range where the method does so after
searching. -/
def Searcher.find (s : Searcher) (m : Method) (terms : Json) (st : Settings) (range : Json) :
    Except Failure ValueSet := do
  let (terms, within) ← prepare m terms st range
  let cs := st.caseSensitive
  let words := Text.fields terms
  let found ← match m with
    | .allWords => s.index.allOf words cs
    | .anyWord => s.index.anyOf words cs
    | .oddWords => s.index.oddOf words cs
    | .partialWords => s.index.partialMatches words cs
    | .phrase | .loosePhrase | .orderedWords => s.phraseSearch m terms st within
    | .pattern => s.patternSearch terms st within
    | _ => pure {}
  pure (if m.rangeAfter && !within.isEmpty then found.inter within else found)

/-- A search by a method that reads only the index and the Bible: the reports print, and the
other methods find. -/
def Searcher.basic (s : Searcher) (m : Method) (terms : Json) (st : Settings) (range : Json) :
    Printing ValueSet :=
  match m with
  | .wordReport | .numberReport | .tagReport | .concordance => do
    let (terms, within) ← lift (prepare m terms st range)
    let cs := st.caseSensitive
    match m with
    | .wordReport => wordReport s.index s.bible terms st.strongs st.morph cs within
    | .numberReport => numberReport s.index terms st.strongs st.morph st.added cs within
    | .tagReport => tagReport s.index s.bible terms st.strongs st.morph cs within
    | _ => concordance s.index s.bible terms st.strongs st.morph cs within
  | _ => lift (s.find m terms st range)

/-- A combined search. Its word and phrase searches get the case setting as their added-text
setting and whether a range was given as their case setting, and no range. -/
def Searcher.combinedSearch (s : Searcher) (terms : Json) (st : Settings) (range : Json)
    (phrases : Bool) : Printing ValueSet := do
  let (terms, within) ← lift (prepare .combined terms st range)
  let (included, excluded) := combined terms
  let inner : Settings := { st with added := st.caseSensitive, caseSensitive := !within.isEmpty }
  let part (items : List String) : Printing ValueSet := do
    let mut acc : ValueSet := {}
    let mut joinNext := false
    for w in items do
      if phrases then
        acc := acc.union (← s.basic .phrase (.str (w.replace "+" " ")) inner .null)
      else if w.contains '+' then
        let got ← s.basic .phrase (.str (w.replace "+" " ")) inner .null
        acc := if joinNext then acc.inter got else acc.symmDiff got
        joinNext := false
      else if w == "&" then
        joinNext := true
      else
        let got ← s.basic .allWords (.str w) inner .null
        acc := if joinNext then acc.inter got else acc.symmDiff got
        joinNext := false
    pure acc
  let found ← part included
  pure (found.diff (← part excluded))

/-- How a mixed search adds the verses of a term. -/
inductive Combine where
  | exclude | requireFirst | require | add | toggle | narrow | widen

/-- The text of a term of a mixed search, which must have a first character. -/
def mixedTerm (j : Json) : Except Failure String :=
  match j with
  | .str "" => throw ⟨.outOfRange, "string index out of range"⟩
  | .str s => pure s
  | .arr [] => throw ⟨.outOfRange, "list index out of range"⟩
  | .arr _ | .obj _ => throw ⟨.missingMember, "'" ++ j.kindName ++ "' object has no attribute 'startswith'"⟩
  | _ => throw ⟨.wrongType, "'" ++ j.kindName ++ "' object is not subscriptable"⟩

/-- The sets a mixed search gathers: the verses of unmarked terms, and those excluded, required,
added and toggled by marked terms. -/
structure MixedSets where
  found : ValueSet := {}
  excluded : ValueSet := {}
  required : ValueSet := {}
  added : ValueSet := {}
  toggled : ValueSet := {}

namespace MixedSets

/-- How a term is combined, read off its first character and the sets so far, and the term
without its mark. -/
def classify (acc : MixedSets) (allTerms : Bool) (term : String) : Combine × String :=
  let first := term.front
  if "!+^|".contains first then
    let how := match first with
      | '!' => Combine.exclude
      | '+' => if acc.required.isEmpty then .requireFirst else .require
      | '|' => .add
      | _ => .toggle
    (how, term.drop 1 |>.toString)
  else ((if allTerms && !acc.found.isEmpty then Combine.narrow else .widen), term)

/-- The sets with a term's verses combined in. -/
def combine (acc : MixedSets) (how : Combine) (got : ValueSet) : MixedSets :=
  match how with
  | .exclude => { acc with excluded := acc.excluded.union got }
  | .requireFirst => { acc with required := acc.required.union got }
  | .require => { acc with required := acc.required.inter got }
  | .add => { acc with added := acc.added.union got }
  | .toggle => { acc with toggled := acc.toggled.symmDiff got }
  | .narrow => { acc with found := acc.found.inter got }
  | .widen => { acc with found := acc.found.union got }

/-- The verses the sets give: those found, added or toggled, the required ones taking their
place when any are found and joining them otherwise, less those excluded. -/
def result (acc : MixedSets) : ValueSet :=
  let found := (acc.found.union acc.added).union acc.toggled
  let found :=
    if !acc.required.isEmpty && !found.isEmpty then acc.required.union (found.inter acc.required)
    else if !acc.required.isEmpty then found.union acc.required
    else found
  found.diff acc.excluded

end MixedSets

/-- The search and the text a term of a mixed search is searched by, once its mark is taken
off: `&` marks a pattern, a blank a phrase (`~` for the words in order), `*` a partial word,
and otherwise its words are searched. -/
def mixedMethod (rest : String) : Method × String :=
  if rest.startsWith "&" then (Method.pattern, (rest.drop 1).toString)
  else if rest.contains ' ' then
    if rest.startsWith "~" then (.orderedWords, (rest.drop 1).toString) else (.loosePhrase, rest)
  else if rest.contains '*' then (.partialWords, rest)
  else (.allWords, rest)

/-- The search of a term of a mixed search, its mark taken off; it shows Strong's numbers or
tags when the term is one. -/
def Searcher.termSearch (s : Searcher) (rest : String) (st : Settings) (range : Json) :
    Except Failure ValueSet :=
  let (m, t) := mixedMethod rest
  let marks : Settings := { st with
    strongs := (strongsNumber.matchStart? (Text.upper t)).isSome,
    morph := (morphTag.matchStart? (Text.upper t)).isSome }
  s.find m (.str t) marks range

/-- A mixed search: each term's verses are combined into the sets by its mark, in order. -/
def Searcher.mixedSearch (s : Searcher) (terms : Json) (st : Settings) (range : Json) :
    Except Failure ValueSet := do
  let items ← terms.members
  let sets ← items.foldlM (fun acc item => do
      let term ← mixedTerm item
      let (how, rest) := acc.classify s.allTerms term
      pure (acc.combine how (← s.termSearch rest st range)))
    ({} : MixedSets)
  pure sets.result

/-- Runs one search. -/
def Searcher.search (s : Searcher) (m : Method) (terms : Json) (st : Settings) (range : Json) :
    Printing ValueSet :=
  match m with
  | .combined => s.combinedSearch terms st range false
  | .combinedPhrase => s.combinedSearch terms st range true
  | .mixed => lift (s.mixedSearch terms st range)
  | .library => do
    let _ ← lift (joinTerms terms)
    pure {}
  | _ => s.basic m terms st range

/-- The words of the index's word list that partial words match, once for each partial
word that matches, in the order of the list. -/
def Searcher.partialWordList (s : Searcher) (terms : Json) (caseSensitive : Bool) :
    Except Failure (List Json) := do
  let text ← match terms with
    | .str t => pure t
    | j => throw ⟨.missingMember, "'" ++ j.kindName ++ "' object has no attribute 'split'"⟩
  s.index.wordsMatching (Text.fields text) caseSensitive

end Scripture.Search
