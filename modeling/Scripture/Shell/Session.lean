import Scripture.Shell.Help
import Scripture.Shell.Notice
import Scripture.Shell.Setting
import Scripture.Search.Engine
import Scripture.Search.Listing
import Scripture.Reference.SortKey
import Scripture.Text.Similarity
import Scripture.Environment

/-!
# The search shell

A session of the shell reads lines one at a time and keeps, between them, its settings,
the verses of the last search or look-up, the terms to highlight in them, the last line it
ran, and how many lines of input the pager may still read.

Before a line runs, a first word that names a search type chooses that type (a `sword_`
type chooses the library search with the rest of the name as its kind). After a `lookup`
line the verses looked up are shown. An empty line runs the last line again; a line of
blanks fails. Each command prints what it prints; a failure keeps what was printed and
what was changed before it.

Long listings pass through a pager: after every 21 lines printed it asks the input for a
line, going on when there is one and stopping the listing when the input has ended.

Searching (`Console.search`) takes the items of the argument and runs the search type of
the settings, with the settings for numbers, tags, added words, case and range; a type the
searcher does not have stops the shell. Its terms are kept for highlighting: the phrases
of a combined search, the words of a word search, the items of a mixed search that do not
exclude, the whole argument of a phrase search, the items of a library search. A search
type of none of these kinds fails after searching.

Showing the results (`Console.showResults`) limits the verses to the range, widens them by
the context setting, sorts them in reading order and lists them, highlighting the terms
kept (or, when none are, the items of the argument). The argument may switch Strong's
numbers, tags, notes, added words and the one-line form on (`+`) or off (`-`).
-/

namespace Scripture.Shell

open Search Pattern

/-- What the shell reads: the store of modules, the searcher of its Bible, the name the
program was started by and today's date as `MM.DD`. -/
structure Console where
  store : Store
  searcher : Searcher
  program : String := "biblesearch"
  today : String

/-- The shell of a store. -/
def Console.load (store : Store) (today : String) : Except Failure Console := do
  pure { store := store, searcher := ← Searcher.load store false, today := today }

/-- What a session keeps between lines, and what the current line printed. -/
structure Session where
  settings : Settings := Settings.initial Store.bible
  results : ValueSet := {}
  highlights : List String := []
  lastLine : String := ""
  unread : Nat := 0
  printed : String := ""

/-- The number of lines a text gives to reading: a last line without its end counts. -/
def inputLines (text : String) : Nat :=
  let parts := text.splitOn "\n"
  if text.isEmpty || text.endsWith "\n" then parts.length - 1 else parts.length

/-- A step of the shell: it may fail, and keeps the session as it was at the failure. -/
abbrev Step := ExceptT Failure (StateM Session)

/-- Prints a text as it is. -/
def write (s : String) : Step Unit := modify fun st => { st with printed := st.printed ++ s }

/-- Prints a line. -/
def say (line : String) : Step Unit := write (line ++ "\n")

/-- A result that may have failed, as a step. -/
def attempt {α : Type} (x : Except Failure α) : Step α :=
  match x with
  | .ok a => pure a
  | .error f => throw f

/-- Runs a printing computation as a step: what it printed is printed, and its failure is
the step's. -/
def printing {α : Type} (p : Printing α) : Step α := do
  let (r, out) := p.run.run ""
  write out
  attempt r

/-- The number of lines printed before the pager waits: the screen's height less four. -/
def pageHeight : Nat := screenSize.1 - 4

/-- What the pager asks before it reads a line of input. -/
def pagerPrompt : String := "[Press enter to see more, or CTRL+D to end.]"

/-- Prints texts, each on its own lines, pausing after every `pageHeight` lines; `count` is
the number of lines printed since the last pause. A pause reads a line of input and moves
the cursor back over the question; at the end of the input it clears the question and the
listing stops, so that texts after it are not made. -/
def page : List (Step String) → Nat → Step Unit
  | [], _ => pure ()
  | next :: rest, count => do
    let text ← next
    let count := count + (if text.contains '\n' then (Text.splitLines text).length else 1)
    say text
    if count ≥ pageHeight then
      write pagerPrompt
      let st ← get
      if st.unread > 0 then
        set { st with unread := st.unread - 1 }
        write "\x1b[1A\x1b[K"
        page rest 0
      else write "\x1b[G\x1b[K"
    else page rest count

/-- Prints lines through the pager. -/
def pageLines (lines : List String) : Step Unit := page (lines.map pure) 0

/-- The current settings. -/
def settings : Step Settings := do pure (← get).settings

/-- The search settings of the shell's settings. -/
def searchSettings (s : Settings) : Search.Settings :=
  { strongs := (s.value "search_strongs").truthy, morph := (s.value "search_morph").truthy,
    added := (s.value "added").truthy, caseSensitive := (s.value "case_sensitive").truthy }

/-- The method of a search type; the concordance is a command of its own. -/
def searchMethod? (name : String) : Option Method :=
  if name == "concordance" then none else Method.ofName? name

/-- The items the kinds setting gives a search: the names of a list, the characters of a
text. -/
def extraItems : Setting → Except Failure (List String)
  | .names xs => pure xs
  | .text s => pure (s.toList.map String.singleton)
  | other => throw ⟨.wrongType, "Value after * must be an iterable, not " ++ other.kindName⟩

/-- The terms a search keeps for highlighting, by its type. -/
def keptTerms (kind : String) (items : List String) : Except Failure (List String) :=
  let joined := " ".intercalate items
  match kind with
  | "combined" => pure (Text.fields (" ".intercalate (combined joined).1))
  | "combined_phrase" => pure (combined joined).1
  | "anyword" | "multiword" | "eitheror" | "partial_word" => pure (Text.fields joined)
  | "mixed" => pure (items.filter fun i => !i.startsWith "!")
  | "phrase" | "mixed_phrase" | "ordered_multiword" => pure [joined]
  | "sword" => pure items
  | _ => throw ⟨.unsetName,
      "cannot access local variable 'highlight_list' where it is not associated with a value"⟩

/-- Searches by the settings' search type. -/
def Console.search (c : Console) (args : String) : Step Unit := do
  if args.isEmpty then return
  let items := splitArguments args
  let s ← settings
  let kind := (s.value "search_type").shown
  let some method := searchMethod? kind | throw ⟨.exit, ""⟩
  let extras ← attempt (extraItems (s.value "extras"))
  let room := if method == .library then 8 else 7
  let given := 7 + extras.length
  if given > room then
    throw ⟨.wrongType, "Search." ++ kind ++ "_search() takes from 2 to " ++ toString room ++
      " positional arguments but " ++ toString given ++ " were given"⟩
  let found ← printing (c.searcher.search method (.arr (items.map .str)) (searchSettings s)
    (s.value "range").toJson)
  modify fun st => { st with results := found }
  say "To view the verses type 'show_results.'"
  let kept ← attempt (keptTerms kind items)
  modify fun st => { st with highlights := kept }

/-- Runs the concordance of the argument's items. -/
def Console.concordance (c : Console) (args : String) : Step Unit := do
  if args.isEmpty then return
  let s ← settings
  let _ ← printing (c.searcher.search .concordance (.arr ((splitArguments args).map .str))
    (searchSettings s) (s.value "range").toJson)

/-- The items without the first `item`, which must be there. -/
def withoutItem (item : String) (items : List String) : Except Failure (List String) :=
  if items.contains item then pure (items.erase item)
  else throw ⟨.badValue, "list.remove(x): x not in list"⟩

/-- How the results are listed, after the switches of the argument. -/
structure ResultView where
  items : List String
  strongs : Bool
  morph : Bool
  notes : Bool
  oneLine : Bool
  added : Bool

/-- Reads the switches of an argument: `+strongs` among its items, the others anywhere in
its text, each then taken out of the items. `-morph` turns Strong's numbers off. -/
def ResultView.read (s : Settings) (args : String) : Except Failure ResultView := do
  let mut v : ResultView :=
    { items := splitArguments args,
      strongs := (s.value "show_strongs").truthy || (s.value "search_strongs").truthy,
      morph := (s.value "show_morph").truthy || (s.value "search_morph").truthy,
      notes := (s.value "show_notes").truthy, oneLine := (s.value "one_line").truthy,
      added := (s.value "added").truthy }
  if v.items.contains "+strongs" then
    v := { v with strongs := true, items := v.items.erase "+strongs" }
  if Text.hasPart args "+morph" then
    v := { v with morph := true, items := ← withoutItem "+morph" v.items }
  if Text.hasPart args "-strongs" then
    v := { v with strongs := false, items := ← withoutItem "-strongs" v.items }
  if Text.hasPart args "-morph" then
    v := { v with strongs := false, items := ← withoutItem "-morph" v.items }
  if Text.hasPart args "+notes" then
    v := { v with notes := true, items := ← withoutItem "+notes" v.items }
  if Text.hasPart args "-notes" then
    v := { v with notes := false, items := ← withoutItem "-notes" v.items }
  if Text.hasPart args "+one_line" then
    v := { v with oneLine := true, items := ← withoutItem "+one_line" v.items }
  if Text.hasPart args "-one_line" then
    v := { v with oneLine := false, items := ← withoutItem "-one_line" v.items }
  if Text.hasPart args "+added" then
    v := { v with added := true, items := ← withoutItem "+added" v.items }
  if Text.hasPart args "-added" then
    v := { v with added := false, items := ← withoutItem "-added" v.items }
  pure v

/-- The references of a set of results. -/
def referencesOf (results : ValueSet) : List String := results.items.filterMap Json.str?

/-- Lists the results. -/
def Console.showResults (c : Console) (args : String) : Step Unit := do
  let s ← settings
  let kind := s.value "search_type"
  let caseSensitive := (s.value "case_sensitive").truthy
  let context := s.value "context"
  let v ← attempt (ResultView.read s args)
  let range := s.value "range"
  if range.truthy then
    let within ← attempt (rangeRefs range.toJson)
    modify fun st => { st with results := st.results.inter within }
  let st ← get
  let terms := if st.highlights.isEmpty then v.items else st.highlights
  let patterns ← if kind == .text "regex" then do
      let r ← attempt (compile (" ".intercalate v.items) { ignoreCase := caseSensitive })
      pure [r]
    else do
      let found ← attempt (highlightPatterns terms caseSensitive (kind == .text "ordered_multiword"))
      if context.truthy then
        pure (found ++ (← attempt (highlightPatterns (referencesOf st.results) caseSensitive)))
      else pure found
  let refs := referencesOf st.results
  let widened ← if context.isZero then pure refs else do
    let offsets ← attempt (RangeList.withContext (",".intercalate refs) context.toJson)
    pure (offsets.map Canon.refText)
  let ordered ← attempt (Reference.sortByKey widened)
  let listing : Listing :=
    { wrap := !v.oneLine, strongs := v.strongs, morph := v.morph, added := v.added,
      notes := v.notes, highlights := some patterns,
      highlightTag := if caseSensitive then "0" else "re.IGNORECASE" }
  let index ← attempt (Index.load c.store (s.value "module").shown)
  let bible ← attempt (c.store.table Store.bible)
  let lineOf (ref : String) : Step String := printing (listingLine index bible listing (.str ref))
  if v.oneLine then
    let lines ← ordered.mapM lineOf
    say ("  ".intercalate lines)
  else page (ordered.map lineOf) 0

/-- Looks the verses of a reference list up, as the results, with nothing to highlight. -/
def Console.lookup (args : String) : Step Unit := do
  let found ← attempt (rangeRefs (.str args))
  modify fun st => { st with results := found, highlights := [] }

/-- Prints the entries of keys in a module, as the shell lists them. -/
def Console.entries (c : Console) (module keys : String) : Step Unit := do
  let t ← attempt (c.store.table module)
  say ((← attempt (t.listing keys)) ++ "\n")

/-- Looks Strong's numbers up, each in the Greek lexicon when it starts with `G` and in the
Hebrew one otherwise; both lexicons must be there. -/
def Console.numbers (c : Console) (args : String) : Step Unit := do
  let numbers := (",".intercalate (Text.fields (Text.upper args))).splitOn ","
  let _ ← attempt (c.store.table "StrongsRealGreek")
  let _ ← attempt (c.store.table "StrongsRealHebrew")
  for n in numbers do
    let module := if n.startsWith "G" then "StrongsRealGreek" else "StrongsRealHebrew"
    c.entries module (String.ofList (n.toList.drop 1))

/-- Prints the devotional of a date, `today` (in any case, and the default) being today's. -/
def Console.devotional (c : Console) (args : String) : Step Unit := do
  let day := if args.isEmpty then "today" else args
  let day := if Text.lower day == "today" then c.today else day
  let t ← attempt (c.store.table "Daily")
  say (← attempt (t.formatted day))

/-- Gives a setting the value a text stands for; name and value are trimmed. -/
def assign (name value : String) : Step Unit :=
  modify fun st =>
    let updated := st.settings.put (Text.trimBlank name) (Setting.read (Text.trimBlank value))
    { st with settings := updated }

/-- The failure of taking two parts from a list of `n`. -/
def partsFailure (n : Nat) : Failure :=
  if n > 2 then ⟨.badValue, "too many values to unpack (expected 2)"⟩
  else ⟨.badValue, "not enough values to unpack (expected 2, got " ++ toString n ++ ")"⟩

/-- Prints the settings, or changes them: each part of the argument between semicolons is
`name=value`, `name value`, or a name whose value is printed. -/
def Console.set (args : String) : Step Unit := do
  if args.isEmpty then
    let s ← settings
    say "Current settings:\n"
    let width := (s.entries.map (·.1.length)).foldl max 0
    for (k, v) in s.entries do
      let shown ← if Text.lower k == "range" then attempt (Settings.rangeShown v) else pure v.shown
      say (k.pushn ' ' (width - k.length) ++ " = " ++ shown)
    say ""
  else
    for part in args.splitOn ";" do
      if part.contains '=' then
        match part.splitOn "=" with
        | [k, v] => assign k v
        | ps => throw (partsFailure ps.length)
      else if part.contains ' ' then
        match Text.fields part with
        | [k, v] => assign k v
        | ws => throw (partsFailure ws.length)
      else
        say ((((← settings).get? part).map Setting.shown).getD "")

/-- Prints the terms of copying (`c`), the disclaimer of warranty (`w`), or both. -/
def showTerms (args : String) : Step Unit :=
  let a := Text.lower args
  if a == "c" || a == "copying" then say copyingTerms
  else if a == "w" || a == "warranty" then say warrantyTerms
  else say (copyingTerms ++ warrantyTerms)

/-- Prints the description of a command, or the list of commands. -/
def help (args : String) : Step Unit :=
  if args.isEmpty then write helpListing
  else match Command.ofName? args with
    | some cmd => pageLines (Text.splitLines cmd.doc)
    | none => say ("*** No help on " ++ args)

/-- Runs a command with its argument; whether the shell ends. -/
def Console.run (c : Console) (cmd : Command) (args : String) : Step Bool := do
  match cmd with
  | .search => c.search args
  | .concordance => c.concordance args
  | .terms => showTerms args
  | .endOfInput | .quit => return true
  | .help => help args
  | .intro => pageLines (Text.splitLines (greeting c.program))
  | .showResults => c.showResults args
  | .lookup => Console.lookup args
  | .numbers => c.numbers args
  | .tags => c.entries "Robinson" (Text.upper args)
  | .dictionary => c.entries "WebstersDict" args
  | .wordBook => c.entries "KJVD" args
  | .devotional => c.devotional args
  | .set => Console.set args
  | .system => pure ()
  | .test =>
    say (shownPieces args)
    say (shownList (splitArguments args))
  return false

/-- Runs a line that has something to run, remembering it as the last line (the end of
input excepted). -/
def Console.runLine (c : Console) (l : Line) : Step Bool := do
  modify fun st => { st with lastLine := if l.text == "EOF" then "" else l.text }
  match Command.ofName? l.name with
  | some cmd => c.run cmd l.argument
  | none =>
    say ("*** Unknown syntax: " ++ l.text)
    return false

/-- Runs a line; an empty one runs the last line again, if there is one. -/
def Console.exec (c : Console) (line : String) : Step Bool := do
  match Line.read line with
  | some l => c.runLine l
  | none =>
    match Line.read (← get).lastLine with
    | some l => c.runLine l
    | none => return false

/-- Chooses the search type a line's first word names, if it names one. -/
def chooseType (line : String) : Step Unit := do
  if line.isEmpty then return
  match Text.fields line with
  | [] => throw ⟨.outOfRange, "list index out of range"⟩
  | first :: _ =>
    if searchTypes.contains first then
      let (kind, extras) :=
        if first.startsWith "sword_" then ("sword", [String.ofList (first.toList.drop 6)])
        else (first, [])
      modify fun st =>
        let updated := (st.settings.put "extras" (.names extras)).put "search_type" (.text kind)
        { st with settings := updated }

/-- Runs one line of input: chooses the search type, runs the line, and shows the verses
after a look-up. Whether the shell ends. -/
def Console.step (c : Console) (line : String) : Step Bool := do
  chooseType line
  let stop ← c.exec line
  if line.isEmpty then return stop
  if (Text.fields line).head? == some "lookup" then
    let _ ← c.exec "show_results"
  return stop

/-- What a line printed, and whether it ended the shell, or the failure that ended it. -/
inductive Outcome where
  | done (stop : Bool) (printed : String)
  | failed (f : Failure) (printed : String)

/-- Runs one line of input in a session. -/
def Console.respond (c : Console) (s : Session) (line : String) : Outcome × Session :=
  match (c.step line).run.run { s with printed := "" } with
  | (.ok stop, s') => (.done stop s'.printed, s')
  | (.error f, s') => (.failed f s'.printed, s')

/-- The choices offered for a prefix: those starting with it, else those holding it, else
up to three close to it. -/
def offered (text : String) (choices : List String) : List String :=
  let starting := choices.filter (·.startsWith text)
  if !starting.isEmpty then starting
  else
    let holding := choices.filter (Text.hasPart · text)
    if !holding.isEmpty then holding else Text.closeMatches text choices 3 (7, 10)

/-- The texts of a list kept in the index. -/
def Console.indexList (c : Console) (key : String) : Except Failure (List String) := do
  let ms ← (c.searcher.index.entry key).members
  ms.mapM fun m => match m with
    | .str t => pure t
    | other => throw ⟨.missingMember, "'" ++ other.kindName ++ "' object has no attribute 'startswith'"⟩

/-- The completions of `text` for the argument of the command `name`; the empty name
completes words of the Bible. -/
def Console.complete (c : Console) (s : Session) (name text : String) :
    Except Failure (List String) := do
  match name with
  | "" => pure (offered text (← c.indexList "_words_"))
  | "show_results" => pure (offered text ["strongs", "morph", "notes", "one_line"])
  | "lookup" => pure (offered (Text.capitalize text) Canon.bookNames)
  | "strongs" => pure (offered (Text.capitalize text) (← c.indexList "_strongs_"))
  | "morph" => pure (offered (Text.capitalize text) (← c.indexList "_morph_"))
  | "set" => pure (offered text (s.settings.entries.map (·.1)))
  | "help" => pure ((commandNames.map (·.1)).filter (·.startsWith text))
  | _ =>
    if name == "search" || searchTypes.contains name then
      pure (offered text (← c.indexList "_words_"))
    else throw ⟨.missingMember, "'SearchCmd' object has no attribute 'complete_" ++ name ++ "'"⟩

end Scripture.Shell
