import Scripture.Store.Table
import Scripture.Pattern.Replace

/-!
# The search index

A module's search index maps each word, Strong's number and morphological tag to the list
of verses that hold it, each verse to its marked-up text, `lower_case` to the other casings
of each word in lower case, and `_words_` to the list of all words.

* `Index.allOf`, `Index.anyOf`, `Index.oddOf` — the verses holding all, any, or an odd
  number of the given words. Unless case matters, a word also stands for its lower case and
  every casing `lower_case` records for it. `allOf` starts afresh whenever the verses found
  so far are none, so a word that no verse holds does not empty the result of the words
  after it.
* `Index.partialMatches` — the verses of every listed word that a partial word (with `*`
  for any run of word characters) matches whole, leaving out words held by `commonLimit`
  verses or more.
* `Index.wordsMatching` — the listed words that each partial word matches, in the order of
  the word list and then of the partial words.
-/

namespace Scripture

open Pattern

/-- The search index of a module. -/
structure Index where
  module : String
  table : Table
deriving Inhabited

namespace Index

/-- The search index of a module in a store. -/
def load (s : Store) (module : String) : Except Failure Index := do
  pure ⟨module, ← s.table (Store.indexName module)⟩

/-- The entry of a key, looked up clean; an absent key reads as the empty list. -/
def entry (ix : Index) (key : String) : Json := ix.table.read (cleanKey key)

/-- The entry of a key given as a value, which must be a text. -/
def entryOf (ix : Index) (key : Json) : Except Failure Json := do
  pure (ix.entry (← textOf key))

/-- The entry of a key when it counts as true, otherwise `default`. -/
def get (ix : Index) (key : String) (default : Json) : Json :=
  let v := ix.entry key
  if v.truthy then v else default

/-- The other casings of each word in lower case. -/
def lowerCase (ix : Index) : Json := ix.get "lower_case" (.obj [])

/-- The casings recorded for a word in lower case. -/
def casings (ix : Index) (lowered : String) : Except Failure (List Json) :=
  match ix.lowerCase with
  | .obj fs => match (Json.obj fs).field? lowered with
    | some v => v.members
    | none => .ok []
  | j => .error ⟨.missingMember, "'" ++ j.kindName ++ "' object has no attribute 'get'"⟩

/-- The verses of a word in every casing it stands for: the word itself, then, unless case
matters, its lower case and its recorded casings, each combined into the set by `step`. -/
def foldCasings (ix : Index) (caseSensitive : Bool) (word : String)
    (step : ValueSet → ValueSet → ValueSet) (start : ValueSet) (lowerFirst : Bool) :
    Except Failure ValueSet := do
  let mut acc := start
  unless lowerFirst do
    acc := step acc (← ValueSet.ofValue (ix.entry word))
  unless caseSensitive do
    acc := step acc (← ValueSet.ofValue (ix.entry (Text.lower word)))
    for u in ← ix.casings (Text.lower word) do
      acc := step acc (← ValueSet.ofValue (← ix.entryOf u))
  if lowerFirst then
    acc := step acc (← ValueSet.ofValue (ix.entry word))
  pure acc

/-- The verses holding every word; a word met when no verse is left starts afresh. -/
def allOf (ix : Index) (words : List String) (caseSensitive : Bool) : Except Failure ValueSet := do
  let mut result : ValueSet := {}
  for w in words do
    let found ← ix.foldCasings caseSensitive w ValueSet.union {} false
    result := if result.isEmpty then result.union found else result.inter found
  pure result

/-- The verses holding any of the words. -/
def anyOf (ix : Index) (words : List String) (caseSensitive : Bool) : Except Failure ValueSet :=
  words.foldlM (fun acc w => ix.foldCasings caseSensitive w ValueSet.union acc true) {}

/-- The verses met an odd number of times, counting each casing's verses once. -/
def oddOf (ix : Index) (words : List String) (caseSensitive : Bool) : Except Failure ValueSet :=
  words.foldlM (fun acc w => ix.foldCasings caseSensitive w ValueSet.symmDiff acc true) {}

/-- The pattern of a partial word: `*` stands for any run of word characters, and the word
stands whole. -/
def partialPattern (p : String) (caseSensitive : Bool) : Except Failure Regex :=
  Pattern.compile ("\\b" ++ p.replace "*" "\\w*" ++ "\\b") { ignoreCase := !caseSensitive }

/-- A partial word that cannot be read as a pattern ends the program. -/
def partialPatterns (partials : List String) (caseSensitive : Bool) : List (Except Failure Regex) :=
  partials.map fun p => (partialPattern p caseSensitive).mapError fun _ => ⟨.exit, ""⟩

/-- The verses of the listed words that a partial word matches, leaving out words held by
`commonLimit` verses or more. -/
def partialMatches (ix : Index) (partials : List String) (caseSensitive : Bool)
    (commonLimit : Int := 31103) : Except Failure ValueSet := do
  let pats := partialPatterns partials caseSensitive
  let mut found : ValueSet := {}
  for word in ← (ix.entry "_words_").members do
    for pat in pats do
      let r ← pat
      if (r.matchStart? (← textOf word)).isSome then
        let refs ← ix.entryOf word
        if ((← refs.size : Nat) : Int) < commonLimit then
          found := found.union (← ValueSet.ofValue refs)
  pure found

/-- The listed words that the partial words match, once for each partial word matching. -/
def wordsMatching (ix : Index) (partials : List String) (caseSensitive : Bool) :
    Except Failure (List Json) := do
  let pats := partialPatterns partials caseSensitive
  let mut found : List Json := []
  for word in ← (ix.entry "_words_").members do
    for pat in pats do
      let r ← pat
      if (r.matchStart? (← textOf word)).isSome then
        found := found ++ [word]
  pure found

end Index

end Scripture
