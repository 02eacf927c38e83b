import Scripture.Text.Case

/-!
# Combined searches

A combined search is words joined by `AND`, `OR` and `NOT`, grouped with parentheses:
`((in OR tree) AND the) AND (house OR bush)` stands for the four phrases `in the house`,
`in the bush`, `tree the house` and `tree the bush`, and `created NOT (and OR but)` for the
word `created` without the words `and` and `but`.

Reading works on characters: an opening parenthesis starts a group, which runs to its
closing parenthesis or to the end of the text; a closing parenthesis outside every group
is an ordinary character. Outside the parentheses the text is split at blanks.

Combining reads a group's items from left to right, keeping a list of phrases:

* `OR` is skipped, since the phrases of a list are alternatives already;
* `AND` is kept, and the next word or group is joined to every phrase before it (a group
  gives every pairing of a phrase before it with a phrase of the group);
* after `NOT`, the next word, or every phrase of the next group, is excluded;
* any other word, and the phrases of any other group, are added to the list.

`NOT` itself is a word as any other until something follows it, and an `AND` or `NOT`
that nothing follows stays in the list.
-/

namespace Scripture.Search

/-- An item of a combined search: a word, or a group in parentheses. -/
inductive Term where
  | word (w : String)
  | group (ts : List Term)
deriving Repr, Inhabited

/-- The words of a text as items. -/
def wordTerms (s : String) : List Term := (Text.fields s).map .word

/-- Reads items from the characters `cs`: `text` holds the characters of the words being
read, `acc` the items read. Inside a group (`top` false) a closing parenthesis ends the
reading; the characters after the items are given back. `fuel` bounds the characters
read, and the number of characters is always enough. -/
def readTerms (top : Bool) : Nat → List Char → String → List Term → List Term × List Char
  | 0, cs, text, acc => (acc ++ wordTerms text, cs)
  | _ + 1, [], text, acc => (acc ++ wordTerms text, [])
  | fuel + 1, c :: cs, text, acc =>
    if c == '(' then
      let (inner, rest) := readTerms false fuel cs "" []
      readTerms top fuel rest "" (acc ++ wordTerms text ++ [.group inner])
    else if c == ')' && !top then (acc ++ wordTerms text, cs)
    else readTerms top fuel cs (text.push c) acc

/-- Reads a combined search into items. -/
def readCombined (s : String) : List Term :=
  (readTerms true (s.length + 1) s.toList "" []).1

/-- The phrases and the excluded words of a list of items; `fuel` bounds the depth of
groups. -/
def combineTerms : Nat → List Term → List String × List String
  | 0, _ => ([], [])
  | fuel + 1, ts =>
    let (work, nots) := ts.foldl (fun (acc : List String × List String) t =>
      let (work, nots) := acc
      match t with
      | .word w =>
        if w == "OR" then (work, nots)
        else if w == "AND" then (work ++ [w], nots)
        else match work.getLast? with
          | some "AND" => (work.dropLast.map (· ++ " " ++ w), nots)
          | some "NOT" => (work.dropLast, nots ++ [w])
          | _ => (work ++ [w], nots)
      | .group inner =>
        let (phrases, innerNots) := combineTerms fuel inner
        let nots := nots ++ innerNots
        match work.getLast? with
        | some "AND" => (work.dropLast.flatMap (fun a => phrases.map (a ++ " " ++ ·)), nots)
        | some "NOT" => (work.dropLast, nots ++ phrases)
        | _ => (work ++ phrases, nots)) ([], [])
    (work.map fun p => " ".intercalate (Text.fields p), nots)

/-- The phrases to search for and the words to exclude, of a combined search. -/
def combined (s : String) : List String × List String :=
  combineTerms (s.length + 1) (readCombined s)

end Scripture.Search
