import Scripture.Canon.Books
import Scripture.Json.Basic

/-!
# Sort keys of references

A reference text written as `<full book name> <chapter>:<verse>` sorts by the key
`BBCCCVVV`: the book's position in two digits, then the chapter and the verse in three
digits each, zero-padded (wider numbers keep all their digits). Any other text has no key,
and sorting stops the program.
-/

namespace Scripture.Reference

/-- A whole number written in at least `width` characters, padded with zeros after the
sign. -/
def padded (width : Nat) (n : Int) : String :=
  let ds := toString n.natAbs
  if n < 0 then "-" ++ String.ofList (List.replicate (width - 1 - ds.length) '0') ++ ds
  else String.ofList (List.replicate (width - ds.length) '0') ++ ds

/-- The text before and after the last space of a text, if it has one. -/
def splitLastSpace (s : String) : Option (String × String) :=
  let cs := s.toList
  match cs.reverse.findIdx? (· == ' ') with
  | some i =>
    let k := cs.length - 1 - i
    some (String.ofList (cs.take k), String.ofList (cs.drop (k + 1)))
  | none => none

/-- The sort key of a reference text, if it is written with a full book name. -/
def sortKey? (ref : Json) : Option String := do
  let s ← ref.str?
  let (book, cv) ← splitLastSpace s
  let (c, v) ← match cv.splitOn ":" with
    | [c, v] => some (c, v)
    | _ => none
  let b ← Canon.bookNames.idxOf? book
  let c ← Json.parseInteger? c
  let v ← Json.parseInteger? v
  pure (padded 2 b ++ padded 3 c ++ padded 3 v)

/-- The failure of sorting by a text with no key: the program stops. -/
def unsortable : Failure := ⟨.exit, ""⟩

/-- The sort key of a reference text, or the stop of the program. -/
def sortKey (ref : Json) : Except Failure String :=
  match sortKey? ref with
  | some k => .ok k
  | none => .error unsortable

/-- References sorted by their keys, keeping the order of equal keys; a reference with no key
stops the program. -/
def sortRefs (refs : List Json) : Except Failure (List Json) := do
  let keyed ← refs.mapM fun r => do pure ((← sortKey r), r)
  pure ((keyed.mergeSort fun a b => decide (a.1 ≤ b.1)).map (·.2))

/-- Reference texts sorted by their keys, keeping the order of equal keys; a text with no
key stops the program. -/
def sortByKey (refs : List String) : Except Failure (List String) := do
  let keyed ← refs.mapM fun r => do
    let k ← sortKey (.str r)
    pure (k, r)
  pure ((keyed.mergeSort fun a b => decide (a.1 ≤ b.1)).map (·.2))

end Scripture.Reference
