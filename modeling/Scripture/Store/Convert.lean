import Scripture.Store.File

/-!
# Converting between JSON text and table files

Two small tools move a table between a JSON object and a table file.

* `tableOfJson` — reads a JSON object and stores each field whose value is a text. The file
  is made once the JSON has been read, so a value that is not a text fails with the fields
  before it stored. The older form of the tool walks the object with a method that objects
  no longer have, so it makes an empty file and fails.
* `jsonOfTable` — writes a table file as a JSON object. Keys read from a table file are
  bytes, which JSON objects cannot have as keys, so only an empty table is written whole;
  otherwise the opening brace is written and the tool fails.
-/

namespace Scripture

/-- The outcome of a tool: the file or text it made, if any, and its failure, if any. -/
structure ToolRun (α : Type) where
  made : Option α := none
  failure : Option Failure := none

/-- Stores the fields of a JSON object in a new table file, as `tableOfJson` describes;
`older` is the older form of the tool. -/
def tableOfJson (text : String) (older : Bool) : ToolRun (List (String × String)) :=
  match Json.parse text with
  | .error e => { failure := some ⟨.badJson, e.message text⟩ }
  | .ok v =>
    let missing (name : String) : Failure :=
      ⟨.missingMember, "'" ++ v.kindName ++ "' object has no attribute '" ++ name ++ "'"⟩
    if older then { made := some [], failure := some (missing "iteritems") }
    else match v with
      | .obj fs =>
        let step := fun (acc : List (String × String) × Option Failure) (k : String) =>
          match acc.2 with
          | some _ => acc
          | none => match (Json.obj fs).field? k with
            | some (.str s) => (acc.1 ++ [(k, s)], none)
            | _ => (acc.1, some ⟨.wrongType, "gdbm mappings have bytes or string indices only"⟩)
        let (stored, failure) := (Json.fieldNames fs).foldl step ([], none)
        { made := some stored, failure := failure }
      | _ => { made := some [], failure := some (missing "items") }

/-- Writes a table file's entries as a JSON object, as `jsonOfTable` describes. -/
def jsonOfTable (entries : List (String × String)) : ToolRun String :=
  if entries.isEmpty then { made := some "\x7b\x7d" }
  else { made := some "\x7b",
         failure := some ⟨.wrongType, "keys must be str, int, float, bool or None, not bytes"⟩ }

end Scripture
