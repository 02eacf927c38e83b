import Scripture.Json.Members
import Scripture.Text.Case
import Scripture.Text.Quote

/-!
# Stored tables

The program reads its data from named tables of keys and JSON values: the search index of
a module (`<module>_index_i`) and the modules themselves (a Bible's verses, a dictionary's
entries). A `Store` holds them by name.

* `Store.build` — a store from named tables; a name must be letters, digits and `_`.
  The index and the verses of the Bible the program searches always exist, empty unless
  given.
* `Store.table` — the table of a name, or the failure of a table that does not exist.
* `Table.read` — the value of a key, or the empty list for a key the table does not have.
* `cleanKey` — keys as the program looks them up: without `<`, `>`, braces and the
  blanks around them, so that Strong's numbers and tags written with their marks find
  their entries.
-/

namespace Scripture

/-- A key as it is looked up: without angle brackets and braces, and without blanks at its
ends. -/
def cleanKey (key : String) : String :=
  Text.trimBlank (String.ofList (key.toList.filter fun c => !"<>\x7b\x7d".contains c))

/-- The failure of using a value that is not a text where a text is matched. -/
def notText (j : Json) : Failure :=
  ⟨.wrongType, "expected string or bytes-like object, got '" ++ j.kindName ++ "'"⟩

/-- The text of a value that must be a text to be matched. -/
def textOf (j : Json) : Except Failure String :=
  match j with
  | .str s => .ok s
  | _ => .error (notText j)

/-- A stored table: keys and their values, in the order they were stored. -/
structure Table where
  entries : List (String × Json) := []
deriving Inhabited

namespace Table

/-- The value stored under a key; of two stores of one key the later counts. -/
def get? (t : Table) (key : String) : Option Json :=
  (t.entries.reverse.find? (·.1 == key)).map (·.2)

/-- The value stored under a key, or the empty list for a key that is not stored. -/
def read (t : Table) (key : String) : Json := (t.get? key).getD (.arr [])

/-- The value of a key looked up clean, or the empty list. -/
def lookup (t : Table) (key : String) : Json := t.read (cleanKey key)

/-- The value of a key given as a value, which must be a text, looked up clean. -/
def lookupOf (t : Table) (key : Json) : Except Failure Json := do
  pure (t.lookup (← textOf key))

/-- The stored keys, each once. -/
def keys (t : Table) : List String := (t.entries.map (·.1)).eraseDups

end Table

/-- Named tables. -/
structure Store where
  tables : List (String × Table) := []
deriving Inhabited

namespace Store

/-- The Bible that searches and look-ups read when no other is named. -/
def bible : String := "KJV"

/-- The name of the search index of a module. -/
def indexName (module : String) : String := module ++ "_index_i"

/-- Whether a table name is letters, digits and `_` only. -/
def validName (name : String) : Bool :=
  !name.isEmpty && name.all fun c => c.isAlphanum || c == '_'

/-- A store from named tables, each given as an object of keys and values. The search
index and the verses of the default Bible are added, empty, when not given. -/
def build (given : List (String × Json)) : Except Failure Store := do
  let mut tables : List (String × Table) := []
  for (name, value) in given do
    unless validName name do
      throw ⟨.badValue, "bad db name " ++ Text.quote name⟩
    let entries := match value with
      | .obj fs => fs
      | _ => []
    tables := tables ++ [(name, ⟨entries⟩)]
  for name in [indexName bible, bible] do
    unless tables.any (·.1 == name) do
      tables := tables ++ [(name, Table.mk [])]
  pure ⟨tables⟩

/-- The table of a name, if it exists. -/
def table? (s : Store) (name : String) : Option Table :=
  (s.tables.reverse.find? (·.1 == name)).map (·.2)

/-- The failure of opening a table that does not exist. -/
def missingTable : Failure :=
  ⟨.refused, "db file doesn't exist; use 'c' or 'n' flag to create a new db"⟩

/-- The table of a name, or the failure of one that does not exist. -/
def table (s : Store) (name : String) : Except Failure Table :=
  match s.table? name with
  | some t => .ok t
  | none => .error missingTable

end Store

end Scripture
