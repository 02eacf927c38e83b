import Scripture.Store.Hashed
import Scripture.Json.Read
import Scripture.Json.Write

/-!
# Table files

A table file maps keys to values, both kept as bytes. Keys are written in UTF-8; values are
written as JSON text. Text is read back in the encoding of the locale: UTF-8, or, in the
plain `C` locale, ASCII, where every byte outside ASCII reads as the replacement character
U+FFFD.

* `TableFile.store`, `TableFile.put` — write a value as JSON, or bytes as they are; a file
  opened for reading refuses both.
* `TableFile.fetch` — the JSON value of a key, or the default when the key is absent or
  its bytes are not JSON.
* `TableFile.keyTexts` — the keys a walk reaches, read as text. In ASCII a key outside
  ASCII does not read back to itself, so the walk cannot go on after it.
* `TableFile.reopen` — the file opened again: for reading (`r`), for writing (`w`, `c`),
  or emptied (`n`).
-/

namespace Scripture

/-- A table file: its entries in the order they were first stored, whether it is open for
writing, and whether text is read as ASCII. -/
structure TableFile where
  entries : List (Bytes × Bytes) := []
  writable : Bool := true
  ascii : Bool := false
deriving Inhabited

namespace TableFile

/-- The failure of writing to a file opened for reading. -/
def readOnly : Failure := ⟨.refused, "Reader can't store"⟩

/-- Text read from bytes in the file's encoding. -/
def decode (f : TableFile) (b : Bytes) : String :=
  if f.ascii then String.ofList (b.map fun x => if x.toNat < 128 then Char.ofNat x.toNat else '\uFFFD')
  else (String.fromUTF8? (ByteArray.mk b.toArray)).getD ""

/-- Text written as bytes in the file's encoding; in ASCII a character outside it is `?`. -/
def encode (f : TableFile) (s : String) : Bytes :=
  if f.ascii then s.toList.map fun c => if c.toNat < 128 then c.toNat.toUInt8 else 63
  else utf8 s

/-- The file with bytes stored under a key; a key stored before keeps its place. -/
def put (f : TableFile) (key : String) (value : Bytes) : Except Failure TableFile := do
  unless f.writable do throw readOnly
  let k := utf8 key
  if f.entries.any (·.1 == k) then
    pure { f with entries := f.entries.map fun (k', v) => if k' == k then (k', value) else (k', v) }
  else pure { f with entries := f.entries ++ [(k, value)] }

/-- The file with a value stored under a key as JSON text, and the number of bytes
written. -/
def store (f : TableFile) (key : String) (value : Json) : Except Failure (TableFile × Nat) := do
  let b := f.encode value.render
  pure (← f.put key b, b.length)

/-- The file with every field of an object stored, and the number of fields. -/
def storeAll (f : TableFile) (items : List (String × Json)) : Except Failure (TableFile × Nat) := do
  let names := Json.fieldNames items
  let mut g := f
  for k in names do
    g := (← g.store k ((Json.obj items).field? k |>.getD .null)).1
  pure (g, names.length)

/-- The bytes stored under a key. -/
def bytes? (f : TableFile) (key : Bytes) : Option Bytes :=
  (f.entries.find? (·.1 == key)).map (·.2)

/-- The JSON value stored under a key, or `default`. -/
def fetch (f : TableFile) (key : String) (default : Json) : Json :=
  match f.bytes? (utf8 key) with
  | some b =>
    match Json.parse (f.decode b) with
    | .ok v => v
    | .error _ => default
  | none => default

/-- The keys in the order a walk gives them, up to the empty key. -/
def walk (f : TableFile) : List Bytes :=
  (walkOrder (f.entries.map (·.1))).takeWhile (!·.isEmpty)

/-- The keys a walk reaches, read as text: the walk goes on from a key only when the text
read from it writes back to the same bytes. -/
def keyTexts (f : TableFile) : List String :=
  go f.walk
where
  /-- Reads the keys from `ks` on. -/
  go : List Bytes → List String
    | [] => []
    | k :: rest =>
      let t := f.decode k
      if f.encode t == k then t :: go rest else [t]

/-- Every entry a walk reaches, as text. -/
def contents (f : TableFile) : List (String × String) :=
  f.walk.filterMap fun k => do
    let v ← f.bytes? k
    pure ((String.fromUTF8? (ByteArray.mk k.toArray)).getD "",
      (String.fromUTF8? (ByteArray.mk v.toArray)).getD "")

/-- The file opened again with a mode. -/
def reopen (f : TableFile) (mode : String) : Except Failure TableFile :=
  match mode.toList.head? with
  | some 'r' => .ok { f with writable := false }
  | some 'w' | some 'c' => .ok { f with writable := true }
  | some 'n' => .ok { f with entries := [], writable := true }
  | _ => .error ⟨.refused, "First flag must be one of 'r', 'w', 'c' or 'n'"⟩

end TableFile

end Scripture
