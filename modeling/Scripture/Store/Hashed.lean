import Scripture.Store.Table

/-!
# The order of keys in a hashed table file

Tables are kept in files that place each key in one of 166 slots of a bucket by a hash of
its bytes, taking the next free slot when that one is held. Walking a file gives its keys
by slot. A walk that reads each key as a truth value stops at the empty key, so the keys
placed after it are never reached.

* `keyHash` — the hash of a key's bytes: each byte, read as a signed 8-bit number, is
  shifted left by `5 * i mod 24` bits and added to a start of `0x238F13AF` times the
  length, keeping 31 bits, and the sum is scrambled by `1103515243 * v + 12345`.
* `walkOrder` — keys stored in a given order, in the order a walk gives them.
* `Table.walk` — a table's keys as far as a walk reaches.
-/

namespace Scripture

/-- The bytes of a key or value. -/
abbrev Bytes := List UInt8

/-- The number of slots in a bucket. -/
def bucketSlots : Nat := 166

/-- The hash of a key's bytes. -/
def keyHash (key : Bytes) : Nat :=
  let start : Int := (0x238F13AF * key.length) % Int.pow 2 32
  let v := key.zipIdx.foldl (fun (v : Int) (b, i) =>
    let signed : Int := if b.toNat ≥ 128 then b.toNat - 256 else b.toNat
    (v + signed * Int.pow 2 (i * 5 % 24)) % Int.pow 2 31) start
  ((1103515243 * v + 12345) % Int.pow 2 31).toNat

/-- The first free slot from `slot` on, wrapping around; `fuel` bounds the slots tried. -/
def freeSlot (taken : List Nat) : Nat → Nat → Nat
  | 0, slot => slot
  | fuel + 1, slot => if taken.contains slot then freeSlot taken fuel ((slot + 1) % bucketSlots)
    else slot

/-- The slot of each key, the keys placed in the order they were first stored. -/
def placeKeys (keys : List Bytes) : List (Nat × Bytes) :=
  keys.foldl (fun placed k =>
    if placed.any (·.2 == k) then placed
    else placed ++ [(freeSlot (placed.map (·.1)) bucketSlots (keyHash k % bucketSlots), k)]) []

/-- Keys stored in the given order, in the order a walk of the file gives them. -/
def walkOrder (keys : List Bytes) : List Bytes :=
  ((placeKeys keys).mergeSort fun a b => a.1 ≤ b.1).map (·.2)

/-- The bytes of a text in UTF-8. -/
def utf8 (s : String) : Bytes := s.toUTF8.toList

/-- A table's keys as far as a walk reaches, which stops at the empty key. -/
def Table.walk (t : Table) : List String :=
  (walkOrder (t.keys.map utf8)).takeWhile (!·.isEmpty) |>.filterMap
    fun b => String.fromUTF8? (ByteArray.mk b.toArray)

end Scripture
