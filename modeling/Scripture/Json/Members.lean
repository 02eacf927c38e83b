import Scripture.Json.Basic
import Scripture.Json.Write

/-!
# Values as collections

Stored values are read as collections by the searches: a list gives its items, a text its
characters, an object its field names, and nothing else can be walked. Sets of values hold
only values that can be compared as keys (texts, numbers, truth values and `null`), where
a truth value is the number 0 or 1 and numbers are equal by value.

* `truthy` — which values count as true: all but `null`, `false`, zero and empty ones.
* `ValueSet` — a set of key values with union, intersection, difference and symmetric
  difference; `ValueSet.sorted` lists it in the order answers show it.
-/

namespace Scripture.Json

/-- Whether a value counts as true: every value but `null`, `false`, a zero and an empty
text, list or object. -/
def truthy : Json → Bool
  | .null => false
  | .bool b => b
  | .int n => n != 0
  | .dec m _ => m != 0
  | .str s => !s.isEmpty
  | .arr xs => !xs.isEmpty
  | .obj fs => !fs.isEmpty

/-- The names of an object's fields, each once, at the place it was first written. -/
def fieldNames (fs : List (String × Json)) : List String := (fs.map (·.1)).eraseDups

/-- The members of a value walked as a collection: the items of a list, the characters of a
text, the field names of an object. Other values cannot be walked. -/
def members : Json → Except Failure (List Json)
  | .arr xs => .ok xs
  | .str s => .ok (s.toList.map fun c => .str (String.singleton c))
  | .obj fs => .ok ((fieldNames fs).map .str)
  | j => .error ⟨.wrongType, "'" ++ j.kindName ++ "' object is not iterable"⟩

/-- The number of members of a value that can be walked. -/
def size : Json → Except Failure Nat
  | .arr xs => .ok xs.length
  | .str s => .ok s.length
  | .obj fs => .ok (fieldNames fs).length
  | j => .error ⟨.wrongType, "object of type '" ++ j.kindName ++ "' has no len()"⟩

/-- The number a value stands for, as a mantissa and a power of ten; truth values are 0
and 1. -/
def numeric? : Json → Option (Int × Int)
  | .bool b => some (if b then 1 else 0, 0)
  | .int n => some (n, 0)
  | .dec m e => some (m, e)
  | _ => none

/-- Whether two numbers given as mantissa and power of ten are equal: both are brought to
the smaller power. -/
def sameNumber (a b : Int × Int) : Bool :=
  let e := min a.2 b.2
  a.1 * Int.pow 10 (a.2 - e).toNat == b.1 * Int.pow 10 (b.2 - e).toNat

/-- Whether two key values are the same key: equal texts, both `null`, or equal numbers. -/
def sameMember : Json → Json → Bool
  | .str a, .str b => a == b
  | .null, .null => true
  | a, b => match a.numeric?, b.numeric? with
    | some x, some y => sameNumber x y
    | _, _ => false

/-- A value that can be a key, or the failure of one that cannot: lists and objects. -/
def asKey (j : Json) : Except Failure Json :=
  match j with
  | .arr _ | .obj _ => .error ⟨.wrongType, "unhashable type: '" ++ j.kindName ++ "'"⟩
  | _ => .ok j

end Scripture.Json

namespace Scripture

/-- A set of key values, each held once. -/
structure ValueSet where
  items : List Json := []
deriving Inhabited

namespace ValueSet

/-- Whether a value is in the set. -/
def contains (s : ValueSet) (x : Json) : Bool := s.items.any (Json.sameMember · x)

/-- The set with one more value; a value already in it stays as it is. -/
def insert (s : ValueSet) (x : Json) : ValueSet :=
  if s.contains x then s else ⟨s.items ++ [x]⟩

/-- The set of the values of a list. -/
def ofList (xs : List Json) : ValueSet := xs.foldl insert {}

/-- The set of texts of a list whose texts are distinct. -/
def ofTexts (xs : List String) : ValueSet := ⟨xs.map .str⟩

/-- Whether the set is empty. -/
def isEmpty (s : ValueSet) : Bool := s.items.isEmpty

/-- The values in either set. -/
def union (s t : ValueSet) : ValueSet := t.items.foldl insert s

/-- The values of `s` that are in `t`. -/
def inter (s t : ValueSet) : ValueSet := ⟨s.items.filter t.contains⟩

/-- The values of `s` that are not in `t`. -/
def diff (s t : ValueSet) : ValueSet := ⟨s.items.filter (!t.contains ·)⟩

/-- The values in exactly one of the two sets. -/
def symmDiff (s t : ValueSet) : ValueSet :=
  ⟨s.items.filter (!t.contains ·) ++ t.items.filter (!s.contains ·)⟩

/-! ### Texts in sets

A text is the same key as itself and as nothing else, so a text is in a set exactly when it is
one of its items, and each operation on sets is the matching operation on the texts they hold. -/

theorem sameMember_str {y : Json} {r : String} : Json.sameMember y (.str r) = true ↔ y = .str r := by
  cases y <;> simp [Json.sameMember, Json.numeric?]

@[simp] theorem contains_str {s : ValueSet} {r : String} :
    s.contains (.str r) = true ↔ .str r ∈ s.items := by
  simp [contains, sameMember_str]

@[simp] theorem mem_insert_str {s : ValueSet} {x : Json} {r : String} :
    .str r ∈ (s.insert x).items ↔ .str r ∈ s.items ∨ x = .str r := by
  unfold insert
  split
  · rename_i hx
    constructor
    · exact Or.inl
    · rintro (h | rfl)
      · exact h
      · exact contains_str.mp hx
  · simp [eq_comm]

@[simp] theorem mem_union_str {s t : ValueSet} {r : String} :
    .str r ∈ (s.union t).items ↔ .str r ∈ s.items ∨ .str r ∈ t.items := by
  unfold union
  induction t.items generalizing s with
  | nil => simp
  | cons x xs ih => simp [ih, or_assoc, eq_comm]

@[simp] theorem mem_inter_str {s t : ValueSet} {r : String} :
    .str r ∈ (s.inter t).items ↔ .str r ∈ s.items ∧ .str r ∈ t.items := by
  simp [inter]

@[simp] theorem mem_diff_str {s t : ValueSet} {r : String} :
    .str r ∈ (s.diff t).items ↔ .str r ∈ s.items ∧ .str r ∉ t.items := by
  simp [diff, Bool.eq_false_iff]

@[simp] theorem mem_symmDiff_str {s t : ValueSet} {r : String} :
    .str r ∈ (s.symmDiff t).items ↔ (.str r ∈ s.items ↔ .str r ∉ t.items) := by
  simp only [symmDiff, List.mem_append, List.mem_filter, Bool.not_eq_true', Bool.eq_false_iff,
    ne_eq, contains_str]
  by_cases hs : Json.str r ∈ s.items <;> by_cases ht : Json.str r ∈ t.items <;> simp [hs, ht]

theorem contains_symmDiff_str {s t : ValueSet} {r : String} :
    (s.symmDiff t).contains (.str r) = (s.contains (.str r) ^^ t.contains (.str r)) := by
  rw [Bool.eq_iff_iff, contains_str, mem_symmDiff_str, ← contains_str, ← contains_str]
  cases s.contains (.str r) <;> cases t.contains (.str r) <;> decide

@[simp] theorem not_mem_empty {x : Json} : x ∉ ({} : ValueSet).items := List.not_mem_nil

@[simp] theorem isEmpty_empty : ({} : ValueSet).isEmpty = true := rfl

theorem isEmpty_eq_false {s : ValueSet} {x : Json} (h : x ∈ s.items) : s.isEmpty = false := by
  cases hs : s.items with
  | nil => rw [hs] at h; cases h
  | cons y ys => simp [isEmpty, hs]

/-- The members of a value, as a set; each member must be able to be a key. -/
def ofValue (j : Json) : Except Failure ValueSet := do
  let ms ← j.members
  let ks ← ms.mapM Json.asKey
  pure (ofList ks)

/-- The set's texts, when every value is a text. -/
def texts? (s : ValueSet) : Option (List String) := s.items.mapM Json.str?

/-- The values in the order answers list them: texts by code point when all are texts,
otherwise by their JSON text. -/
def sorted (s : ValueSet) : List Json :=
  match s.texts? with
  | some ts => (ts.mergeSort fun a b => !(b < a)).map .str
  | none => s.items.mergeSort fun a b => !(b.render < a.render)

end ValueSet

end Scripture
