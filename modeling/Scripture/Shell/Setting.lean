import Scripture.Reference.RangeList
import Scripture.Json.Members
import Scripture.Text.Quote

/-!
# Settings of the search shell

The shell keeps its settings as named values, in the order they were first given. A value
is a text, a switch, a whole number or a list of names; `set name=value` (or
`set name value`) stores `false` and `true`, in any case, as switches and a run of decimal
digits as a number, and any other text as it is. A name the shell does not know is kept as
well, after the others.

* `Settings.initial` — the settings the shell starts with.
* `Setting.shown` — a value as the shell prints it: switches as `True` and `False`, a list
  of names as a tuple.
* `Setting.truthy` — whether a value counts as on: a text or list that is not empty, a
  switch that is on, a number that is not zero.
* `Settings.listing` — every setting, each name padded to the longest, with the range
  written as the references it covers.
-/

namespace Scripture.Shell

/-- The value of a setting. -/
inductive Setting where
  | text (s : String)
  | flag (b : Bool)
  | number (n : Nat)
  | names (xs : List String)
deriving DecidableEq, Repr

namespace Setting

/-- A value as the shell prints it. -/
def shown : Setting → String
  | .text s => s
  | .flag b => if b then "True" else "False"
  | .number n => toString n
  | .names [x] => "(" ++ Text.quote x ++ ",)"
  | .names xs => "(" ++ ", ".intercalate (xs.map Text.quote) ++ ")"

/-- Whether a value counts as on. -/
def truthy : Setting → Bool
  | .text s => !s.isEmpty
  | .flag b => b
  | .number n => n != 0
  | .names xs => !xs.isEmpty

/-- A value as a plain value. -/
def toJson : Setting → Json
  | .text s => .str s
  | .flag b => .bool b
  | .number n => .int n
  | .names xs => .arr (xs.map .str)

/-- The name of the kind of a value, as failures name it. -/
def kindName : Setting → String
  | .text _ => "str"
  | .flag _ => "bool"
  | .number _ => "int"
  | .names _ => "tuple"

/-- Whether a value equals the number zero: the number itself or the switch that is off. -/
def isZero : Setting → Bool
  | .number 0 | .flag false => true
  | _ => false

/-- The value a text stands for in `set`: a switch for `false` or `true` in any case, a
number for decimal digits, otherwise the text. -/
def read (v : String) : Setting :=
  if Text.lower v == "false" then .flag false
  else if Text.lower v == "true" then .flag true
  else if !v.isEmpty && v.all Text.isDigit then
    .number (v.foldl (fun n c => 10 * n + (Text.digitValue? c).getD 0) 0)
  else .text v

end Setting

/-- The settings, in the order they were first given. -/
structure Settings where
  entries : List (String × Setting)
deriving Repr

namespace Settings

/-- The settings the shell starts with, for the Bible `module`. -/
def initial (module : String) : Settings :=
  ⟨[("search_type", .text "mixed"), ("search_strongs", .flag false),
    ("search_morph", .flag false), ("case_sensitive", .flag false), ("context", .number 0),
    ("one_line", .flag false), ("show_notes", .flag false), ("show_strongs", .flag false),
    ("show_morph", .flag false), ("added", .flag true), ("range", .text ""),
    ("extras", .names []), ("module", .text module)]⟩

/-- The value of a setting. -/
def get? (s : Settings) (name : String) : Option Setting := s.entries.lookup name

/-- The value of a setting the shell always has; a missing one reads as off. -/
def value (s : Settings) (name : String) : Setting := (s.get? name).getD (.flag false)

/-- The settings with one value given: in its place when the name is known, otherwise
after the others. -/
def put (s : Settings) (name : String) (v : Setting) : Settings :=
  if s.entries.any (·.1 == name) then
    ⟨s.entries.map fun (k, w) => if k == name then (k, v) else (k, w)⟩
  else ⟨s.entries ++ [(name, v)]⟩

/-- A range setting written as the references it covers, joined by `; `: single verses in
reading order, then ranges. -/
def rangeShown (v : Setting) : Except Failure String := do
  match v with
  | .text t =>
    let items ← RangeList.parse t
    let verses := (items.filterMap fun it => match it with
      | .verse v => some v
      | .range _ => none).mergeSort (fun a b => a.offset ≤ b.offset)
    let ranges := items.filterMap fun it => match it with
      | .verse _ => none
      | .range r => some r.text
    pure ("; ".intercalate (verses.map (·.text) ++ ranges))
  | other => throw ⟨.wrongType,
      "expected string or bytes-like object, got " ++ Text.quote other.kindName⟩

/-- What `set` alone prints: a heading, each setting as `name = value` with the names
padded to the longest, and an empty line. A setting named `range` in any case is written
as the references it covers. -/
def listing (s : Settings) : Except Failure String := do
  let width := (s.entries.map (·.1.length)).foldl max 0
  let lines ← s.entries.mapM fun (k, v) => do
    let shown ← if Text.lower k == "range" then rangeShown v else pure v.shown
    pure (k.pushn ' ' (width - k.length) ++ " = " ++ shown ++ "\n")
  pure ("Current settings:\n\n" ++ String.join lines ++ "\n")

end Settings

end Scripture.Shell
