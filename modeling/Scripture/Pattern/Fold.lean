import Scripture.Text.Case

/-!
# Equality of characters when case is ignored

Two characters are equal when case is ignored if their simple lower cases are equal, or
if their lower cases are two forms of one letter that lower-casing keeps apart (such as
`s` and the long `ſ`, or `σ` and the final `ς`); `foldPartners` lists these forms.

For classes with ranges the question is turned around: which characters lower-case to a
given one. These are the character itself, its upper case, and the few characters listed
in `extraPreimages` (such as the Kelvin sign, which lower-cases to `k`).
-/

namespace Scripture.Pattern

/-- For each lower-case form, the other lower-case forms of the same letter. -/
def foldPartners : List (Nat × List Nat) :=
  [(105, [305]), (115, [383]), (181, [956]), (305, [105]), (383, [115]), (837, [953, 8126]),
   (912, [8147]), (944, [8163]), (946, [976]), (949, [1013]), (952, [977]), (953, [837, 8126]),
   (954, [1008]), (956, [181]), (960, [982]), (961, [1009]), (962, [963]), (963, [962]),
   (966, [981]), (976, [946]), (977, [952]), (981, [966]), (982, [960]), (1008, [954]),
   (1009, [961]), (1013, [949]), (1074, [7296]), (1076, [7297]), (1086, [7298]),
   (1089, [7299]), (1090, [7300, 7301]), (1098, [7302]), (1123, [7303]), (7296, [1074]),
   (7297, [1076]), (7298, [1086]), (7299, [1089]), (7300, [1090, 7301]), (7301, [1090, 7300]),
   (7302, [1098]), (7303, [1123]), (7304, [42571]), (7777, [7835]), (7835, [7777]),
   (8126, [837, 953]), (8147, [912]), (8163, [944]), (42571, [7304]), (64261, [64262]),
   (64262, [64261])]

/-- Characters that lower-case to a given character other than the character itself and
its upper case. -/
def extraPreimages : List (Nat × List Nat) :=
  [(105, [304]), (107, [8490]), (223, [7838]), (229, [8491]), (454, [453]), (457, [456]),
   (460, [459]), (499, [498]), (952, [1012]), (969, [8486]), (8064, [8072]), (8065, [8073]),
   (8066, [8074]), (8067, [8075]), (8068, [8076]), (8069, [8077]), (8070, [8078]),
   (8071, [8079]), (8080, [8088]), (8081, [8089]), (8082, [8090]), (8083, [8091]),
   (8084, [8092]), (8085, [8093]), (8086, [8094]), (8087, [8095]), (8096, [8104]),
   (8097, [8105]), (8098, [8106]), (8099, [8107]), (8100, [8108]), (8101, [8109]),
   (8102, [8110]), (8103, [8111]), (8115, [8124]), (8131, [8140]), (8179, [8188])]

/-- The lower-case forms equal to a character's lower case when case is ignored: its
lower case and that form's partners. -/
def foldForms (c : Char) : List Nat :=
  let l := (Text.lowerChar c).toNat
  l :: ((foldPartners.lookup l).getD [])

/-- Whether two characters are equal when case is ignored. -/
def foldEq (a b : Char) : Bool :=
  a == b || (foldForms a).contains (Text.lowerChar b).toNat

/-- The characters that lower-case to the character with code `y`. -/
def preimages (y : Nat) : List Nat :=
  let c := Char.ofNat y
  let up := (Text.upperChar c).toNat
  let own := if (Text.lowerChar c).toNat == y then [y] else []
  let upper := if (Text.lowerChar (Char.ofNat up)).toNat == y then [up] else []
  own ++ upper ++ ((extraPreimages.lookup y).getD [])

/-- Whether some character of the range `lo … hi` is equal to `c` when case is ignored. -/
def foldInRange (lo hi : Char) (c : Char) : Bool :=
  (lo ≤ c && c ≤ hi) ||
    (foldForms c).any fun y => (preimages y).any fun x => lo.toNat ≤ x && x ≤ hi.toNat

/-- The ASCII lower case of a character; other characters are kept. -/
def asciiLower (c : Char) : Char := if c.toNat < 128 then c.toLower else c

/-- Whether case matters for a character: it differs from its lower or its upper case,
or its full upper case is several characters (as for `ß`). In ASCII mode only the ASCII
letters count. -/
def isCased (ascii : Bool) (c : Char) : Bool :=
  if ascii then c.toNat < 128 && c.isAlpha
  else Text.lowerChar c != c || Text.upperChar c != c ||
    Text.fullUpperTable.any (·.1 == c.toNat)

/-- Whether a run of a case table moves some code point from `lo` to `hi`. -/
def runMeets (r : Text.CaseRun) (lo hi : Nat) : Bool :=
  if r.count == 0 then false
  else if r.stride == 0 then lo ≤ r.start && r.start ≤ hi
  else
    let last := r.start + (r.count - 1) * r.stride
    let first := if lo ≤ r.start then r.start
      else r.start + (lo - r.start + r.stride - 1) / r.stride * r.stride
    first ≤ last && first ≤ hi

/-- Whether case matters for some character from `lo` to `hi`: the case tables move it. -/
def rangeHasCased (ascii : Bool) (lo hi : Char) : Bool :=
  if ascii then
    (lo ≤ 'Z' && 'A' ≤ hi) || (lo ≤ 'z' && 'a' ≤ hi)
  else
    Text.lowerTable.any (runMeets · lo.toNat hi.toNat) ||
      Text.upperTable.any (runMeets · lo.toNat hi.toNat) ||
      Text.fullUpperTable.any (fun p => lo.toNat ≤ p.1 && p.1 ≤ hi.toNat)

end Scripture.Pattern
