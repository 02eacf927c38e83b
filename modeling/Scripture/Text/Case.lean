import Scripture.Text.Classes

/-!
# Case mappings

Lower and upper case of characters and texts, after the Unicode character database
(version 14.0). The simple mappings send a character to one character; the full mappings
of a text may send one character to several (`ß` upper-cases to `SS`, `İ` lower-cases to
`i` followed by a combining dot).

A table is a sorted list of runs: code points `start`, `start + stride`, … (`count` of
them) that each move by `delta`.
-/

namespace Scripture.Text

/-- A run of a case table: `count` code points from `start`, `stride` apart, each mapped to
itself plus `delta`. -/
structure CaseRun where
  start : Nat
  count : Nat
  delta : Int
  stride : Nat

/-- The run of `table` whose code points include `n`, if any. -/
def findRun? (table : Array CaseRun) (n : Nat) : Option CaseRun :=
  go 0 table.size
where
  /-- Searches the runs with positions in `lo ≤ i < hi`. -/
  go (lo hi : Nat) : Option CaseRun :=
    if lo < hi then
      let mid := (lo + hi) / 2
      match table[mid]? with
      | none => none
      | some r =>
        if n < r.start then go lo mid
        else if r.start + (r.count - 1) * r.stride < n then go (mid + 1) hi
        else if (n - r.start) % r.stride == 0 then some r else none
    else none
  termination_by hi - lo

/-- Applies a case table to one character; characters outside it are kept. -/
def mapByTable (table : Array CaseRun) (c : Char) : Char :=
  match findRun? table c.toNat with
  | some r => Char.ofNat (Int.toNat (c.toNat + r.delta))
  | none => c

/-- The simple lower-case mappings. -/
def lowerTable : Array CaseRun := #[
  ⟨65, 26, 32, 1⟩, ⟨192, 23, 32, 1⟩, ⟨216, 7, 32, 1⟩, ⟨256, 24, 1, 2⟩,
  ⟨304, 1, -199, 1⟩, ⟨306, 3, 1, 2⟩, ⟨313, 8, 1, 2⟩, ⟨330, 23, 1, 2⟩,
  ⟨376, 1, -121, 1⟩, ⟨377, 3, 1, 2⟩, ⟨385, 1, 210, 1⟩, ⟨386, 2, 1, 2⟩,
  ⟨390, 1, 206, 1⟩, ⟨391, 1, 1, 1⟩, ⟨393, 2, 205, 1⟩, ⟨395, 1, 1, 1⟩,
  ⟨398, 1, 79, 1⟩, ⟨399, 1, 202, 1⟩, ⟨400, 1, 203, 1⟩, ⟨401, 1, 1, 1⟩,
  ⟨403, 1, 205, 1⟩, ⟨404, 1, 207, 1⟩, ⟨406, 1, 211, 1⟩, ⟨407, 1, 209, 1⟩,
  ⟨408, 1, 1, 1⟩, ⟨412, 1, 211, 1⟩, ⟨413, 1, 213, 1⟩, ⟨415, 1, 214, 1⟩,
  ⟨416, 3, 1, 2⟩, ⟨422, 1, 218, 1⟩, ⟨423, 1, 1, 1⟩, ⟨425, 1, 218, 1⟩,
  ⟨428, 1, 1, 1⟩, ⟨430, 1, 218, 1⟩, ⟨431, 1, 1, 1⟩, ⟨433, 2, 217, 1⟩,
  ⟨435, 2, 1, 2⟩, ⟨439, 1, 219, 1⟩, ⟨440, 1, 1, 1⟩, ⟨444, 1, 1, 1⟩,
  ⟨452, 1, 2, 1⟩, ⟨453, 1, 1, 1⟩, ⟨455, 1, 2, 1⟩, ⟨456, 1, 1, 1⟩,
  ⟨458, 1, 2, 1⟩, ⟨459, 9, 1, 2⟩, ⟨478, 9, 1, 2⟩, ⟨497, 1, 2, 1⟩,
  ⟨498, 2, 1, 2⟩, ⟨502, 1, -97, 1⟩, ⟨503, 1, -56, 1⟩, ⟨504, 20, 1, 2⟩,
  ⟨544, 1, -130, 1⟩, ⟨546, 9, 1, 2⟩, ⟨570, 1, 10795, 1⟩, ⟨571, 1, 1, 1⟩,
  ⟨573, 1, -163, 1⟩, ⟨574, 1, 10792, 1⟩, ⟨577, 1, 1, 1⟩, ⟨579, 1, -195, 1⟩,
  ⟨580, 1, 69, 1⟩, ⟨581, 1, 71, 1⟩, ⟨582, 5, 1, 2⟩, ⟨880, 2, 1, 2⟩,
  ⟨886, 1, 1, 1⟩, ⟨895, 1, 116, 1⟩, ⟨902, 1, 38, 1⟩, ⟨904, 3, 37, 1⟩,
  ⟨908, 1, 64, 1⟩, ⟨910, 2, 63, 1⟩, ⟨913, 17, 32, 1⟩, ⟨931, 9, 32, 1⟩,
  ⟨975, 1, 8, 1⟩, ⟨984, 12, 1, 2⟩, ⟨1012, 1, -60, 1⟩, ⟨1015, 1, 1, 1⟩,
  ⟨1017, 1, -7, 1⟩, ⟨1018, 1, 1, 1⟩, ⟨1021, 3, -130, 1⟩, ⟨1024, 16, 80, 1⟩,
  ⟨1040, 32, 32, 1⟩, ⟨1120, 17, 1, 2⟩, ⟨1162, 27, 1, 2⟩, ⟨1216, 1, 15, 1⟩,
  ⟨1217, 7, 1, 2⟩, ⟨1232, 48, 1, 2⟩, ⟨1329, 38, 48, 1⟩, ⟨4256, 38, 7264, 1⟩,
  ⟨4295, 1, 7264, 1⟩, ⟨4301, 1, 7264, 1⟩, ⟨5024, 80, 38864, 1⟩, ⟨5104, 6, 8, 1⟩,
  ⟨7312, 43, -3008, 1⟩, ⟨7357, 3, -3008, 1⟩, ⟨7680, 75, 1, 2⟩, ⟨7838, 1, -7615, 1⟩,
  ⟨7840, 48, 1, 2⟩, ⟨7944, 8, -8, 1⟩, ⟨7960, 6, -8, 1⟩, ⟨7976, 8, -8, 1⟩,
  ⟨7992, 8, -8, 1⟩, ⟨8008, 6, -8, 1⟩, ⟨8025, 4, -8, 2⟩, ⟨8040, 8, -8, 1⟩,
  ⟨8072, 8, -8, 1⟩, ⟨8088, 8, -8, 1⟩, ⟨8104, 8, -8, 1⟩, ⟨8120, 2, -8, 1⟩,
  ⟨8122, 2, -74, 1⟩, ⟨8124, 1, -9, 1⟩, ⟨8136, 4, -86, 1⟩, ⟨8140, 1, -9, 1⟩,
  ⟨8152, 2, -8, 1⟩, ⟨8154, 2, -100, 1⟩, ⟨8168, 2, -8, 1⟩, ⟨8170, 2, -112, 1⟩,
  ⟨8172, 1, -7, 1⟩, ⟨8184, 2, -128, 1⟩, ⟨8186, 2, -126, 1⟩, ⟨8188, 1, -9, 1⟩,
  ⟨8486, 1, -7517, 1⟩, ⟨8490, 1, -8383, 1⟩, ⟨8491, 1, -8262, 1⟩, ⟨8498, 1, 28, 1⟩,
  ⟨8544, 16, 16, 1⟩, ⟨8579, 1, 1, 1⟩, ⟨9398, 26, 26, 1⟩, ⟨11264, 48, 48, 1⟩,
  ⟨11360, 1, 1, 1⟩, ⟨11362, 1, -10743, 1⟩, ⟨11363, 1, -3814, 1⟩, ⟨11364, 1, -10727, 1⟩,
  ⟨11367, 3, 1, 2⟩, ⟨11373, 1, -10780, 1⟩, ⟨11374, 1, -10749, 1⟩, ⟨11375, 1, -10783, 1⟩,
  ⟨11376, 1, -10782, 1⟩, ⟨11378, 1, 1, 1⟩, ⟨11381, 1, 1, 1⟩, ⟨11390, 2, -10815, 1⟩,
  ⟨11392, 50, 1, 2⟩, ⟨11499, 2, 1, 2⟩, ⟨11506, 1, 1, 1⟩, ⟨42560, 23, 1, 2⟩,
  ⟨42624, 14, 1, 2⟩, ⟨42786, 7, 1, 2⟩, ⟨42802, 31, 1, 2⟩, ⟨42873, 2, 1, 2⟩,
  ⟨42877, 1, -35332, 1⟩, ⟨42878, 5, 1, 2⟩, ⟨42891, 1, 1, 1⟩, ⟨42893, 1, -42280, 1⟩,
  ⟨42896, 2, 1, 2⟩, ⟨42902, 10, 1, 2⟩, ⟨42922, 1, -42308, 1⟩, ⟨42923, 1, -42319, 1⟩,
  ⟨42924, 1, -42315, 1⟩, ⟨42925, 1, -42305, 1⟩, ⟨42926, 1, -42308, 1⟩, ⟨42928, 1, -42258, 1⟩,
  ⟨42929, 1, -42282, 1⟩, ⟨42930, 1, -42261, 1⟩, ⟨42931, 1, 928, 1⟩, ⟨42932, 8, 1, 2⟩,
  ⟨42948, 1, -48, 1⟩, ⟨42949, 1, -42307, 1⟩, ⟨42950, 1, -35384, 1⟩, ⟨42951, 2, 1, 2⟩,
  ⟨42960, 1, 1, 1⟩, ⟨42966, 2, 1, 2⟩, ⟨42997, 1, 1, 1⟩, ⟨65313, 26, 32, 1⟩,
  ⟨66560, 40, 40, 1⟩, ⟨66736, 36, 40, 1⟩, ⟨66928, 11, 39, 1⟩, ⟨66940, 15, 39, 1⟩,
  ⟨66956, 7, 39, 1⟩, ⟨66964, 2, 39, 1⟩, ⟨68736, 51, 64, 1⟩, ⟨71840, 32, 32, 1⟩,
  ⟨93760, 32, 32, 1⟩, ⟨125184, 34, 34, 1⟩]

/-- The simple upper-case mappings. -/
def upperTable : Array CaseRun := #[
  ⟨97, 26, -32, 1⟩, ⟨181, 1, 743, 1⟩, ⟨224, 23, -32, 1⟩, ⟨248, 7, -32, 1⟩,
  ⟨255, 1, 121, 1⟩, ⟨257, 24, -1, 2⟩, ⟨305, 1, -232, 1⟩, ⟨307, 3, -1, 2⟩,
  ⟨314, 8, -1, 2⟩, ⟨331, 23, -1, 2⟩, ⟨378, 3, -1, 2⟩, ⟨383, 1, -300, 1⟩,
  ⟨384, 1, 195, 1⟩, ⟨387, 2, -1, 2⟩, ⟨392, 1, -1, 1⟩, ⟨396, 1, -1, 1⟩,
  ⟨402, 1, -1, 1⟩, ⟨405, 1, 97, 1⟩, ⟨409, 1, -1, 1⟩, ⟨410, 1, 163, 1⟩,
  ⟨414, 1, 130, 1⟩, ⟨417, 3, -1, 2⟩, ⟨424, 1, -1, 1⟩, ⟨429, 1, -1, 1⟩,
  ⟨432, 1, -1, 1⟩, ⟨436, 2, -1, 2⟩, ⟨441, 1, -1, 1⟩, ⟨445, 1, -1, 1⟩,
  ⟨447, 1, 56, 1⟩, ⟨453, 1, -1, 1⟩, ⟨454, 1, -2, 1⟩, ⟨456, 1, -1, 1⟩,
  ⟨457, 1, -2, 1⟩, ⟨459, 1, -1, 1⟩, ⟨460, 1, -2, 1⟩, ⟨462, 8, -1, 2⟩,
  ⟨477, 1, -79, 1⟩, ⟨479, 9, -1, 2⟩, ⟨498, 1, -1, 1⟩, ⟨499, 1, -2, 1⟩,
  ⟨501, 1, -1, 1⟩, ⟨505, 20, -1, 2⟩, ⟨547, 9, -1, 2⟩, ⟨572, 1, -1, 1⟩,
  ⟨575, 2, 10815, 1⟩, ⟨578, 1, -1, 1⟩, ⟨583, 5, -1, 2⟩, ⟨592, 1, 10783, 1⟩,
  ⟨593, 1, 10780, 1⟩, ⟨594, 1, 10782, 1⟩, ⟨595, 1, -210, 1⟩, ⟨596, 1, -206, 1⟩,
  ⟨598, 2, -205, 1⟩, ⟨601, 1, -202, 1⟩, ⟨603, 1, -203, 1⟩, ⟨604, 1, 42319, 1⟩,
  ⟨608, 1, -205, 1⟩, ⟨609, 1, 42315, 1⟩, ⟨611, 1, -207, 1⟩, ⟨613, 1, 42280, 1⟩,
  ⟨614, 1, 42308, 1⟩, ⟨616, 1, -209, 1⟩, ⟨617, 1, -211, 1⟩, ⟨618, 1, 42308, 1⟩,
  ⟨619, 1, 10743, 1⟩, ⟨620, 1, 42305, 1⟩, ⟨623, 1, -211, 1⟩, ⟨625, 1, 10749, 1⟩,
  ⟨626, 1, -213, 1⟩, ⟨629, 1, -214, 1⟩, ⟨637, 1, 10727, 1⟩, ⟨640, 1, -218, 1⟩,
  ⟨642, 1, 42307, 1⟩, ⟨643, 1, -218, 1⟩, ⟨647, 1, 42282, 1⟩, ⟨648, 1, -218, 1⟩,
  ⟨649, 1, -69, 1⟩, ⟨650, 2, -217, 1⟩, ⟨652, 1, -71, 1⟩, ⟨658, 1, -219, 1⟩,
  ⟨669, 1, 42261, 1⟩, ⟨670, 1, 42258, 1⟩, ⟨837, 1, 84, 1⟩, ⟨881, 2, -1, 2⟩,
  ⟨887, 1, -1, 1⟩, ⟨891, 3, 130, 1⟩, ⟨940, 1, -38, 1⟩, ⟨941, 3, -37, 1⟩,
  ⟨945, 17, -32, 1⟩, ⟨962, 1, -31, 1⟩, ⟨963, 9, -32, 1⟩, ⟨972, 1, -64, 1⟩,
  ⟨973, 2, -63, 1⟩, ⟨976, 1, -62, 1⟩, ⟨977, 1, -57, 1⟩, ⟨981, 1, -47, 1⟩,
  ⟨982, 1, -54, 1⟩, ⟨983, 1, -8, 1⟩, ⟨985, 12, -1, 2⟩, ⟨1008, 1, -86, 1⟩,
  ⟨1009, 1, -80, 1⟩, ⟨1010, 1, 7, 1⟩, ⟨1011, 1, -116, 1⟩, ⟨1013, 1, -96, 1⟩,
  ⟨1016, 1, -1, 1⟩, ⟨1019, 1, -1, 1⟩, ⟨1072, 32, -32, 1⟩, ⟨1104, 16, -80, 1⟩,
  ⟨1121, 17, -1, 2⟩, ⟨1163, 27, -1, 2⟩, ⟨1218, 7, -1, 2⟩, ⟨1231, 1, -15, 1⟩,
  ⟨1233, 48, -1, 2⟩, ⟨1377, 38, -48, 1⟩, ⟨4304, 43, 3008, 1⟩, ⟨4349, 3, 3008, 1⟩,
  ⟨5112, 6, -8, 1⟩, ⟨7296, 1, -6254, 1⟩, ⟨7297, 1, -6253, 1⟩, ⟨7298, 1, -6244, 1⟩,
  ⟨7299, 2, -6242, 1⟩, ⟨7301, 1, -6243, 1⟩, ⟨7302, 1, -6236, 1⟩, ⟨7303, 1, -6181, 1⟩,
  ⟨7304, 1, 35266, 1⟩, ⟨7545, 1, 35332, 1⟩, ⟨7549, 1, 3814, 1⟩, ⟨7566, 1, 35384, 1⟩,
  ⟨7681, 75, -1, 2⟩, ⟨7835, 1, -59, 1⟩, ⟨7841, 48, -1, 2⟩, ⟨7936, 8, 8, 1⟩,
  ⟨7952, 6, 8, 1⟩, ⟨7968, 8, 8, 1⟩, ⟨7984, 8, 8, 1⟩, ⟨8000, 6, 8, 1⟩,
  ⟨8017, 4, 8, 2⟩, ⟨8032, 8, 8, 1⟩, ⟨8048, 2, 74, 1⟩, ⟨8050, 4, 86, 1⟩,
  ⟨8054, 2, 100, 1⟩, ⟨8056, 2, 128, 1⟩, ⟨8058, 2, 112, 1⟩, ⟨8060, 2, 126, 1⟩,
  ⟨8112, 2, 8, 1⟩, ⟨8126, 1, -7205, 1⟩, ⟨8144, 2, 8, 1⟩, ⟨8160, 2, 8, 1⟩,
  ⟨8165, 1, 7, 1⟩, ⟨8526, 1, -28, 1⟩, ⟨8560, 16, -16, 1⟩, ⟨8580, 1, -1, 1⟩,
  ⟨9424, 26, -26, 1⟩, ⟨11312, 48, -48, 1⟩, ⟨11361, 1, -1, 1⟩, ⟨11365, 1, -10795, 1⟩,
  ⟨11366, 1, -10792, 1⟩, ⟨11368, 3, -1, 2⟩, ⟨11379, 1, -1, 1⟩, ⟨11382, 1, -1, 1⟩,
  ⟨11393, 50, -1, 2⟩, ⟨11500, 2, -1, 2⟩, ⟨11507, 1, -1, 1⟩, ⟨11520, 38, -7264, 1⟩,
  ⟨11559, 1, -7264, 1⟩, ⟨11565, 1, -7264, 1⟩, ⟨42561, 23, -1, 2⟩, ⟨42625, 14, -1, 2⟩,
  ⟨42787, 7, -1, 2⟩, ⟨42803, 31, -1, 2⟩, ⟨42874, 2, -1, 2⟩, ⟨42879, 5, -1, 2⟩,
  ⟨42892, 1, -1, 1⟩, ⟨42897, 2, -1, 2⟩, ⟨42900, 1, 48, 1⟩, ⟨42903, 10, -1, 2⟩,
  ⟨42933, 8, -1, 2⟩, ⟨42952, 2, -1, 2⟩, ⟨42961, 1, -1, 1⟩, ⟨42967, 2, -1, 2⟩,
  ⟨42998, 1, -1, 1⟩, ⟨43859, 1, -928, 1⟩, ⟨43888, 80, -38864, 1⟩, ⟨65345, 26, -32, 1⟩,
  ⟨66600, 40, -40, 1⟩, ⟨66776, 36, -40, 1⟩, ⟨66967, 11, -39, 1⟩, ⟨66979, 15, -39, 1⟩,
  ⟨66995, 7, -39, 1⟩, ⟨67003, 2, -39, 1⟩, ⟨68800, 51, -64, 1⟩, ⟨71872, 32, -32, 1⟩,
  ⟨93792, 32, -32, 1⟩, ⟨125218, 34, -34, 1⟩]

/-- The characters whose full upper case is more than one character. -/
def fullUpperTable : Array (Nat × String) := #[
  (223, "SS"), (329, "\u02bcN"), (496, "J\u030c"), (912, "\u0399\u0308\u0301"),
  (944, "\u03a5\u0308\u0301"), (1415, "\u0535\u0552"), (7830, "H\u0331"), (7831, "T\u0308"),
  (7832, "W\u030a"), (7833, "Y\u030a"), (7834, "A\u02be"), (8016, "\u03a5\u0313"),
  (8018, "\u03a5\u0313\u0300"), (8020, "\u03a5\u0313\u0301"), (8022, "\u03a5\u0313\u0342"), (8064, "\u1f08\u0399"),
  (8065, "\u1f09\u0399"), (8066, "\u1f0a\u0399"), (8067, "\u1f0b\u0399"), (8068, "\u1f0c\u0399"),
  (8069, "\u1f0d\u0399"), (8070, "\u1f0e\u0399"), (8071, "\u1f0f\u0399"), (8072, "\u1f08\u0399"),
  (8073, "\u1f09\u0399"), (8074, "\u1f0a\u0399"), (8075, "\u1f0b\u0399"), (8076, "\u1f0c\u0399"),
  (8077, "\u1f0d\u0399"), (8078, "\u1f0e\u0399"), (8079, "\u1f0f\u0399"), (8080, "\u1f28\u0399"),
  (8081, "\u1f29\u0399"), (8082, "\u1f2a\u0399"), (8083, "\u1f2b\u0399"), (8084, "\u1f2c\u0399"),
  (8085, "\u1f2d\u0399"), (8086, "\u1f2e\u0399"), (8087, "\u1f2f\u0399"), (8088, "\u1f28\u0399"),
  (8089, "\u1f29\u0399"), (8090, "\u1f2a\u0399"), (8091, "\u1f2b\u0399"), (8092, "\u1f2c\u0399"),
  (8093, "\u1f2d\u0399"), (8094, "\u1f2e\u0399"), (8095, "\u1f2f\u0399"), (8096, "\u1f68\u0399"),
  (8097, "\u1f69\u0399"), (8098, "\u1f6a\u0399"), (8099, "\u1f6b\u0399"), (8100, "\u1f6c\u0399"),
  (8101, "\u1f6d\u0399"), (8102, "\u1f6e\u0399"), (8103, "\u1f6f\u0399"), (8104, "\u1f68\u0399"),
  (8105, "\u1f69\u0399"), (8106, "\u1f6a\u0399"), (8107, "\u1f6b\u0399"), (8108, "\u1f6c\u0399"),
  (8109, "\u1f6d\u0399"), (8110, "\u1f6e\u0399"), (8111, "\u1f6f\u0399"), (8114, "\u1fba\u0399"),
  (8115, "\u0391\u0399"), (8116, "\u0386\u0399"), (8118, "\u0391\u0342"), (8119, "\u0391\u0342\u0399"),
  (8124, "\u0391\u0399"), (8130, "\u1fca\u0399"), (8131, "\u0397\u0399"), (8132, "\u0389\u0399"),
  (8134, "\u0397\u0342"), (8135, "\u0397\u0342\u0399"), (8140, "\u0397\u0399"), (8146, "\u0399\u0308\u0300"),
  (8147, "\u0399\u0308\u0301"), (8150, "\u0399\u0342"), (8151, "\u0399\u0308\u0342"), (8162, "\u03a5\u0308\u0300"),
  (8163, "\u03a5\u0308\u0301"), (8164, "\u03a1\u0313"), (8166, "\u03a5\u0342"), (8167, "\u03a5\u0308\u0342"),
  (8178, "\u1ffa\u0399"), (8179, "\u03a9\u0399"), (8180, "\u038f\u0399"), (8182, "\u03a9\u0342"),
  (8183, "\u03a9\u0342\u0399"), (8188, "\u03a9\u0399"), (64256, "FF"), (64257, "FI"),
  (64258, "FL"), (64259, "FFI"), (64260, "FFL"), (64261, "ST"),
  (64262, "ST"), (64275, "\u0544\u0546"), (64276, "\u0544\u0535"), (64277, "\u0544\u053b"),
  (64278, "\u054e\u0546"), (64279, "\u0544\u053d")]

/-- The simple lower case of a character. -/
def lowerChar (c : Char) : Char :=
  if c.toNat < 128 then c.toLower else mapByTable lowerTable c

/-- The simple upper case of a character. -/
def upperChar (c : Char) : Char :=
  if c.toNat < 128 then c.toUpper else mapByTable upperTable c

/-- The full lower case of a character: its simple lower case, except that capital I with
a dot above becomes `i` and a combining dot. -/
def lowerFull (c : Char) : List Char :=
  if c.toNat == 0x130 then ['i', Char.ofNat 0x307] else [lowerChar c]

/-- The full upper case of a character. -/
def upperFull (c : Char) : List Char :=
  if c.toNat < 128 then [c.toUpper]
  else match fullUpperTable.find? (·.1 == c.toNat) with
    | some (_, s) => s.toList
    | none => [upperChar c]

/-- A text in lower case, character by character. -/
def lower (s : String) : String := String.ofList (s.toList.flatMap lowerFull)

/-- A text in upper case, character by character. -/
def upper (s : String) : String := String.ofList (s.toList.flatMap upperFull)

/-- The words of a text: the runs of characters between blanks. -/
def fields (s : String) : List String :=
  go s.toList [] []
where
  /-- Reads on with the current word `cur` (reversed) and the words found `acc` (reversed). -/
  go : List Char → List Char → List String → List String
    | [], cur, acc => (push cur acc).reverse
    | c :: cs, cur, acc => if isBlank c then go cs [] (push cur acc) else go cs (c :: cur) acc
  /-- Adds a finished word, if it is not empty. -/
  push (cur : List Char) (acc : List String) : List String :=
    if cur.isEmpty then acc else String.ofList cur.reverse :: acc

/-- A text with blanks trimmed from both ends. -/
def trimBlank (s : String) : String :=
  String.ofList (((s.toList.dropWhile isBlank).reverse.dropWhile isBlank).reverse)

/-- Whether `part` occurs in `s`; the empty text occurs in every text. -/
def hasPart (s part : String) : Bool :=
  go s.toList
where
  /-- Whether `part` starts at some place of `cs`. -/
  go : List Char → Bool
    | [] => part.isEmpty
    | c :: cs => part.toList.isPrefixOf (c :: cs) || go cs

/-- Replaces each occurrence of the characters `pat` in a list of characters by `rep`, from
left to right and without overlaps; an empty `pat` changes nothing. -/
def replaceList (pat rep : List Char) : List Char → List Char
  | [] => []
  | c :: cs =>
    if _h : pat ≠ [] ∧ pat.isPrefixOf (c :: cs) = true then
      rep ++ replaceList pat rep ((c :: cs).drop pat.length)
    else c :: replaceList pat rep cs
termination_by l => l.length
decreasing_by
  · have : 0 < pat.length := List.length_pos_iff.mpr _h.1
    simp only [List.length_drop, List.length_cons]
    omega
  · simp

/-- A text with each occurrence of `part` replaced by `new`, from left to right and without
overlaps, as text replacement does. -/
def replaceAll (s part new : String) : String :=
  String.ofList (replaceList part.toList new.toList s.toList)

/-- A text with its first character in upper case and the others in lower case. -/
def capitalize (s : String) : String :=
  match s.toList with
  | [] => ""
  | c :: cs => String.ofList (upperFull c) ++ lower (String.ofList cs)

/-- Whether a character ends a line: line feed, carriage return, vertical tab, form feed,
the file, group and record separators, next line, and the line and paragraph separators. -/
def isLineBreak (c : Char) : Bool :=
  c == '\n' || c == '\r' || c == '\x0b' || c == '\x0c' || c == '\x1c' || c == '\x1d' ||
    c == '\x1e' || c == '\x85' || c == '\u2028' || c == '\u2029'

/-- The lines of a text without their ends. A carriage return before a line feed ends one
line with it, and an end at the end of the text starts no further line. -/
def splitLines (s : String) : List String :=
  go s.toList []
where
  /-- Reads on with the current line `cur`, reversed. -/
  go : List Char → List Char → List String
    | [], [] => []
    | [], cur => [String.ofList cur.reverse]
    | '\r' :: '\n' :: cs, cur => String.ofList cur.reverse :: go cs []
    | c :: cs, cur => if isLineBreak c then String.ofList cur.reverse :: go cs [] else go cs (c :: cur)

end Scripture.Text
