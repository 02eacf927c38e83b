import Mathlib
import Scripture.Proofs.CombinedForm
import Scripture.Proofs.NodeLanguages
import Scripture.Proofs.Replacing
import Scripture.Proofs.SitePatterns
import Scripture.Search.Terms

/-!
# The fixed patterns of a search, on plain words

Before it builds the pattern of a phrase, a search cleans its terms with `notTermChar`, marks
tags with `morphTag` and Strong's numbers with `strongsNumber`, and wraps each word, found with
`searchWord`, in word bounds. Each of these patterns is read here into its node
(`Regex.read_altText`), and followed through the matcher on words of word characters joined by
blanks.

* `notTermChar_keeps` — cleaning keeps word characters and blanks.
* `morphTag_matchAt_none`, `strongsNumber_matchAt_none` — text with no parenthesis or brace holds
  no tag, and text with no digit holds no Strong's number.
* `cleanText_word`, `markTerms_word` — a word of word characters is neither cleaned nor marked.
* `searchWord_matchAt` — at the start of a run of word characters the search word pattern
  matches the whole run; `searchWord_replaceBy` replaces the words one after another.
* `fields_joined`, `any_blank_joined` — words joined by blanks read back as the words, and hold a
  blank exactly when there are two of them.
-/

namespace Scripture.Pattern

/-- A fixed pattern written as well-formed branches is read into their node. -/
theorem fixed_altText {bs : List (List Part)} (hne : bs ≠ []) (hwf : altWf bs = true)
    (hlast : (altText bs).getLast? ≠ some '\\') {flags : Flags} (hv : flags.verbose = false) :
    fixed (String.ofList (altText bs)) flags =
      ⟨String.ofList (altText bs), altNode (altNodes flags 1 bs).1, (altNodes flags 1 bs).2, [],
        flags.ignoreCase⟩ := by
  rw [fixed, Regex.read_altText hne hwf hlast hv]

end Scripture.Pattern

namespace Scripture.Search

open Pattern

/-! ### The patterns, read -/

section Read

/-- The class of characters a search word is made of: word characters, backslashes and hyphens. -/
def wordClass : Node := .set false [.category .word, .char '\\', .char '-'] ⟨false, false⟩

/-- `\b([\w\\-]+)\b`, a search word. -/
def searchWordParts : List (List Part) :=
  [[.esc 'b', .group true [[.rep (.cls false [⟨'w', true⟩, ⟨'\\', true⟩] true) .plus false]], .esc 'b']]

/-- `\s+`, a run of blanks. -/
def blankRunParts : List (List Part) := [[.rep (.esc 's') .plus false]]

/-- `[^\w\*<>\{\}\(\)-]`, a character that is not part of a term. -/
def notTermParts : List (List Part) :=
  [[.cls true [⟨'w', true⟩, ⟨'*', true⟩, ⟨'<', false⟩, ⟨'>', false⟩, ⟨'\x7b', true⟩, ⟨'\x7d', true⟩,
    ⟨'(', true⟩, ⟨')', true⟩] true]]

/-- `[\(\{](\b[\w-]+\b)[\}\)]`, a morphological tag. -/
def morphTagParts : List (List Part) :=
  [[.cls false [⟨'(', true⟩, ⟨'\x7b', true⟩] false,
    .group true [[.esc 'b', .rep (.cls false [⟨'w', true⟩] true) .plus false, .esc 'b']],
    .cls false [⟨'\x7d', true⟩, ⟨')', true⟩] false]]

/-- `[<]?(\b[GH]\d+\b)[>]?`, a Strong's number. -/
def strongsParts : List (List Part) :=
  [[.rep (.cls false [⟨'<', false⟩] false) .opt false,
    .group true [[.esc 'b', .cls false [⟨'G', false⟩, ⟨'H', false⟩] false, .rep (.esc 'd') .plus false,
      .esc 'b']],
    .rep (.cls false [⟨'>', false⟩] false) .opt false]]

theorem searchWord_node : searchWord.node = .seq [.anchor .boundary false false,
    .group 1 (.rep wordClass 1 none .greedy), .anchor .boundary false false] ∧
    searchWord.groups = 2 ∧ searchWord.names = [] := by
  rw [show searchWord = fixed (String.ofList (altText searchWordParts)) {} by rw [searchWord]; congr 1,
    fixed_altText (by simp [searchWordParts]) (by simp [searchWordParts, altWf, seqWf, Part.wf,
      isEscChar, Part.repeatable, Tok.isClassUnit, isAsciiLetter, isDec]) (by decide) rfl]
  simp [searchWordParts, altNodes, seqNodes, Part.node, altNode, seqNode, escNode, classNode,
    classItems, Tok.classItem, categoryEscape?, Flags.classMode, greedOf, Quant.lo, Quant.hi, wordClass]
  decide

theorem notTermChar_node : notTermChar.node = .set true [.category .word, .char '*', .char '<',
    .char '>', .char '\x7b', .char '\x7d', .char '(', .char ')', .char '-'] ⟨false, false⟩ ∧
    notTermChar.groups = 1 := by
  rw [show notTermChar = fixed (String.ofList (altText notTermParts)) {} by rw [notTermChar]; congr 1,
    fixed_altText (by simp [notTermParts]) (by simp [notTermParts, altWf, seqWf, Part.wf,
      Tok.isClassUnit, isAsciiLetter, isDec]) (by decide) rfl]
  simp [notTermParts, altNodes, seqNodes, Part.node, altNode, seqNode, classNode, classItems,
    Tok.classItem, categoryEscape?, Flags.classMode]
  decide

theorem blankRun_node :
    blankRun.node = .rep (.set false [.category .space] ⟨false, false⟩) 1 none .greedy := by
  rw [show blankRun = fixed (String.ofList (altText blankRunParts)) {} by rw [blankRun]; congr 1,
    fixed_altText (by simp [blankRunParts]) (by simp [blankRunParts, altWf, seqWf, Part.wf,
      isEscChar, Part.repeatable]) (by decide) rfl]
  simp [blankRunParts, altNodes, seqNodes, Part.node, altNode, seqNode, escNode, categoryEscape?,
    Flags.classMode, greedOf, Quant.lo, Quant.hi]

theorem morphTag_node : morphTag.node = .seq [.set false [.char '(', .char '\x7b'] ⟨false, false⟩,
    .group 1 (.seq [.anchor .boundary false false,
      .rep (.set false [.category .word, .char '-'] ⟨false, false⟩) 1 none .greedy,
      .anchor .boundary false false]),
    .set false [.char '\x7d', .char ')'] ⟨false, false⟩] := by
  rw [show morphTag = fixed (String.ofList (altText morphTagParts)) { ignoreCase := true } by
      rw [morphTag]; congr 1,
    fixed_altText (by simp [morphTagParts]) (by simp [morphTagParts, altWf, seqWf, Part.wf,
      Tok.isClassUnit, isAsciiLetter, isDec, isEscChar, Part.repeatable]) (by decide) rfl]
  simp [morphTagParts, altNodes, seqNodes, Part.node, altNode, seqNode, classNode, classItems,
    Tok.classItem, categoryEscape?, Flags.classMode, escNode, greedOf, Quant.lo, Quant.hi]
  -- what is left says that parentheses, braces and hyphens have no case
  decide +kernel

theorem strongsNumber_node : strongsNumber.node = .seq [
    .rep (.set false [.char '<'] ⟨false, false⟩) 0 (some 1) .greedy,
    .group 1 (.seq [.anchor .boundary false false, .set false [.char 'G', .char 'H'] ⟨true, false⟩,
      .rep (.set false [.category .digit] ⟨false, false⟩) 1 none .greedy,
      .anchor .boundary false false]),
    .rep (.set false [.char '>'] ⟨false, false⟩) 0 (some 1) .greedy] := by
  rw [show strongsNumber = fixed (String.ofList (altText strongsParts)) { ignoreCase := true } by
      rw [strongsNumber]; congr 1,
    fixed_altText (by simp [strongsParts]) (by simp [strongsParts, altWf, seqWf, Part.wf,
      Tok.isClassUnit, isAsciiLetter, isDec, isEscChar, Part.repeatable]) (by decide) rfl]
  simp [strongsParts, altNodes, seqNodes, Part.node, altNode, seqNode, classNode, classItems,
    Tok.classItem, categoryEscape?, Flags.classMode, escNode, greedOf, Quant.lo, Quant.hi]
  -- what is left says that `G` and `H` have a case and angle brackets none
  decide +kernel

end Read

/-! ### Words joined by blanks -/

section Joined

theorem flatMap_intercalate {α β : Type} (g : α → List β) (sep : List α) :
    ∀ L : List (List α), (sep.intercalate L).flatMap g = (sep.flatMap g).intercalate (L.map (·.flatMap g))
  | [] => rfl
  | [a] => by simp
  | a :: b :: L => by
    rw [List.intercalate_cons_cons, List.map_cons, List.map_cons, List.intercalate_cons_cons,
      List.flatMap_append, List.flatMap_append, ← List.map_cons, flatMap_intercalate g sep (b :: L)]

theorem intercalate_ofList (Ls : List (List Char)) :
    " ".intercalate (Ls.map String.ofList) = String.ofList ([' '].intercalate Ls) := by
  apply String.toList_inj.mp
  simp [Function.comp_def]

theorem length_le_intercalate : ∀ Ls : List (List Char), Ls.length ≤ ([' '].intercalate Ls).length + 1
  | [] => by simp
  | [L] => by simp
  | L :: M :: Ls => by
    have := length_le_intercalate (M :: Ls)
    simp [List.intercalate_cons_cons] at this ⊢
    omega

/-- Words without blanks joined by blanks read back as those words. -/
theorem fields_joined : ∀ {Ls : List (List Char)}, Ls ≠ [] →
    (∀ L ∈ Ls, L ≠ [] ∧ ∀ c ∈ L, Text.isBlank c = false) →
    Text.fields (String.ofList ([' '].intercalate Ls)) = Ls.map String.ofList
  | [L], _, h => by
    rw [List.intercalate_singleton, List.map_singleton]
    exact Text.fields_word (by simpa using (h L (by simp)).1) (by simpa using (h L (by simp)).2)
  | L :: M :: Ls, _, h => by
    have hsplit : String.ofList ([' '].intercalate (L :: M :: Ls)) =
        String.ofList L ++ (" " ++ String.ofList ([' '].intercalate (M :: Ls))) := by
      apply String.toList_inj.mp
      simp [List.intercalate_cons_cons]
    have hspace : ∀ ch ∈ (" " ++ String.ofList ([' '].intercalate (M :: Ls))).toList.head?,
        Text.isBlank ch = true := by
      intro ch hch
      simp only [String.toList_append, List.head?_append] at hch
      cases hch
      decide
    rw [hsplit, Text.fields_append_of_blank _ _ hspace,
      Text.fields_word (by simpa using (h L (by simp)).1) (by simpa using (h L (by simp)).2),
      Text.fields_space, fields_joined (List.cons_ne_nil M Ls) fun K hK => h K (by simp [hK]),
      List.map_cons]
    rfl

/-- Words without blanks joined by blanks hold a blank exactly when there are two of them. -/
theorem any_blank_joined : ∀ {Ls : List (List Char)}, Ls ≠ [] →
    (∀ L ∈ Ls, ∀ c ∈ L, Text.isBlank c = false) →
    (String.ofList ([' '].intercalate Ls)).any Text.isBlank = decide (2 ≤ Ls.length)
  | [L], _, h => by
    rw [String.any, String.contains_bool_eq, String.toList_ofList, List.intercalate_singleton]
    simpa using fun c hc => h L (by simp) c hc
  | L :: M :: Ls, _, h => by
    rw [String.any, String.contains_bool_eq, String.toList_ofList, List.intercalate_cons_cons]
    simp [show Text.isBlank ' ' = true by decide]

/-- What holds of a character of a text holds of a character of the list it was written from. -/
theorem any_at_mem {X : List Char} {k : Nat} {p : Char → Bool}
    (h : ((String.ofList X).toList.toArray[k]?).any p = true) : ∃ c ∈ X, p c = true := by
  rw [String.toList_ofList, List.getElem?_toArray] at h
  cases hk : X[k]? with
  | none => rw [hk] at h; cases h
  | some c =>
    rw [hk, Option.any_some] at h
    exact ⟨c, List.mem_of_getElem? hk, h⟩

end Joined

/-! ### Cleaning, tags and Strong's numbers -/

/-- Cleaning keeps word characters and blanks. -/
theorem notTermChar_keeps {X : List Char} (hX : ∀ c ∈ X, Text.isWordChar c = true ∨ c = ' ') :
    (notTermChar.replaceBy (String.ofList X) fun _ => " ").1 = String.ofList X := by
  obtain ⟨hnode, hgroups⟩ := notTermChar_node
  have hkeep : (X.flatMap fun c => if unitHolds c notTermChar.node then [' '] else [c]) = X := by
    conv_rhs => rw [← List.flatMap_singleton' X]
    refine List.flatMap_congr fun c hc => ?_
    rcases hX c hc with hw | rfl
    · rw [if_neg]
      rw [hnode]
      simp [unitHolds, itemHolds, categoryHolds, hw]
    · split <;> rfl
  rw [Regex.replaceBy_unit (by rw [hnode]; rfl) (by omega)]
  simp only [String.toList_ofList]
  exact congrArg String.ofList hkeep

/-- A tag starts with a parenthesis or a brace, so text with neither holds no tag at any place. -/
theorem morphTag_matchAt_none {X : List Char} (hX : ∀ c ∈ X, c ≠ '(' ∧ c ≠ '\x7b') (k : Nat) :
    morphTag.matchAt (String.ofList X).toList.toArray k = none := by
  refine Regex.matchAt_eq_none (by rw [morphTag_node]; rfl) fun s hs => ?_
  rw [morphTag_node] at hs
  obtain ⟨_, -, hs⟩ := hs.seq_inv
  obtain ⟨_, _, -, h₁, -⟩ := hs.cons_inv
  obtain ⟨c, hc, hp⟩ := any_at_mem (h₁.unit_inv rfl).1
  obtain ⟨h₁, h₂⟩ := hX c hc
  simp [unitHolds, itemHolds, charHolds] at hp
  rcases hp with rfl | rfl
  exacts [h₁ rfl, h₂ rfl]

theorem morphTag_replaceBy {X : List Char} (hX : ∀ c ∈ X, c ≠ '(' ∧ c ≠ '\x7b') (f : Match → String) :
    morphTag.replaceBy (String.ofList X) f = (String.ofList X, 0) :=
  Regex.replaceBy_of_none fun k _ => morphTag_matchAt_none hX k

/-- A Strong's number holds a digit, so text with none holds no Strong's number at any place. -/
theorem strongsNumber_matchAt_none {X : List Char} (hX : ∀ c ∈ X, Text.isDigit c = false) (k : Nat) :
    strongsNumber.matchAt (String.ofList X).toList.toArray k = none := by
  refine Regex.matchAt_eq_none (by rw [strongsNumber_node]; rfl) fun s hs => ?_
  rw [strongsNumber_node] at hs
  -- down the sequence and the group to the run of digits
  obtain ⟨_, -, hs⟩ := hs.seq_inv
  obtain ⟨_, _, -, -, hs⟩ := hs.cons_inv
  obtain ⟨_, _, -, hg, -⟩ := hs.cons_inv
  obtain ⟨_, _, -, hg, -⟩ := hg.group_inv
  obtain ⟨_, -, hg⟩ := hg.seq_inv
  obtain ⟨_, _, -, -, hg⟩ := hg.cons_inv
  obtain ⟨_, _, -, -, hg⟩ := hg.cons_inv
  obtain ⟨_, _, -, hd, -⟩ := hg.cons_inv
  obtain ⟨c, hc₁, hc, -⟩ := hd.repUnit_inv rfl
  obtain ⟨x, hx, hp⟩ := any_at_mem (unitRun_holds (Nat.lt_of_lt_of_le hc₁ hc))
  simp [unitHolds, itemHolds, categoryHolds, hX x hx] at hp

theorem strongsNumber_replaceBy {X : List Char} (hX : ∀ c ∈ X, Text.isDigit c = false)
    (f : Match → String) : strongsNumber.replaceBy (String.ofList X) f = (String.ofList X, 0) :=
  Regex.replaceBy_of_none fun k _ => strongsNumber_matchAt_none hX k

theorem strongsNumber_test {X : List Char} (hX : ∀ c ∈ X, Text.isDigit c = false) :
    strongsNumber.test (String.ofList X) = false :=
  Regex.test_eq_false fun k _ => strongsNumber_matchAt_none hX k

theorem morphTag_test {X : List Char} (hX : ∀ c ∈ X, c ≠ '(' ∧ c ≠ '\x7b') :
    morphTag.test (String.ofList X) = false :=
  Regex.test_eq_false fun k _ => morphTag_matchAt_none hX k

/-- A run of blanks starts with a blank, so text with none holds no run of blanks at any place. -/
theorem blankRun_matchAt_none {X : List Char} (hX : ∀ c ∈ X, Text.isBlank c = false) (k : Nat) :
    blankRun.matchAt (String.ofList X).toList.toArray k = none := by
  refine Regex.matchAt_eq_none (by rw [blankRun_node]; rfl) fun s hs => ?_
  rw [blankRun_node] at hs
  obtain ⟨c, hc₁, hc, -⟩ := hs.repUnit_inv rfl
  obtain ⟨x, hx, hp⟩ := any_at_mem (unitRun_holds (Nat.lt_of_lt_of_le hc₁ hc))
  simp [unitHolds, itemHolds, categoryHolds, hX x hx] at hp

/-- Cleaning a word of word characters leaves it as it is: nothing is replaced, no blank is run
together and none is trimmed. -/
theorem cleanText_word {X : List Char}
    (hX : ∀ c ∈ X, Text.isWordChar c = true ∧ Text.isBlank c = false) :
    cleanText (String.ofList X) = String.ofList X := by
  have hkeep := notTermChar_keeps (X := X) fun c hc => .inl (hX c hc).1
  have hrun : blankRun.replaceBy (String.ofList X) (fun _ => " ") = (String.ofList X, 0) :=
    Regex.replaceBy_of_none fun k _ => blankRun_matchAt_none (fun c hc => (hX c hc).2) k
  have htrim : ∀ Y : List Char, (∀ c ∈ Y, Text.isBlank c = false) → Y.dropWhile Text.isBlank = Y
    | [], _ => rfl
    | c :: _, hY => by simp [hY c List.mem_cons_self]
  simp only [cleanText, hkeep, hrun, Text.trimBlank, String.toList_ofList,
    htrim X fun c hc => (hX c hc).2,
    htrim X.reverse fun c hc => (hX c (List.mem_reverse.mp hc)).2, List.reverse_reverse]

/-- Marking a word with no digit, parenthesis or brace leaves it as it is. -/
theorem markTerms_word {X : List Char}
    (hX : ∀ c ∈ X, Text.isDigit c = false ∧ c ≠ '(' ∧ c ≠ '\x7b') :
    markTerms (String.ofList X) = String.ofList X := by
  rw [markTerms, strongsNumber_replaceBy fun c hc => (hX c hc).1, morphTag_replaceBy fun c hc => (hX c hc).2]

/-! ### Word edges -/

/-- Whether the character at place `i` of a text is a word character. -/
def wordCharAt (t : Array Char) (i : Nat) : Bool := (t[i]?).any Text.isWordChar

/-- A word edge: a word character on one side of place `i` and none on the other. -/
def wordEdge (t : Array Char) (i : Nat) : Bool :=
  (decide (0 < i) && wordCharAt t (i - 1)) != wordCharAt t i

/-- `\b` tests for a word edge. -/
theorem anchorHolds_boundary (t : Array Char) (i : Nat) :
    anchorHolds t .boundary false false i = wordEdge t i := by
  have hw : ∀ k, wordAt t false k = wordCharAt t k := by
    intro k
    unfold wordAt wordCharAt
    cases t[k]? <;> simp [categoryHolds]
  by_cases h0 : t.size = 0
  · have hnone : ∀ k, wordCharAt t k = false := fun k => by
      simp [wordCharAt, getElem?_neg t k (by omega)]
    simp [anchorHolds, wordEdge, h0, hnone]
  · simp [anchorHolds, wordEdge, hw, h0]

section Split

variable {pre L tail : List Char}

theorem wordCharAt_split (k : Nat) (hk : k < L.length) :
    wordCharAt (pre ++ L ++ tail).toArray (pre.length + k) = Text.isWordChar L[k] := by
  simp [wordCharAt, List.getElem?_append_right, List.getElem?_append_left hk,
    List.getElem?_eq_getElem hk]

theorem wordCharAt_before (hpre : ∀ c ∈ pre.getLast?, Text.isWordChar c = false) :
    (decide (0 < pre.length) && wordCharAt (pre ++ L ++ tail).toArray (pre.length - 1)) = false := by
  rcases List.eq_nil_or_concat pre with rfl | ⟨pre', c, rfl⟩
  · simp
  · simp [wordCharAt, hpre c (by simp)]

theorem wordCharAt_after (htail : ∀ c ∈ tail.head?, Text.isWordChar c = false) :
    wordCharAt (pre ++ L ++ tail).toArray (pre.length + L.length) = false := by
  cases tail with
  | nil => simp [wordCharAt]
  | cons c tail => simp [wordCharAt, htail c (by simp)]

end Split

/-! ### Search words -/

theorem unitHolds_wordClass_of_word {x : Char} (hx : Text.isWordChar x = true) :
    unitHolds x wordClass = true := by
  simp [wordClass, unitHolds, itemHolds, categoryHolds, hx]

theorem unitHolds_wordClass_space : unitHolds ' ' wordClass = false := by
  decide

/-- The text of the first group of a match is the text of the span it records. -/
theorem Match.group_one_set {cs : Array Char} {caps : Array (Option (Nat × Nat))} (h : 1 < caps.size)
    (a b : Nat) (y : Option (Nat × Nat)) :
    (Match.mk cs ((caps.set! 1 (some (a, b))).set! 0 y)).group 1 = String.ofList (cs.extract a b).toList := by
  simp [Match.group, Match.group?, Match.span?, Array.set!, h]

theorem extract_split (pre L tail : List Char) :
    ((pre ++ L ++ tail).toArray.extract pre.length (pre.length + L.length)).toList = L := by
  simp [List.extract_eq_take_drop]

section Split

variable {pre L tail : List Char}

/-- **A search word is matched whole.** At the start of a run of word characters between
characters that are not word characters, the search word pattern matches the run and records it
as its first group. -/
theorem searchWord_matchAt (hpre : ∀ c ∈ pre.getLast?, Text.isWordChar c = false) (hL : L ≠ [])
    (hLw : ∀ c ∈ L, Text.isWordChar c = true) (htail : ∀ c ∈ tail.head?, c = ' ') :
    searchWord.matchAt (pre ++ L ++ tail).toArray pre.length = some ⟨(pre ++ L ++ tail).toArray,
      ((Array.replicate searchWord.groups none).set! 1 (some (pre.length, pre.length + L.length))).set! 0
        (some (pre.length, pre.length + L.length))⟩ := by
  obtain ⟨hnode, -⟩ := searchWord_node
  have htail' : ∀ c ∈ tail.head?, Text.isWordChar c = false := fun c hc => by
    rw [htail c hc]; decide
  have hLpos : 0 < L.length := List.length_pos_iff.mpr hL
  have hstart : anchorHolds (pre ++ L ++ tail).toArray .boundary false false pre.length := by
    rw [anchorHolds_boundary, wordEdge, wordCharAt_before hpre,
      show pre.length = pre.length + 0 from rfl, wordCharAt_split 0 hLpos, hLw _ (List.getElem_mem _)]
    rfl
  have hend : anchorHolds (pre ++ L ++ tail).toArray .boundary false false (pre.length + L.length) := by
    rw [anchorHolds_boundary, wordEdge, wordCharAt_after htail',
      show pre.length + L.length - 1 = pre.length + (L.length - 1) by omega,
      wordCharAt_split _ (by omega), hLw _ (List.getElem_mem _)]
    simp; omega
  have hinside : ∀ k, 0 < k → k < L.length →
      anchorHolds (pre ++ L ++ tail).toArray .boundary false false (pre.length + k) = false := by
    intro k hk0 hk
    rw [anchorHolds_boundary, wordEdge, show pre.length + k - 1 = pre.length + (k - 1) by omega,
      wordCharAt_split _ (by omega), wordCharAt_split _ hk, hLw _ (List.getElem_mem _),
      hLw _ (List.getElem_mem _)]
    simp; omega
  have hrun : unitRun (pre ++ L ++ tail).toArray wordClass pre.length
      (unitLimit (pre ++ L ++ tail).toArray none pre.length) = L.length :=
    unitRun_split pre L tail rfl rfl (by simp [unitLimit])
      (fun c hc => unitHolds_wordClass_of_word (hLw c hc))
      fun _ c hc => by rw [htail c hc]; exact unitHolds_wordClass_space
  refine Regex.matchAt_of_reaches_unique (by rw [hnode]; rfl) (s := ⟨pre.length + L.length,
    (Array.replicate searchWord.groups none).set! 1 (some (pre.length, pre.length + L.length))⟩) ?_ ?_
  · rw [hnode]
    refine Reaches.mono (f := 5) ?_ (by unfold Regex.fuelFor; omega)
    exact .seq (.cons (.anchor hstart) (.cons (.group (.repUnit rfl hLpos (le_of_eq hrun.symm)
      fun h => by cases h)) (.cons (.anchor hend) .nil)))
  · intro s' h
    rw [hnode] at h
    obtain ⟨_, -, h⟩ := h.seq_inv
    obtain ⟨_, _, -, h₁, h⟩ := h.cons_inv
    obtain ⟨-, rfl⟩ := h₁.anchor_inv
    obtain ⟨_, _, -, h₂, h⟩ := h.cons_inv
    obtain ⟨_, _, -, h₃, rfl⟩ := h₂.group_inv
    obtain ⟨c, hc₁, hc, rfl⟩ := h₃.repUnit_inv rfl
    obtain ⟨_, _, -, h₄, h⟩ := h.cons_inv
    obtain ⟨hb, rfl⟩ := h₄.anchor_inv
    rw [h.nil_inv]
    -- the run ends at the first edge, the end of the word
    have hcL : c = L.length := by
      simp only [hrun] at hc
      by_contra hne
      have := hinside c (by omega) (by omega)
      simp_all
    subst hcL
    rfl

end Split

/-- No search word starts at a blank or at the end of the text. -/
theorem searchWord_matchAt_none {t : Array Char} {q : Nat} (hq : ∀ c ∈ t[q]?, c = ' ') :
    searchWord.matchAt t q = none := by
  obtain ⟨hnode, -⟩ := searchWord_node
  refine Regex.matchAt_eq_none (by rw [hnode]; rfl) fun s h => ?_
  rw [hnode] at h
  obtain ⟨_, -, h⟩ := h.seq_inv
  obtain ⟨_, _, -, h₁, h⟩ := h.cons_inv
  obtain ⟨-, rfl⟩ := h₁.anchor_inv
  obtain ⟨_, _, -, h₂, -⟩ := h.cons_inv
  obtain ⟨_, _, -, h₃, -⟩ := h₂.group_inv
  obtain ⟨c, hc₁, hc, -⟩ := h₃.repUnit_inv rfl
  have hfirst := unitRun_holds (Nat.lt_of_lt_of_le hc₁ hc)
  simp only [Nat.add_zero] at hfirst
  cases ht : t[q]? with
  | none => simp [ht] at hfirst
  | some x =>
    rw [ht, hq x ht, Option.any_some, unitHolds_wordClass_space] at hfirst
    cases hfirst

/-- Replacing the search words of words joined by blanks replaces each word by what its text
gives, one word after another; `pre` is the text already walked, which ends with a blank. -/
theorem searchWord_replaced {g : String → String} {f : Match → String} (hf : ∀ m, f m = g (m.group 1)) :
    ∀ (rest : List (List Char)) (pre : List Char) (F : Nat), rest ≠ [] →
      (∀ L ∈ rest, L ≠ [] ∧ ∀ c ∈ L, Text.isWordChar c = true) → (∀ c ∈ pre.getLast?, c = ' ') →
      rest.length < F →
      searchWord.replaced (pre ++ [' '].intercalate rest).toArray f F pre.length false =
        ([' '].intercalate (rest.map fun L => (g (String.ofList L)).toList), rest.length)
  | [], _, _, h, _, _, _ => absurd rfl h
  | L :: rest, pre, F, _, hw, hpre, hF => by
    obtain ⟨F, rfl⟩ : ∃ F', F = F' + 1 := ⟨F - 1, by simp at hF; omega⟩
    obtain ⟨hL, hLw⟩ := hw L List.mem_cons_self
    have hpre' : ∀ c ∈ pre.getLast?, Text.isWordChar c = false := fun c hc => by
      rw [hpre c hc]; decide
    have hstart : ∀ q m, searchWord.matchAt (pre ++ [' '].intercalate (L :: rest)).toArray q = some m →
        m.start = q := fun q m hm =>
      Regex.matchAt_start (by rw [searchWord_node.1]; rfl) (by rw [searchWord_node.2.1]; omega) hm
    have hsize : 0 < ((Array.replicate searchWord.groups (none : Option (Nat × Nat))).set! 1
        (some (pre.length, pre.length + L.length))).size := by
      simp [searchWord_node.2.1]
    cases rest with
    | nil =>
      -- the last word: replaced, and nothing matches at the end
      have hm := @searchWord_matchAt pre L [] hpre' hL hLw (by simp)
      simp only [List.append_nil] at hm
      rw [List.intercalate_singleton, Regex.replaced_take (by simp) hm (Match.start_set hsize _ _),
        Match.start_set hsize, Match.stop_set hsize, hf,
        Match.group_one_set (by simp [searchWord_node.2.1]), ← List.append_nil (pre ++ L),
        extract_split, List.append_nil, show (pre.length == pre.length + L.length) = false by simp; omega]
      dsimp only
      rw [Regex.replaced_of_none fun k hk hks => searchWord_matchAt_none (by
        rw [getElem?_neg _ _ (by simp at hk hks ⊢; omega)]; simp)]
      simp
    | cons M rest =>
      -- a word and the blank after it, then the other words
      have htext : pre ++ [' '].intercalate (L :: M :: rest) =
          pre ++ L ++ ' ' :: [' '].intercalate (M :: rest) := by
        simp [List.intercalate_cons_cons]
      have htext' : pre ++ [' '].intercalate (L :: M :: rest) =
          (pre ++ L ++ [' ']) ++ [' '].intercalate (M :: rest) := by
        simp [List.intercalate_cons_cons]
      have hm := @searchWord_matchAt pre L (' ' :: [' '].intercalate (M :: rest)) hpre' hL hLw (by simp)
      rw [← htext] at hm
      have hspace : searchWord.matchAt (pre ++ [' '].intercalate (L :: M :: rest)).toArray
          (pre.length + L.length) = none :=
        searchWord_matchAt_none (by rw [htext]; simp)
      obtain ⟨F, rfl⟩ : ∃ F', F = F' + 1 := ⟨F - 1, by simp at hF; omega⟩
      have hih := searchWord_replaced hf (M :: rest) (pre ++ L ++ [' ']) (F + 1) (List.cons_ne_nil _ _)
        (fun K hK => hw K (List.mem_cons_of_mem _ hK)) (by simp) (by simp at hF ⊢; omega)
      rw [← htext'] at hih
      rw [Regex.replaced_take (by simp) hm (Match.start_set hsize _ _), Match.start_set hsize,
        Match.stop_set hsize, hf, Match.group_one_set (by simp [searchWord_node.2.1]), htext,
        extract_split, ← htext, show (pre.length == pre.length + L.length) = false by simp; omega]
      dsimp only
      rw [Regex.replaced_skip hstart (by rw [htext]; simp) hspace]
      dsimp only
      rw [show pre.length + L.length + 1 = (pre ++ L ++ [' ']).length by simp; omega, hih]
      simp [List.intercalate_cons_cons]

/-- **Search words are replaced one by one.** In words of word characters joined by blanks,
replacing each search word by what its text gives replaces each word. -/
theorem searchWord_replaceBy {g : String → String} {f : Match → String} (hf : ∀ m, f m = g (m.group 1))
    {Ls : List (List Char)} (hne : Ls ≠ []) (hw : ∀ L ∈ Ls, L ≠ [] ∧ ∀ c ∈ L, Text.isWordChar c = true) :
    searchWord.replaceBy (String.ofList ([' '].intercalate Ls)) f =
      (String.ofList ([' '].intercalate (Ls.map fun L => (g (String.ofList L)).toList)), Ls.length) := by
  have h := searchWord_replaced hf Ls [] (2 * ([' '].intercalate Ls).toArray.size + 3) hne hw (by simp)
    (by have := length_le_intercalate Ls; simp; omega)
  rw [Regex.replaceBy_eq]
  simp only [List.nil_append, List.length_nil, String.toList_ofList] at h ⊢
  rw [h]

end Scripture.Search
