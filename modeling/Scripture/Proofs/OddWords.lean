import Mathlib
import Scripture.Proofs.CombinedSearch

/-!
# The verses of an odd number of words

`Index.oddOf`, the search for verses with one of the words and not the others, toggles verses in
and out of its set: for each word it takes the symmetric difference with the verses of its own
entry and, unless case matters, first with those of its lower case and of each casing recorded
for that, one entry at a time. So a verse is given exactly when an odd number of the entries it
toggles hold it. When case matters that is an odd number of the words: a verse of exactly one
word when there are two, but with three words a verse that all three hold is given too. When
case does not matter, a word in lower case toggles its own entry twice, once as its lower case
and once as itself, so its entry cancels out: such a word finds verses only through the casings
recorded for it, and finds none when none are recorded.

* `Index.keyVerses`, `Index.casingTexts`, `Index.toggledKeys` — the sets toggled for a word.
* `Index.foldCasings_symmDiff`, `Index.oddOf_eq` — gathering toggles the keys' verses in order.
* `Index.mem_oddOf_iff` — a verse is given when an odd number of the toggled entries hold it.
* `Index.mem_oddOf_caseSensitive` — when case matters, when an odd number of the words do.
* `Index.mem_oddOf_lower` — lower-case words count only through their recorded casings.
* `Searcher.find_oddWords` — the either-or search is that search on its marked terms, whatever
  range it is given.
* `Searcher.oddWords_parity` — all of it together.
-/

namespace Scripture

namespace Index

/-- The verses a key's entry holds, as a set; none when the entry cannot be read as one. -/
def keyVerses (ix : Index) (key : String) : ValueSet :=
  match ValueSet.ofValue (ix.entry key) with
  | .ok S => S
  | .error _ => {}

/-- The casings an index records for a word in lower case, as texts. -/
def casingTexts (ix : Index) (lowered : String) : List String :=
  match ix.casings lowered with
  | .ok us => us.filterMap Json.str?
  | .error _ => []

/-- The keys whose verses the odd-word search toggles for a word, in order: unless case matters,
the word in lower case and each casing recorded for that, then the word itself. -/
def toggledKeys (ix : Index) (cs : Bool) (w : String) : List String :=
  (if cs then [] else Text.lower w :: ix.casingTexts (Text.lower w)) ++ [w]

section Lists

variable {ix : Index}

theorem Lists.ofValue_entry (hix : ix.Lists) (key : String) :
    ValueSet.ofValue (ix.entry key) = .ok (ix.keyVerses key) := by
  obtain ⟨S, hS, -⟩ := hix.entry_set key
  rw [keyVerses, hS]

theorem Lists.casings_eq (hix : ix.Lists) (lowered : String) :
    ix.casings lowered = .ok ((ix.casingTexts lowered).map .str) := by
  obtain ⟨us, hus⟩ := hix.casings_texts lowered
  rw [casingTexts, hus]
  simp [List.filterMap_map, Function.comp_def, Json.str?]

/-- **Gathering a word's verses by toggling.** In an index of lists, gathering a word's verses
with symmetric difference toggles the verses of its keys, in order. -/
theorem foldCasings_symmDiff (hix : ix.Lists) (cs : Bool) (w : String) (acc : ValueSet) :
    ix.foldCasings cs w ValueSet.symmDiff acc true =
      .ok ((ix.toggledKeys cs w).foldl (fun acc k => acc.symmDiff (ix.keyVerses k)) acc) := by
  cases cs with
  | true =>
    unfold foldCasings
    simp only [hix.ofValue_entry]
    rfl
  | false =>
    -- the loop over the recorded casings toggles the verses of each in turn
    have hloop : ∀ (us : List String) (b : ValueSet),
        forIn (us.map Json.str) b (fun u acc => do
          let e ← ix.entryOf u
          let found ← ValueSet.ofValue e
          pure (ForInStep.yield (acc.symmDiff found))) =
        (.ok (us.foldl (fun acc k => acc.symmDiff (ix.keyVerses k)) b) : Except Failure _) := by
      intro us
      induction us with
      | nil => exact fun _ => rfl
      | cons u us ih =>
        intro b
        rw [List.map_cons, List.forIn_cons, List.foldl_cons, ← ih]
        show (ValueSet.ofValue (ix.entry u) >>= _) >>= _ = _
        rw [hix.ofValue_entry]
        rfl
    unfold foldCasings
    simp only [hix.ofValue_entry, hix.casings_eq, Bool.false_eq_true, if_false, Except.ok_bind]
    rw [hloop]
    simp [toggledKeys]

/-- The odd-word search toggles the keys of all its words, word after word. -/
theorem oddOf_eq (hix : ix.Lists) (words : List String) (cs : Bool) :
    ix.oddOf words cs =
      .ok ((words.flatMap (ix.toggledKeys cs)).foldl (fun acc k => acc.symmDiff (ix.keyVerses k)) {}) := by
  have hrun : ∀ acc : ValueSet,
      words.foldlM (fun acc w => ix.foldCasings cs w ValueSet.symmDiff acc true) acc =
        .ok (words.foldl (fun acc w =>
          (ix.toggledKeys cs w).foldl (fun acc k => acc.symmDiff (ix.keyVerses k)) acc) acc) := by
    induction words with
    | nil => exact fun _ => rfl
    | cons w ws ih =>
      intro acc
      rw [List.foldlM_cons, foldCasings_symmDiff hix, Except.ok_bind, ih]
      rfl
  rw [oddOf, hrun, List.foldl_flatMap]

/-- **A verse of an odd number of entries.** In an index of lists the odd-word search succeeds,
and gives a verse exactly when an odd number of the entries it toggles hold it. -/
theorem mem_oddOf_iff (hix : ix.Lists) (words : List String) (cs : Bool) :
    ∃ R, ix.oddOf words cs = .ok R ∧ ∀ r, .str r ∈ R.items ↔
      ((words.flatMap (ix.toggledKeys cs)).countP fun k => (ix.keyVerses k).contains (.str r)) % 2 = 1 := by
  refine ⟨_, oddOf_eq hix words cs, fun r => ?_⟩
  rw [ValueSet.mem_foldl_symmDiff_str]
  rfl

/-- When case matters, a verse is given exactly when an odd number of the words hold it. -/
theorem mem_oddOf_caseSensitive (hix : ix.Lists) (words : List String) :
    ∃ R, ix.oddOf words true = .ok R ∧ ∀ r, .str r ∈ R.items ↔
      (words.countP fun w => (ix.keyVerses w).contains (.str r)) % 2 = 1 := by
  obtain ⟨R, hR, hmem⟩ := mem_oddOf_iff hix words true
  have hkeys : words.flatMap (ix.toggledKeys true) = words := by
    have hone : ix.toggledKeys true = fun w => [w] := by
      funext w
      simp [toggledKeys]
    rw [hone, List.flatMap_singleton']
  exact ⟨R, hR, fun r => by rw [hmem, hkeys]⟩

/-- **Lower-case words cancel their own entry.** When case does not matter and every word is in
lower case, each word's entry is toggled twice, so a verse is given exactly when an odd number of
the casings recorded for the words hold it. -/
theorem mem_oddOf_lower (hix : ix.Lists) (words : List String)
    (hlow : ∀ w ∈ words, Text.lower w = w) :
    ∃ R, ix.oddOf words false = .ok R ∧ ∀ r, .str r ∈ R.items ↔
      ((words.flatMap ix.casingTexts).countP fun k => (ix.keyVerses k).contains (.str r)) % 2 = 1 := by
  obtain ⟨R, hR, hmem⟩ := mem_oddOf_iff hix words false
  refine ⟨R, hR, fun r => ?_⟩
  rw [hmem, List.countP_flatMap, List.countP_flatMap]
  -- word by word, the two toggles of the word's own entry add an even count
  have hword : ∀ w ∈ words,
      (List.countP (fun k => (ix.keyVerses k).contains (.str r)) ∘ ix.toggledKeys false) w =
        (List.countP (fun k => (ix.keyVerses k).contains (.str r)) ∘ ix.casingTexts) w +
          2 * ((ix.keyVerses w).contains (.str r)).toNat := by
    intro w hw
    simp only [Function.comp_apply, toggledKeys, hlow w hw, Bool.false_eq_true, if_false,
      List.cons_append, List.countP_cons, List.countP_append]
    cases (ix.keyVerses w).contains (.str r) <;> simp
  rw [List.map_congr_left hword, List.sum_map_add, List.sum_map_mul_left, Nat.add_mul_mod_self_left]

end Lists

/-- An index of four words: `light` in Genesis 1:3, and `alpha`, `beta` and `gamma` in
Genesis 1:1, with no casings recorded. -/
def fourWords : Index :=
  ⟨"KJV", ⟨[("light", .arr [.str "Genesis 1:3"]), ("alpha", .arr [.str "Genesis 1:1"]),
    ("beta", .arr [.str "Genesis 1:1"]), ("gamma", .arr [.str "Genesis 1:1"])]⟩⟩

theorem fourWords_lists : fourWords.Lists where
  refs p hp _ := by
    simp only [fourWords, List.mem_cons, List.not_mem_nil, or_false] at hp
    rcases hp with rfl | rfl | rfl | rfl
    exacts [⟨["Genesis 1:3"], rfl⟩, ⟨["Genesis 1:1"], rfl⟩, ⟨["Genesis 1:1"], rfl⟩,
      ⟨["Genesis 1:1"], rfl⟩]
  casings p hp hl := by
    simp only [fourWords, List.mem_cons, List.not_mem_nil, or_false] at hp
    rcases hp with rfl | rfl | rfl | rfl <;> exact absurd hl (by decide)

/-- A word of plain characters is looked up in the four-word index as it is. -/
theorem fourWords_entry {w : String} (hw : w.toList.all (fun c => !Text.isBlank c && c != '<' &&
    c != '>' && c != '\x7b' && c != '\x7d') = true) :
    fourWords.entry w = fourWords.table.read w := by
  rw [entry, cleanKey_eq_self hw]

/-- The four-word index breaks the either-or rule twice. Without case, `light` finds nothing,
though its entry holds Genesis 1:3: it is toggled once as its lower case and once as itself. With
case, `alpha`, `beta` and `gamma` give Genesis 1:1, which all three hold. -/
theorem fourWords_oddOf_parity :
    (∃ R, fourWords.oddOf ["light"] false = .ok R ∧ ∀ r, .str r ∉ R.items) ∧
      fourWords.holds "light" "Genesis 1:3" ∧
      (∃ R, fourWords.oddOf ["alpha", "beta", "gamma"] true = .ok R ∧
        .str "Genesis 1:1" ∈ R.items) ∧
      ∀ w ∈ ["alpha", "beta", "gamma"], fourWords.holds w "Genesis 1:1" := by
  have hcasings : fourWords.casingTexts "light" = [] := by
    have hnone : fourWords.lowerCase = .obj [] := by
      rw [lowerCase, get, fourWords_entry (by decide)]
      rfl
    rw [casingTexts, casings, hnone]
    rfl
  have hverses : ∀ w r, w.toList.all (fun c => !Text.isBlank c && c != '<' && c != '>' &&
      c != '\x7b' && c != '\x7d') = true → fourWords.table.read w = .arr [.str r] →
      fourWords.keyVerses w = ⟨[.str r]⟩ ∧ fourWords.holds w r := by
    intro w r hw hread
    rw [keyVerses, holds, fourWords_entry hw, hread]
    exact ⟨rfl, [.str r], rfl, List.mem_singleton_self _⟩
  obtain ⟨hα, hαh⟩ := hverses "alpha" "Genesis 1:1" (by decide) rfl
  obtain ⟨hβ, hβh⟩ := hverses "beta" "Genesis 1:1" (by decide) rfl
  obtain ⟨hγ, hγh⟩ := hverses "gamma" "Genesis 1:1" (by decide) rfl
  refine ⟨?_, (hverses "light" "Genesis 1:3" (by decide) rfl).2, ?_, ?_⟩
  · -- `light` counts only through its recorded casings, and none are recorded
    obtain ⟨R, hR, hmem⟩ := mem_oddOf_lower fourWords_lists ["light"]
      (by simp only [List.mem_singleton, forall_eq]; decide)
    refine ⟨R, hR, fun r hr => ?_⟩
    rw [hmem, List.flatMap_singleton, hcasings, List.countP_nil] at hr
    exact absurd hr (by decide)
  · -- all three words hold the verse, an odd number
    obtain ⟨R, hR, hmem⟩ := mem_oddOf_caseSensitive fourWords_lists ["alpha", "beta", "gamma"]
    refine ⟨R, hR, (hmem _).mpr ?_⟩
    rw [List.countP_cons, List.countP_cons, List.countP_cons, hα, hβ, hγ]
    rfl
  · simp only [List.mem_cons, List.not_mem_nil, or_false]
    rintro w (rfl | rfl | rfl)
    exacts [hαh, hβh, hγh]

end Index

namespace Search

/-- **The either-or search.** It runs the odd-word search on the words of its terms once numbers
and tags are marked, with the case setting it is given; a range it can read changes nothing. -/
theorem Searcher.find_oddWords (s : Searcher) (t : String) (st : Settings) {range : Json}
    {W : ValueSet} (hW : rangeRefs range = .ok W) :
    s.find .oddWords (.str t) st range = s.index.oddOf (Text.fields (markTerms t)) st.caseSensitive := by
  unfold Searcher.find prepare
  simp [hW, joinTerms, Method.keepsTerms, Method.cleansTerms, Method.rangeAfter]

/-- **The either-or search gives the verses of an odd number of entries.** In an index of lists,
the odd-word search succeeds and gives a verse exactly when an odd number of the entries it
toggles hold it: each word's entry and, unless case matters, first its lower case's and each
recorded casing's. When case matters, that is when an odd number of the words hold the verse, so
with three words a verse that all of them hold is given. When case does not matter and the words
are in lower case, each word's own entry cancels out and only the recorded casings count. The
either-or search is this search on its marked terms, whatever range it is given. -/
theorem Searcher.oddWords_parity (s : Searcher) (hix : s.index.Lists) :
    (∀ words cs, ∃ R, s.index.oddOf words cs = .ok R ∧ ∀ r, .str r ∈ R.items ↔
      ((words.flatMap (s.index.toggledKeys cs)).countP fun k =>
        (s.index.keyVerses k).contains (.str r)) % 2 = 1) ∧
    (∀ words, ∃ R, s.index.oddOf words true = .ok R ∧ ∀ r, .str r ∈ R.items ↔
      (words.countP fun w => (s.index.keyVerses w).contains (.str r)) % 2 = 1) ∧
    (∀ words, (∀ w ∈ words, Text.lower w = w) → ∃ R, s.index.oddOf words false = .ok R ∧
      ∀ r, .str r ∈ R.items ↔ ((words.flatMap s.index.casingTexts).countP fun k =>
        (s.index.keyVerses k).contains (.str r)) % 2 = 1) ∧
    (∀ t st range W, rangeRefs range = .ok W →
      s.find .oddWords (.str t) st range =
        s.index.oddOf (Text.fields (markTerms t)) st.caseSensitive) :=
  ⟨Index.mem_oddOf_iff hix, Index.mem_oddOf_caseSensitive hix, Index.mem_oddOf_lower hix,
    fun t st _ _ hW => s.find_oddWords t st hW⟩

/-- The four-word index is an index of lists, so the odd-word search on it gives the verses of
an odd number of the entries it toggles. -/
theorem fourWords_oddWords_parity :
    Index.fourWords.Lists ∧
    (∀ words cs, ∃ R, Index.fourWords.oddOf words cs = .ok R ∧ ∀ r, .str r ∈ R.items ↔
      ((words.flatMap (Index.fourWords.toggledKeys cs)).countP fun k =>
        (Index.fourWords.keyVerses k).contains (.str r)) % 2 = 1) ∧
    (∀ words, ∃ R, Index.fourWords.oddOf words true = .ok R ∧ ∀ r, .str r ∈ R.items ↔
      (words.countP fun w => (Index.fourWords.keyVerses w).contains (.str r)) % 2 = 1) ∧
    (∀ words, (∀ w ∈ words, Text.lower w = w) → ∃ R, Index.fourWords.oddOf words false = .ok R ∧
      ∀ r, .str r ∈ R.items ↔ ((words.flatMap Index.fourWords.casingTexts).countP fun k =>
        (Index.fourWords.keyVerses k).contains (.str r)) % 2 = 1) ∧
    (∀ t st range W, rangeRefs range = .ok W →
      (⟨Index.fourWords, default, false⟩ : Searcher).find .oddWords (.str t) st range =
        Index.fourWords.oddOf (Text.fields (markTerms t)) st.caseSensitive) :=
  ⟨Index.fourWords_lists,
    Searcher.oddWords_parity ⟨Index.fourWords, default, false⟩ Index.fourWords_lists⟩

end Search

end Scripture
