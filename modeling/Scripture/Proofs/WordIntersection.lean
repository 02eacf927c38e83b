import Scripture.Proofs.Carry
import Scripture.Proofs.Ensures
import Scripture.Store.Index

/-!
# The verses that hold every word

`Index.allOf` finds the verses that hold every word of a list by narrowing, word after word, the
verses left to those the next word finds. It reads an empty set as "no word yet": a word met when
no verse is left starts the set again with its own verses. So the verses it gives are exactly
those every word finds when the words share a verse; otherwise they are those every word of a
final run of the list finds, the run from the last word met with nothing left.

* `Index.Lists` — an index as the searches read it: every entry a list of references, and
  `lower_case` mapping lower-case words to their other casings.
* `Index.finds` — the references a word finds: its entry's, and unless case matters those of its
  lower case and of the casings recorded for that.
* `Index.foldCasings_union` — gathering a word's verses succeeds and gives the references it
  finds.
* `ValueSet.narrow`, `ValueSet.mem_foldl_narrow_of_common`, `ValueSet.foldl_narrow_finalRun` —
  narrowing that starts again on an empty set, over a run of sets.
* `Index.allOf_eq` — the search is that narrowing folded over the words' verses.
* `Index.allOf_intersects` — the verses every word finds when the words share one, and in any
  case those every word of a final run of them finds.
-/

namespace Scripture

/-! ### Keys looked up as they are -/

theorem contains_keyMarks {c : Char} :
    "<>\x7b\x7d".contains c = true ↔ c = '<' ∨ c = '>' ∨ c = '\x7b' ∨ c = '\x7d' := by
  simp [String.contains]

/-- A key with no blank and no angle bracket or brace is looked up as it is. -/
theorem cleanKey_eq_self {s : String}
    (h : s.toList.all (fun c => !Text.isBlank c && c != '<' && c != '>' && c != '\x7b' &&
      c != '\x7d') = true) :
    cleanKey s = s := by
  have hchar := List.all_eq_true.mp h
  have hfilter : s.toList.filter (fun c => !"<>\x7b\x7d".contains c) = s.toList := by
    refine List.filter_eq_self.mpr fun c hc => ?_
    have := hchar c hc
    simp only [Bool.and_eq_true, Bool.not_eq_eq_eq_not, Bool.not_true, bne_iff_ne, ne_eq] at this
    simp only [Bool.not_eq_eq_eq_not, Bool.not_true, Bool.eq_false_iff, ne_eq, contains_keyMarks]
    tauto
  have hkeep : ∀ l : List Char, (∀ c ∈ l, Text.isBlank c = false) → l.dropWhile Text.isBlank = l := by
    intro l hl
    cases l with
    | nil => rfl
    | cons c l => simp [hl c List.mem_cons_self]
  have hplain : ∀ c ∈ s.toList, Text.isBlank c = false := fun c hc => by
    have := hchar c hc
    simp only [Bool.and_eq_true, Bool.not_eq_eq_eq_not, Bool.not_true] at this
    exact this.1.1.1.1
  unfold cleanKey Text.trimBlank
  rw [hfilter, String.toList_ofList, hkeep _ hplain,
    hkeep _ (fun c hc => hplain c (List.mem_reverse.mp hc)), List.reverse_reverse,
    String.ofList_toList]

/-- A table gives the empty list for a key, or the value stored under it. -/
theorem Table.read_stored (t : Table) (k : String) :
    t.read k = .arr [] ∨ ∃ p ∈ t.entries, p.1 = k ∧ t.read k = p.2 := by
  unfold Table.read Table.get?
  cases h : t.entries.reverse.find? (·.1 == k) with
  | none => exact Or.inl rfl
  | some p =>
    refine Or.inr ⟨p, List.mem_reverse.mp (List.mem_of_find?_eq_some h), ?_, rfl⟩
    simpa using List.find?_some h

/-! ### Sets of texts read from values -/

namespace ValueSet

@[simp] theorem mem_ofList_str {xs : List Json} {r : String} :
    .str r ∈ (ofList xs).items ↔ .str r ∈ xs := by
  -- inserting one value after another into any start
  have run : ∀ acc : ValueSet, .str r ∈ (xs.foldl insert acc).items ↔ .str r ∈ acc.items ∨ .str r ∈ xs := by
    induction xs with
    | nil => simp
    | cons x xs ih => intro acc; simp [ih, or_assoc, eq_comm]
  simpa [ofList] using run {}

/-- The set of a value whose members are texts holds those texts. -/
theorem ofValue_texts {j : Json} {rs : List String} (h : j.members = .ok (rs.map .str)) :
    ofValue j = .ok (ofList (rs.map .str)) := by
  have hkeys : ∀ ts : List String, (ts.map Json.str).mapM Json.asKey = .ok (ts.map .str) := by
    intro ts
    induction ts with
    | nil => rfl
    | cons t ts ih =>
      rw [List.map_cons, List.mapM_cons, ih]
      rfl
  unfold ofValue
  rw [h, Except.ok_bind, hkeys, Except.ok_bind]
  rfl

end ValueSet

/-! ### An index of lists -/

namespace Index

/-- An index as the searches read it: every entry but `lower_case` is a list of references, and
`lower_case` maps lower-case words to lists of their other casings. -/
structure Lists (ix : Index) : Prop where
  refs : ∀ p ∈ ix.table.entries, p.1 ≠ "lower_case" → ∃ rs : List String, p.2 = .arr (rs.map .str)
  casings : ∀ p ∈ ix.table.entries, p.1 = "lower_case" →
    ∃ fs : List (String × Json), p.2 = .obj fs ∧ ∀ q ∈ fs, ∃ us : List String, q.2 = .arr (us.map .str)

/-- The references a key's entry holds. -/
def holds (ix : Index) (key r : String) : Prop :=
  ∃ ms, (ix.entry key).members = .ok ms ∧ Json.str r ∈ ms

/-- The references a word finds: those its entry holds, and, unless case matters, those of its
lower case and of every casing recorded for that. -/
def finds (ix : Index) (caseSensitive : Bool) (word r : String) : Prop :=
  ix.holds word r ∨ caseSensitive = false ∧
    (ix.holds (Text.lower word) r ∨
      ∃ us, ix.casings (Text.lower word) = .ok us ∧ ∃ u, Json.str u ∈ us ∧ ix.holds u r)

/-- The verses gathered for a word, in every casing it stands for; none when gathering fails. -/
def wordVerses (ix : Index) (caseSensitive : Bool) (word : String) : ValueSet :=
  match ix.foldCasings caseSensitive word ValueSet.union {} false with
  | .ok found => found
  | .error _ => {}

section Lists

variable {ix : Index}

/-- Every entry of an index of lists holds texts. -/
theorem Lists.entry_members (hix : ix.Lists) (key : String) :
    ∃ rs : List String, (ix.entry key).members = .ok (rs.map .str) := by
  unfold entry
  rcases ix.table.read_stored (cleanKey key) with h | ⟨p, hp, -, h⟩
  · exact ⟨[], by rw [h]; rfl⟩
  · rw [h]
    by_cases hl : p.1 = "lower_case"
    · -- the casings are read as a collection of their lower-case words
      obtain ⟨fs, hfs, -⟩ := hix.casings p hp hl
      exact ⟨Json.fieldNames fs, by rw [hfs]; rfl⟩
    · obtain ⟨rs, hrs⟩ := hix.refs p hp hl
      exact ⟨rs, by rw [hrs]; rfl⟩

theorem Lists.lowerCase_obj (hix : ix.Lists) :
    ∃ fs : List (String × Json), ix.lowerCase = .obj fs ∧
      ∀ q ∈ fs, ∃ us : List String, q.2 = .arr (us.map .str) := by
  have hkey : cleanKey "lower_case" = "lower_case" := cleanKey_eq_self (by decide)
  unfold Index.lowerCase get entry
  rw [hkey]
  rcases ix.table.read_stored "lower_case" with h | ⟨p, hp, hl, h⟩
  · exact ⟨[], by rw [h]; rfl, by simp⟩
  · obtain ⟨fs, hfs, hlists⟩ := hix.casings p hp hl
    rw [h, hfs]
    by_cases ht : (Json.obj fs).truthy = true
    · exact ⟨fs, by rw [if_pos ht], hlists⟩
    · exact ⟨[], by rw [if_neg ht], by simp⟩

/-- The casings an index of lists records for a word are texts. -/
theorem Lists.casings_texts (hix : ix.Lists) (lowered : String) :
    ∃ us : List String, ix.casings lowered = .ok (us.map .str) := by
  obtain ⟨fs, hfs, hlists⟩ := hix.lowerCase_obj
  have hfield : (Json.obj fs).field? lowered = (fs.reverse.find? (·.1 == lowered)).map (·.2) := rfl
  unfold Index.casings
  rw [hfs]
  dsimp only
  rw [hfield]
  cases h : fs.reverse.find? (·.1 == lowered) with
  | none => exact ⟨[], rfl⟩
  | some q =>
    obtain ⟨us, hus⟩ := hlists q (List.mem_reverse.mp (List.mem_of_find?_eq_some h))
    exact ⟨us, by simp only [Option.map_some, hus]; rfl⟩

/-- A text's entry in an index of lists gives the set of the references it holds. -/
theorem Lists.entry_set (hix : ix.Lists) (key : String) :
    ∃ S : ValueSet, ValueSet.ofValue (ix.entry key) = .ok S ∧
      ∀ r, .str r ∈ S.items ↔ ix.holds key r := by
  obtain ⟨rs, hrs⟩ := hix.entry_members key
  refine ⟨_, ValueSet.ofValue_texts hrs, fun r => ?_⟩
  simp [holds, hrs]

/-- **Gathering a word's verses.** In an index of lists it succeeds and gives exactly the
references the word finds. -/
theorem foldCasings_union (hix : ix.Lists) (cs : Bool) (w : String) :
    ix.foldCasings cs w ValueSet.union {} false = .ok (ix.wordVerses cs w) ∧
      ∀ r, .str r ∈ (ix.wordVerses cs w).items ↔ ix.finds cs w r := by
  obtain ⟨own, hown, hmown⟩ := hix.entry_set w
  suffices h : ∃ S, ix.foldCasings cs w ValueSet.union {} false = .ok S ∧
      ∀ r, .str r ∈ S.items ↔ ix.finds cs w r by
    obtain ⟨S, hS, hmem⟩ := h
    rw [wordVerses, hS]
    exact ⟨rfl, hmem⟩
  cases cs with
  | true =>
    refine ⟨({} : ValueSet).union own, ?_, fun r => ?_⟩
    · unfold foldCasings
      simp only [hown]
      rfl
    · simp [finds, hmown]
  | false =>
    obtain ⟨low, hlow, hmlow⟩ := hix.entry_set (Text.lower w)
    obtain ⟨us, hus⟩ := hix.casings_texts (Text.lower w)
    -- the loop over the recorded casings adds the references of each
    obtain ⟨S, hS, hmem⟩ := forIn_yield_run
      (fun pre (b : ValueSet) => ∀ r, .str r ∈ b.items ↔
        (ix.holds w r ∨ ix.holds (Text.lower w) r) ∨ ∃ u, Json.str u ∈ pre ∧ ix.holds u r)
      (us.map .str) ((({} : ValueSet).union own).union low)
      (fun u acc => do
        let e ← ix.entryOf u
        let found ← ValueSet.ofValue e
        pure (ForInStep.yield (acc.union found)))
      (fun r => by simp [hmown, hmlow])
      (by
        intro pre u acc hu hacc
        obtain ⟨t, -, rfl⟩ := List.mem_map.mp hu
        obtain ⟨T, hT, hmT⟩ := hix.entry_set t
        refine ⟨acc.union T, ?_, fun r => ?_⟩
        · show (ix.entryOf (.str t) >>= _) = _
          rw [show ix.entryOf (.str t) = .ok (ix.entry t) from rfl, Except.ok_bind, hT]
          rfl
        · simp only [ValueSet.mem_union_str, hacc, hmT, List.mem_append, List.mem_singleton]
          constructor
          · rintro ((h | ⟨u, hu', hr⟩) | h)
            · exact Or.inl h
            · exact Or.inr ⟨u, Or.inl hu', hr⟩
            · exact Or.inr ⟨t, Or.inr rfl, h⟩
          · rintro (h | ⟨u, hu' | hu', hr⟩)
            · exact Or.inl (Or.inl h)
            · exact Or.inl (Or.inr ⟨u, hu', hr⟩)
            · obtain rfl : u = t := Json.str.inj hu'
              exact Or.inr hr)
    refine ⟨S, ?_, fun r => ?_⟩
    · unfold foldCasings
      simp only [hown, hlow, hus, Bool.false_eq_true, if_false, Except.ok_bind]
      rw [hS]
      rfl
    · rw [hmem]
      simp only [finds, hus, Except.ok.injEq, exists_eq_left', true_and]
      exact or_assoc

end Lists

end Index

/-! ### Narrowing that starts again -/

namespace ValueSet

/-- One word of an intersection: the verses left narrowed to the word's verses, or the word's
verses when none are left. -/
def narrow (acc found : ValueSet) : ValueSet :=
  if acc.isEmpty then acc.union found else acc.inter found

theorem mem_narrow_str {acc found : ValueSet} {r : String} :
    .str r ∈ (acc.narrow found).items ↔
      (acc.isEmpty = true ∨ .str r ∈ acc.items) ∧ .str r ∈ found.items := by
  unfold narrow
  split
  · rename_i h
    have hnil : acc.items = [] := List.isEmpty_iff.mp h
    simp [hnil, h]
  · rename_i h
    simp [h]

/-- Once the verses left hold one that every later set holds, narrowing never starts again: the
verses left are those held before and by every later set. -/
theorem mem_foldl_narrow_of_mem {r₀ : String} (Ss : List ValueSet)
    (hcommon : ∀ S ∈ Ss, .str r₀ ∈ S.items) (acc : ValueSet) (h₀ : .str r₀ ∈ acc.items)
    (r : String) :
    .str r ∈ (Ss.foldl narrow acc).items ↔ .str r ∈ acc.items ∧ ∀ S ∈ Ss, .str r ∈ S.items := by
  induction Ss generalizing acc with
  | nil => simp
  | cons S Ss ih =>
    have h₁ : .str r₀ ∈ (acc.narrow S).items :=
      mem_narrow_str.mpr ⟨Or.inr h₀, hcommon S List.mem_cons_self⟩
    rw [List.foldl_cons, ih (fun S' hS' => hcommon S' (List.mem_cons_of_mem _ hS')) _ h₁,
      mem_narrow_str, isEmpty_eq_false h₀]
    simp [and_assoc]

/-- **Narrowing sets that share a verse.** Narrowing from nothing over sets that all hold one
verse gives exactly the verses all of them hold. -/
theorem mem_foldl_narrow_of_common {r₀ : String} (Ss : List ValueSet) (hne : Ss ≠ [])
    (hcommon : ∀ S ∈ Ss, .str r₀ ∈ S.items) (r : String) :
    .str r ∈ (Ss.foldl narrow {}).items ↔ ∀ S ∈ Ss, .str r ∈ S.items := by
  obtain ⟨S, Ss, rfl⟩ := List.exists_cons_of_ne_nil hne
  -- the first set starts the narrowing, and from then on a verse is always left
  have h₀ : .str r₀ ∈ (({} : ValueSet).narrow S).items :=
    mem_narrow_str.mpr ⟨Or.inl rfl, hcommon S List.mem_cons_self⟩
  rw [List.foldl_cons, mem_foldl_narrow_of_mem Ss (fun S' h => hcommon S' (List.mem_cons_of_mem _ h))
    _ h₀, mem_narrow_str]
  simp

/-- **Narrowing ends on a final run.** Narrowing from nothing gives the verses every set of some
final run of the sets holds: the run from the last set met when nothing was left. -/
theorem foldl_narrow_finalRun (Ss : List ValueSet) (hne : Ss ≠ []) :
    ∃ k < Ss.length, ∀ r : String,
      .str r ∈ (Ss.foldl narrow {}).items ↔ ∀ S ∈ Ss.drop k, .str r ∈ S.items := by
  induction Ss using List.reverseRecOn with
  | nil => exact absurd rfl hne
  | append_singleton Ss S ih =>
    rw [List.foldl_append, List.foldl_cons, List.foldl_nil]
    by_cases hempty : (Ss.foldl narrow {}).isEmpty = true
    · -- nothing is left before the last set, which starts again
      refine ⟨Ss.length, by simp, fun r => ?_⟩
      rw [mem_narrow_str, List.drop_left]
      simp [hempty]
    · -- something is left, so an earlier run goes on through the last set
      have hSs : Ss ≠ [] := by
        rintro rfl
        exact hempty rfl
      obtain ⟨k, hk, hrun⟩ := ih hSs
      refine ⟨k, by simp; omega, fun r => ?_⟩
      rw [mem_narrow_str, hrun, List.drop_append_of_le_length hk.le]
      simp [hempty, or_imp, forall_and]

end ValueSet

/-! ### The search for every word -/

namespace Index

variable {ix : Index}

/-- In an index of lists, the search for every word narrows, word after word, the verses found so
far by the verses the word finds. -/
theorem allOf_eq (hix : ix.Lists) (words : List String) (cs : Bool) :
    ix.allOf words cs = .ok ((words.map (ix.wordVerses cs)).foldl ValueSet.narrow {}) := by
  obtain ⟨R, hR, hfold⟩ := forIn_yield_run
    (fun pre R => R = (pre.map (ix.wordVerses cs)).foldl ValueSet.narrow {}) words {}
    (fun w (acc : ValueSet) =>
      (fun found => ForInStep.yield (if acc.isEmpty then acc.union found else acc.inter found)) <$>
        ix.foldCasings cs w ValueSet.union {} false)
    rfl
    (by
      intro pre w acc _ hacc
      refine ⟨acc.narrow (ix.wordVerses cs w), ?_, ?_⟩
      · rw [(foldCasings_union hix cs w).1]
        rfl
      · rw [hacc, List.map_append, List.foldl_append]
        rfl)
  unfold allOf
  simp only [bind_pure_comp, bind_pure]
  rw [hR, hfold]

/-- **The verses that hold every word.** In an index of lists, the search for every word of a
list that is not empty succeeds. When some verse is found by every word, it gives exactly the
verses every word finds; in any case it gives exactly the verses every word of some final run of
the list finds. So words that share no verse can give verses: a word met when none is left
starts the search again. -/
theorem allOf_intersects (ix : Index) (hix : ix.Lists) (words : List String) (cs : Bool)
    (hne : words ≠ []) :
    ∃ R, ix.allOf words cs = .ok R ∧
      ((∃ r₀, ∀ w ∈ words, ix.finds cs w r₀) →
        ∀ r, .str r ∈ R.items ↔ ∀ w ∈ words, ix.finds cs w r) ∧
      ∃ k < words.length, ∀ r, .str r ∈ R.items ↔ ∀ w ∈ words.drop k, ix.finds cs w r := by
  have hmem := fun w => (foldCasings_union hix cs w).2
  -- a property of every set of the words' verses is one of every word
  have hsets : ∀ (ws : List String) (r : String),
      (∀ S ∈ ws.map (ix.wordVerses cs), .str r ∈ S.items) ↔ ∀ w ∈ ws, ix.finds cs w r := by
    intro ws r
    simp [hmem]
  have hne' : words.map (ix.wordVerses cs) ≠ [] := by simpa using hne
  refine ⟨_, allOf_eq hix words cs, fun ⟨r₀, h₀⟩ r => ?_, ?_⟩
  · rw [ValueSet.mem_foldl_narrow_of_common _ hne' ((hsets words r₀).mpr h₀), hsets]
  · obtain ⟨k, hk, hrun⟩ := ValueSet.foldl_narrow_finalRun _ hne'
    refine ⟨k, by simpa using hk, fun r => ?_⟩
    rw [hrun, ← List.map_drop, hsets]

/-- When case matters, a word's verses are those of its own entry. -/
theorem foldCasings_caseSensitive (ix : Index) (w : String) :
    ix.foldCasings true w ValueSet.union {} false =
      (fun own => ({} : ValueSet).union own) <$> ValueSet.ofValue (ix.entry w) := by
  unfold foldCasings
  cases ValueSet.ofValue (ix.entry w) <;> rfl

/-- An index of three words: `alpha` in Genesis 1:1, `beta` and `gamma` in Genesis 1:2. -/
def threeWords : Index :=
  ⟨"KJV", ⟨[("alpha", .arr [.str "Genesis 1:1"]), ("beta", .arr [.str "Genesis 1:2"]),
    ("gamma", .arr [.str "Genesis 1:2"])]⟩⟩

theorem threeWords_lists : threeWords.Lists where
  refs p hp _ := by
    simp only [threeWords, List.mem_cons, List.not_mem_nil, or_false] at hp
    rcases hp with rfl | rfl | rfl
    exacts [⟨["Genesis 1:1"], rfl⟩, ⟨["Genesis 1:2"], rfl⟩, ⟨["Genesis 1:2"], rfl⟩]
  casings p hp hl := by
    simp only [threeWords, List.mem_cons, List.not_mem_nil, or_false] at hp
    rcases hp with rfl | rfl | rfl <;> exact absurd hl (by decide)

theorem threeWords_allOf_intersects :
    threeWords.Lists ∧ ["alpha", "beta", "gamma"] ≠ [] ∧
      ∃ R, threeWords.allOf ["alpha", "beta", "gamma"] true = .ok R ∧
        ((∃ r₀, ∀ w ∈ ["alpha", "beta", "gamma"], threeWords.finds true w r₀) →
          ∀ r, .str r ∈ R.items ↔ ∀ w ∈ ["alpha", "beta", "gamma"], threeWords.finds true w r) ∧
        ∃ k < ["alpha", "beta", "gamma"].length, ∀ r, .str r ∈ R.items ↔
          ∀ w ∈ ["alpha", "beta", "gamma"].drop k, threeWords.finds true w r :=
  ⟨threeWords_lists, List.cons_ne_nil _ _,
    allOf_intersects threeWords threeWords_lists _ true (List.cons_ne_nil _ _)⟩

/-- Three words that share no verse give a verse: `alpha` and `beta` share none, so `gamma`
starts the search again and gives Genesis 1:2. -/
theorem threeWords_allOf_restarts :
    threeWords.allOf ["alpha", "beta", "gamma"] true = .ok ⟨[.str "Genesis 1:2"]⟩ ∧
      ¬ ∃ r, ∀ w ∈ ["alpha", "beta", "gamma"], threeWords.finds true w r := by
  have hverses : ∀ (w r : String), threeWords.entry w = .arr [.str r] →
      threeWords.wordVerses true w = ⟨[.str r]⟩ := by
    intro w r hw
    rw [wordVerses, foldCasings_caseSensitive, hw]
    rfl
  have hentry : ∀ w, w.toList.all (fun c => !Text.isBlank c && c != '<' && c != '>' &&
      c != '\x7b' && c != '\x7d') = true → threeWords.entry w = threeWords.table.read w :=
    fun w hw => by rw [entry, cleanKey_eq_self hw]
  have hα := hverses "alpha" "Genesis 1:1" ((hentry "alpha" (by decide)).trans rfl)
  have hβ := hverses "beta" "Genesis 1:2" ((hentry "beta" (by decide)).trans rfl)
  have hγ := hverses "gamma" "Genesis 1:2" ((hentry "gamma" (by decide)).trans rfl)
  refine ⟨?_, fun ⟨r, hr⟩ => ?_⟩
  · rw [allOf_eq threeWords_lists, List.map_cons, List.map_cons, List.map_cons, List.map_nil, hα,
      hβ, hγ]
    rfl
  · -- a verse found by `alpha` and by `beta` would be both Genesis 1:1 and Genesis 1:2
    have hfound := fun w => (foldCasings_union threeWords_lists true w).2 r
    have h₁ := (hfound "alpha").mpr (hr "alpha" (by simp))
    have h₂ := (hfound "beta").mpr (hr "beta" (by simp))
    rw [hα, List.mem_singleton, Json.str.injEq] at h₁
    rw [hβ, List.mem_singleton, Json.str.injEq, h₁] at h₂
    exact absurd h₂ (by decide)

end Index

end Scripture
