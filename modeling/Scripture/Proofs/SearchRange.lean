import Mathlib
import Scripture.Proofs.Ensures
import Scripture.Proofs.WrittenList

/-!
# Searches stay within their range

A search is given a range, a reference list, and most searches give only verses of it: the word
searches cut what they find to the range afterwards, the phrase searches cut the verses whose
texts they read, the pattern search reads only the verses of the range, and a mixed search
combines the verses of searches that keep to it. This module shows that each of them gives only
verses of the range, whenever the range holds a verse, and so does the site's search between
two books, which is a mixed search.

The odd-word search never cuts what it finds, and a combined search passes its range on to its
parts as their case setting (see `Searcher.combinedSearch`), so neither keeps to its range.

* `Within` — every reference a set holds is held by another; kept by the operations on sets.
* `Searcher.findIn_within`, `Searcher.phraseSearch_within`, `Searcher.patternSearch_within` —
  reading verse texts keeps to the verses read, and the phrase and pattern searches read only
  verses of the range.
* `Searcher.find_within`, `Searcher.mixedSearch_within` — every search that prints nothing but
  the odd-word search, and the mixed search.
* `Searcher.search_keepsRange` — every search but the odd-word, combined and report searches
  gives only verses of a range that holds any, and so does the site's search.
-/

namespace Scripture.Search

open Pattern

/-- Every reference that `found` holds is held by `range`. -/
def Within (found range : ValueSet) : Prop :=
  ∀ ref : String, .str ref ∈ found.items → .str ref ∈ range.items

namespace Within

variable {a b R : ValueSet}

theorem self : Within R R := fun _ h => h

theorem empty : Within {} R := fun _ h => absurd h ValueSet.not_mem_empty

theorem union (ha : Within a R) (hb : Within b R) : Within (a.union b) R := by
  intro ref h
  rcases ValueSet.mem_union_str.mp h with h | h
  · exact ha ref h
  · exact hb ref h

theorem inter_left (ha : Within a R) : Within (a.inter b) R :=
  fun ref h => ha ref (ValueSet.mem_inter_str.mp h).1

theorem inter_right (hb : Within b R) : Within (a.inter b) R :=
  fun ref h => hb ref (ValueSet.mem_inter_str.mp h).2

theorem diff (ha : Within a R) : Within (a.diff b) R :=
  fun ref h => ha ref (ValueSet.mem_diff_str.mp h).1

theorem symmDiff (ha : Within a R) (hb : Within b R) : Within (a.symmDiff b) R := by
  intro ref h
  by_cases hm : .str ref ∈ a.items
  · exact ha ref hm
  · exact hb ref (by simpa [hm] using h)

end Within

/-! ### Reading verse texts -/

/-- Putting references in reading order keeps the references it was given. -/
theorem inReadingOrder_mem (refs : ValueSet) :
    Ensures (inReadingOrder refs) fun ordered => ∀ x ∈ ordered, x ∈ refs.items := by
  unfold inReadingOrder
  refine ensures_bind (ensures_mapM (fun r p => p.2 = r) refs.items _ fun r _ => ?_)
    fun keyed hkeyed => ensures_pure ?_
  · exact ensures_bind (ensures_of_forall fun _ => trivial) fun _ _ => ensures_pure rfl
  · intro x hx
    obtain ⟨p, hp, rfl⟩ := List.mem_map.mp hx
    obtain ⟨r, hr, rfl⟩ := hkeyed p (List.mem_mergeSort.mp hp)
    exact hr

/-- Reading verse texts finds only verses it read. -/
theorem Searcher.findIn_within (s : Searcher) (refs : List Json) (r : Regex)
    (strongs morph tryClean : Bool) :
    Ensures (s.findIn refs r strongs morph tryClean)
      fun found => ∀ ref : String, .str ref ∈ found.items → .str ref ∈ refs := by
  unfold Searcher.findIn
  refine ensures_bind (ensures_forIn (fun (found : ValueSet) => ∀ ref : String,
    .str ref ∈ found.items → .str ref ∈ refs) refs {} _ (fun _ h => absurd h ValueSet.not_mem_empty) ?_)
    fun found h => ensures_pure h
  intro x hx acc hacc
  refine ensures_bind (ensures_of_forall fun _ => trivial) fun text _ => ?_
  -- a verse is added only when it is the verse being read
  have hins : ∀ ref : String, .str ref ∈ (acc.insert x).items → .str ref ∈ refs := by
    intro ref h
    rcases ValueSet.mem_insert_str.mp h with h | rfl
    · exact hacc ref h
    · exact hx
  split
  · exact ensures_pure hins
  · split
    · exact ensures_pure hins
    · exact ensures_pure hacc

/-- Candidates in reading order whose texts are read stay among the candidates. -/
theorem Searcher.readCandidates_within (s : Searcher) (refs : ValueSet) (r : Regex)
    (strongs morph tryClean : Bool) :
    Ensures (do
        let ordered ← inReadingOrder refs
        s.findIn ordered r strongs morph tryClean) (Within · refs) :=
  ensures_bind (inReadingOrder_mem refs) fun ordered hord =>
    (s.findIn_within ordered r strongs morph tryClean).mono fun _ hf ref h => hord _ (hf ref h)

/-- Candidates cut to a range that holds a verse are within it. -/
theorem cut_within {within : ValueSet} (hne : within.isEmpty = false) (refs : ValueSet) :
    Within (if within.isEmpty = true then refs else refs.inter within) within := by
  rw [hne, if_neg Bool.false_ne_true]
  exact Within.inter_right Within.self

/-- A phrase search reads only candidates cut to the range. -/
theorem Searcher.phraseSearch_within (s : Searcher) (m : Method) (terms : String) (st : Settings)
    {within : ValueSet} (hne : within.isEmpty = false) :
    Ensures (s.phraseSearch m terms st within) (Within · within) := by
  unfold Searcher.phraseSearch
  simp only []
  -- whichever pattern the method makes, and wherever its candidates come from, they are cut to
  -- the range and then read
  split
  all_goals
    refine ensures_bind (ensures_of_forall fun _ => trivial) fun r _ => ?_
    split
    all_goals
      refine ensures_bind (ensures_of_forall fun _ => trivial) fun refs _ => ?_
      split
      · exact ensures_pure (cut_within hne refs)
      · exact (s.readCandidates_within _ r _ _ false).mono fun found hf ref h =>
          cut_within hne refs ref (hf ref h)

/-- A pattern search given a range that holds a verse reads only the verses of the range. -/
theorem Searcher.patternSearch_within (s : Searcher) (terms : String) (st : Settings)
    {within : ValueSet} (hne : within.isEmpty = false) :
    Ensures (s.patternSearch terms st within) (Within · within) := by
  unfold Searcher.patternSearch
  refine ensures_bind (ensures_of_forall fun _ => trivial) fun r _ => ?_
  rw [hne, if_neg Bool.false_ne_true]
  exact s.readCandidates_within within r _ _ true

/-! ### Searches -/

/-- The range a search is prepared with is its range read as a reference list. -/
theorem prepare_range (m : Method) (terms : Json) (st : Settings) (range : Json) :
    Ensures (prepare m terms st range) fun p => rangeRefs range = .ok p.2 := by
  unfold prepare
  refine ensures_bind (ensures_of_forall fun _ => trivial) fun joined _ => ?_
  cases hR : rangeRefs range with
  | error e => exact ensures_error e _
  | ok R => exact ensures_pure rfl

section Range

variable {range : Json} {R : ValueSet} (hR : rangeRefs range = .ok R) (hne : R.isEmpty = false)
include hR hne

/-- **A search that prints nothing keeps to its range**, unless it is the odd-word search: the
word searches cut what they find to it, and the phrase and pattern searches read only its
verses. -/
theorem Searcher.find_within (s : Searcher) {m : Method} (hm : m ≠ .oddWords) (terms : Json)
    (st : Settings) : Ensures (s.find m terms st range) (Within · R) := by
  unfold Searcher.find
  refine ensures_bind (prepare_range m terms st range) fun ⟨ready, within⟩ hw => ?_
  obtain rfl : within = R := by
    rw [hR] at hw
    exact (Except.ok.inj hw).symm
  -- what is cut afterwards is within the range, and so is what was found within it
  have hcut : ∀ found : ValueSet, m.rangeAfter = true →
      Within (if (m.rangeAfter && !within.isEmpty) = true then found.inter within else found)
        within := by
    intro found hafter
    simp only [hafter, hne, Bool.not_false, Bool.and_self, if_true]
    exact Within.inter_right Within.self
  have hkept : ∀ found : ValueSet, m.rangeAfter = false → Within found within →
      Within (if (m.rangeAfter && !within.isEmpty) = true then found.inter within else found)
        within := by
    intro found hafter hfound
    simpa [hafter] using hfound
  cases m with
  | allWords | anyWord | partialWords =>
    exact ensures_bind (ensures_of_forall fun _ => trivial) fun found _ =>
      ensures_pure (hcut found rfl)
  | phrase | loosePhrase | orderedWords =>
    exact ensures_bind (s.phraseSearch_within _ _ st hne) fun found hf =>
      ensures_pure (hkept found rfl hf)
  | pattern =>
    exact ensures_bind (s.patternSearch_within _ st hne) fun found hf =>
      ensures_pure (hkept found rfl hf)
  | oddWords => exact absurd rfl hm
  | combined | combinedPhrase | mixed | library | wordReport | numberReport | tagReport
    | concordance =>
    exact ensures_bind (ensures_pure (P := (Within · within)) Within.empty) fun found hf =>
      ensures_pure (hkept found rfl hf)

/-- The search of a term of a mixed search keeps to the range: a term is never searched for
words an odd number of times. -/
theorem Searcher.termSearch_within (s : Searcher) (rest : String) (st : Settings) :
    Ensures (s.termSearch rest st range) (Within · R) := by
  have hm : (mixedMethod rest).1 ≠ .oddWords := by
    unfold mixedMethod
    split_ifs <;> simp
  exact s.find_within hR hne hm _ _

end Range

/-- The sets of a mixed search within a range. -/
structure MixedSets.Within (acc : MixedSets) (R : ValueSet) : Prop where
  found : Search.Within acc.found R
  excluded : Search.Within acc.excluded R
  required : Search.Within acc.required R
  added : Search.Within acc.added R
  toggled : Search.Within acc.toggled R

namespace MixedSets

variable {acc : MixedSets} {R : ValueSet}

theorem within_empty : ({} : MixedSets).Within R :=
  ⟨Within.empty, Within.empty, Within.empty, Within.empty, Within.empty⟩

/-- Combining in verses within the range keeps the sets within it. -/
theorem Within.combine (hacc : acc.Within R) (how : Combine) {got : ValueSet}
    (hgot : Search.Within got R) : (acc.combine how got).Within R := by
  obtain ⟨hf, he, hr, ha, ht⟩ := hacc
  cases how with
  | exclude => exact ⟨hf, he.union hgot, hr, ha, ht⟩
  | requireFirst => exact ⟨hf, he, hr.union hgot, ha, ht⟩
  | require => exact ⟨hf, he, hr.inter_left, ha, ht⟩
  | add => exact ⟨hf, he, hr, ha.union hgot, ht⟩
  | toggle => exact ⟨hf, he, hr, ha, ht.symmDiff hgot⟩
  | narrow => exact ⟨hf.inter_left, he, hr, ha, ht⟩
  | widen => exact ⟨hf.union hgot, he, hr, ha, ht⟩

/-- The verses the sets give are within the range when the sets are. -/
theorem Within.result (hacc : acc.Within R) : Search.Within acc.result R := by
  obtain ⟨hf, -, hr, ha, ht⟩ := hacc
  have hfound := (hf.union ha).union ht
  unfold MixedSets.result
  dsimp only
  refine Search.Within.diff ?_
  split
  · exact hr.union hfound.inter_left
  · split
    · exact hfound.union hr
    · exact hfound

end MixedSets

/-- **A mixed search keeps to its range**, whatever its terms and their marks. -/
theorem Searcher.mixedSearch_within (s : Searcher) (terms : Json) (st : Settings) {range : Json}
    {R : ValueSet} (hR : rangeRefs range = .ok R) (hne : R.isEmpty = false) :
    Ensures (s.mixedSearch terms st range) (Within · R) := by
  unfold Searcher.mixedSearch
  refine ensures_bind (ensures_of_forall fun _ => trivial) fun items _ => ?_
  refine ensures_bind (ensures_foldlM (MixedSets.Within · R) items {} _ MixedSets.within_empty
    fun item _ acc hacc => ?_) fun sets hsets => ensures_pure hsets.result
  refine ensures_bind (ensures_of_forall fun _ => trivial) fun term _ => ?_
  exact ensures_bind (s.termSearch_within hR hne _ st) fun got hgot =>
    ensures_pure (hacc.combine _ hgot)

/-! ### Every search -/

/-- The searches that keep to their range: all but the odd-word search, the combined searches
and the reports. -/
def Method.keepsRange : Method → Bool
  | .oddWords | .combined | .combinedPhrase | .wordReport | .numberReport | .tagReport
  | .concordance => false
  | _ => true

/-- A run of a step that may fail prints nothing and gives the step's outcome. -/
theorem run_lift {α : Type} (x : Except Failure α) (out : String) :
    ((lift x : Printing α).run.run out).1 = x := by
  cases x <;> rfl

/-- Sorting references keeps the references it was given. -/
theorem sortByKey_mem (refs : List String) :
    Ensures (Reference.sortByKey refs) fun sorted => ∀ r ∈ sorted, r ∈ refs := by
  unfold Reference.sortByKey
  refine ensures_bind (ensures_mapM (fun r p => p.2 = r) refs _ fun r _ => ?_)
    fun keyed hkeyed => ensures_pure ?_
  · exact ensures_bind (ensures_of_forall fun _ => trivial) fun _ _ => ensures_pure rfl
  · intro x hx
    obtain ⟨p, hp, rfl⟩ := List.mem_map.mp hx
    obtain ⟨r, hr, rfl⟩ := hkeyed p (List.mem_mergeSort.mp hp)
    exact hr

/-- **Searches keep to their range.** Every search but the odd-word, combined and report
searches gives only verses of its range when the range holds a verse, and the site's search
for a query between two books gives only verses of the range between them. -/
theorem Searcher.search_keepsRange (s : Searcher) :
    (∀ (m : Method), m.keepsRange = true → ∀ (terms : Json) (st : Settings) (range : Json)
      (R : ValueSet), rangeRefs range = .ok R → R.isEmpty = false → ∀ (out : String),
      Ensures ((s.search m terms st range).run.run out).1 (Within · R)) ∧
    ∀ (terms lowest highest : Json) (R : ValueSet),
      rangeRefs (.str (lowest.display ++ "-" ++ highest.display)) = .ok R → R.isEmpty = false →
      Ensures (Web.siteSearch s terms lowest highest) fun found => ∀ r ∈ found.1, .str r ∈ R.items := by
  refine ⟨fun m hm terms st range R hR hne out => ?_, fun terms lowest highest R hR hne => ?_⟩
  · cases m with
    | oddWords | combined | combinedPhrase | wordReport | numberReport | tagReport | concordance =>
      cases hm
    | mixed =>
      simp only [Searcher.search, run_lift]
      exact s.mixedSearch_within terms st hR hne
    | library =>
      simp only [Searcher.search]
      cases joinTerms terms with
      | error e => exact ensures_error e _
      | ok _ => exact ensures_pure Within.empty
    | allWords | anyWord | partialWords | phrase | loosePhrase | orderedWords | pattern =>
      simp only [Searcher.search, Searcher.basic, run_lift]
      exact s.find_within hR hne (by decide) terms st
  · unfold Web.siteSearch
    refine ensures_bind (ensures_of_forall fun _ => trivial) fun text _ => ?_
    refine ensures_bind (s.mixedSearch_within _ {} hR hne) fun found hfound => ?_
    refine ensures_bind (sortByKey_mem _) fun refs hrefs => ?_
    refine ensures_bind (ensures_of_forall fun _ => trivial) fun cookie _ => ensures_pure ?_
    intro r hr
    obtain ⟨j, hj, hjr⟩ := List.mem_filterMap.mp (hrefs r hr)
    cases j <;> simp [Json.str?] at hjr
    subst hjr
    exact hfound _ hj

/-- A search for `light` within the first verse of the Bible keeps to that verse. -/
theorem firstVerse_search_keepsRange :
    ∃ R : ValueSet, rangeRefs (.str (Canon.refText 0)) = .ok R ∧ R.isEmpty = false ∧
      Ensures (((⟨default, default, false⟩ : Searcher).search .allWords (.str "light") {}
        (.str (Canon.refText 0))).run.run "").1 (Within · R) := by
  have hfirst : (Verse.ofOffset 0).offset = 0 := Verse.ofOffset_offset (by decide)
  obtain ⟨os, hos, -, hmem⟩ :=
    RangeList.offsets_written (show ',' = ',' ∨ ',' = ';' from Or.inl rfl)
      [.verse (Verse.ofOffset 0)]
  have htext : String.intercalate (String.singleton ',')
      ([RangeItem.verse (Verse.ofOffset 0)].map RangeItem.text) = Canon.refText 0 := by
    rw [List.map_singleton, String.intercalate_singleton, RangeItem.text, Verse.text, hfirst]
  rw [htext] at hos
  have hR : rangeRefs (.str (Canon.refText 0)) = .ok (ValueSet.ofTexts (os.map Canon.refText)) := by
    have htruthy : (Json.str (Canon.refText 0)).truthy = true := by
      have hne : Canon.refText 0 ≠ "" := fun h => RangeList.refText_ne_nil 0 (by rw [h]; rfl)
      simpa [Json.truthy, String.isEmpty_iff] using hne
    simp only [rangeRefs, htruthy, Bool.not_true, Bool.false_eq_true, if_false, pure_bind]
    rw [hos, Except.ok_bind]
    rfl
  have hne : (ValueSet.ofTexts (os.map Canon.refText)).isEmpty = false := by
    have h0 : 0 ∈ os := (hmem 0).mpr ⟨_, List.mem_singleton_self _, by simp [hfirst]⟩
    refine ValueSet.isEmpty_eq_false (x := .str (Canon.refText 0)) ?_
    simp only [ValueSet.ofTexts, List.map_map, List.mem_map]
    exact ⟨0, h0, rfl⟩
  exact ⟨_, hR, hne, (Searcher.search_keepsRange _).1 .allWords rfl _ _ _ _ hR hne ""⟩

end Scripture.Search
