import Mathlib
import Scripture.Proofs.OddWords
import Scripture.Proofs.PhraseMatching
import Scripture.Proofs.SearchRange

/-!
# What a phrase search reads

A phrase search does not read every verse: it first gathers candidates from the index and then
keeps those, within the range, whose text the phrase's pattern finds. Without `*` the candidates
are those of the search for every word, which holds every verse that every word of the phrase
finds, so no verse the pattern finds is lost when the index lists, under each word, every verse
whose text the pattern finds. With `*` the candidates are the verses of the listed words that a
word of the phrase matches whole, leaving out every word that 5000 verses or more hold: a phrase
whose words the pattern finds are all that common finds nothing.

* `ValueSet.mem_foldl_of_step`, `Index.mem_foldl_unionIf` — what a fold that adds verses gathers.
* `Index.partialMatches_eq` — the loops of the search for partial words, as a fold.
* `Index.partialMatches_spec` — the verses of the listed words that a partial word matches, each
  word held by fewer verses than the limit.
* `Searcher.findIn_exact`, `inReadingOrder_perm` — reading verse texts keeps exactly the verses
  read whose text the pattern finds, in any order.
* `Searcher.phraseSearch_scan` — a phrase of two words or more keeps exactly its candidates,
  within the range, whose text the pattern finds.
* `Searcher.phraseSearch_wholeWords` — without `*`, on an index that lists under each word the
  verses whose text holds it whole, the search gives the verses whose text holds the phrase.
* `Searcher.phraseSearch_candidates` — all of it together.
-/

namespace Scripture

open Pattern

/-- A fold whose step keeps the verses it has and adds a verse for each item with a property gives
the verses it started with and those of the items with the property. -/
theorem ValueSet.mem_foldl_of_step {α : Type} (g : ValueSet → α → ValueSet) (ref : String)
    (Q : α → Prop) (hg : ∀ b x, .str ref ∈ (g b x).items ↔ .str ref ∈ b.items ∨ Q x)
    (L : List α) (b : ValueSet) :
    .str ref ∈ (L.foldl g b).items ↔ .str ref ∈ b.items ∨ ∃ x ∈ L, Q x := by
  induction L generalizing b with
  | nil => simp
  | cons x L ih =>
    rw [List.foldl_cons, ih, hg, or_assoc]
    simp only [List.mem_cons, exists_eq_or_imp]

namespace Index

/-- Adding a set to the verses for each item of a list that passes a test adds the verses of
every item that passes it. -/
theorem mem_foldl_unionIf {α : Type} (L : List α) (P : α → Bool) (S : α → ValueSet)
    (b : ValueSet) (ref : String) :
    .str ref ∈ (L.foldl (fun b x => if P x then b.union (S x) else b) b).items ↔
      .str ref ∈ b.items ∨ ∃ x ∈ L, P x = true ∧ .str ref ∈ (S x).items := by
  refine ValueSet.mem_foldl_of_step _ ref _ (fun b x => ?_) L b
  -- a step adds the item's verses exactly when the item passes
  by_cases hx : P x = true
  · simp only [hx, if_true, true_and, ValueSet.mem_union_str]
  · simp only [hx, Bool.false_eq_true, if_false, false_and, or_false]

/-- A value whose members are listed has as many of them as it lists. -/
theorem size_of_members {j : Json} {ms : List Json} (h : j.members = .ok ms) :
    j.size = .ok ms.length := by
  cases j with
  | arr xs =>
    cases h
    rfl
  | str t =>
    cases h
    simp [Json.size, String.length_toList]
  | obj fs =>
    cases h
    simp [Json.size]
  | _ => cases h

section Lists

variable {ix : Index}

theorem Lists.mem_keyVerses (hix : ix.Lists) (key r : String) :
    .str r ∈ (ix.keyVerses key).items ↔ ix.holds key r := by
  obtain ⟨S, hS, hmem⟩ := hix.entry_set key
  rw [keyVerses, hS]
  exact hmem r

/-- Whether a listed word passes the test of the search for partial words with one pattern: the
pattern was read and matches the word, and fewer verses than the limit hold the word. -/
def passesPartial (ix : Index) (limit : Int) (t : String) (pat : Except Failure Regex) : Bool :=
  (pat.toOption.any fun re => (re.matchStart? t).isSome) &&
    ((ix.entry t).size.toOption.any fun (n : Nat) => decide ((n : Int) < limit))

/-- One turn of the search for partial words: the verses of a listed word are added once for each
pattern it passes. -/
def partialGather (ix : Index) (pats : List (Except Failure Regex)) (limit : Int) (b : ValueSet)
    (t : String) : ValueSet :=
  pats.foldl (fun (b : ValueSet) pat => if ix.passesPartial limit t pat then b.union (ix.keyVerses t) else b) b

/-- A listed word passes for one of the patterns of the partial words exactly when one of the
words is read as a pattern that matches it whole and fewer verses than the limit hold it. -/
theorem exists_passesPartial (partials : List String) (cs : Bool) (limit : Int) (t : String)
    (hpats : ∀ p ∈ partials, ∃ re, partialPattern p cs = .ok re) :
    (∃ pat ∈ partialPatterns partials cs, ix.passesPartial limit t pat = true) ↔
      ∃ p ∈ partials, (∃ re, partialPattern p cs = .ok re ∧ (re.matchStart? t).isSome = true) ∧
        ∃ n, (ix.entry t).size = .ok n ∧ (n : Int) < limit := by
  simp only [partialPatterns, List.mem_map, passesPartial, Bool.and_eq_true]
  constructor
  · rintro ⟨_, ⟨p, hp, rfl⟩, hmatch, hrare⟩
    obtain ⟨re, hre⟩ := hpats p hp
    refine ⟨p, hp, ⟨re, hre, ?_⟩, ?_⟩
    · simpa [hre, Except.mapError, Except.toOption] using hmatch
    · cases hsize : (ix.entry t).size with
      | error e => simp [hsize, Except.toOption] at hrare
      | ok n => exact ⟨n, rfl, by simpa [hsize, Except.toOption] using hrare⟩
  · rintro ⟨p, hp, ⟨re, hre, hmatch⟩, n, hsize, hlt⟩
    refine ⟨_, ⟨p, hp, rfl⟩, ?_, ?_⟩
    · simpa [hre, Except.mapError, Except.toOption] using hmatch
    · simpa [hsize, Except.toOption] using hlt

theorem mem_partialGather (pats : List (Except Failure Regex)) (limit : Int) (ref : String)
    (b : ValueSet) (t : String) :
    .str ref ∈ (ix.partialGather pats limit b t).items ↔ .str ref ∈ b.items ∨
      ((∃ pat ∈ pats, ix.passesPartial limit t pat = true) ∧ .str ref ∈ (ix.keyVerses t).items) := by
  rw [partialGather, mem_foldl_unionIf]
  constructor
  · rintro (h | ⟨pat, hpat, hP, hS⟩)
    · exact Or.inl h
    · exact Or.inr ⟨⟨pat, hpat, hP⟩, hS⟩
  · rintro (h | ⟨⟨pat, hpat, hP⟩, hS⟩)
    · exact Or.inl h
    · exact Or.inr ⟨pat, hpat, hP, hS⟩

/-- In an index of lists, when every partial word can be read as a pattern, the loops of the search
for partial words always go on, so the search is the fold of its turns over the listed words. -/
theorem partialMatches_eq (hix : ix.Lists) (partials : List String) (cs : Bool) (limit : Int)
    (hpats : ∀ p ∈ partials, ∃ re, partialPattern p cs = .ok re) {ws : List String}
    (hws : (ix.entry "_words_").members = .ok (ws.map .str)) :
    ix.partialMatches partials cs limit =
      .ok (ws.foldl (ix.partialGather (partialPatterns partials cs) limit) {}) := by
  unfold partialMatches
  rw [hws]
  simp only [Except.ok_bind]
  rw [List.forIn_map, forIn_yield_eq_foldl (m := Except Failure) ws _
    (ix.partialGather (partialPatterns partials cs) limit) ?_]
  · rfl
  intro t _ b
  rw [forIn_yield_eq_foldl (m := Except Failure) _ _
    (fun (b : ValueSet) pat => if ix.passesPartial limit t pat then b.union (ix.keyVerses t) else b) ?_]
  · rfl
  -- each pattern was read, and the word's entry is a list, so its size is known
  intro pat hpat b
  obtain ⟨p, hp, rfl⟩ := List.mem_map.mp hpat
  obtain ⟨re, hre⟩ := hpats p hp
  obtain ⟨rs, hrs⟩ := hix.entry_members t
  have hread : (partialPattern p cs).mapError (fun _ => (⟨.exit, ""⟩ : Failure)) = .ok re := by
    rw [hre]
    rfl
  have hsize := size_of_members hrs
  have hpass : ix.passesPartial limit t (.ok re) =
      ((re.matchStart? t).isSome && decide (((rs.map Json.str).length : Int) < limit)) := by
    simp only [passesPartial, Except.toOption, Option.any_some, hsize]
  rw [hread, hpass, Except.ok_bind]
  show (if (re.matchStart? t).isSome = true then _ else _) = _
  by_cases hm : (re.matchStart? t).isSome = true
  · rw [if_pos hm, hm, Bool.true_and]
    show (Json.size (ix.entry t) >>= _) = _
    rw [hsize, Except.ok_bind]
    by_cases hl : ((rs.map Json.str).length : Int) < limit
    · rw [if_pos hl, decide_eq_true hl, if_pos rfl, Lists.ofValue_entry hix, Except.ok_bind]
    · rw [if_neg hl, decide_eq_false hl, if_neg Bool.false_ne_true]
  · rw [if_neg hm, Bool.not_eq_true _ |>.mp hm, Bool.false_and, if_neg Bool.false_ne_true]

/-- **The verses of partial words.** In an index of lists, when every partial word can be read
as a pattern, the search for partial words succeeds and gives the verses of every listed word
that one of the partial words matches whole and that fewer verses than the limit hold. -/
theorem partialMatches_spec (hix : ix.Lists) (partials : List String) (cs : Bool) (limit : Int)
    (hpats : ∀ p ∈ partials, ∃ re, partialPattern p cs = .ok re) :
    ∃ (C : ValueSet) (ws : List String), ix.partialMatches partials cs limit = .ok C ∧
      (ix.entry "_words_").members = .ok (ws.map .str) ∧
      ∀ ref, .str ref ∈ C.items ↔ ∃ word ∈ ws, ∃ p ∈ partials,
        (∃ re, partialPattern p cs = .ok re ∧ (re.matchStart? word).isSome = true) ∧
        (∃ n, (ix.entry word).size = .ok n ∧ (n : Int) < limit) ∧ ix.holds word ref := by
  obtain ⟨ws, hws⟩ := hix.entry_members "_words_"
  refine ⟨_, ws, partialMatches_eq hix partials cs limit hpats hws, hws, fun ref => ?_⟩
  -- a verse is gathered for a listed word that passes for one of the patterns
  rw [ValueSet.mem_foldl_of_step _ ref _ (mem_partialGather _ limit ref)]
  simp only [List.not_mem_nil, false_or, exists_passesPartial partials cs limit _ hpats,
    Lists.mem_keyVerses hix]
  constructor
  · rintro ⟨t, ht, ⟨p, hp, hmatch, hrare⟩, hholds⟩
    exact ⟨t, ht, p, hp, hmatch, hrare, hholds⟩
  · rintro ⟨t, ht, p, hp, hmatch, hrare, hholds⟩
    exact ⟨t, ht, ⟨p, hp, hmatch, hrare⟩, hholds⟩

end Lists

end Index

/-! ### Loops and reading verse texts -/

section Loops

variable {ε α β : Type}

/-- A loop each of whose steps, when it succeeds, goes on with a state that keeps an invariant of
the items taken so far ends, when it succeeds, with the invariant of all its items. -/
theorem ensures_forIn_taken (I : List α → β → Prop) (xs : List α) (init : β)
    (f : α → β → Except ε (ForInStep β)) (h0 : I [] init)
    (hf : ∀ pre a b, a ∈ xs → I pre b → Ensures (f a b) fun r => ∃ b', r = .yield b' ∧ I (pre ++ [a]) b') :
    Ensures (forIn xs init f) (I xs) := by
  -- the loop over a part of the items, after a prefix of them
  have run : ∀ ys : List α, (∀ a ∈ ys, a ∈ xs) → ∀ pre b, I pre b →
      Ensures (forIn ys b f) (I (pre ++ ys)) := by
    intro ys
    induction ys with
    | nil => exact fun _ pre b h => ensures_pure (by rwa [List.append_nil])
    | cons a ys ih =>
      intro hys pre b h
      rw [List.forIn_cons]
      refine ensures_bind (hf pre a b (hys a List.mem_cons_self) h) fun r ⟨b', hr, hb'⟩ => ?_
      subst hr
      have hrest := ih (fun a' ha' => hys a' (List.mem_cons_of_mem _ ha')) _ b' hb'
      rwa [List.append_assoc, List.singleton_append] at hrest
  simpa using run xs (fun _ h => h) [] init h0

end Loops

namespace Search

/-- Keying each reference by a value keeps the references, in order. -/
theorem ensures_mapM_keyed {γ : Type} (g : Json → Except Failure γ) (xs : List Json) :
    Ensures (xs.mapM fun r => do pure ((← g r), r)) fun keyed => keyed.map Prod.snd = xs := by
  induction xs with
  | nil => exact ensures_pure rfl
  | cons x xs ih =>
    rw [List.mapM_cons]
    refine ensures_bind (P := fun p : γ × Json => p.2 = x)
      (ensures_bind (ensures_of_forall fun _ => trivial) fun k _ => ensures_pure rfl) fun p hp => ?_
    exact ensures_bind ih fun ps hps => ensures_pure (by rw [List.map_cons, hp, hps])

/-- Putting references in reading order keeps exactly the references it was given. -/
theorem inReadingOrder_perm (refs : ValueSet) :
    Ensures (inReadingOrder refs) fun ordered => ∀ x, x ∈ ordered ↔ x ∈ refs.items := by
  unfold inReadingOrder
  refine ensures_bind (ensures_mapM_keyed _ refs.items) fun keyed hkeyed => ensures_pure fun x => ?_
  rw [← hkeyed, List.mem_map, List.mem_map]
  simp only [List.mem_mergeSort]

/-- **Reading verse texts.** When it succeeds, reading the texts of references keeps exactly the
references read whose text, as the view shows it, the pattern finds. -/
theorem Searcher.findIn_exact (s : Searcher) (refs : List Json) (r : Regex) (strongs morph : Bool) :
    Ensures (s.findIn refs r strongs morph false) fun F => ∀ ref : String, .str ref ∈ F.items ↔
      .str ref ∈ refs ∧ ∃ t, s.index.verseText { strongs := strongs, morph := morph } (.str ref) = .ok t ∧
        r.test t = true := by
  unfold Searcher.findIn
  refine ensures_bind (ensures_forIn_taken (fun pre (F : ValueSet) => ∀ ref : String,
      .str ref ∈ F.items ↔ .str ref ∈ pre ∧ ∃ t, s.index.verseText
        { strongs := strongs, morph := morph } (.str ref) = .ok t ∧ r.test t = true)
    refs {} _ (by simp) ?_) fun F hF => ensures_pure hF
  intro pre a b _ hb
  cases hv : s.index.verseText { strongs := strongs, morph := morph } a with
  | error e => exact ensures_error e _
  | ok text =>
    dsimp only
    rw [Except.ok_bind]
    by_cases htest : r.test text = true
    · -- the verse read is found: it joins the verses kept
      rw [if_pos htest]
      refine ensures_pure ⟨b.insert a, rfl, fun ref => ?_⟩
      rw [ValueSet.mem_insert_str, hb, List.mem_append, List.mem_singleton]
      constructor
      · rintro (⟨hpre, hfound⟩ | rfl)
        · exact ⟨Or.inl hpre, hfound⟩
        · exact ⟨Or.inr rfl, text, hv, htest⟩
      · rintro ⟨hpre | rfl, hfound⟩
        · exact Or.inl ⟨hpre, hfound⟩
        · exact Or.inr rfl
    · -- the verse read is not found, and its text is not cleaned
      rw [if_neg htest, if_neg (by simp)]
      refine ensures_pure ⟨b, rfl, fun ref => ?_⟩
      rw [hb, List.mem_append, List.mem_singleton]
      constructor
      · rintro ⟨hpre, hfound⟩
        exact ⟨Or.inl hpre, hfound⟩
      · rintro ⟨hpre | rfl, t, ht, htest'⟩
        · exact ⟨hpre, t, ht, htest'⟩
        · rw [hv, Except.ok.injEq] at ht
          exact absurd (ht ▸ htest') htest

/-! ### Phrase searches -/

/-- The pattern that the searches for a loose phrase and for words in order build from their
terms; words in order may have other words between them. -/
def phrasePattern (m : Method) (terms : String) (cs : Bool) : Except Failure Regex :=
  termsPattern terms cs "\\\\b" "" (m == .orderedWords)

/-- The verses a phrase search reads the texts of, before the range: with `*`, those of the listed
words that a word of the phrase matches whole, leaving out words held by 5000 verses or more;
otherwise those of the search for every word. -/
def Searcher.phraseCandidates (s : Searcher) (terms : String) (cs : Bool) :
    Except Failure ValueSet :=
  if terms.contains '*' then s.index.partialMatches (Text.fields terms) cs 5000
  else s.index.allOf (Text.fields terms) cs

/-- The searches for a loose phrase and for words in order search their prepared terms for the
phrase within the prepared range, and cut nothing afterwards. -/
theorem Searcher.find_phrase (s : Searcher) {m : Method} (hm : m = .loosePhrase ∨ m = .orderedWords)
    (terms : Json) (st : Settings) (range : Json) :
    s.find m terms st range = prepare m terms st range >>= fun p => s.phraseSearch m p.1 st p.2 := by
  -- neither method cuts its verses to the range after searching
  have hafter : m.rangeAfter = false := by
    rcases hm with rfl | rfl <;> rfl
  unfold Searcher.find
  congr 1
  funext ⟨t, w⟩
  rcases hm with rfl | rfl
  all_goals
    dsimp only
    simp only [hafter, Bool.false_and, Bool.false_eq_true, if_false, bind_pure]

/-- A phrase of two words or more is searched by building its pattern, gathering its
candidates, and reading, in reading order, the texts of those within the range. -/
theorem Searcher.phraseSearch_eq (s : Searcher) {m : Method}
    (hm : m = .loosePhrase ∨ m = .orderedWords) (terms : String) (st : Settings)
    (within : ValueSet) (hlen : 2 ≤ (Text.fields terms).length) :
    s.phraseSearch m terms st within = (do
      let r ← phrasePattern m terms st.caseSensitive
      let C ← s.phraseCandidates terms st.caseSensitive
      let ordered ← inReadingOrder (if within.isEmpty then C else C.inter within)
      s.findIn ordered r (strongsNumber.test terms) (morphTag.test terms) false) := by
  have hne : ((Text.fields terms).length == 1) = false := by
    rw [beq_eq_false_iff_ne]
    omega
  rcases hm with rfl | rfl
  all_goals
    unfold Searcher.phraseSearch phraseCandidates
    dsimp only
    cases terms.contains '*' <;> simp only [hne, Bool.false_eq_true, if_false, if_true] <;> rfl

/-- **A phrase search reads its candidates.** When it succeeds, the search for a loose phrase or
for words in order, of two words or more, gives exactly its candidates within the range (all of
them when the range holds no verse) whose text the phrase's pattern finds. -/
theorem Searcher.phraseSearch_scan (s : Searcher) {m : Method}
    (hm : m = .loosePhrase ∨ m = .orderedWords) (terms : String) (st : Settings)
    (within : ValueSet) (hlen : 2 ≤ (Text.fields terms).length) :
    Ensures (s.phraseSearch m terms st within) fun F =>
      ∃ r C, phrasePattern m terms st.caseSensitive = .ok r ∧
        s.phraseCandidates terms st.caseSensitive = .ok C ∧
        ∀ ref : String, .str ref ∈ F.items ↔
          (.str ref ∈ C.items ∧ (within.isEmpty = true ∨ .str ref ∈ within.items)) ∧
          ∃ t, s.index.verseText { strongs := strongsNumber.test terms, morph := morphTag.test terms }
            (.str ref) = .ok t ∧ r.test t = true := by
  rw [s.phraseSearch_eq hm terms st within hlen]
  refine ensures_bind (P := fun r => phrasePattern m terms st.caseSensitive = .ok r)
    (fun r hr => hr) fun r hr => ?_
  refine ensures_bind (P := fun C => s.phraseCandidates terms st.caseSensitive = .ok C)
    (fun C hC => hC) fun C hC => ?_
  refine ensures_bind (inReadingOrder_perm _) fun ordered hord => ?_
  refine (s.findIn_exact ordered r _ _).mono fun F hF => ⟨r, C, hr, hC, fun ref => ?_⟩
  rw [hF, hord]
  -- the candidates are cut to the range only when it holds a verse
  cases hw : within.isEmpty
  · simp only [Bool.false_eq_true, if_false, ValueSet.mem_inter_str, false_or]
  · simp only [if_true, true_or, and_true]

/-- **Without `*`, the candidates hold every verse every word finds.** In an index of lists, the
candidates of a phrase without `*` are those of the search for every word, which holds every verse
that every word of the phrase finds. -/
theorem Searcher.phraseCandidates_words (s : Searcher) (hix : s.index.Lists) (terms : String)
    (cs : Bool) (hstar : terms.contains '*' = false) (hne : Text.fields terms ≠ []) :
    ∃ C, s.phraseCandidates terms cs = .ok C ∧
      ∀ ref, (∀ w ∈ Text.fields terms, s.index.finds cs w ref) → .str ref ∈ C.items := by
  rw [phraseCandidates, hstar, if_neg Bool.false_ne_true]
  refine ⟨_, Index.allOf_eq hix _ cs, fun ref hall => ?_⟩
  -- the search gives the verses that every word of a final run of the words finds
  obtain ⟨k, -, hrun⟩ := ValueSet.foldl_narrow_finalRun
    ((Text.fields terms).map (s.index.wordVerses cs)) (by simpa using hne)
  rw [hrun]
  intro S hS
  obtain ⟨w, hw, rfl⟩ := List.mem_map.mp (List.mem_of_mem_drop hS)
  exact ((Index.foldCasings_union hix cs w).2 ref).mpr (hall w hw)

/-- **With `*`, the candidates leave out common words.** In an index of lists, when every word of
a phrase with `*` can be read as a pattern, the candidates are the verses of every listed word that
a word of the phrase matches whole and that fewer than 5000 verses hold. -/
theorem Searcher.phraseCandidates_partial (s : Searcher) (hix : s.index.Lists) (terms : String)
    (cs : Bool) (hstar : terms.contains '*' = true)
    (hpats : ∀ p ∈ Text.fields terms, ∃ re, Index.partialPattern p cs = .ok re) :
    ∃ (C : ValueSet) (ws : List String), s.phraseCandidates terms cs = .ok C ∧
      (s.index.entry "_words_").members = .ok (ws.map .str) ∧
      ∀ ref, .str ref ∈ C.items ↔ ∃ word ∈ ws, ∃ p ∈ Text.fields terms,
        (∃ re, Index.partialPattern p cs = .ok re ∧ (re.matchStart? word).isSome = true) ∧
        (∃ n, (s.index.entry word).size = .ok n ∧ (n : Int) < 5000) ∧ s.index.holds word ref := by
  rw [phraseCandidates, hstar, if_pos rfl]
  exact Index.partialMatches_spec hix _ cs 5000 hpats

/-- **Without `*`, no verse the pattern finds is lost.** When the index lists, under every word of a
phrase without `*`, every verse whose text the phrase's pattern finds, a search for the loose phrase
or for the words in order that succeeds gives exactly the verses of the range (of the Bible when
the range holds no verse) whose text the pattern finds. -/
theorem Searcher.phraseSearch_exact (s : Searcher) (hix : s.index.Lists) {m : Method}
    (hm : m = .loosePhrase ∨ m = .orderedWords) (terms : String) (st : Settings)
    (within : ValueSet) (hlen : 2 ≤ (Text.fields terms).length) (hstar : terms.contains '*' = false)
    (hcover : ∀ r, phrasePattern m terms st.caseSensitive = .ok r → ∀ ref t,
      s.index.verseText { strongs := strongsNumber.test terms, morph := morphTag.test terms }
        (.str ref) = .ok t → r.test t = true →
      ∀ w ∈ Text.fields terms, s.index.finds st.caseSensitive w ref) :
    Ensures (s.phraseSearch m terms st within) fun F =>
      ∃ r, phrasePattern m terms st.caseSensitive = .ok r ∧
        ∀ ref : String, .str ref ∈ F.items ↔ (within.isEmpty = true ∨ .str ref ∈ within.items) ∧
          ∃ t, s.index.verseText { strongs := strongsNumber.test terms, morph := morphTag.test terms }
            (.str ref) = .ok t ∧ r.test t = true := by
  obtain ⟨C', hC', hall⟩ := s.phraseCandidates_words hix terms st.caseSensitive hstar
    (by intro h; rw [h] at hlen; simp at hlen)
  refine (s.phraseSearch_scan hm terms st within hlen).mono fun F ⟨r, C, hr, hC, hF⟩ =>
    ⟨r, hr, fun ref => ?_⟩
  obtain rfl : C = C' := Except.ok.inj (hC.symm.trans hC')
  rw [hF]
  -- a verse the pattern finds is a candidate
  constructor
  · rintro ⟨⟨-, hrange⟩, hfound⟩
    exact ⟨hrange, hfound⟩
  · rintro ⟨hrange, t, ht, htest⟩
    exact ⟨⟨hall ref (hcover r hr ref t ht htest), hrange⟩, t, ht, htest⟩

/-- **Without `*`, an index that lists whole words loses no verse.** For a phrase of two words or
more of letters, on an index of lists that lists under each of its words every verse whose text
holds that word whole, a search for the loose phrase or for the words in order that succeeds gives
exactly the verses of the range (of the Bible when the range holds no verse) whose text holds the
phrase: its words in order, each between word edges, with filler between them. -/
theorem Searcher.phraseSearch_wholeWords (s : Searcher) (hix : s.index.Lists) {m : Method}
    (hm : m = .loosePhrase ∨ m = .orderedWords) (ws : List Phrase.Word) (st : Settings)
    (within : ValueSet) (hlen : 2 ≤ ws.length) (hstar : ∀ w ∈ ws, '*' ∉ w.chars)
    (hlist : ∀ w ∈ ws, ∀ ref t, s.index.verseText {} (.str ref) = .ok t →
      Phrase.HoldsWhole t.toList.toArray st.caseSensitive w →
      s.index.finds st.caseSensitive (String.ofList w.chars) ref) :
    Ensures (s.phraseSearch m (Phrase.terms ws) st within) fun F =>
      ∀ ref : String, .str ref ∈ F.items ↔ (within.isEmpty = true ∨ .str ref ∈ within.items) ∧
        ∃ t, s.index.verseText {} (.str ref) = .ok t ∧
          ∃ i j, Phrase.PhraseAt t.toList.toArray .plain st.caseSensitive (m == .orderedWords) ws i j := by
  have hne : ws ≠ [] := by
    rintro rfl
    simp at hlen
  -- the pattern the search builds matches exactly the texts that hold the phrase
  obtain ⟨r, hr, -, -, -, hmatch⟩ :=
    phrase_search_matches .plain st.caseSensitive (m == .orderedWords) hne
  have hpattern : phrasePattern m (Phrase.terms ws) st.caseSensitive = .ok r := hr
  have hfields := Phrase.fields_terms hne
  -- the terms are letters and blanks: no `*`, no Strong's number and no tag
  obtain ⟨hnostar, hnum, htag⟩ := Phrase.terms_plain hstar
  have hview : ({ strongs := strongsNumber.test (Phrase.terms ws)
                  morph := morphTag.test (Phrase.terms ws) } : TextView) = {} := by
    rw [hnum, htag]
  refine (s.phraseSearch_exact hix hm _ st within (by rw [hfields, List.length_map]; exact hlen)
    hnostar ?_).mono fun F ⟨r', hr', hF⟩ ref => ?_
  · -- a text the pattern finds holds the phrase, so it holds each word whole and is listed
    intro r' hr' ref t ht htest w' hw'
    obtain rfl : r' = r := Except.ok.inj (hr'.symm.trans hpattern)
    obtain ⟨i, j, hat⟩ := (hmatch t).mp htest
    rw [hfields] at hw'
    obtain ⟨w, hw, rfl⟩ := List.mem_map.mp hw'
    rw [hview] at ht
    exact hlist w hw ref t ht (hat.holdsWhole w hw)
  · obtain rfl : r' = r := Except.ok.inj (hr'.symm.trans hpattern)
    rw [hF ref, hview]
    simp only [hmatch]

/-- **What the phrase searches read.** On an index of lists, the searches for a loose phrase and
for words in order search their prepared terms, and a phrase of two words or more that is searched
gives, when the search succeeds, exactly its candidates within the range (all of them when the
range holds no verse) whose text the phrase's pattern finds. Without `*` the candidates hold every
verse that every word finds, so when the index lists under every word each verse whose text the
pattern finds, the search gives exactly the verses of the range whose text the pattern finds; for a
phrase of words of letters, that holds when the index lists under each word every verse whose
text holds the word whole, and those verses are the ones whose text holds the phrase. With `*` the
candidates are only the verses of listed words that a word of the phrase matches whole and that
fewer than 5000 verses hold: a verse whose matching words are all more common is never read. -/
theorem Searcher.phraseSearch_candidates (s : Searcher) (hix : s.index.Lists) :
    (∀ (m : Method) terms st range, (m = .loosePhrase ∨ m = .orderedWords) →
      s.find m terms st range = prepare m terms st range >>= fun p => s.phraseSearch m p.1 st p.2) ∧
    (∀ (m : Method) terms st within, (m = .loosePhrase ∨ m = .orderedWords) →
      2 ≤ (Text.fields terms).length →
      Ensures (s.phraseSearch m terms st within) fun F =>
        ∃ r C, phrasePattern m terms st.caseSensitive = .ok r ∧
          s.phraseCandidates terms st.caseSensitive = .ok C ∧
          ∀ ref : String, .str ref ∈ F.items ↔
            (.str ref ∈ C.items ∧ (within.isEmpty = true ∨ .str ref ∈ within.items)) ∧
            ∃ t, s.index.verseText
              { strongs := strongsNumber.test terms, morph := morphTag.test terms } (.str ref) =
                .ok t ∧ r.test t = true) ∧
    (∀ terms cs, terms.contains '*' = false → Text.fields terms ≠ [] →
      ∃ C, s.phraseCandidates terms cs = .ok C ∧
        ∀ ref, (∀ w ∈ Text.fields terms, s.index.finds cs w ref) → .str ref ∈ C.items) ∧
    (∀ terms cs, terms.contains '*' = true →
      (∀ p ∈ Text.fields terms, ∃ re, Index.partialPattern p cs = .ok re) →
      ∃ (C : ValueSet) (ws : List String), s.phraseCandidates terms cs = .ok C ∧
        (s.index.entry "_words_").members = .ok (ws.map .str) ∧
        ∀ ref, .str ref ∈ C.items ↔ ∃ word ∈ ws, ∃ p ∈ Text.fields terms,
          (∃ re, Index.partialPattern p cs = .ok re ∧ (re.matchStart? word).isSome = true) ∧
          (∃ n, (s.index.entry word).size = .ok n ∧ (n : Int) < 5000) ∧ s.index.holds word ref) ∧
    (∀ (m : Method) terms st within, (m = .loosePhrase ∨ m = .orderedWords) →
      2 ≤ (Text.fields terms).length → terms.contains '*' = false →
      (∀ r, phrasePattern m terms st.caseSensitive = .ok r → ∀ ref t,
        s.index.verseText { strongs := strongsNumber.test terms, morph := morphTag.test terms }
          (.str ref) = .ok t → r.test t = true →
        ∀ w ∈ Text.fields terms, s.index.finds st.caseSensitive w ref) →
      Ensures (s.phraseSearch m terms st within) fun F =>
        ∃ r, phrasePattern m terms st.caseSensitive = .ok r ∧
          ∀ ref : String, .str ref ∈ F.items ↔ (within.isEmpty = true ∨ .str ref ∈ within.items) ∧
            ∃ t, s.index.verseText
              { strongs := strongsNumber.test terms, morph := morphTag.test terms } (.str ref) =
                .ok t ∧ r.test t = true) ∧
    (∀ (m : Method) (ws : List Phrase.Word) st within, (m = .loosePhrase ∨ m = .orderedWords) →
      2 ≤ ws.length → (∀ w ∈ ws, '*' ∉ w.chars) →
      (∀ w ∈ ws, ∀ ref t, s.index.verseText {} (.str ref) = .ok t →
        Phrase.HoldsWhole t.toList.toArray st.caseSensitive w →
        s.index.finds st.caseSensitive (String.ofList w.chars) ref) →
      Ensures (s.phraseSearch m (Phrase.terms ws) st within) fun F =>
        ∀ ref : String, .str ref ∈ F.items ↔ (within.isEmpty = true ∨ .str ref ∈ within.items) ∧
          ∃ t, s.index.verseText {} (.str ref) = .ok t ∧
            ∃ i j, Phrase.PhraseAt t.toList.toArray .plain st.caseSensitive (m == .orderedWords) ws i j) :=
  ⟨fun _ terms st range hm => s.find_phrase hm terms st range,
    fun _ terms st within hm hlen => s.phraseSearch_scan hm terms st within hlen,
    fun terms cs hstar hne => s.phraseCandidates_words hix terms cs hstar hne,
    fun terms cs hstar hpats => s.phraseCandidates_partial hix terms cs hstar hpats,
    fun _ terms st within hm hlen hstar hcover =>
      s.phraseSearch_exact hix hm terms st within hlen hstar hcover,
    fun _ ws st within hm hlen hstar hlist =>
      s.phraseSearch_wholeWords hix hm ws st within hlen hstar hlist⟩

/-- The four-word index is an index of lists, so its phrase searches read their candidates. -/
theorem fourWords_phraseSearch_candidates :
    Index.fourWords.Lists ∧
    (∀ (m : Method) terms st range, (m = .loosePhrase ∨ m = .orderedWords) →
      (⟨Index.fourWords, default, false⟩ : Searcher).find m terms st range =
        prepare m terms st range >>= fun p =>
          (⟨Index.fourWords, default, false⟩ : Searcher).phraseSearch m p.1 st p.2) ∧
    (∀ (m : Method) terms st within, (m = .loosePhrase ∨ m = .orderedWords) →
      2 ≤ (Text.fields terms).length →
      Ensures ((⟨Index.fourWords, default, false⟩ : Searcher).phraseSearch m terms st within)
        fun F =>
        ∃ r C, phrasePattern m terms st.caseSensitive = .ok r ∧
          (⟨Index.fourWords, default, false⟩ : Searcher).phraseCandidates terms st.caseSensitive =
            .ok C ∧
          ∀ ref : String, .str ref ∈ F.items ↔
            (.str ref ∈ C.items ∧ (within.isEmpty = true ∨ .str ref ∈ within.items)) ∧
            ∃ t, Index.fourWords.verseText
              { strongs := strongsNumber.test terms, morph := morphTag.test terms } (.str ref) =
                .ok t ∧ r.test t = true) ∧
    (∀ terms cs, terms.contains '*' = false → Text.fields terms ≠ [] →
      ∃ C, (⟨Index.fourWords, default, false⟩ : Searcher).phraseCandidates terms cs = .ok C ∧
        ∀ ref, (∀ w ∈ Text.fields terms, Index.fourWords.finds cs w ref) → .str ref ∈ C.items) ∧
    (∀ terms cs, terms.contains '*' = true →
      (∀ p ∈ Text.fields terms, ∃ re, Index.partialPattern p cs = .ok re) →
      ∃ (C : ValueSet) (ws : List String),
        (⟨Index.fourWords, default, false⟩ : Searcher).phraseCandidates terms cs = .ok C ∧
        (Index.fourWords.entry "_words_").members = .ok (ws.map .str) ∧
        ∀ ref, .str ref ∈ C.items ↔ ∃ word ∈ ws, ∃ p ∈ Text.fields terms,
          (∃ re, Index.partialPattern p cs = .ok re ∧ (re.matchStart? word).isSome = true) ∧
          (∃ n, (Index.fourWords.entry word).size = .ok n ∧ (n : Int) < 5000) ∧
          Index.fourWords.holds word ref) ∧
    (∀ (m : Method) terms st within, (m = .loosePhrase ∨ m = .orderedWords) →
      2 ≤ (Text.fields terms).length → terms.contains '*' = false →
      (∀ r, phrasePattern m terms st.caseSensitive = .ok r → ∀ ref t,
        Index.fourWords.verseText
          { strongs := strongsNumber.test terms, morph := morphTag.test terms } (.str ref) =
            .ok t → r.test t = true →
        ∀ w ∈ Text.fields terms, Index.fourWords.finds st.caseSensitive w ref) →
      Ensures ((⟨Index.fourWords, default, false⟩ : Searcher).phraseSearch m terms st within)
        fun F =>
        ∃ r, phrasePattern m terms st.caseSensitive = .ok r ∧
          ∀ ref : String, .str ref ∈ F.items ↔ (within.isEmpty = true ∨ .str ref ∈ within.items) ∧
            ∃ t, Index.fourWords.verseText
              { strongs := strongsNumber.test terms, morph := morphTag.test terms } (.str ref) =
                .ok t ∧ r.test t = true) ∧
    (∀ (m : Method) (ws : List Phrase.Word) st within, (m = .loosePhrase ∨ m = .orderedWords) →
      2 ≤ ws.length → (∀ w ∈ ws, '*' ∉ w.chars) →
      (∀ w ∈ ws, ∀ ref t, Index.fourWords.verseText {} (.str ref) = .ok t →
        Phrase.HoldsWhole t.toList.toArray st.caseSensitive w →
        Index.fourWords.finds st.caseSensitive (String.ofList w.chars) ref) →
      Ensures ((⟨Index.fourWords, default, false⟩ : Searcher).phraseSearch m (Phrase.terms ws) st
        within) fun F =>
        ∀ ref : String, .str ref ∈ F.items ↔ (within.isEmpty = true ∨ .str ref ∈ within.items) ∧
          ∃ t, Index.fourWords.verseText {} (.str ref) = .ok t ∧
            ∃ i j, Phrase.PhraseAt t.toList.toArray .plain st.caseSensitive (m == .orderedWords) ws i j) :=
  ⟨Index.fourWords_lists,
    Searcher.phraseSearch_candidates ⟨Index.fourWords, default, false⟩ Index.fourWords_lists⟩

end Search

end Scripture
