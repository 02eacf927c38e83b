import Mathlib
import Scripture.Proofs.PhrasePattern
import Scripture.Proofs.SearchRange
import Scripture.Proofs.TermCharacters
import Scripture.Proofs.WordIntersection

/-!
# What a combined search finds

A combined search reads its terms into phrases and excluded phrases (see `combined`), searches
each phrase for all its words, and gives the verses its phrases find less those its excluded
phrases find. It does not join what the phrases find: it toggles it, taking the symmetric
difference, so a verse that two phrases find is dropped. And it passes its case setting on to
its searches as their added-text setting, and whether a range was given as their case setting:
with no range, every phrase is searched without telling case apart, whatever case setting the
search was given.

So, with no range and no phrase holding a `+` (a phrase searched as a phrase) or being `&` (which
intersects the next phrase's verses), a combined search finds the verses that an odd number of
its phrases find and an even number of its excluded phrases find, each phrase searched for all
its words without telling case apart.

* `Searcher.combinedPart` — what the search does with one list of phrases.
* `Searcher.wordsFound` — the verses an all-words search finds on its own.
* `Searcher.combinedSearch_parity` — what a combined search with no range finds.
* `combined_markTerms_plain` — terms of plain characters give such phrases, and
  `betaGamma_combinedSearch_drops` is a search of them that drops a verse two phrases find.
* `Searcher.find_allWords_letters` — a word of letters is searched as itself.
-/

namespace Scripture

/-- A verse is held by the symmetric differences of sets folded in turn when an odd number of
the sets and the set they started from hold it. -/
theorem ValueSet.mem_foldl_symmDiff_str (F : String → ValueSet) (L : List String)
    (acc : ValueSet) (r : String) :
    .str r ∈ (L.foldl (fun acc w => acc.symmDiff (F w)) acc).items ↔
      (L.countP (fun w => (F w).contains (.str r)) + (acc.contains (.str r)).toNat) % 2 = 1 := by
  induction L generalizing acc with
  | nil =>
    rw [List.foldl_nil, List.countP_nil, Nat.zero_add, ← ValueSet.contains_str]
    cases acc.contains (.str r) <;> decide
  | cons w L ih =>
    rw [List.foldl_cons, ih, List.countP_cons, ValueSet.contains_symmDiff_str]
    cases acc.contains (.str r) <;> cases (F w).contains (.str r) <;>
      simp [Nat.add_assoc, Nat.add_mod_right]

namespace Search

/-! ### The phrases of a combined search -/

/-- A phrase that a combined search searches for all its words: it holds no `+`, and is not
`&`. -/
def PlainItem (w : String) : Prop := w.contains '+' = false ∧ w ≠ "&"

/-- A character that reading and marking terms keep apart from `+` and `&`: one of the first 128,
other than these two. -/
def plainChar (c : Char) : Bool := c.toNat < 128 && c != '+' && c != '&'

/-- Upper case keeps a character plain. -/
theorem plainChar_upperFull (c : Char) (hc : plainChar c = true) :
    ∀ d ∈ Text.upperFull c, plainChar d = true := by
  have hlt : c.toNat < 128 := by
    simp only [plainChar, Bool.and_eq_true, decide_eq_true_eq] at hc
    exact hc.1.1
  -- the upper case of each of the first 128 characters, checked one by one
  have hascii : ∀ n : Fin 128, plainChar (Char.ofNat n) = true →
      plainChar (Char.ofNat n).toUpper = true := by decide
  have hof : Char.ofNat c.toNat = c := Char.ofNat_toNat c
  intro d hd
  rw [Text.upperFull, if_pos hlt, List.mem_singleton] at hd
  rw [hd, ← hof]
  exact hascii ⟨c.toNat, hlt⟩ (by rw [Fin.val_mk, hof]; exact hc)

/-- **Plain terms give plain phrases.** Terms of plain characters give phrases and excluded
phrases that a combined search searches for all their words. -/
theorem combined_markTerms_plain {text : String} (htext : text.toList.all plainChar = true) :
    ∀ w ∈ (combined (markTerms text)).1 ++ (combined (markTerms text)).2, PlainItem w := by
  obtain ⟨hinc, hexc⟩ := combined_markTerms_chars (P := fun c => plainChar c = true)
    (by decide) plainChar_upperFull (by decide) (List.all_eq_true.mp htext)
  intro w hw
  have hchars : ∀ c ∈ w.toList, plainChar c = true := by
    rcases List.mem_append.mp hw with hw | hw
    exacts [hinc w hw, hexc w hw]
  refine ⟨?_, ?_⟩
  · rw [String.contains_char_eq, decide_eq_false_iff_not]
    intro hplus
    exact absurd (hchars '+' hplus) (by decide)
  · rintro rfl
    exact absurd (hchars '&' (by decide)) (by decide)

/-! ### Searching the phrases -/

/-- What a combined search does with one list of phrases: a phrase holding `+` is searched as a
phrase, `&` makes the next phrase intersect, and any other phrase is searched for all its words;
what each search finds is toggled in, or intersected after `&`. -/
def Searcher.combinedPart (s : Searcher) (inner : Settings) (phrases : Bool)
    (items : List String) : Printing ValueSet := do
  let mut acc : ValueSet := {}
  let mut joinNext := false
  for w in items do
    if phrases then
      acc := acc.union (← s.basic .phrase (.str (w.replace "+" " ")) inner .null)
    else if w.contains '+' then
      let got ← s.basic .phrase (.str (w.replace "+" " ")) inner .null
      acc := if joinNext then acc.inter got else acc.symmDiff got
      joinNext := false
    else if w == "&" then
      joinNext := true
    else
      let got ← s.basic .allWords (.str w) inner .null
      acc := if joinNext then acc.inter got else acc.symmDiff got
      joinNext := false
  pure acc

/-- A combined search prepares its terms, and searches its phrases and excluded phrases each by
`combinedPart`. -/
theorem Searcher.combinedSearch_eq (s : Searcher) (terms : Json) (st : Settings) (range : Json)
    (phrases : Bool) : s.combinedSearch terms st range phrases = (do
      let (terms, within) ← lift (prepare .combined terms st range)
      let (included, excluded) := combined terms
      let inner : Settings :=
        { st with added := st.caseSensitive, caseSensitive := !within.isEmpty }
      let found ← s.combinedPart inner phrases included
      pure (found.diff (← s.combinedPart inner phrases excluded))) := rfl

/-- The verses an all-words search of a text finds with no range; none when it fails. -/
def Searcher.wordsFound (s : Searcher) (st : Settings) (w : String) : ValueSet :=
  match s.find .allWords (.str w) st .null with
  | .ok R => R
  | .error _ => {}

/-- A search reads no added-text setting. -/
theorem Searcher.find_added (s : Searcher) (m : Method) (terms : Json) (st : Settings) (b : Bool)
    (range : Json) : s.find m terms { st with added := b } range = s.find m terms st range := rfl

/-- On an index of well-formed lists, an all-words search with no range succeeds. -/
theorem Searcher.find_allWords_ok (s : Searcher) (hix : s.index.Lists) (st : Settings)
    (w : String) : s.find .allWords (.str w) st .null = .ok (s.wordsFound st w) := by
  have hok : ∃ R, s.find .allWords (.str w) st .null = .ok R := by
    unfold Searcher.find prepare
    simp [joinTerms, rangeRefs, Json.truthy, Index.allOf_eq hix]
  obtain ⟨R, hR⟩ := hok
  rw [Searcher.wordsFound, hR]

/-- **A word of letters is searched as itself.** With no Strong's numbers or tags asked for and no
range, the all-words search of a word of letters is the search for that one word: marking and
cleaning leave it as it is. -/
theorem Searcher.find_allWords_letters (s : Searcher) {w : String} (hne : w ≠ "")
    (hw : w.toList.all Char.isAlpha = true) (st : Settings)
    (hst : st.strongs = false ∧ st.morph = false) :
    s.find .allWords (.str w) st .null = s.index.allOf [w] st.caseSensitive := by
  have hα : ∀ c ∈ w.toList, c.isAlpha = true := List.all_eq_true.mp hw
  have hself : String.ofList w.toList = w := String.ofList_toList
  have hmark : markTerms w = w := by
    rw [← hself, markTerms_word fun c hc => unmarked_of_isAlpha (hα c hc)]
  have hclean : cleanText w = w := by
    rw [← hself, cleanText_word fun c hc => ⟨isWordChar_of_isAlpha (hα c hc), isBlank_of_isAlpha (hα c hc)⟩]
  have hfields : Text.fields w = [w] := by
    have h : Text.fields (String.ofList ([' '].intercalate [w.toList])) = [w.toList].map String.ofList :=
      fields_joined (List.cons_ne_nil _ _)
        (by simpa using ⟨hne, fun c hc => isBlank_of_isAlpha (hα c hc)⟩)
    rwa [List.intercalate_singleton, hself, List.map_singleton, hself] at h
  unfold Searcher.find prepare
  simp [joinTerms, rangeRefs, Json.truthy, Method.keepsTerms, Method.cleansTerms, hmark, hclean,
    hst, hfields]

/-- In an index of lists, the all-words search of a word of letters finds the references the word
finds. -/
theorem Searcher.mem_wordsFound_letters (s : Searcher) (hix : s.index.Lists) {w : String}
    (hne : w ≠ "") (hw : w.toList.all Char.isAlpha = true) (st : Settings)
    (hst : st.strongs = false ∧ st.morph = false) (r : String) :
    .str r ∈ (s.wordsFound st w).items ↔ s.index.finds st.caseSensitive w r := by
  obtain ⟨R, hR, -, k, hk, hrun⟩ :=
    Index.allOf_intersects s.index hix [w] st.caseSensitive (List.cons_ne_nil _ _)
  have hfound : s.wordsFound st w = R := by
    rw [Searcher.wordsFound, s.find_allWords_letters hne hw st hst, hR]
  obtain rfl : k = 0 := by simpa using hk
  rw [hfound, hrun]
  simp

/-- With no `&` before, each phrase toggles its verses in. -/
theorem foldl_symmDiff_unjoined (F : String → ValueSet) (L : List String) (acc : ValueSet) :
    L.foldl (fun (b : ValueSet × Bool) w =>
        (if b.2 = true then b.1.inter (F w) else b.1.symmDiff (F w), false)) (acc, false) =
      (L.foldl (fun acc w => acc.symmDiff (F w)) acc, false) := by
  induction L generalizing acc with
  | nil => rfl
  | cons w L ih => exact ih _

/-- **Plain phrases are toggled in.** Phrases that are searched for all their words, each search
succeeding, give the symmetric difference of what they find, and print nothing. -/
theorem Searcher.combinedPart_plain (s : Searcher) (inner : Settings) (F : String → ValueSet)
    (items : List String) (hplain : ∀ w ∈ items, PlainItem w)
    (hF : ∀ w ∈ items, s.find .allWords (.str w) inner .null = .ok (F w)) :
    s.combinedPart inner false items =
      pure (items.foldl (fun acc w => acc.symmDiff (F w)) {}) := by
  unfold Searcher.combinedPart
  simp only [Bool.false_eq_true, if_false]
  rw [forIn_yield_eq_foldl items _ (fun (b : ValueSet × Bool) w =>
      (if b.2 = true then b.1.inter (F w) else b.1.symmDiff (F w), false)), pure_bind,
    foldl_symmDiff_unjoined]
  -- each phrase is searched for all its words, and what is found is toggled in
  intro w hw b
  obtain ⟨hplus, hamp⟩ := hplain w hw
  rw [if_neg (by simp [hplus]), if_neg (by simpa using hamp)]
  simp only [Searcher.basic, hF w hw, lift, pure_bind]

/-- A combined search of a text reads the text with its numbers and tags marked. -/
theorem prepare_combined (text : String) (st : Settings) {range : Json} {W : ValueSet}
    (hR : rangeRefs range = .ok W) :
    prepare .combined (.str text) st range = .ok (markTerms text, W) := by
  simp [prepare, joinTerms, hR, Method.keepsTerms, Method.cleansTerms]

/-- **What a combined search finds with no range.** On an index of well-formed lists, a combined
search with a range that holds no verse, whose phrases and excluded phrases hold no `+` and none
of which is `&`, succeeds and prints nothing. It finds the verses that an odd number of its
phrases find and an even number of its excluded phrases find, each phrase searched for all its
words without telling case apart, whatever the case setting. -/
theorem Searcher.combinedSearch_parity (s : Searcher) (hix : s.index.Lists) (text : String)
    (st : Settings) (range : Json) {W : ValueSet} (hR : rangeRefs range = .ok W)
    (hW : W.isEmpty = true)
    (hplain : ∀ w ∈ (combined (markTerms text)).1 ++ (combined (markTerms text)).2, PlainItem w)
    (out : String) :
    ∃ R : ValueSet, (s.combinedSearch (.str text) st range false).run.run out = (.ok R, out) ∧
      ∀ r : String, .str r ∈ R.items ↔
        (combined (markTerms text)).1.countP (fun w =>
          (s.wordsFound { st with caseSensitive := false } w).contains (.str r)) % 2 = 1 ∧
        (combined (markTerms text)).2.countP (fun w =>
          (s.wordsFound { st with caseSensitive := false } w).contains (.str r)) % 2 = 0 := by
  rw [Searcher.combinedSearch_eq, prepare_combined text st hR,
    show (lift (Except.ok (markTerms text, W)) : Printing _) = pure (markTerms text, W) from rfl,
    pure_bind]
  dsimp only
  rw [hW, Bool.not_true]
  generalize combined (markTerms text) = L at hplain ⊢
  obtain ⟨inc, exc⟩ := L
  dsimp only at hplain ⊢
  -- with no range, the phrases are searched without telling case apart
  have hF : ∀ w, s.find .allWords (.str w)
      { st with added := st.caseSensitive, caseSensitive := false } .null =
        .ok (s.wordsFound { st with caseSensitive := false } w) := fun w =>
    (s.find_added .allWords (.str w) { st with caseSensitive := false } st.caseSensitive
      .null).trans (s.find_allWords_ok hix _ w)
  rw [s.combinedPart_plain _ _ _ (fun w hw => hplain w (List.mem_append_left _ hw))
      fun w _ => hF w, pure_bind,
    s.combinedPart_plain _ _ _ (fun w hw => hplain w (List.mem_append_right _ hw))
      fun w _ => hF w, pure_bind]
  refine ⟨_, rfl, fun r => ?_⟩
  have hnone : ({} : ValueSet).contains (.str r) = false := rfl
  rw [ValueSet.mem_diff_str, ValueSet.mem_foldl_symmDiff_str, ValueSet.mem_foldl_symmDiff_str,
    hnone, Bool.toNat_false, Nat.add_zero, Nat.add_zero]
  omega

/-- Two phrases that find the same verse toggle it out: on the three-word index, where `beta`
and `gamma` both stand in Genesis 1:2, the combined search `beta OR gamma` succeeds without that
verse. -/
theorem betaGamma_combinedSearch_drops :
    ∃ R : ValueSet, ((⟨Index.threeWords, default, false⟩ : Searcher).combinedSearch
      (.str "beta OR gamma") {} .null false).run.run "" = (.ok R, "") ∧ .str "Genesis 1:2" ∉ R.items := by
  set s : Searcher := ⟨Index.threeWords, default, false⟩
  -- the terms hold no digit, parenthesis or brace, so marking leaves them as they are
  have hplain := List.all_eq_true.mp (show ("beta OR gamma".toList.all fun c =>
    !Text.isDigit c && c != '(' && c != '\x7b') = true by decide)
  have hmarked := markTerms_word (X := "beta OR gamma".toList) fun c hc => by simpa [and_assoc] using hplain c hc
  rw [String.ofList_toList] at hmarked
  have hphrases : combined (markTerms "beta OR gamma") = (["beta", "gamma"], []) := by
    rw [hmarked]
    decide
  obtain ⟨R, hR, hmem⟩ := Searcher.combinedSearch_parity s Index.threeWords_lists "beta OR gamma" {}
    .null (W := {}) rfl rfl (combined_markTerms_plain (by decide)) ""
  refine ⟨R, hR, fun hr => ?_⟩
  -- each of the two phrases finds the verse, so it is toggled in and out again
  have hboth : ∀ w ∈ ["beta", "gamma"],
      (s.wordsFound { caseSensitive := false } w).contains (.str "Genesis 1:2") = true := by
    simp only [List.mem_cons, List.not_mem_nil, or_false, ValueSet.contains_str]
    rintro w (rfl | rfl) <;>
    · refine (s.mem_wordsFound_letters Index.threeWords_lists (by decide) (by decide) _ ⟨rfl, rfl⟩ _).mpr
        (.inl ⟨[.str "Genesis 1:2"], ?_, List.mem_singleton_self _⟩)
      rw [Index.entry, cleanKey_eq_self (by decide)]
      rfl
  rw [hmem, hphrases] at hr
  simp [hboth] at hr

end Search

end Scripture
