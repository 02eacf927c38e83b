import Mathlib
import Scripture.Markup.Tree
import Scripture.Proofs.DocumentShape
import Scripture.Proofs.PhraseCandidates

/-!
# What the facts gathered from verse markup hold

Reading verse markup gathers facts from the tree: each element with a lemma or morph attribute
lists its clean text under each Strong's number and morphological tag its items name, and lists
its word attributes under that text; each element passes up the facts of its children merged
into its own.

Merging loses nothing and adds nothing but repeats: under each key the merged facts list the
texts of the whole, then each text of the part or of the whole that is not empty, once. So the
facts of a tree carry every element within it: its clean text is listed under each of its numbers
and tags, and its attributes, which name exactly those, under the text. A document has one root
element, and its facts are the root's merged into nothing, so each list holds each text once and
no empty text. But one element whose attributes cannot be read, an item without a colon or a
paragraph mark without a `marker`, makes the reading of the whole tree fail, and the verse then
keeps none of its numbers.

* `VerseFacts.texts_merge`, `VerseFacts.mem_texts_merge`, `VerseFacts.attrsOf_merge` — what a
  merge lists, key by key.
* `attrFacts_spec`, `attrFacts_error_iff` — what the word attributes of one element add, and
  when they cannot be read.
* `factsNode_spec` — the facts of a tree carry every element within it.
* `factsNode_error_iff` — the reading of a tree fails exactly when an element within it cannot be
  read.
* `readNodes_spec`, `readNodes_eq_none_iff` — the same for the top-level nodes of a verse.
* `readNodes_carries_words` — the three together: merging, failure and what a read verse holds.
* `verseFacts_of_unreadable` — a verse that cannot be read keeps only its raw text.
-/

namespace Scripture.Markup

/-! ### Association lists -/

section Upsert

variable {α : Type} (xs : List (String × α)) (k : String) (f : Option α → α)

theorem lookup_cons_of_ne {β : Type} {k' a : String} {v : β} {ys : List (String × β)}
    (h : k' ≠ a) : ((a, v) :: ys).lookup k' = ys.lookup k' := by
  have hb : (k' == a) = false := by simpa using h
  simp only [List.lookup_cons, hb]

theorem lookup_eq_none_of_not_mem_keys {β : Type} {k' : String} {ys : List (String × β)}
    (h : k' ∉ ys.map Prod.fst) : ys.lookup k' = none := by
  rw [List.lookup_eq_none_iff]
  intro p hp
  have hne : p.1 ≠ k' := fun hpk => h (List.mem_map.mpr ⟨p, hp, hpk⟩)
  simp [bne, Ne.symm hne]

/-- The test `upsert` makes for its key. -/
theorem any_key_iff : xs.any (·.1 == k) = true ↔ k ∈ xs.map Prod.fst := by
  simp [List.any_eq_true, beq_iff_eq]

/-- Changing the entries under one key, and nothing else, changes the first of them and no other
key's entry. -/
theorem lookup_map_update {g : String × α → String × α}
    (hkey : ∀ p : String × α, p.1 = k → g p = (k, f (some p.2)))
    (hother : ∀ p : String × α, p.1 ≠ k → g p = p) (k' : String) :
    (xs.map g).lookup k' = if k' = k then (xs.lookup k).map (f ∘ some) else xs.lookup k' := by
  induction xs with
  | nil => split <;> rfl
  | cons p xs ih =>
    obtain ⟨a, v⟩ := p
    rw [List.map_cons]
    by_cases ha : a = k
    · subst ha
      rw [hkey (a, v) rfl]
      by_cases hk : k' = a
      · subst hk
        simp
      · rw [lookup_cons_of_ne hk, ih, if_neg hk, if_neg hk, lookup_cons_of_ne hk]
    · rw [hother (a, v) ha]
      by_cases hk : k' = a
      · subst hk
        simp [ha]
      · rw [lookup_cons_of_ne hk, ih, lookup_cons_of_ne hk]
        split
        · rename_i hk'
          subst hk'
          rw [lookup_cons_of_ne (Ne.symm ha)]
        · rfl

/-- After an update, the entry under its key is the update of the entry before, and every other
key's entry is as it was. -/
theorem lookup_upsert (k' : String) :
    (upsert xs k f).lookup k' = if k' = k then some (f (xs.lookup k)) else xs.lookup k' := by
  unfold upsert
  split
  · rename_i hany
    -- the key is there, so its first entry is the one changed
    have hsome : (xs.lookup k).isSome := by
      rw [List.lookup_isSome_iff]
      obtain ⟨p, hp, hpk⟩ := List.any_eq_true.mp hany
      exact ⟨p, hp, by rw [beq_iff_eq] at hpk ⊢; exact hpk.symm⟩
    rw [lookup_map_update xs k f (by rintro ⟨a, v⟩ h; simp at h; simp [h])
      (by rintro ⟨a, v⟩ h; simp at h; simp [h])]
    split
    · obtain ⟨v, hv⟩ := Option.isSome_iff_exists.mp hsome
      simp [hv]
    · rfl
  · rename_i hany
    have hnone : xs.lookup k = none :=
      lookup_eq_none_of_not_mem_keys fun hk => hany ((any_key_iff xs k).mpr hk)
    rw [List.lookup_append]
    split
    · rename_i hk
      subst hk
      simp [hnone]
    · rename_i hk
      rw [lookup_cons_of_ne hk, List.lookup_nil, Option.or_none]

/-- An update keeps the keys, adding its own at the end when it is new. -/
theorem keys_upsert :
    (upsert xs k f).map Prod.fst =
      if k ∈ xs.map Prod.fst then xs.map Prod.fst else xs.map Prod.fst ++ [k] := by
  unfold upsert
  split
  · rename_i h
    rw [if_pos ((any_key_iff xs k).mp h), List.map_map]
    congr 1
    funext p
    obtain ⟨a, v⟩ := p
    simp only [Function.comp_apply]
    split <;> rfl
  · rename_i h
    rw [if_neg (fun hk => h ((any_key_iff xs k).mpr hk)), List.map_append]
    rfl

/-- An update keeps every key listed once. -/
theorem nodup_keys_upsert (h : (xs.map Prod.fst).Nodup) :
    ((upsert xs k f).map Prod.fst).Nodup := by
  rw [keys_upsert]
  split
  · exact h
  · rename_i hk
    refine List.nodup_append.mpr ⟨h, List.nodup_singleton k, ?_⟩
    intro a ha b hb
    rw [List.mem_singleton] at hb
    subst hb
    exact fun hab => hk (hab ▸ ha)

/-- Updating the lists of `acc`, entry by entry, with those of `l` by `comb` gives under each key
what `comb` makes of the two lists found there, when `comb` leaves a list alone that meets
nothing. -/
theorem lookup_foldl_upsert {β : Type} (comb : List β → List β → List β)
    (hnil : ∀ x, comb x [] = x) (l acc : List (String × List β)) (hl : (l.map Prod.fst).Nodup)
    (k : String) :
    ((l.foldl (fun acc p => upsert acc p.1 fun old => comb (old.getD []) p.2) acc).lookup k).getD [] =
      comb ((acc.lookup k).getD []) ((l.lookup k).getD []) := by
  induction l generalizing acc with
  | nil => simp [hnil]
  | cons p l ih =>
    obtain ⟨a, vs⟩ := p
    rw [List.map_cons, List.nodup_cons] at hl
    rw [List.foldl_cons, ih _ hl.2, lookup_upsert]
    by_cases hk : k = a
    · subst hk
      -- the key of the first entry is no key of the rest
      simp [lookup_eq_none_of_not_mem_keys hl.1, hnil]
    · rw [if_neg hk, lookup_cons_of_ne hk]

/-- Updating lists entry by entry keeps every key listed once. -/
theorem nodup_keys_foldl_upsert {β γ : Type} (g : Option β → γ → β) (l : List (String × γ))
    (acc : List (String × β)) (hacc : (acc.map Prod.fst).Nodup) :
    ((l.foldl (fun acc p => upsert acc p.1 fun old => g old p.2) acc).map Prod.fst).Nodup := by
  induction l generalizing acc with
  | nil => exact hacc
  | cons p l ih => exact ih _ (nodup_keys_upsert _ _ _ hacc)

end Upsert

/-- Dropping repeats leaves each item once. -/
theorem nodup_eraseDups {β : Type} [BEq β] [LawfulBEq β] : (l : List β) → l.eraseDups.Nodup
  | [] => List.nodup_nil
  | a :: as => by
    rw [List.eraseDups_cons]
    refine List.nodup_cons.mpr ⟨?_, nodup_eraseDups _⟩
    simp [List.mem_eraseDups, List.mem_filter]
termination_by l => l.length
decreasing_by
  simp only [List.length_cons]
  exact Nat.lt_succ_of_le (List.length_filter_le _ _)

/-! ### Facts -/

namespace VerseFacts

/-- The texts listed under a key. -/
def texts (f : VerseFacts) (k : String) : List String := (f.lists.lookup k).getD []

/-- The attributes listed under a word. -/
def attrsOf (f : VerseFacts) (w : String) : List WordAttrs := (f.words.lookup w).getD []

/-- Each key of the lists, and each word, is listed once. -/
def WellKeyed (f : VerseFacts) : Prop :=
  (f.lists.map Prod.fst).Nodup ∧ (f.words.map Prod.fst).Nodup

/-- Every text and every attribute that `f` lists under a key, `g` lists under it too. -/
def IncludedIn (f g : VerseFacts) : Prop :=
  (∀ k c, c ∈ f.texts k → c ∈ g.texts k) ∧ ∀ w, f.attrsOf w ⊆ g.attrsOf w

/-- Every text that is not empty and every attribute that `f` lists under a key, `g` lists under
it too: what merging keeps of a part. -/
def KeptIn (f g : VerseFacts) : Prop :=
  (∀ k c, c ∈ f.texts k → c ≠ "" → c ∈ g.texts k) ∧ ∀ w, f.attrsOf w ⊆ g.attrsOf w

variable {f g h : VerseFacts}

theorem wellKeyed_empty : ({} : VerseFacts).WellKeyed := ⟨List.nodup_nil, List.nodup_nil⟩

@[simp] theorem texts_empty (k : String) : ({} : VerseFacts).texts k = [] := rfl

@[simp] theorem attrsOf_empty (w : String) : ({} : VerseFacts).attrsOf w = [] := rfl

theorem IncludedIn.refl (f : VerseFacts) : f.IncludedIn f :=
  ⟨fun _ _ => id, fun _ => List.Subset.refl _⟩

theorem IncludedIn.trans (hfg : f.IncludedIn g) (hgh : g.IncludedIn h) : f.IncludedIn h :=
  ⟨fun k c hc => hgh.1 k c (hfg.1 k c hc), fun w => List.Subset.trans (hfg.2 w) (hgh.2 w)⟩

theorem IncludedIn.keptIn (hfg : f.IncludedIn g) : f.KeptIn g :=
  ⟨fun k c hc _ => hfg.1 k c hc, hfg.2⟩

theorem KeptIn.trans_included (hfg : f.KeptIn g) (hgh : g.IncludedIn h) : f.KeptIn h :=
  ⟨fun k c hc hne => hgh.1 k c (hfg.1 k c hc hne), fun w => List.Subset.trans (hfg.2 w) (hgh.2 w)⟩

/-! #### Adding texts -/

theorem texts_add (f : VerseFacts) (k : String) (vs : List String) (k' : String) :
    (f.add k vs).texts k' = f.texts k' ++ if k' = k then vs else [] := by
  unfold texts add
  rw [lookup_upsert]
  split
  · rename_i hk
    subst hk
    rfl
  · rw [List.append_nil]

@[simp] theorem attrsOf_add (f : VerseFacts) (k : String) (vs : List String) (w : String) :
    (f.add k vs).attrsOf w = f.attrsOf w := rfl

theorem WellKeyed.add (hf : f.WellKeyed) (k : String) (vs : List String) : (f.add k vs).WellKeyed :=
  ⟨nodup_keys_upsert f.lists k (fun old => old.getD [] ++ vs) hf.1, hf.2⟩

theorem includedIn_add (f : VerseFacts) (k : String) (vs : List String) : f.IncludedIn (f.add k vs) :=
  ⟨fun k' c hc => by rw [texts_add]; exact List.mem_append_left _ hc, fun _ => List.Subset.refl _⟩

/-! #### Adding a word -/

/-- The facts with one more attribute list for a word. -/
theorem texts_addWord (f : VerseFacts) (c : String) (a : WordAttrs) (k : String) :
    ({ f with words := upsert f.words c fun old => old.getD [] ++ [a] } : VerseFacts).texts k =
      f.texts k := rfl

theorem attrsOf_addWord (f : VerseFacts) (c : String) (a : WordAttrs) (w : String) :
    ({ f with words := upsert f.words c fun old => old.getD [] ++ [a] } : VerseFacts).attrsOf w =
      f.attrsOf w ++ if w = c then [a] else [] := by
  unfold attrsOf
  rw [lookup_upsert]
  split
  · rename_i hw
    subst hw
    rfl
  · rw [List.append_nil]

theorem WellKeyed.addWord (hf : f.WellKeyed) (c : String) (a : WordAttrs) :
    ({ f with words := upsert f.words c fun old => old.getD [] ++ [a] } : VerseFacts).WellKeyed :=
  ⟨hf.1, nodup_keys_upsert f.words c (fun old => old.getD [] ++ [a]) hf.2⟩

theorem includedIn_addWord (f : VerseFacts) (c : String) (a : WordAttrs) :
    f.IncludedIn { f with words := upsert f.words c fun old => old.getD [] ++ [a] } :=
  ⟨fun _ _ => id, fun w => by rw [attrsOf_addWord]; exact List.subset_append_left _ _⟩

/-! #### Merging -/

/-- A text lies in the merge of two lists exactly when the whole holds it, or the part holds it
and it is not empty. -/
theorem mem_mergeTexts (whole part : List String) (c : String) :
    c ∈ mergeTexts whole part ↔ c ∈ whole ∨ (c ∈ part ∧ c ≠ "") := by
  unfold mergeTexts
  split
  · rename_i hpart
    simp [List.isEmpty_iff.mp hpart]
  · simp only [List.mem_append, List.mem_eraseDups, List.mem_filter, Bool.not_eq_true',
      String.isEmpty_eq_false_iff]
    constructor
    · rintro (hc | ⟨hc | hc, hne⟩)
      · exact .inl hc
      · exact .inr ⟨hc, hne⟩
      · exact .inl hc
    · rintro (hc | ⟨hc, hne⟩)
      · exact .inl hc
      · exact .inr ⟨.inl hc, hne⟩

@[simp] theorem mergeTexts_nil (whole : List String) : mergeTexts whole [] = whole := by
  simp [mergeTexts]

/-- Merged into nothing, a list is left with each text that is not empty, once. -/
theorem mergeTexts_nil_left (part : List String) :
    (mergeTexts [] part).Nodup ∧ "" ∉ mergeTexts [] part := by
  refine ⟨?_, fun h => ?_⟩
  · unfold mergeTexts
    split
    · exact List.nodup_nil
    · exact nodup_eraseDups _
  · rw [mem_mergeTexts] at h
    simp at h

theorem merge_lists (f g : VerseFacts) :
    (f.merge g).lists =
      g.lists.foldl (fun acc p => upsert acc p.1 fun old => mergeTexts (old.getD []) p.2) f.lists :=
  rfl

theorem merge_words (f g : VerseFacts) :
    (f.merge g).words =
      g.words.foldl (fun acc p => upsert acc p.1 fun old => old.getD [] ++ p.2) f.words := rfl

/-- **Merging a part re-adds the whole.** Under each key, the merged facts list the texts of the
whole, then each text that is not empty of the part or of the whole, once. -/
theorem texts_merge (f : VerseFacts) (hg : g.WellKeyed) (k : String) :
    (f.merge g).texts k = mergeTexts (f.texts k) (g.texts k) := by
  unfold texts
  rw [merge_lists]
  exact lookup_foldl_upsert mergeTexts mergeTexts_nil g.lists f.lists hg.1 k

theorem attrsOf_merge (f : VerseFacts) (hg : g.WellKeyed) (w : String) :
    (f.merge g).attrsOf w = f.attrsOf w ++ g.attrsOf w := by
  unfold attrsOf
  rw [merge_words]
  exact lookup_foldl_upsert (· ++ ·) List.append_nil g.words f.words hg.2 w

/-- **Merging loses no text and adds none.** A text is merged exactly when the whole lists it, or
the part lists it and it is not empty. -/
theorem mem_texts_merge (f : VerseFacts) (hg : g.WellKeyed) (k c : String) :
    c ∈ (f.merge g).texts k ↔ c ∈ f.texts k ∨ (c ∈ g.texts k ∧ c ≠ "") := by
  rw [texts_merge f hg, mem_mergeTexts]

theorem WellKeyed.merge (hf : f.WellKeyed) (g : VerseFacts) : (f.merge g).WellKeyed := by
  rw [WellKeyed, merge_lists, merge_words]
  exact ⟨nodup_keys_foldl_upsert _ _ _ hf.1, nodup_keys_foldl_upsert _ _ _ hf.2⟩

/-- Merging into nothing leaves what a part says, its word attributes as they are. -/
@[simp] theorem merge_empty (f : VerseFacts) : f.merge {} = f := rfl

theorem includedIn_merge_left (f : VerseFacts) (hg : g.WellKeyed) : f.IncludedIn (f.merge g) :=
  ⟨fun k c hc => by rw [mem_texts_merge f hg]; exact .inl hc,
    fun w => by rw [attrsOf_merge f hg]; exact List.subset_append_left _ _⟩

theorem keptIn_merge_right (f : VerseFacts) (hg : g.WellKeyed) : g.KeptIn (f.merge g) :=
  ⟨fun k c hc hne => by rw [mem_texts_merge f hg]; exact .inr ⟨hc, hne⟩,
    fun w => by rw [attrsOf_merge f hg]; exact List.subset_append_right _ _⟩

end VerseFacts

/-! ### Loops that fail -/

section Errors

variable {ε α β : Type}

/-- A computation followed by another fails when the first fails, or succeeds and the second
fails on its value. -/
theorem error_bind_iff (x : Except ε α) (f : α → Except ε β) :
    (∃ e, (x >>= f) = .error e) ↔ (∃ e, x = .error e) ∨ ∃ a, x = .ok a ∧ ∃ e, f a = .error e := by
  cases x with
  | error e => exact iff_of_true ⟨e, rfl⟩ (.inl ⟨e, rfl⟩)
  | ok a => simp only [Except.ok_bind, reduceCtorEq, exists_false, Except.ok.injEq,
      exists_eq_left', false_or]

theorem not_pure_eq_error (a : α) : ¬ ∃ e, (pure a : Except ε α) = .error e := by
  rintro ⟨_, he⟩
  cases he

/-- A loop step that reads a value and then goes on can only go on. -/
theorem yield_of_bind_eq_ok {x : Except ε α} {g : α → β} {r : ForInStep β}
    (h : (x >>= fun a => pure (.yield (g a))) = .ok r) : ∃ b, r = .yield b := by
  cases x with
  | error e => cases h
  | ok a =>
    rw [Except.ok_bind] at h
    cases h
    exact ⟨_, rfl⟩

/-- A loop whose steps, when they succeed, go on fails exactly when one of its items makes its
step fail, whatever the state. -/
theorem forIn_error_iff (P : α → Prop) (xs : List α) (init : β)
    (f : α → β → Except ε (ForInStep β)) (hP : ∀ a ∈ xs, ∀ b, (∃ e, f a b = .error e) ↔ P a)
    (hy : ∀ a ∈ xs, ∀ b r, f a b = .ok r → ∃ b', r = .yield b') :
    (∃ e, forIn xs init f = .error e) ↔ ∃ a ∈ xs, P a := by
  induction xs generalizing init with
  | nil => simp [pure, Except.pure]
  | cons a as ih =>
    have hP' := fun a' ha' => hP a' (List.mem_cons_of_mem a ha')
    have hy' := fun a' ha' => hy a' (List.mem_cons_of_mem a ha')
    rw [List.forIn_cons]
    cases hstep : f a init with
    | error e =>
      -- the first item fails, so the loop does
      have ha : P a := (hP a List.mem_cons_self init).mp ⟨e, hstep⟩
      exact iff_of_true ⟨e, rfl⟩ ⟨a, List.mem_cons_self, ha⟩
    | ok r =>
      obtain ⟨b', rfl⟩ := hy a List.mem_cons_self init _ hstep
      have hna : ¬ P a := fun ha => by
        obtain ⟨e, he⟩ := (hP a List.mem_cons_self init).mpr ha
        rw [hstep] at he
        cases he
      rw [Except.ok_bind]
      refine (ih b' hP' hy').trans ⟨?_, ?_⟩
      · rintro ⟨a', ha', h⟩
        exact ⟨a', List.mem_cons_of_mem a ha', h⟩
      · rintro ⟨a', ha', h⟩
        rcases List.mem_cons.mp ha' with rfl | ha'
        · exact absurd h hna
        · exact ⟨a', ha', h⟩

end Errors

/-! ### The word attributes of an element -/

/-- The numbers and tags that items name: the part after the colon of each item that has one. -/
def itemNumbers (items : List String) : List String :=
  items.filterMap fun item => (afterColon item).toOption

/-- Whether an attribute names numbers or tags of its word: a lemma or a morph attribute. -/
def isWordKey (k : String) : Bool :=
  (Text.lower k).contains "lemma" || (Text.lower k).contains "morph"

/-- The Strong's numbers and morphological tags that the attributes of an element name. -/
def attrNumbers (attrs : List (String × String)) : List String :=
  attrs.flatMap fun kv => if isWordKey kv.1 then itemNumbers (Text.fields kv.2) else []

/-- The values listed in word attributes. -/
def valuesOf (wa : List (String × List String)) : List String := wa.flatMap Prod.snd

theorem itemNumbers_append_singleton {pre : List String} {item n : String}
    (h : afterColon item = .ok n) : itemNumbers (pre ++ [item]) = itemNumbers pre ++ [n] := by
  simp [itemNumbers, List.filterMap_append, h, Except.toOption]

theorem attrNumbers_append_singleton (pre : List (String × String)) (kv : String × String) :
    attrNumbers (pre ++ [kv]) =
      attrNumbers pre ++ if isWordKey kv.1 then itemNumbers (Text.fields kv.2) else [] := by
  simp [attrNumbers]

/-- The values after an update of the list under one key. -/
theorem mem_valuesOf_upsert (wa : List (String × List String)) (label x : String)
    (g : Option (List String) → List String) :
    x ∈ valuesOf (upsert wa label g) ↔
      (∃ p ∈ wa, p.1 ≠ label ∧ x ∈ p.2) ∨ (∃ p ∈ wa, p.1 = label ∧ x ∈ g (some p.2)) ∨
        (label ∉ wa.map Prod.fst ∧ x ∈ g none) := by
  unfold upsert valuesOf
  split
  · rename_i hany
    have hin : label ∈ wa.map Prod.fst := (any_key_iff wa label).mp hany
    simp only [List.mem_flatMap, List.mem_map, hin, not_true_eq_false, false_and, or_false]
    constructor
    · rintro ⟨_, ⟨⟨a, v⟩, hp, rfl⟩, hx⟩
      by_cases ha : a = label
      · subst ha
        simp only [beq_self_eq_true, if_true] at hx
        exact .inr ⟨(a, v), hp, rfl, hx⟩
      · simp only [beq_iff_eq, ha, if_false] at hx
        exact .inl ⟨(a, v), hp, ha, hx⟩
    · rintro (⟨⟨a, v⟩, hp, ha, hx⟩ | ⟨⟨a, v⟩, hp, ha, hx⟩)
      · dsimp only at ha hx
        exact ⟨_, ⟨(a, v), hp, rfl⟩, by simp [ha, hx]⟩
      · dsimp only at ha hx
        subst ha
        exact ⟨_, ⟨(a, v), hp, rfl⟩, by simpa using hx⟩
  · rename_i hany
    -- the key is new: every entry before has another key
    have hout : label ∉ wa.map Prod.fst := fun h => hany ((any_key_iff wa label).mpr h)
    have hne : ∀ p ∈ wa, p.1 ≠ label := fun p hp h => hout (List.mem_map.mpr ⟨p, hp, h⟩)
    simp only [List.flatMap_append, List.mem_append, List.flatMap_cons, List.flatMap_nil,
      List.append_nil, List.mem_flatMap, hout, not_false_eq_true, true_and]
    constructor
    · rintro (⟨p, hp, hx⟩ | hx)
      · exact .inl ⟨p, hp, hne p hp, hx⟩
      · exact .inr (.inr hx)
    · rintro (⟨p, hp, -, hx⟩ | ⟨p, hp, hpk, -⟩ | hx)
      · exact .inl ⟨p, hp, hx⟩
      · exact absurd hpk (hne p hp)
      · exact .inr hx

/-- Adding a value under a key adds it to the values. -/
theorem mem_valuesOf_upsert_append (wa : List (String × List String)) (label n x : String) :
    x ∈ valuesOf (upsert wa label fun old => old.getD [] ++ [n]) ↔ x ∈ valuesOf wa ∨ x = n := by
  rw [mem_valuesOf_upsert]
  simp only [Option.getD_some, Option.getD_none, List.nil_append, List.mem_append,
    List.mem_singleton]
  constructor
  · rintro (⟨p, hp, -, hx⟩ | ⟨p, hp, -, hx | rfl⟩ | ⟨-, rfl⟩)
    · exact .inl (List.mem_flatMap.mpr ⟨p, hp, hx⟩)
    · exact .inl (List.mem_flatMap.mpr ⟨p, hp, hx⟩)
    · exact .inr rfl
    · exact .inr rfl
  · rintro (hx | rfl)
    · obtain ⟨p, hp, hx⟩ := List.mem_flatMap.mp hx
      by_cases hpk : p.1 = label
      · exact .inr (.inl ⟨p, hp, hpk, .inl hx⟩)
      · exact .inl ⟨p, hp, hpk, hx⟩
    · by_cases hin : label ∈ wa.map Prod.fst
      · obtain ⟨p, hp, hpk⟩ := List.mem_map.mp hin
        exact .inr (.inl ⟨p, hp, hpk, .inr rfl⟩)
      · exact .inr (.inr ⟨hin, rfl⟩)

/-- Dropping the repeats under a key keeps the values. -/
theorem mem_valuesOf_upsert_eraseDups (wa : List (String × List String)) (label x : String) :
    x ∈ valuesOf (upsert wa label fun old => (old.getD []).eraseDups) ↔ x ∈ valuesOf wa := by
  rw [mem_valuesOf_upsert]
  simp only [Option.getD_some, Option.getD_none, List.eraseDups_nil, List.not_mem_nil,
    and_false, or_false, List.mem_eraseDups]
  constructor
  · rintro (⟨p, hp, -, hx⟩ | ⟨p, hp, -, hx⟩) <;> exact List.mem_flatMap.mpr ⟨p, hp, hx⟩
  · intro hx
    obtain ⟨p, hp, hx⟩ := List.mem_flatMap.mp hx
    by_cases hpk : p.1 = label
    · exact .inr ⟨p, hp, hpk, hx⟩
    · exact .inl ⟨p, hp, hpk, hx⟩

theorem upsert_ne_nil {γ : Type} (xs : List (String × γ)) (k : String) (g : Option γ → γ) :
    upsert xs k g ≠ [] := by
  unfold upsert
  split
  · rename_i hany
    intro h
    rw [List.map_eq_nil_iff] at h
    subst h
    simp at hany
  · simp

open VerseFacts in
/-- **The items of one attribute.** Each item that can be read lists the clean text under its
number or tag, which the word attributes then hold under `label`; the words are left alone. -/
theorem itemFacts_spec (label : String) (write : String → String) (clean : String)
    (items : List String) (facts : VerseFacts) (wa : List (String × List String)) (marks : String) :
    Ensures (itemFacts label write clean items facts wa marks) fun r =>
      (facts.WellKeyed → r.1.WellKeyed) ∧ r.1.words = facts.words ∧ facts.IncludedIn r.1 ∧
      (∀ n ∈ itemNumbers items, clean ∈ r.1.texts n) ∧
      (∀ x, x ∈ valuesOf r.2.1 ↔ x ∈ valuesOf wa ∨ x ∈ itemNumbers items) ∧ r.2.1 ≠ [] := by
  unfold itemFacts
  dsimp only
  -- the invariant: what the items read so far have added
  refine ensures_bind (ensures_forIn_taken (fun pre st =>
      (facts.WellKeyed → st.1.WellKeyed) ∧ st.1.words = facts.words ∧ facts.IncludedIn st.1 ∧
        (∀ n ∈ itemNumbers pre, clean ∈ st.1.texts n) ∧
        ∀ x, x ∈ valuesOf st.2.1 ↔ x ∈ valuesOf wa ∨ x ∈ itemNumbers pre)
      items (facts, wa, marks) _ ?start ?step) fun st hst => ?done
  case start =>
    exact ⟨id, rfl, IncludedIn.refl _, by simp [itemNumbers], by simp [itemNumbers]⟩
  case step =>
    intro pre item st _ hI
    obtain ⟨F, w, mk⟩ := st
    obtain ⟨hwk, hwords, hinc, htexts, hvals⟩ := hI
    dsimp only
    cases hc : afterColon item with
    | error e => exact ensures_error e _
    | ok n =>
      rw [Except.ok_bind]
      refine ensures_pure ⟨_, rfl, fun hf => (hwk hf).add n [clean], hwords,
        hinc.trans (includedIn_add F n [clean]), ?_, ?_⟩
      · intro n' hn'
        rw [itemNumbers_append_singleton hc, List.mem_append, List.mem_singleton] at hn'
        rw [texts_add]
        rcases hn' with hn' | rfl
        · exact List.mem_append_left _ (htexts n' hn')
        · simp
      · intro x
        rw [mem_valuesOf_upsert_append, hvals, itemNumbers_append_singleton hc, List.mem_append,
          List.mem_singleton, or_assoc]
  case done =>
    obtain ⟨hwk, hwords, hinc, htexts, hvals⟩ := hst
    refine ensures_pure ⟨hwk, hwords, hinc, htexts, fun x => ?_,
      upsert_ne_nil st.2.1 label fun old => (old.getD []).eraseDups⟩
    rw [mem_valuesOf_upsert_eraseDups, hvals]

/-- The items of one attribute cannot be read exactly when one of them has nothing after a
colon. -/
theorem itemFacts_error_iff (label : String) (write : String → String) (clean : String)
    (items : List String) (facts : VerseFacts) (wa : List (String × List String)) (marks : String) :
    (∃ e, itemFacts label write clean items facts wa marks = .error e) ↔
      ∃ item ∈ items, (afterColon item).toOption = none := by
  unfold itemFacts
  dsimp only
  -- what follows the loop cannot fail
  rw [error_bind_iff]
  simp only [not_pure_eq_error, and_false, exists_false, or_false]
  refine forIn_error_iff _ items _ _ (fun item _ st => ?_)
    (fun item _ st r hr => yield_of_bind_eq_ok hr)
  cases hc : afterColon item with
  | error e => simp [Except.toOption]
  | ok n => simp [Except.toOption, pure, Except.pure]

/-- What reading the attributes `pre` of an element, whose clean text is `clean`, has made of
`facts`: the facts `F`, which list `clean` under each number and tag of `pre`, and the word
attributes `w`, which hold exactly those and are empty exactly when `pre` has no lemma or morph
attribute. -/
structure AttrsRead (clean : String) (facts : VerseFacts) (pre : List (String × String))
    (F : VerseFacts) (w : List (String × List String)) : Prop where
  wellKeyed : facts.WellKeyed → F.WellKeyed
  words_eq : F.words = facts.words
  includes : facts.IncludedIn F
  texts : ∀ n ∈ attrNumbers pre, clean ∈ F.texts n
  values : ∀ x, x ∈ valuesOf w ↔ x ∈ attrNumbers pre
  nil_iff : w = [] ↔ ∀ kv ∈ pre, isWordKey kv.1 = false

namespace AttrsRead

variable {clean : String} {facts F : VerseFacts} {pre : List (String × String)}
  {w : List (String × List String)}

theorem start : AttrsRead clean facts [] facts [] :=
  ⟨id, rfl, VerseFacts.IncludedIn.refl _, by simp [attrNumbers], by simp [valuesOf, attrNumbers],
    by simp⟩

/-- Reading a lemma or morph attribute adds its items. -/
theorem word (h : AttrsRead clean facts pre F w) {p : String × String}
    (hk : isWordKey p.1 = true) {r : VerseFacts × List (String × List String) × String}
    (hr : (F.WellKeyed → r.1.WellKeyed) ∧ r.1.words = F.words ∧ F.IncludedIn r.1 ∧
      (∀ n ∈ itemNumbers (Text.fields p.2), clean ∈ r.1.texts n) ∧
      (∀ x, x ∈ valuesOf r.2.1 ↔ x ∈ valuesOf w ∨ x ∈ itemNumbers (Text.fields p.2)) ∧
      r.2.1 ≠ []) :
    AttrsRead clean facts (pre ++ [p]) r.1 r.2.1 := by
  obtain ⟨hwk, hwords, hinc, htexts, hvals, hne⟩ := hr
  refine ⟨fun hf => hwk (h.wellKeyed hf), hwords.trans h.words_eq, h.includes.trans hinc,
    fun n hn => ?_, fun x => ?_, ?_⟩
  · rw [attrNumbers_append_singleton, if_pos hk, List.mem_append] at hn
    rcases hn with hn | hn
    · exact hinc.1 n clean (h.texts n hn)
    · exact htexts n hn
  · rw [hvals, h.values, attrNumbers_append_singleton, if_pos hk, List.mem_append]
  · -- an attribute of the word is read, so neither side holds
    refine iff_of_false hne fun hall => ?_
    have := hall p (List.mem_append_right _ List.mem_cons_self)
    rw [hk] at this
    cases this

/-- Reading any other attribute changes nothing. -/
theorem other (h : AttrsRead clean facts pre F w) {p : String × String}
    (hk : isWordKey p.1 = false) : AttrsRead clean facts (pre ++ [p]) F w := by
  refine ⟨h.wellKeyed, h.words_eq, h.includes, fun n hn => ?_, fun x => ?_, ?_⟩
  · rw [attrNumbers_append_singleton, if_neg (by simp [hk]), List.append_nil] at hn
    exact h.texts n hn
  · rw [h.values, attrNumbers_append_singleton, if_neg (by simp [hk]), List.append_nil]
  · rw [h.nil_iff]
    constructor
    · intro hall kv' hkv'
      rcases List.mem_append.mp hkv' with hkv' | hkv'
      · exact hall kv' hkv'
      · rw [List.mem_singleton] at hkv'
        subst hkv'
        exact hk
    · exact fun hall kv' hkv' => hall kv' (List.mem_append_left _ hkv')

end AttrsRead

theorem isWordKey_of_lemma {k : String} (h : (Text.lower k).contains "lemma" = true) :
    isWordKey k = true := by
  simp [isWordKey, h]

theorem isWordKey_of_morph {k : String} (h : (Text.lower k).contains "morph" = true) :
    isWordKey k = true := by
  simp [isWordKey, h]

theorem isWordKey_eq_false {k : String} (hl : ¬ (Text.lower k).contains "lemma" = true)
    (hm : ¬ (Text.lower k).contains "morph" = true) : isWordKey k = false := by
  simp [isWordKey, hl, hm]

/-- **The word attributes of an element.** Reading them lists the clean text under each number
and tag they name, and gives word attributes that hold exactly those, empty exactly when the
element has no lemma or morph attribute; the words are left alone. -/
theorem attrFacts_spec (strongs morph : Bool) (clean : String) (attrs : List (String × String))
    (facts : VerseFacts) :
    Ensures (attrFacts strongs morph clean attrs facts) fun r =>
      AttrsRead clean facts attrs r.1 r.2.1 := by
  unfold attrFacts
  dsimp only
  refine ensures_bind (ensures_forIn_taken (fun pre st => AttrsRead clean facts pre st.1 st.2.1)
      attrs (facts, [], "", "") _ AttrsRead.start ?_) fun st hst => ensures_pure hst
  intro pre kv st _ hI
  obtain ⟨k, v⟩ := kv
  obtain ⟨F, w, nums, tags⟩ := st
  dsimp only at hI ⊢
  split
  · rename_i hl
    refine ensures_bind (itemFacts_spec _ _ clean (Text.fields v) F w nums) fun r hr => ?_
    obtain ⟨f', w', n'⟩ := r
    exact ensures_pure ⟨_, rfl, hI.word (p := (k, v)) (isWordKey_of_lemma hl) hr⟩
  · rename_i hl
    split
    · rename_i hm
      refine ensures_bind (itemFacts_spec _ _ clean (Text.fields v) F w tags) fun r hr => ?_
      obtain ⟨f', w', t'⟩ := r
      exact ensures_pure ⟨_, rfl, hI.word (p := (k, v)) (isWordKey_of_morph hm) hr⟩
    · rename_i hm
      exact ensures_pure ⟨_, rfl, hI.other (p := (k, v)) (isWordKey_eq_false hl hm)⟩

/-- **The word attributes of an element cannot be read** exactly when an item of a lemma or morph
attribute has nothing after a colon. -/
theorem attrFacts_error_iff (strongs morph : Bool) (clean : String)
    (attrs : List (String × String)) (facts : VerseFacts) :
    (∃ e, attrFacts strongs morph clean attrs facts = .error e) ↔
      ∃ kv ∈ attrs, isWordKey kv.1 = true ∧
        ∃ item ∈ Text.fields kv.2, (afterColon item).toOption = none := by
  unfold attrFacts
  dsimp only
  rw [error_bind_iff]
  simp only [not_pure_eq_error, and_false, exists_false, or_false]
  refine forIn_error_iff _ attrs _ _ (fun kv _ st => ?_) (fun kv _ st r hr => ?_)
  · obtain ⟨k, v⟩ := kv
    dsimp only
    split
    · rename_i hl
      rw [error_bind_iff, itemFacts_error_iff]
      simp [isWordKey_of_lemma hl, pure, Except.pure]
    · rename_i hl
      split
      · rename_i hm
        rw [error_bind_iff, itemFacts_error_iff]
        simp [isWordKey_of_morph hm, pure, Except.pure]
      · rename_i hm
        simp [isWordKey_eq_false hl hm, pure, Except.pure]
  · obtain ⟨k, v⟩ := kv
    dsimp only at hr
    split at hr
    · exact yield_of_bind_eq_ok hr
    · split at hr
      · exact yield_of_bind_eq_ok hr
      · cases hr
        exact ⟨_, rfl⟩

/-! ### The own facts of an element -/

/-- The facts `F` carry an element with attributes `attrs` and clean text `c`: the text, unless
it is empty, is listed under each number and tag that the attributes name, and, when they name
any, it is listed with word attributes that hold exactly those. -/
def Carries (F : VerseFacts) (attrs : List (String × String)) (c : String) : Prop :=
  (c ≠ "" → ∀ n ∈ attrNumbers attrs, c ∈ F.texts n) ∧
    (attrNumbers attrs ≠ [] →
      ∃ a ∈ F.attrsOf c, ∀ x, x ∈ valuesOf a.fields ↔ x ∈ attrNumbers attrs)

/-- The attributes of an element cannot be read: an item of a lemma or morph attribute has nothing
after a colon, or the element, with no lemma or morph attribute, is a paragraph mark (of type, or
else subtype, `x-p`) without a `marker`. -/
def Unreadable (attrs : List (String × String)) : Prop :=
  (∃ kv ∈ attrs, isWordKey kv.1 = true ∧
      ∃ item ∈ Text.fields kv.2, (afterColon item).toOption = none) ∨
    ((∀ kv ∈ attrs, isWordKey kv.1 = false) ∧
      ((attrOf attrs "type").isSome = true ∨ (attrOf attrs "subType").isSome = true) ∧
      Text.lower ((attrOf attrs "type").getD ((attrOf attrs "subType").getD "")) = "x-p" ∧
      attrOf attrs "marker" = none)

theorem Carries.mono {F G : VerseFacts} {attrs : List (String × String)} {c : String}
    (h : Carries F attrs c) (hkept : F.KeptIn G) : Carries G attrs c := by
  obtain ⟨htexts, hwords⟩ := h
  refine ⟨fun hc n hn => hkept.1 n c (htexts hc n hn) hc, fun hne => ?_⟩
  obtain ⟨a, ha, hvals⟩ := hwords hne
  exact ⟨a, hkept.2 c ha, hvals⟩

/-- Attributes with no lemma or morph attribute name no numbers, and any facts carry them. -/
theorem attrNumbers_eq_nil {attrs : List (String × String)}
    (h : ∀ kv ∈ attrs, isWordKey kv.1 = false) : attrNumbers attrs = [] := by
  rw [attrNumbers, List.flatMap_eq_nil_iff]
  intro kv hkv
  rw [if_neg (by simp [h kv hkv])]

theorem carries_of_attrNumbers_nil {F : VerseFacts} {attrs : List (String × String)}
    (h : attrNumbers attrs = []) (c : String) : Carries F attrs c :=
  ⟨by simp [h], fun hne => absurd h hne⟩

theorem exists_ok_of_not_error {ε α : Type} {x : Except ε α} (h : ¬ ∃ e, x = .error e) :
    ∃ a, x = .ok a := by
  cases x with
  | error e => exact absurd ⟨e, rfl⟩ h
  | ok a => exact ⟨a, rfl⟩

open VerseFacts in
/-- A paragraph mark or note only adds facts. -/
theorem markFacts_spec (name kind : String) (marker : Option String) (text : String)
    (facts : VerseFacts) :
    Ensures (markFacts name kind marker text facts) fun F =>
      (facts.WellKeyed → F.WellKeyed) ∧ facts.IncludedIn F := by
  unfold markFacts
  split
  · split
    · exact ensures_pure ⟨fun hf => hf.add _ _, includedIn_add _ _ _⟩
    · exact ensures_error _ _
  · split
    · exact ensures_pure ⟨fun hf => hf.add _ _, includedIn_add _ _ _⟩
    · exact ensures_pure ⟨id, IncludedIn.refl _⟩

/-- **A paragraph mark must have a marker.** Nothing else about an element's type fails. -/
theorem markFacts_error_iff (name kind : String) (marker : Option String) (text : String)
    (facts : VerseFacts) :
    (∃ e, markFacts name kind marker text facts = .error e) ↔
      Text.lower kind = "x-p" ∧ marker = none := by
  unfold markFacts
  cases marker with
  | none =>
    by_cases hk : Text.lower kind = "x-p"
    · simp [hk, throw, throwThe, MonadExceptOf.throw]
    · simp only [hk, and_true, iff_false, not_exists]
      intro e
      simp only [Option.isSome_none, Bool.or_false, beq_iff_eq, hk, if_false]
      split <;> simp [pure, Except.pure]
  | some m => simp [pure, Except.pure]

open VerseFacts in
/-- Added words or a heading only add facts. -/
theorem headingFacts_facts (kind subType : String) (marker : Option String) (text : String)
    (facts : VerseFacts) :
    (facts.WellKeyed → (headingFacts kind subType marker text facts).2.2.WellKeyed) ∧
      facts.IncludedIn (headingFacts kind subType marker text facts).2.2 := by
  unfold headingFacts
  split
  · split
    · exact ⟨fun hf => hf.add _ _, includedIn_add _ _ _⟩
    · exact ⟨id, IncludedIn.refl _⟩
  · split
    · exact ⟨fun hf => hf.add _ _, includedIn_add _ _ _⟩
    · exact ⟨id, IncludedIn.refl _⟩

open VerseFacts in
/-- **What an element adds.** An element with attributes keeps the facts of its children and
carries itself: a word with attributes lists its clean text under each of its numbers and tags,
and its attributes under the text. -/
theorem elementFacts_spec (strongs morph : Bool) (name : String) (attrs : List (String × String))
    (body : String) (facts : VerseFacts) :
    Ensures (elementFacts strongs morph name attrs body facts) fun r =>
      (facts.WellKeyed → r.2.WellKeyed) ∧ facts.IncludedIn r.2 ∧
        Carries r.2 attrs (cleanText (spacedText body)) := by
  unfold elementFacts
  refine ensures_bind (attrFacts_spec strongs morph _ attrs facts) fun r hr => ?_
  obtain ⟨F, w, nums, tags⟩ := r
  dsimp only at hr ⊢
  split
  · -- a word with attributes: they are listed under its clean text
    rename_i hw
    refine ensures_pure ⟨fun hf => (hr.wellKeyed hf).addWord _ _,
      hr.includes.trans (includedIn_addWord _ _ _),
      fun _ n hn => by rw [texts_addWord]; exact hr.texts n hn, fun _ => ⟨⟨w⟩, ?_, hr.values⟩⟩
    rw [attrsOf_addWord, if_pos rfl]
    exact List.mem_append_right _ List.mem_cons_self
  · -- no lemma or morph attribute: the element names no numbers
    rename_i hw
    have hnum : attrNumbers attrs = [] := by
      refine attrNumbers_eq_nil (hr.nil_iff.mp ?_)
      simpa using hw
    split
    · refine ensures_bind (markFacts_spec name _ _ _ F) fun F' hF' => ?_
      obtain ⟨hwk, hinc⟩ := headingFacts_facts
        ((attrOf attrs "type").getD ((attrOf attrs "subType").getD ""))
        ((attrOf attrs "subType").getD "") (attrOf attrs "marker") _ F'
      exact ensures_pure ⟨fun hf => hwk (hF'.1 (hr.wellKeyed hf)),
        hr.includes.trans (hF'.2.trans hinc), carries_of_attrNumbers_nil hnum _⟩
    · split
      · exact ensures_pure ⟨fun hf => (hr.wellKeyed hf).add _ _,
          hr.includes.trans (includedIn_add _ _ _), carries_of_attrNumbers_nil hnum _⟩
      · exact ensures_pure ⟨hr.wellKeyed, hr.includes, carries_of_attrNumbers_nil hnum _⟩

/-- **When an element cannot be read.** Exactly when its attributes cannot be read: an item of a
lemma or morph attribute without a colon, or a paragraph mark without a `marker`. -/
theorem elementFacts_error_iff (strongs morph : Bool) (name : String)
    (attrs : List (String × String)) (body : String) (facts : VerseFacts) :
    (∃ e, elementFacts strongs morph name attrs body facts = .error e) ↔ Unreadable attrs := by
  unfold elementFacts
  rw [error_bind_iff, attrFacts_error_iff, Unreadable]
  refine or_congr_right ⟨?_, ?_⟩
  · -- the attributes were read, so the element failed on its type
    rintro ⟨r, hr, herr⟩
    obtain ⟨F, w, nums, tags⟩ := r
    have hread := attrFacts_spec strongs morph _ attrs facts _ hr
    obtain ⟨e, he⟩ := herr
    dsimp only at hread he
    split at he
    · cases he
    · rename_i hw
      have hnone := hread.nil_iff.mp (by simpa using hw)
      split at he
      · rename_i htyped
        rcases (error_bind_iff _ _).mp ⟨e, he⟩ with hmark | ⟨_, _, _, hpure⟩
        · obtain ⟨hxp, hmarker⟩ := (markFacts_error_iff _ _ _ _ _).mp hmark
          exact ⟨hnone, by simpa using htyped, hxp, hmarker⟩
        · cases hpure
      · split at he <;> cases he
  · -- no lemma or morph attribute: the attributes are read, and the mark has no marker
    rintro ⟨hnone, htyped, hxp, hmarker⟩
    have hok : ¬ ∃ kv ∈ attrs, isWordKey kv.1 = true ∧
        ∃ item ∈ Text.fields kv.2, (afterColon item).toOption = none := by
      rintro ⟨kv, hkv, hword, -⟩
      rw [hnone kv hkv] at hword
      cases hword
    obtain ⟨r, hr⟩ := exists_ok_of_not_error fun h => hok ((attrFacts_error_iff _ _ _ _ _).mp h)
    refine ⟨r, hr, ?_⟩
    obtain ⟨F, w, nums, tags⟩ := r
    have hread := attrFacts_spec strongs morph _ attrs facts _ hr
    dsimp only at hread ⊢
    have hw : w = [] := hread.nil_iff.mpr hnone
    subst hw
    obtain ⟨e, he⟩ := (markFacts_error_iff name _ _ _ F).mpr ⟨hxp, hmarker⟩
    rw [if_neg (by simp), if_pos (by simpa using htyped)]
    exact ⟨e, by rw [he]; rfl⟩

theorem Unreadable.ne_nil {attrs : List (String × String)} (h : Unreadable attrs) : attrs ≠ [] := by
  rintro rfl
  rcases h with ⟨kv, hkv, -⟩ | ⟨-, htyped, -⟩
  · cases hkv
  · simp [attrOf] at htyped

/-! ### The facts of a tree -/

/-- `Within e t`: the node `e` is `t` or lies within one of its children. -/
inductive Within : XmlNode → XmlNode → Prop
  | refl (t : XmlNode) : Within t t
  | child {e c : XmlNode} {q name : String} {attrs : List (String × String)}
      {children : List XmlNode} : c ∈ children → Within e c →
      Within e (.element q name attrs children)

theorem within_element_iff {e : XmlNode} {q name : String} {attrs : List (String × String)}
    {children : List XmlNode} :
    Within e (.element q name attrs children) ↔
      e = .element q name attrs children ∨ ∃ c ∈ children, Within e c := by
  constructor
  · intro h
    cases h with
    | refl => exact .inl rfl
    | child hc hce => exact .inr ⟨_, hc, hce⟩
  · rintro (rfl | ⟨c, hc, hce⟩)
    · exact .refl _
    · exact .child hc hce

/-- The facts `F` carry every element within `t`: the children of the element are read, and `F`
carries the element with the clean text of what they read. -/
def CarriesAll (strongs morph : Bool) (F : VerseFacts) (t : XmlNode) : Prop :=
  ∀ q name attrs children, Within (.element q name attrs children) t →
    ∃ body facts, gatherFacts strongs morph ((Text.lower name).contains "divine") ("", {})
        children = .ok (body, facts) ∧ Carries F attrs (cleanText (spacedText body))

theorem CarriesAll.mono {strongs morph : Bool} {F G : VerseFacts} {t : XmlNode}
    (h : CarriesAll strongs morph F t) (hkept : F.KeptIn G) : CarriesAll strongs morph G t := by
  intro q name attrs children hw
  obtain ⟨body, facts, hg, hcar⟩ := h q name attrs children hw
  exact ⟨body, facts, hg, hcar.mono hkept⟩

section Tree

open VerseFacts

variable (strongs morph : Bool)

/-- Nothing but a leaf lies within a leaf. -/
theorem carriesAll_leaf {t : XmlNode} (ht : ∀ q name attrs children, t ≠ .element q name attrs children)
    (F : VerseFacts) : CarriesAll strongs morph F t := by
  intro q name attrs children hw
  cases hw with
  | refl => exact absurd rfl (ht q name attrs children)
  | child => exact absurd rfl (ht _ _ _ _)

mutual

/-- **The facts of a tree carry every element in it.** They are well keyed, and each element
within the tree has its clean text listed under each of its numbers and tags, with word
attributes that hold exactly those. The proof follows the tree: an element is carried by its own
facts, and the elements below it by the facts of its children, which its own keep. -/
theorem factsNode_spec : ∀ t : XmlNode,
    Ensures (factsNode strongs morph t) fun r => r.2.WellKeyed ∧ CarriesAll strongs morph r.2 t
  | .element q name attrs children => by
    cases hg : gatherFacts strongs morph ((Text.lower name).contains "divine") ("", {})
        children with
    | error e =>
      rw [factsNode, hg]
      exact ensures_error e _
    | ok st =>
      obtain ⟨body, facts⟩ := st
      obtain ⟨hwk, -, hkids⟩ := gatherFacts_spec _ children ("", {}) wellKeyed_empty _ hg
      -- the element itself was read from `body`; those below it are in `facts`
      have hall : ∀ F, facts.IncludedIn F → Carries F attrs (cleanText (spacedText body)) →
          CarriesAll strongs morph F (.element q name attrs children) := by
        intro F hinc hcar q' name' attrs' children' hw
        rcases within_element_iff.mp hw with heq | ⟨c, hc, hwc⟩
        · cases heq
          exact ⟨body, facts, hg, hcar⟩
        · exact (hkids c hc).mono hinc.keptIn q' name' attrs' children' hwc
      rw [factsNode, hg, Except.ok_bind]
      dsimp only
      split
      · rename_i hempty
        exact ensures_pure ⟨hwk, hall facts (IncludedIn.refl _)
          (carries_of_attrNumbers_nil (by simp [List.isEmpty_iff.mp hempty, attrNumbers]) _)⟩
      · exact (elementFacts_spec strongs morph name attrs body facts).mono
          fun r hr => ⟨hr.1 hwk, hall r.2 hr.2.1 hr.2.2⟩
  | .text _ | .cdata _ | .comment _ | .instruction _ _ =>
    ensures_pure ⟨wellKeyed_empty, carriesAll_leaf _ _ (by simp) _⟩

/-- **Gathering siblings.** The gathered facts are well keyed, keep the facts gathered before
them, and carry every element within each sibling. -/
theorem gatherFacts_spec (divine : Bool) : ∀ (cs : List XmlNode) (acc : String × VerseFacts),
    acc.2.WellKeyed → Ensures (gatherFacts strongs morph divine acc cs) fun r =>
      r.2.WellKeyed ∧ acc.2.IncludedIn r.2 ∧ ∀ c ∈ cs, CarriesAll strongs morph r.2 c
  | [], acc, hacc => ensures_pure ⟨hacc, IncludedIn.refl _, fun c hc => by cases hc⟩
  | c :: cs, acc, hacc => by
    rw [gatherFacts]
    refine ensures_bind (factsNode_spec c) fun x hx => ?_
    obtain ⟨s, cf⟩ := x
    obtain ⟨hcf, hcarry⟩ := hx
    refine (gatherFacts_spec divine cs _ (hacc.merge cf)).mono fun r hr => ?_
    obtain ⟨hwk, hinc, hrest⟩ := hr
    refine ⟨hwk, (includedIn_merge_left acc.2 hcf).trans hinc, fun c' hc' => ?_⟩
    rcases List.mem_cons.mp hc' with rfl | hc'
    · exact hcarry.mono ((keptIn_merge_right acc.2 hcf).trans_included hinc)
    · exact hrest c' hc'

end

mutual

/-- **The reading of a tree fails exactly when an element in it cannot be read**, at any depth:
one unreadable element sinks the whole tree. -/
theorem factsNode_error_iff : ∀ t : XmlNode,
    (∃ e, factsNode strongs morph t = .error e) ↔
      ∃ q name attrs children, Within (.element q name attrs children) t ∧ Unreadable attrs
  | .element q name attrs children => by
    rw [factsNode, error_bind_iff, gatherFacts_error_iff]
    constructor
    · rintro (⟨c, hc, q', name', attrs', children', hw, hun⟩ | ⟨st, -, e, he⟩)
      · exact ⟨q', name', attrs', children', .child hc hw, hun⟩
      · obtain ⟨body, facts⟩ := st
        dsimp only at he
        split at he
        · cases he
        · exact ⟨q, name, attrs, children, .refl _,
            (elementFacts_error_iff strongs morph name attrs body facts).mp ⟨e, he⟩⟩
    · rintro ⟨q', name', attrs', children', hw, hun⟩
      rcases within_element_iff.mp hw with heq | ⟨c, hc, hwc⟩
      · cases heq
        -- the children may still fail first; otherwise the element itself does
        cases hg : gatherFacts strongs morph ((Text.lower name).contains "divine") ("", {})
            children with
        | error e => exact .inl ((gatherFacts_error_iff _ children _).mp ⟨e, hg⟩)
        | ok st =>
          obtain ⟨body, facts⟩ := st
          have hne : attrs.isEmpty = false := by
            simpa [List.isEmpty_iff] using hun.ne_nil
          obtain ⟨e, he⟩ := (elementFacts_error_iff strongs morph name attrs body facts).mpr hun
          refine .inr ⟨(body, facts), rfl, e, ?_⟩
          dsimp only
          rw [if_neg (by simp [hne]), he]
      · exact .inl ⟨c, hc, q', name', attrs', children', hwc, hun⟩
  | .text _ | .cdata _ | .comment _ | .instruction _ _ =>
    -- a leaf is read, and holds no element
    iff_of_false (not_pure_eq_error _) (by rintro ⟨_, _, _, _, hw, _⟩; cases hw)

/-- Gathering siblings fails exactly when an element within one of them cannot be read. -/
theorem gatherFacts_error_iff (divine : Bool) : ∀ (cs : List XmlNode) (acc : String × VerseFacts),
    (∃ e, gatherFacts strongs morph divine acc cs = .error e) ↔
      ∃ c ∈ cs, ∃ q name attrs children, Within (.element q name attrs children) c ∧
        Unreadable attrs
  | [], acc => iff_of_false (not_pure_eq_error _) (by rintro ⟨_, hc, _⟩; cases hc)
  | c :: cs, acc => by
    rw [gatherFacts, error_bind_iff]
    have hhead := factsNode_error_iff c
    cases hc : factsNode strongs morph c with
    | error e =>
      obtain ⟨q, name, attrs, children, hw, hun⟩ := hhead.mp ⟨e, hc⟩
      exact iff_of_true (.inl ⟨e, rfl⟩) ⟨c, List.mem_cons_self, q, name, attrs, children, hw, hun⟩
    | ok x =>
      -- the first sibling is read, so it holds no unreadable element
      have hnot : ¬ ∃ q name attrs children, Within (.element q name attrs children) c ∧
          Unreadable attrs := fun h => by
        obtain ⟨e, he⟩ := hhead.mpr h
        rw [hc] at he
        cases he
      simp only [reduceCtorEq, exists_false, Except.ok.injEq, exists_eq_left', false_or]
      rw [gatherFacts_error_iff divine cs]
      constructor
      · rintro ⟨c', hc', h⟩
        exact ⟨c', List.mem_cons_of_mem _ hc', h⟩
      · rintro ⟨c', hc', h⟩
        rcases List.mem_cons.mp hc' with rfl | hc'
        · exact absurd h hnot
        · exact ⟨c', hc', h⟩

end

end Tree

/-! ### The facts of a verse -/

section Verse

open VerseFacts

variable (strongs morph : Bool)

/-- Nodes that are no elements add their data to the text and nothing to the facts. -/
theorem gatherFacts_leaves (divine : Bool) : ∀ (cs : List XmlNode) (acc : String × VerseFacts),
    (∀ c ∈ cs, c.isElement = false) →
      ∃ text, gatherFacts strongs morph divine acc cs = .ok (text, acc.2)
  | [], acc, _ => ⟨acc.1, rfl⟩
  | c :: cs, acc, h => by
    have hleaf : ∃ d, factsNode strongs morph c = .ok (d, {}) := by
      have hc := h c List.mem_cons_self
      cases c with
      | element => cases hc
      | text d | cdata d | comment d | instruction _ d => exact ⟨d, rfl⟩
    obtain ⟨d, hd⟩ := hleaf
    rw [gatherFacts, hd, Except.ok_bind]
    dsimp only
    rw [merge_empty]
    exact gatherFacts_leaves divine cs _ fun c' hc' => h c' (List.mem_cons_of_mem _ hc')

theorem gatherFacts_append (divine : Bool) (xs ys : List XmlNode) (acc : String × VerseFacts) :
    gatherFacts strongs morph divine acc (xs ++ ys) =
      gatherFacts strongs morph divine acc xs >>= fun r => gatherFacts strongs morph divine r ys := by
  induction xs generalizing acc with
  | nil => rfl
  | cons x xs ih =>
    rw [List.cons_append, gatherFacts, gatherFacts, bind_assoc]
    congr 1
    funext st
    exact ih _

theorem readNodes_eq_none_iff (nodes : List XmlNode) :
    readNodes strongs morph nodes = none ↔
      ∃ n ∈ nodes, ∃ q name attrs children, Within (.element q name attrs children) n ∧
        Unreadable attrs := by
  rw [readNodes, ← gatherFacts_error_iff strongs morph false nodes ("", {})]
  cases gatherFacts strongs morph false ("", {}) nodes with
  | error e => exact iff_of_true rfl ⟨e, rfl⟩
  | ok r => exact iff_of_false (by simp [Except.toOption]) (by rintro ⟨e, he⟩; cases he)

/-- The facts of the top-level nodes of a document are those of its root, merged into nothing:
the comments and processing instructions around it say nothing. -/
theorem gatherFacts_document {nodes : List XmlNode} (hdoc : DocumentNodes nodes) {txt : String}
    {F : VerseFacts} (h : gatherFacts strongs morph false ("", {}) nodes = .ok (txt, F)) :
    ∃ R : VerseFacts, R.WellKeyed ∧ F = ({} : VerseFacts).merge R := by
  obtain ⟨before, root, after, rfl, -, hleaves⟩ := hdoc
  obtain ⟨t₁, h₁⟩ := gatherFacts_leaves strongs morph false before ("", {})
    fun n hn => hleaves n (List.mem_append_left _ hn)
  rw [gatherFacts_append, h₁, Except.ok_bind, gatherFacts] at h
  cases hr : factsNode strongs morph root with
  | error e =>
    rw [hr] at h
    cases h
  | ok r =>
    obtain ⟨s, R⟩ := r
    obtain ⟨t₂, h₂⟩ := gatherFacts_leaves strongs morph false after
      (t₁ ++ " " ++ s, ({} : VerseFacts).merge R) fun n hn => hleaves n (List.mem_append_right _ hn)
    rw [hr, Except.ok_bind] at h
    simp only [Bool.false_eq_true, if_false] at h
    rw [h₂] at h
    cases h
    exact ⟨R, (factsNode_spec strongs morph root _ hr).1, rfl⟩

/-- **What a verse that can be read says.** Each of its lists holds each text once and no empty
text, and every element within its top-level nodes is carried. -/
theorem readNodes_spec {nodes : List XmlNode} (hdoc : DocumentNodes nodes) {txt : String}
    {F : VerseFacts} (h : readNodes strongs morph nodes = some (txt, F)) :
    (∀ k, (F.texts k).Nodup ∧ "" ∉ F.texts k) ∧ ∀ n ∈ nodes, CarriesAll strongs morph F n := by
  have hg : gatherFacts strongs morph false ("", {}) nodes = .ok (txt, F) := by
    unfold readNodes at h
    cases hr : gatherFacts strongs morph false ("", {}) nodes with
    | error e =>
      rw [hr] at h
      cases h
    | ok r =>
      rw [hr] at h
      cases h
      rfl
  obtain ⟨-, -, hall⟩ := gatherFacts_spec strongs morph false nodes ("", {}) wellKeyed_empty _ hg
  obtain ⟨R, hR, rfl⟩ := gatherFacts_document strongs morph hdoc hg
  refine ⟨fun k => ?_, hall⟩
  rw [texts_merge _ hR, texts_empty]
  exact mergeTexts_nil_left _

/-- The facts of verse markup that is well formed are those of its top-level nodes. -/
theorem readVerseFacts_of_parse {raw : String} {nodes : List XmlNode}
    (h : parseXml (wrapMarkup "verse_text" raw) = .ok nodes) :
    readVerseFacts raw strongs morph = readNodes strongs morph nodes := by
  unfold readVerseFacts
  rw [h]

/-- **One unreadable element loses the whole verse.** Markup with an element that cannot be read
gives itself as the text and the whole verse as its only fact: no Strong's number, no tag and no
word is kept. -/
theorem verseFacts_of_unreadable {raw : String} {nodes : List XmlNode}
    (h : parseXml (wrapMarkup "verse_text" raw) = .ok nodes)
    (hun : ∃ n ∈ nodes, ∃ q name attrs children, Within (.element q name attrs children) n ∧
      Unreadable attrs) :
    verseFacts raw strongs morph = (raw, { lists := [("_verse_text", [raw])] }) ∧
      ∀ k, k ≠ "_verse_text" → (verseFacts raw strongs morph).2.texts k = [] := by
  have hnone : readVerseFacts raw strongs morph = none := by
    rw [readVerseFacts_of_parse strongs morph h]
    exact (readNodes_eq_none_iff strongs morph nodes).mpr hun
  have hfacts : verseFacts raw strongs morph = (raw, { lists := [("_verse_text", [raw])] }) := by
    rw [verseFacts, hnone]
    rfl
  refine ⟨hfacts, fun k hk => ?_⟩
  rw [hfacts]
  simp [VerseFacts.texts, lookup_cons_of_ne hk]

/-- **What reading verse markup keeps.** Merging the facts of a part into those of the whole
re-adds the whole's texts after its own, with each text of either that is not empty once, and
appends the part's word attributes. The markup of a verse that is well formed is read as its
top-level nodes, and for any such nodes the reading fails exactly when an element within them
cannot be read: an item of a lemma or morph attribute has no colon, or a paragraph mark has no
`marker`. Otherwise each list of the verse holds each text once and no empty text, and every
element has its clean text, unless it is empty, listed under each Strong's number and tag it
names, with word attributes that hold exactly those listed under the text. -/
theorem readNodes_carries_words (nodes : List XmlNode) (hdoc : DocumentNodes nodes) :
    (∀ f g : VerseFacts, g.WellKeyed → ∀ k w,
      (f.merge g).texts k = mergeTexts (f.texts k) (g.texts k) ∧
        (f.merge g).attrsOf w = f.attrsOf w ++ g.attrsOf w) ∧
    (∀ raw, parseXml (wrapMarkup "verse_text" raw) = .ok nodes →
      readVerseFacts raw strongs morph = readNodes strongs morph nodes) ∧
    (readNodes strongs morph nodes = none ↔
      ∃ n ∈ nodes, ∃ q name attrs children, Within (.element q name attrs children) n ∧
        Unreadable attrs) ∧
    (∀ txt (F : VerseFacts), readNodes strongs morph nodes = some (txt, F) →
      (∀ k, (F.texts k).Nodup ∧ "" ∉ F.texts k) ∧ ∀ n ∈ nodes, CarriesAll strongs morph F n) :=
  ⟨fun f _ hg k w => ⟨texts_merge f hg k, attrsOf_merge f hg w⟩,
    fun _ h => readVerseFacts_of_parse strongs morph h,
    readNodes_eq_none_iff strongs morph nodes,
    fun _ _ h => readNodes_spec strongs morph hdoc h⟩

end Verse

/-- The verse `<w lemma="strong:H430">God</w>` under its root lists the word's text under H430,
with attributes that hold H430 alone. -/
theorem godVerse_carries_word :
    DocumentNodes [.element "root" "root" [("xmlns", "verse_text")]
      [.element "w" "w" [("lemma", "strong:H430")] [.text "God"]]] ∧
    ∃ txt F, readNodes true true
        [.element "root" "root" [("xmlns", "verse_text")]
          [.element "w" "w" [("lemma", "strong:H430")] [.text "God"]]] = some (txt, F) ∧
      ∃ c, (c ≠ "" → c ∈ F.texts "H430") ∧
        ∃ w ∈ F.attrsOf c, ∀ x, x ∈ valuesOf w.fields ↔ x = "H430" := by
  have hdoc : DocumentNodes [.element "root" "root" [("xmlns", "verse_text")]
      [.element "w" "w" [("lemma", "strong:H430")] [.text "God"]]] :=
    ⟨[], _, [], rfl, rfl, by simp⟩
  have hcolon : afterColon "strong:H430" = .ok "H430" := by
    rw [afterColon, show (":" : String) = String.singleton ':' from rfl, Text.splitOn_singleton]
    rfl
  have hlemma : isWordKey "lemma" = true := by cbv
  have hxmlns : isWordKey "xmlns" = false := by cbv
  have hfields : Text.fields "strong:H430" = ["strong:H430"] := by cbv
  have hnums : attrNumbers [("lemma", "strong:H430")] = ["H430"] := by
    simp [attrNumbers, hlemma, hfields, itemNumbers, hcolon, Except.toOption]
  -- the root and the word can be read, so the verse is
  have hroot : ¬ Unreadable [("xmlns", "verse_text")] := by
    rintro (⟨kv, hkv, hword, -⟩ | ⟨-, htyped, -⟩)
    · rw [List.mem_singleton] at hkv
      subst hkv
      rw [hxmlns] at hword
      cases hword
    · simp [attrOf] at htyped
  have hword : ¬ Unreadable [("lemma", "strong:H430")] := by
    rintro (⟨kv, hkv, -, item, hitem, hnot⟩ | ⟨hall, -⟩)
    · rw [List.mem_singleton] at hkv
      subst hkv
      rw [hfields, List.mem_singleton] at hitem
      subst hitem
      rw [hcolon] at hnot
      cases hnot
    · have := hall _ List.mem_cons_self
      rw [hlemma] at this
      cases this
  have hread : readNodes true true [.element "root" "root" [("xmlns", "verse_text")]
      [.element "w" "w" [("lemma", "strong:H430")] [.text "God"]]] ≠ none := by
    rw [Ne, (readNodes_carries_words true true _ hdoc).2.2.1]
    rintro ⟨n, hn, q, name, a, cs, hw, hun⟩
    rw [List.mem_singleton] at hn
    subst hn
    rcases within_element_iff.mp hw with heq | ⟨c, hc, hwc⟩
    · cases heq
      exact hroot hun
    · rw [List.mem_singleton] at hc
      subst hc
      rcases within_element_iff.mp hwc with heq | ⟨c', hc', hwc'⟩
      · cases heq
        exact hword hun
      · rw [List.mem_singleton] at hc'
        subst hc'
        cases hwc'
  obtain ⟨⟨txt, F⟩, hread⟩ := Option.ne_none_iff_exists'.mp hread
  obtain ⟨-, hcarry⟩ := (readNodes_carries_words true true _ hdoc).2.2.2 txt F hread
  obtain ⟨body, facts, -, htexts, hwords⟩ := hcarry _ List.mem_cons_self "w" "w"
    [("lemma", "strong:H430")] [.text "God"] (.child List.mem_cons_self (.refl _))
  rw [hnums] at htexts hwords
  obtain ⟨w, hw, hvals⟩ := hwords (List.cons_ne_nil _ _)
  exact ⟨hdoc, txt, F, hread, _, fun hc => htexts hc _ List.mem_cons_self, w, hw,
    fun x => by rw [hvals, List.mem_singleton]⟩

/-- A paragraph mark without a `marker` before the word makes the reading of the whole verse
fail, so nothing is listed under H430. -/
theorem markedVerse_unread :
    readNodes true true
        [.element "root" "root" [("xmlns", "verse_text")]
          [.element "milestone" "milestone" [("type", "x-p")] [],
            .element "w" "w" [("lemma", "strong:H430")] [.text "God"]]] = none := by
  have htype : isWordKey "type" = false := by cbv
  refine (readNodes_eq_none_iff true true _).mpr ⟨_, List.mem_cons_self, "milestone", "milestone",
    [("type", "x-p")], [], .child List.mem_cons_self (.refl _), .inr ⟨?_, ?_, ?_, ?_⟩⟩
  · intro kv hkv
    rw [List.mem_singleton] at hkv
    subst hkv
    exact htype
  · decide
  · decide
  · decide

end Scripture.Markup
