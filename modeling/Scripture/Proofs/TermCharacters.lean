import Mathlib
import Scripture.Proofs.CombinedForm
import Scripture.Search.Terms

/-!
# Reading search terms brings in no character

Marking the Strong's numbers and tags of search terms, and reading a combined search into its
phrases, only move the characters of the terms about. Besides them, marking brings in the
brackets of the marks and the upper case of characters already there, and reading brings in
blanks. So a property of characters that holds of the brackets and of a blank, and that upper case
keeps, holds of every character read from terms it holds of.

* `Regex.allMatches_text`, `Match.group_chars` — a match is a match of the text searched, and its
  groups are pieces of that text.
* `Regex.replaceBy_chars` — replacing the matches of a pattern brings in only what the
  replacements do.
* `markTerms_chars` — marking terms keeps a property that upper case keeps and the brackets have.
* `readTerms_chars`, `combineTerms_chars` — reading and combining keep a property a blank has.
* `combined_markTerms_chars` — the phrases and excluded phrases of marked terms.
-/

namespace Scripture

/-- Every character of every text of a list has the property. -/
def TextsOver (P : Char → Prop) (L : List String) : Prop := ∀ s ∈ L, ∀ c ∈ s.toList, P c

section TextsOver

variable {P : Char → Prop} {L M : List String}

theorem TextsOver.nil : TextsOver P [] := fun _ h => absurd h List.not_mem_nil

theorem TextsOver.append (hL : TextsOver P L) (hM : TextsOver P M) : TextsOver P (L ++ M) := by
  intro s hs
  rcases List.mem_append.mp hs with hs | hs
  exacts [hL s hs, hM s hs]

theorem TextsOver.singleton {w : String} (hw : ∀ c ∈ w.toList, P c) : TextsOver P [w] := by
  intro s hs
  rw [List.mem_singleton.mp hs]
  exact hw

theorem TextsOver.dropLast (hL : TextsOver P L) : TextsOver P L.dropLast :=
  fun s hs => hL s (List.mem_of_mem_dropLast hs)

/-- Texts joined by a blank to another text. -/
theorem TextsOver.join (hsp : P ' ') (hL : TextsOver P L) {w : String}
    (hw : ∀ c ∈ w.toList, P c) : TextsOver P (L.map (· ++ " " ++ w)) := by
  intro s hs c hc
  obtain ⟨a, ha, rfl⟩ := List.mem_map.mp hs
  simp only [String.toList_append, List.mem_append] at hc
  rcases hc with (hc | hc) | hc
  · exact hL a ha c hc
  · rw [show c = ' ' from List.mem_singleton.mp hc]
    exact hsp
  · exact hw c hc

/-- Every text of one list joined by a blank to every text of another. -/
theorem TextsOver.pairs (hsp : P ' ') (hL : TextsOver P L) (hM : TextsOver P M) :
    TextsOver P (L.flatMap fun a => M.map (a ++ " " ++ ·)) := by
  intro s hs
  obtain ⟨a, ha, hs⟩ := List.mem_flatMap.mp hs
  obtain ⟨b, hb, rfl⟩ := List.mem_map.mp hs
  exact TextsOver.join hsp (TextsOver.singleton (hL a ha)) (hM b hb) _ (by simp)

/-- Texts joined by a separator. -/
theorem intercalate_chars {sep : String} (hsep : ∀ c ∈ sep.toList, P c) :
    ∀ {L : List String}, TextsOver P L → ∀ c ∈ (sep.intercalate L).toList, P c
  | [], _ => by simp
  | [a], hL => by simpa using hL a List.mem_cons_self
  | a :: b :: L, hL => by
    intro c hc
    rw [String.intercalate_cons_cons, String.toList_append, String.toList_append] at hc
    rcases List.mem_append.mp hc with hc | hc
    · rcases List.mem_append.mp hc with hc | hc
      · exact hL a List.mem_cons_self c hc
      · exact hsep c hc
    · exact intercalate_chars hsep (fun s hs => hL s (List.mem_cons_of_mem _ hs)) c hc

end TextsOver

/-! ### Marking terms -/

namespace Pattern

theorem Regex.matchAt_text {r : Regex} {text : Array Char} {p : Nat} {b : Bool} {m : Match}
    (h : r.matchAt text p b = some m) : m.text = text := by
  unfold Regex.matchAt at h
  obtain ⟨s, -, rfl⟩ := Option.map_eq_some_iff.mp h
  rfl

theorem Regex.search_text {r : Regex} {text : Array Char} {start : Nat} {b : Bool} {m : Match}
    (h : r.search text start b = some m) : m.text = text := by
  unfold Regex.search at h
  obtain ⟨p, -, hp⟩ := List.exists_of_findSome?_eq_some h
  exact Regex.matchAt_text hp

theorem Regex.scan_text (r : Regex) (text : Array Char) :
    ∀ fuel pos b, ∀ m ∈ r.scan text fuel pos b, m.text = text
  | 0, _, _ => by simp [Regex.scan]
  | fuel + 1, pos, b => by
    unfold Regex.scan
    split
    · simp
    · rename_i m' hm'
      intro m hm
      rcases List.mem_cons.mp hm with rfl | hm
      · exact Regex.search_text hm'
      · exact Regex.scan_text r text fuel _ _ m hm

/-- Every match of a pattern in a text is a match of that text. -/
theorem Regex.allMatches_text (r : Regex) (text : String) :
    ∀ m ∈ r.allMatches text, m.text = text.toList.toArray :=
  Regex.scan_text r _ _ 0 false

/-- A group of a match is a piece of the text matched. -/
theorem Match.group_chars (m : Match) (i : Nat) : ∀ c ∈ (m.group i).toList, c ∈ m.text.toList := by
  intro c hc
  unfold Match.group Match.group? at hc
  cases hs : m.span? i with
  | none => simp [hs] at hc
  | some ab =>
    simp only [hs, Option.map_some, Option.getD_some, String.toList_ofList,
      Array.toList_extract] at hc
    exact List.mem_of_mem_drop (List.mem_of_mem_take hc)

/-- **Replacing brings in only the replacements.** Every character of a text with its matches
replaced is a character of the text or of a replacement. -/
theorem Regex.replaceBy_chars {P : Char → Prop} (r : Regex) (text : String) (f : Match → String)
    (limit : Option Nat) (htext : ∀ c ∈ text.toList, P c)
    (hf : ∀ m ∈ r.allMatches text, ∀ c ∈ (f m).toList, P c) :
    ∀ c ∈ (r.replaceBy text f limit).1.toList, P c := by
  -- the pieces kept between the matches are pieces of the text
  have hpiece : ∀ a b, ∀ c ∈ (String.ofList (text.toList.toArray.extract a b).toList).toList,
      P c := by
    intro a b c hc
    rw [String.toList_ofList, Array.toList_extract, List.toList_toArray] at hc
    exact htext c (List.mem_of_mem_drop (List.mem_of_mem_take hc))
  have hfold : ∀ (ms : List Match), (∀ m ∈ ms, m ∈ r.allMatches text) →
      ∀ acc : String × Nat, (∀ c ∈ acc.1.toList, P c) →
      ∀ c ∈ (ms.foldl (fun (acc : String × Nat) m => (acc.1 ++
        String.ofList (text.toList.toArray.extract acc.2 m.start).toList ++ f m, m.stop))
        acc).1.toList, P c := by
    intro ms
    induction ms with
    | nil => exact fun _ acc hacc => hacc
    | cons m ms ih =>
      intro hms acc hacc
      refine ih (fun m' hm' => hms m' (List.mem_cons_of_mem _ hm')) _ ?_
      intro c hc
      simp only [String.toList_append, List.mem_append] at hc
      rcases hc with (hc | hc) | hc
      · exact hacc c hc
      · exact hpiece _ _ c hc
      · exact hf m (hms m List.mem_cons_self) c hc
  unfold Regex.replaceBy
  dsimp only
  intro c hc
  simp only [String.toList_append, List.mem_append] at hc
  rcases hc with hc | hc
  · refine hfold _ ?_ ("", 0) (by simp) c hc
    -- a limit keeps some of the matches
    intro m hm
    cases limit with
    | none => exact hm
    | some n =>
      dsimp only at hm
      split at hm
      · exact hm
      · exact List.mem_of_mem_take hm
  · exact hpiece _ _ c hc

end Pattern

open Pattern in
/-- **Marking terms brings in only brackets and upper case.** A property of characters that the
brackets of the marks have and that upper case keeps holds of every character of marked terms
when it holds of every character of the terms. -/
theorem Search.markTerms_chars {P : Char → Prop} (hupper : ∀ c, P c → ∀ d ∈ Text.upperFull c, P d)
    (hmarks : P '<' ∧ P '>' ∧ P '\x7b' ∧ P '\x7d') {text : String}
    (htext : ∀ c ∈ text.toList, P c) : ∀ c ∈ (Search.markTerms text).toList, P c := by
  -- a mark holds the upper case of a group of the text it was found in
  have hmark : ∀ (open_ close : Char), P open_ → P close → ∀ (t : String),
      (∀ c ∈ t.toList, P c) → ∀ (r : Regex), ∀ m ∈ r.allMatches t,
        ∀ c ∈ (open_.toString ++ Text.upper (m.group 1) ++ close.toString).toList, P c := by
    intro open_ close hopen hclose t ht r m hm c hc
    simp only [String.toList_append, List.mem_append] at hc
    rcases hc with (hc | hc) | hc
    · rw [show c = open_ by simpa using hc]
      exact hopen
    · rw [Text.upper, String.toList_ofList] at hc
      obtain ⟨d, hd, hcd⟩ := List.mem_flatMap.mp hc
      have hd' := Match.group_chars m 1 d hd
      rw [Regex.allMatches_text r t m hm, List.toList_toArray] at hd'
      exact hupper d (ht d hd') c hcd
    · rw [show c = close by simpa using hc]
      exact hclose
  obtain ⟨hlt, hgt, hob, hcb⟩ := hmarks
  unfold Search.markTerms
  refine Regex.replaceBy_chars _ _ _ _ ?_ fun m hm => ?_
  · exact Regex.replaceBy_chars _ _ _ _ htext fun m hm =>
      hmark '<' '>' hlt hgt text htext _ m hm
  · exact hmark '\x7b' '\x7d' hob hcb _ (Regex.replaceBy_chars _ _ _ _ htext fun m hm =>
      hmark '<' '>' hlt hgt text htext _ m hm) _ m hm

/-! ### Reading a combined search -/

/-- A finished word joins the words read. -/
theorem Text.fields_push_chars {P : Char → Prop} {cur : List Char} {acc : List String}
    (hcur : ∀ c ∈ cur, P c) (hacc : TextsOver P acc) : TextsOver P (Text.fields.push cur acc) := by
  unfold Text.fields.push
  split
  · exact hacc
  · refine TextsOver.append (TextsOver.singleton ?_) hacc
    simpa using hcur

/-- Every word of a text is a piece of it. -/
theorem Text.fields_chars {P : Char → Prop} {s : String} (hs : ∀ c ∈ s.toList, P c) :
    TextsOver P (Text.fields s) := by
  -- the characters still to read, the word being read and the words read all have the property
  have hgo : ∀ (cs cur : List Char) (acc : List String), (∀ c ∈ cs, P c) → (∀ c ∈ cur, P c) →
      TextsOver P acc → TextsOver P (Text.fields.go cs cur acc) := by
    intro cs
    induction cs with
    | nil =>
      intro cur acc _ hcur hacc
      rw [Text.fields.go.eq_1]
      exact fun w hw => Text.fields_push_chars hcur hacc w (List.mem_reverse.mp hw)
    | cons c cs ih =>
      intro cur acc hcs hcur hacc
      have hcs' : ∀ d ∈ cs, P d := fun d hd => hcs d (List.mem_cons_of_mem _ hd)
      rw [Text.fields.go.eq_2]
      split
      · exact ih [] _ hcs' (by simp) (Text.fields_push_chars hcur hacc)
      · refine ih (c :: cur) acc hcs' ?_ hacc
        intro d hd
        rcases List.mem_cons.mp hd with rfl | hd
        · exact hcs d List.mem_cons_self
        · exact hcur d hd
  exact hgo _ [] [] hs (by simp) TextsOver.nil

namespace Search

/-- Every word of a list of items, at every depth, is made of characters with the property. -/
inductive TermsOver (P : Char → Prop) : List Term → Prop
  | nil : TermsOver P []
  | word {w : String} {ts : List Term} (hw : ∀ c ∈ w.toList, P c) (hts : TermsOver P ts) :
      TermsOver P (.word w :: ts)
  | group {ins ts : List Term} (hins : TermsOver P ins) (hts : TermsOver P ts) :
      TermsOver P (.group ins :: ts)

section Reading

variable {P : Char → Prop}

theorem TermsOver.append {ts us : List Term} (hts : TermsOver P ts) (hus : TermsOver P us) :
    TermsOver P (ts ++ us) := by
  induction hts with
  | nil => exact hus
  | word hw _ ih => exact .word hw ih
  | group hins _ _ ih => exact .group hins ih

theorem wordTerms_chars {text : String} (htext : ∀ c ∈ text.toList, P c) :
    TermsOver P (wordTerms text) := by
  have hwords : ∀ ws : List String, TextsOver P ws → TermsOver P (ws.map .word) := by
    intro ws
    induction ws with
    | nil => exact fun _ => .nil
    | cons w ws ih =>
      exact fun hws => .word (hws w List.mem_cons_self)
        (ih fun s hs => hws s (List.mem_cons_of_mem _ hs))
  exact hwords _ (Text.fields_chars htext)

/-- **Reading keeps the characters.** Reading characters with the property, after a word and
items made of them, gives items made of them, and leaves characters with the property. The
induction is on the fuel, which every character read and every group uses. -/
theorem readTerms_chars : ∀ (fuel : Nat) (top : Bool) (cs : List Char) (text : String)
    (acc : List Term), (∀ c ∈ cs, P c) → (∀ c ∈ text.toList, P c) → TermsOver P acc →
    TermsOver P (readTerms top fuel cs text acc).1 ∧ ∀ c ∈ (readTerms top fuel cs text acc).2, P c
  | 0, top, cs, text, acc, hcs, htext, hacc => by
    rw [readTerms]
    exact ⟨hacc.append (wordTerms_chars htext), hcs⟩
  | fuel + 1, top, [], text, acc, _, htext, hacc => by
    rw [readTerms]
    exact ⟨hacc.append (wordTerms_chars htext), by simp⟩
  | fuel + 1, top, c :: cs, text, acc, hcs, htext, hacc => by
    have hcs' : ∀ d ∈ cs, P d := fun d hd => hcs d (List.mem_cons_of_mem _ hd)
    rw [readTerms]
    split
    · -- a group is read up to its closing parenthesis, and reading goes on after it
      obtain ⟨hin, hrest⟩ := readTerms_chars fuel false cs "" [] hcs' (by simp) .nil
      rcases hread : readTerms false fuel cs "" [] with ⟨inner, rest⟩
      rw [hread] at hin hrest
      exact readTerms_chars fuel top rest "" _ hrest (by simp)
        ((hacc.append (wordTerms_chars htext)).append (.group hin .nil))
    · split
      · exact ⟨hacc.append (wordTerms_chars htext), hcs'⟩
      · refine readTerms_chars fuel top cs (text.push c) acc hcs' ?_ hacc
        intro d hd
        rw [String.toList_push, List.mem_append] at hd
        rcases hd with hd | hd
        · exact htext d hd
        · rw [List.mem_singleton.mp hd]
          exact hcs c List.mem_cons_self

/-- Phrases and excluded phrases all of whose characters have the property. -/
def PairOver (P : Char → Prop) (x : List String × List String) : Prop :=
  TextsOver P x.1 ∧ TextsOver P x.2

variable (hsp : P ' ')
include hsp

/-- Combining one item keeps the characters, when combining a group does. -/
theorem combineStep_chars {n : Nat}
    (hin : ∀ ins, TermsOver P ins → PairOver P (combineTerms n ins))
    {acc : List String × List String} (hacc : PairOver P acc) {t : Term} {ts : List Term}
    (ht : TermsOver P (t :: ts)) : PairOver P (combineStep n acc t) := by
  obtain ⟨work, nots⟩ := acc
  obtain ⟨hwork, hnots⟩ := hacc
  cases ht with
  | word hw _ =>
    have hword := TextsOver.singleton hw
    unfold combineStep
    dsimp only
    split
    · exact ⟨hwork, hnots⟩
    · split
      · exact ⟨hwork.append hword, hnots⟩
      · split
        · exact ⟨hwork.dropLast.join hsp hw, hnots⟩
        · exact ⟨hwork.dropLast, hnots.append hword⟩
        · exact ⟨hwork.append hword, hnots⟩
  | @group ins _ hins _ =>
    rcases hcomb : combineTerms n ins with ⟨phrases, innerNots⟩
    obtain ⟨hph, hinner⟩ : PairOver P (phrases, innerNots) := hcomb ▸ hin _ hins
    unfold combineStep
    dsimp only
    rw [hcomb]
    dsimp only
    split
    · exact ⟨hwork.dropLast.pairs hsp hph, hnots.append hinner⟩
    · exact ⟨hwork.dropLast, (hnots.append hinner).append hph⟩
    · exact ⟨hwork.append hph, hnots.append hinner⟩

/-- **Combining keeps the characters.** Combining items made of characters with the property
gives phrases and excluded phrases made of them. -/
theorem combineTerms_chars : ∀ (n : Nat) (ts : List Term), TermsOver P ts →
    PairOver P (combineTerms n ts)
  | 0, _, _ => ⟨TextsOver.nil, TextsOver.nil⟩
  | n + 1, ts, hts => by
    -- the fold keeps the characters, one item after another
    have hfold : ∀ (us : List Term), TermsOver P us → ∀ acc, PairOver P acc →
        PairOver P (us.foldl (combineStep n) acc) := by
      intro us hus
      induction hus with
      | nil => exact fun acc hacc => hacc
      | word hw hts ih =>
        exact fun acc hacc => ih _ (combineStep_chars hsp (fun ins h => combineTerms_chars n ins h)
          hacc (.word hw hts))
      | group hins hts _ ih =>
        exact fun acc hacc => ih _ (combineStep_chars hsp (fun ins h => combineTerms_chars n ins h)
          hacc (.group hins hts))
    rw [combineTerms_succ]
    rcases hf : ts.foldl (combineStep n) ([], []) with ⟨work, nots⟩
    obtain ⟨hwork, hnots⟩ : PairOver P (work, nots) :=
      hf ▸ hfold ts hts ([], []) ⟨TextsOver.nil, TextsOver.nil⟩
    refine ⟨fun s hs => ?_, hnots⟩
    obtain ⟨p, hp, rfl⟩ := List.mem_map.mp hs
    exact intercalate_chars (by simpa using hsp) (Text.fields_chars (hwork p hp))

/-- **Reading a combined search keeps the characters.** -/
theorem combined_chars {s : String} (hs : ∀ c ∈ s.toList, P c) : PairOver P (combined s) :=
  combineTerms_chars hsp _ _ (readTerms_chars _ true _ "" [] hs (by simp) .nil).1

end Reading

/-- **The phrases of marked terms are made of their characters.** A property of characters that a
blank and the brackets of the marks have and that upper case keeps holds of every character of
the phrases and excluded phrases of a combined search of terms it holds of. -/
theorem combined_markTerms_chars {P : Char → Prop} (hsp : P ' ')
    (hupper : ∀ c, P c → ∀ d ∈ Text.upperFull c, P d)
    (hmarks : P '<' ∧ P '>' ∧ P '\x7b' ∧ P '\x7d') {text : String}
    (htext : ∀ c ∈ text.toList, P c) : PairOver P (combined (markTerms text)) :=
  combined_chars hsp (markTerms_chars hupper hmarks htext)

end Search

end Scripture
