import Mathlib
import Scripture.Search.Combined

/-!
# Combined searches read into disjunctive normal form

A combined search is built from words, `AND`, `OR`, juxtaposition (which means `OR`) and groups
in parentheses, all read from left to right at one precedence; at its top level, items
`NOT w` or `NOT (E)` may stand anywhere but right after `AND`. Reading it (`combined`) gives its
phrases and its excluded phrases: with the `NOT` items taken out, the phrases are the
disjunctive normal form of what is left, each conjunction written as its words joined by single
blanks, and the excluded phrases are the normal forms of the `NOT` items, one after another.

* `Word`, `Operand`, `Expr`, `Query` — the grammar; `Query.expr` and `Query.excluded` split a
  query into what is left without its `NOT` items and those items.
* `Expr.dnf`, `Expr.eval`, `Expr.dnf_eval` — the normal form of an expression, and its meaning
  when each word stands for a set: the union over its conjunctions of the intersection of their
  words' sets.
* `Writes` — the ways of writing a list of items: any blanks between them, at least one between
  two words.
* `readTerms_writes` — reading a written list gives the list back.
* `combineTerms_query` — combining the items of a query gives the normal forms.
* `combined_normalForm` — every written query reads into the normal form of what its `NOT`
  items leave, and of those items; `createdNotGroup_combined` is the case of
  `created NOT (and OR but)`.
-/

namespace Scripture

/-! ### Words of a text -/

namespace Text

/-- Words already found are kept in front of those still to come. -/
theorem fields_go_acc (cs cur : List Char) (acc : List String) :
    fields.go cs cur acc = acc.reverse ++ fields.go cs cur [] := by
  induction cs generalizing cur acc with
  | nil => unfold fields.go fields.push; split <;> simp
  | cons c cs ih =>
    unfold fields.go
    split
    · rw [ih, ih [] (fields.push cur [])]
      unfold fields.push
      split <;> simp
    · exact ih (c :: cur) acc

/-- A blank ends the word being read: what comes before it and what comes after it are read
apart. -/
theorem fields_go_blank (x y : List Char) {b : Char} (hb : isBlank b = true) (cur : List Char)
    (acc : List String) :
    fields.go (x ++ b :: y) cur acc = fields.go x cur acc ++ fields.go y [] [] := by
  induction x generalizing cur acc with
  | nil =>
    rw [List.nil_append, fields.go.eq_2, if_pos hb, fields_go_acc, fields.go.eq_1]
  | cons c x ih =>
    rw [List.cons_append, fields.go, fields.go]
    split
    · exact ih [] _
    · exact ih _ acc

/-- A text read after one that ends where a blank starts is read on its own. -/
theorem fields_append_of_blank (x y : String) (hy : ∀ c ∈ y.toList.head?, isBlank c = true) :
    fields (x ++ y) = fields x ++ fields y := by
  unfold fields
  rw [String.toList_append]
  cases hys : y.toList with
  | nil => simp [fields.go, fields.push]
  | cons b y' =>
    have hb : isBlank b = true := hy b (by simp [hys])
    rw [fields_go_blank _ _ hb, fields.go.eq_2, if_pos hb]
    rfl

/-- A run of blanks holds no word. -/
theorem fields_go_blanks (g : List Char) (hg : ∀ c ∈ g, isBlank c = true) :
    fields.go g [] [] = [] := by
  induction g with
  | nil => rfl
  | cons c g ih =>
    rw [fields.go, if_pos (hg c List.mem_cons_self)]
    exact ih fun c hc => hg c (List.mem_cons_of_mem _ hc)

/-- Blanks at the end of a text add no word. -/
theorem fields_append_blanks (x : String) {g : List Char} (hg : ∀ c ∈ g, isBlank c = true) :
    fields (x ++ String.ofList g) = fields x := by
  rw [fields_append_of_blank]
  · unfold fields
    rw [String.toList_ofList, fields_go_blanks g hg, List.append_nil]
  · intro c hc
    rw [String.toList_ofList] at hc
    exact hg c (List.mem_of_mem_head? hc)

/-- A text with no blank is one word. -/
theorem fields_go_word (w cur : List Char) (hw : ∀ c ∈ w, isBlank c = false) :
    fields.go w cur [] = (fields.push (w.reverse ++ cur) []).reverse := by
  induction w generalizing cur with
  | nil => rfl
  | cons c w ih =>
    rw [fields.go, if_neg (by rw [hw c List.mem_cons_self]; decide),
      ih (c :: cur) fun c hc => hw c (List.mem_cons_of_mem _ hc)]
    simp

/-- Blanks in front of a text add no word. -/
theorem fields_go_blanks_append {g : List Char} (hg : ∀ c ∈ g, isBlank c = true) (y : List Char) :
    fields.go (g ++ y) [] [] = fields.go y [] [] := by
  induction g with
  | nil => rfl
  | cons b g ih =>
    rw [List.cons_append, fields.go.eq_2, if_pos (hg b List.mem_cons_self)]
    exact ih fun c hc => hg c (List.mem_cons_of_mem _ hc)

theorem fields_blanks_append {g : List Char} (hg : ∀ c ∈ g, isBlank c = true) (y : String) :
    fields (String.ofList g ++ y) = fields y := by
  unfold fields
  rw [String.toList_append, String.toList_ofList, fields_go_blanks_append hg]

/-- A blank in front of a text adds no word. -/
theorem fields_space (p : String) : fields (" " ++ p) = fields p := by
  unfold fields
  rw [String.toList_append, show (" " : String).toList = [' '] from rfl, List.singleton_append,
    fields.go.eq_2, if_pos (by decide)]
  rfl

theorem fields_word {w : String} (hne : w.toList ≠ []) (hw : ∀ c ∈ w.toList, isBlank c = false) :
    fields w = [w] := by
  unfold fields
  rw [fields_go_word _ _ hw, List.append_nil, fields.push, if_neg (by simpa using hne),
    List.reverse_reverse, String.ofList_toList, List.reverse_singleton]

end Text

namespace Search

/-! ### The grammar -/

/-- A word of a combined search: not empty, with no blank and no parenthesis, and none of the
operators `AND`, `OR` and `NOT`. -/
structure Word where
  text : String
  nonempty : text.toList ≠ []
  plain : ∀ c ∈ text.toList, Text.isBlank c = false ∧ c ≠ '(' ∧ c ≠ ')'
  notOperator : text ≠ "AND" ∧ text ≠ "OR" ∧ text ≠ "NOT"

/-- How an operand joins what comes before it. -/
inductive Operator where
  | and | or | juxt
deriving DecidableEq, Repr

mutual
/-- An operand: a word, or an expression in parentheses. -/
inductive Operand where
  | word (w : Word)
  | group (e : Expr)
/-- An expression without `NOT`: operands joined one after another, read from left to right. -/
inductive Expr where
  | single (o : Operand)
  | join (e : Expr) (op : Operator) (o : Operand)
end

/-- A combined search: an expression with items excluded by `NOT` at its top level, before its
first operand, after any operand and after `OR`, but never right after `AND`. -/
inductive Query where
  | first (pre : List Operand) (o : Operand) (post : List Operand)
  | and (q : Query) (o : Operand) (post : List Operand)
  | or (q : Query) (mid : List Operand) (o : Operand) (post : List Operand)
  | juxt (q : Query) (o : Operand) (post : List Operand)

/-- The expression a query leaves when its `NOT` items are taken out. -/
def Query.expr : Query → Expr
  | .first _ o _ => .single o
  | .and q o _ => .join q.expr .and o
  | .or q _ o _ => .join q.expr .or o
  | .juxt q o _ => .join q.expr .juxt o

/-- The operands of a query's `NOT` items, in order. -/
def Query.excluded : Query → List Operand
  | .first pre _ post => pre ++ post
  | .and q _ post => q.excluded ++ post
  | .or q mid _ post => q.excluded ++ mid ++ post
  | .juxt q _ post => q.excluded ++ post

/-! ### Normal form and meaning -/

/-- A conjunction written as a phrase: its words joined by single blanks. -/
def phrase (c : List Word) : String := " ".intercalate (c.map (·.text))

mutual
/-- The conjunctions an operand stands for. -/
def Operand.dnf : Operand → List (List Word)
  | .word w => [[w]]
  | .group e => e.dnf
/-- The disjunctive normal form of an expression: `AND` pairs every conjunction before it with
every conjunction of its operand, in order, and `OR` and juxtaposition put the operand's after
those before it. -/
def Expr.dnf : Expr → List (List Word)
  | .single o => o.dnf
  | .join e .and o => e.dnf.flatMap fun c => o.dnf.map (c ++ ·)
  | .join e .or o => e.dnf ++ o.dnf
  | .join e .juxt o => e.dnf ++ o.dnf
end

section Meaning

variable {α : Type}

mutual
/-- The set an operand stands for when each word stands for a set. -/
def Operand.eval (S : String → Set α) : Operand → Set α
  | .word w => S w.text
  | .group e => e.eval S
/-- The set an expression stands for: `AND` intersects, `OR` and juxtaposition join. -/
def Expr.eval (S : String → Set α) : Expr → Set α
  | .single o => o.eval S
  | .join e .and o => e.eval S ∩ o.eval S
  | .join e .or o => e.eval S ∪ o.eval S
  | .join e .juxt o => e.eval S ∪ o.eval S
end

/-- The set a list of conjunctions stands for: the union over them of the intersection of their
words' sets. -/
def dnfSet (S : String → Set α) (D : List (List Word)) : Set α := {x | ∃ c ∈ D, ∀ w ∈ c, x ∈ S w.text}

theorem dnfSet_append (S : String → Set α) (D E : List (List Word)) :
    dnfSet S (D ++ E) = dnfSet S D ∪ dnfSet S E := by
  ext x
  simp only [dnfSet, List.mem_append, Set.mem_ofPred_eq, Set.mem_union]
  constructor
  · rintro ⟨c, hc | hc, hx⟩
    · exact Or.inl ⟨c, hc, hx⟩
    · exact Or.inr ⟨c, hc, hx⟩
  · rintro (⟨c, hc, hx⟩ | ⟨c, hc, hx⟩)
    · exact ⟨c, Or.inl hc, hx⟩
    · exact ⟨c, Or.inr hc, hx⟩

/-- Pairing every conjunction of one list with every conjunction of another intersects what they
stand for. -/
theorem dnfSet_product (S : String → Set α) (D E : List (List Word)) :
    dnfSet S (D.flatMap fun c => E.map (c ++ ·)) = dnfSet S D ∩ dnfSet S E := by
  ext x
  simp only [dnfSet, List.mem_flatMap, List.mem_map, Set.mem_ofPred_eq, Set.mem_inter_iff]
  constructor
  · rintro ⟨_, ⟨c, hc, d, hd, rfl⟩, hx⟩
    exact ⟨⟨c, hc, fun w hw => hx w (List.mem_append_left _ hw)⟩,
      ⟨d, hd, fun w hw => hx w (List.mem_append_right _ hw)⟩⟩
  · rintro ⟨⟨c, hc, hxc⟩, ⟨d, hd, hxd⟩⟩
    refine ⟨c ++ d, ⟨c, hc, d, hd, rfl⟩, fun w hw => ?_⟩
    rcases List.mem_append.mp hw with hw | hw
    exacts [hxc w hw, hxd w hw]

mutual
/-- **The normal form means what the expression means.** -/
theorem Operand.dnf_eval (S : String → Set α) : ∀ o : Operand, dnfSet S o.dnf = o.eval S
  | .word w => by
    ext x
    simp [dnfSet, Operand.dnf, Operand.eval]
  | .group e => by rw [Operand.dnf, Operand.eval, e.dnf_eval]
theorem Expr.dnf_eval (S : String → Set α) : ∀ e : Expr, dnfSet S e.dnf = e.eval S
  | .single o => by rw [Expr.dnf, Expr.eval, o.dnf_eval]
  | .join e .and o => by rw [Expr.dnf, Expr.eval, dnfSet_product, e.dnf_eval, o.dnf_eval]
  | .join e .or o => by rw [Expr.dnf, Expr.eval, dnfSet_append, e.dnf_eval, o.dnf_eval]
  | .join e .juxt o => by rw [Expr.dnf, Expr.eval, dnfSet_append, e.dnf_eval, o.dnf_eval]
end

end Meaning

mutual
/-- Every conjunction an operand stands for has a word. -/
theorem Operand.dnf_ne_nil : ∀ o : Operand, ∀ c ∈ o.dnf, c ≠ []
  | .word w => by simp [Operand.dnf]
  | .group e => by rw [Operand.dnf]; exact e.dnf_ne_nil
theorem Expr.dnf_ne_nil : ∀ e : Expr, ∀ c ∈ e.dnf, c ≠ []
  | .single o => by rw [Expr.dnf]; exact o.dnf_ne_nil
  | .join e .and o => by
    rw [Expr.dnf]
    intro c hc
    obtain ⟨a, ha, b, -, rfl⟩ := by simpa only [List.mem_flatMap, List.mem_map] using hc
    simp [e.dnf_ne_nil a ha]
  | .join e .or o => by
    rw [Expr.dnf]
    intro c hc
    rcases List.mem_append.mp hc with h | h
    exacts [e.dnf_ne_nil c h, o.dnf_ne_nil c h]
  | .join e .juxt o => by
    rw [Expr.dnf]
    intro c hc
    rcases List.mem_append.mp hc with h | h
    exacts [e.dnf_ne_nil c h, o.dnf_ne_nil c h]
end

/-! ### Phrases -/

/-- A phrase of more than one word is its first word, a blank, and the phrase of the others. -/
theorem phrase_cons (w : Word) {d : List Word} (hd : d ≠ []) :
    phrase (w :: d) = w.text ++ (" " ++ phrase d) := by
  rw [phrase, List.map_cons, String.intercalate_cons_of_ne_nil (by simpa using hd),
    String.append_assoc]
  rfl

/-- The words of a phrase are the words of its conjunction. -/
theorem fields_phrase : ∀ {c : List Word}, c ≠ [] → Text.fields (phrase c) = c.map (·.text)
  | [w], _ => by
    rw [phrase, List.map_singleton, String.intercalate_singleton]
    exact Text.fields_word w.nonempty fun ch hch => (w.plain ch hch).1
  | w :: v :: c, _ => by
    have hspace : ∀ ch ∈ (" " ++ phrase (v :: c)).toList.head?, Text.isBlank ch = true := by
      intro ch hch
      simp only [String.toList_append, List.head?_append] at hch
      cases hch
      decide
    rw [phrase_cons w (List.cons_ne_nil v c), Text.fields_append_of_blank _ _ hspace,
      Text.fields_word w.nonempty fun ch hch => (w.plain ch hch).1, Text.fields_space,
      fields_phrase (List.cons_ne_nil v c), List.map_cons]
    rfl

/-- Two phrases joined by a blank are the phrase of the two conjunctions joined. -/
theorem phrase_append {c d : List Word} (hc : c ≠ []) (hd : d ≠ []) :
    phrase c ++ " " ++ phrase d = phrase (c ++ d) := by
  rw [phrase, phrase, phrase, List.map_append, String.intercalate_append_of_ne_nil (by simpa) (by simpa)]

/-- Rewriting a phrase with single blanks keeps it. -/
theorem respace_phrase {c : List Word} (hc : c ≠ []) :
    " ".intercalate (Text.fields (phrase c)) = phrase c := by
  rw [fields_phrase hc]
  rfl

/-- A phrase is none of the markers `AND` and `NOT`: a phrase of one word is that word, and a
longer one holds a blank. -/
theorem phrase_ne_marker : ∀ {c : List Word}, c ≠ [] → phrase c ≠ "AND" ∧ phrase c ≠ "NOT"
  | [w], _ => by
    rw [phrase, List.map_singleton, String.intercalate_singleton]
    exact ⟨w.notOperator.1, w.notOperator.2.2⟩
  | w :: v :: c, _ => by
    have hblank : ' ' ∈ (phrase (w :: v :: c)).toList := by
      rw [phrase, List.map_cons, String.intercalate_cons_of_ne_nil (by simp)]
      simp [String.toList_append]
    constructor
    · intro h
      rw [h] at hblank
      exact absurd hblank (by decide)
    · intro h
      rw [h] at hblank
      exact absurd hblank (by decide)

/-! ### The items of a query -/

mutual
/-- The items an operand is read into. -/
def Operand.terms : Operand → List Term
  | .word w => [.word w.text]
  | .group e => [.group e.terms]
/-- The items an expression is read into: its operands and operators in order. -/
def Expr.terms : Expr → List Term
  | .single o => o.terms
  | .join e .and o => e.terms ++ .word "AND" :: o.terms
  | .join e .or o => e.terms ++ .word "OR" :: o.terms
  | .join e .juxt o => e.terms ++ o.terms
end

/-- The items of a list of `NOT` items. -/
def notTerms (xs : List Operand) : List Term := xs.flatMap fun o => .word "NOT" :: o.terms

/-- The items a query is read into. -/
def Query.terms : Query → List Term
  | .first pre o post => notTerms pre ++ o.terms ++ notTerms post
  | .and q o post => q.terms ++ .word "AND" :: o.terms ++ notTerms post
  | .or q mid o post => q.terms ++ .word "OR" :: notTerms mid ++ o.terms ++ notTerms post
  | .juxt q o post => q.terms ++ o.terms ++ notTerms post

/-- How deep groups are nested in a list of items. -/
def termsDepth : List Term → Nat
  | [] => 0
  | .word _ :: ts => termsDepth ts
  | .group ins :: ts => max (termsDepth ins + 1) (termsDepth ts)

theorem termsDepth_append (ts us : List Term) :
    termsDepth (ts ++ us) = max (termsDepth ts) (termsDepth us) := by
  induction ts with
  | nil => simp [termsDepth]
  | cons t ts ih =>
    cases t with
    | word w => simp only [List.cons_append, termsDepth, ih]
    | group ins => simp only [List.cons_append, termsDepth, ih, Nat.max_assoc]

/-! ### Writing a query -/

/-- The ways of writing a list of items at one level: each item after blanks, a word that only a
blank or an opening parenthesis may follow, or a group in parentheses; blanks may end the
list. -/
inductive Writes : List Term → List Char → Prop
  | blanks {g : List Char} (hg : ∀ c ∈ g, Text.isBlank c = true) : Writes [] g
  | word {g w rest : List Char} {ts : List Term} (hg : ∀ c ∈ g, Text.isBlank c = true)
      (hw : w ≠ []) (hplain : ∀ c ∈ w, Text.isBlank c = false ∧ c ≠ '(' ∧ c ≠ ')')
      (hsep : ∀ c ∈ rest.head?, Text.isBlank c = true ∨ c = '(')
      (hrest : Writes ts rest) : Writes (.word (String.ofList w) :: ts) (g ++ w ++ rest)
  | group {g inner rest : List Char} {ins ts : List Term} (hg : ∀ c ∈ g, Text.isBlank c = true)
      (hin : Writes ins inner) (hrest : Writes ts rest) :
      Writes (.group ins :: ts) (g ++ '(' :: (inner ++ ')' :: rest))

/-- Groups are nested no deeper than a written list is long. -/
theorem Writes.depth_le {ts : List Term} {cs : List Char} (h : Writes ts cs) :
    termsDepth ts ≤ cs.length := by
  induction h with
  | blanks => simp [termsDepth]
  | word _ _ _ _ _ ih =>
    rw [termsDepth, List.length_append, List.length_append]
    omega
  | group _ _ _ ihin ihrest =>
    simp only [termsDepth, List.length_append, List.length_cons]
    omega

/-- A text with no blank and no parenthesis written after blanks, in front of a list that a
blank or an opening parenthesis starts, is written as a word. -/
theorem Writes.cons_text {ts : List Term} {rest : List Char} (g : List Char) (s : String)
    (hg : ∀ c ∈ g, Text.isBlank c = true) (hs : s.toList ≠ [])
    (hplain : ∀ c ∈ s.toList, Text.isBlank c = false ∧ c ≠ '(' ∧ c ≠ ')')
    (hsep : ∀ c ∈ rest.head?, Text.isBlank c = true ∨ c = '(') (hrest : Writes ts rest) :
    Writes (.word s :: ts) (g ++ s.toList ++ rest) := by
  have h := Writes.word hg hs hplain hsep hrest
  rwa [String.ofList_toList] at h

/-! ### Reading a written query -/

/-- A blank is not a parenthesis. -/
theorem paren_of_blank {c : Char} (h : Text.isBlank c = true) : c ≠ '(' ∧ c ≠ ')' := by
  constructor <;> rintro rfl <;> exact absurd h (by decide)

/-- Reading a run of characters without parentheses adds them to the text of the word being
read. -/
theorem readTerms_segment (top : Bool) {seg : List Char} (hseg : ∀ c ∈ seg, c ≠ '(' ∧ c ≠ ')')
    (rest : List Char) (acc : List Term) :
    ∀ (fuel : Nat) (text : String), seg.length ≤ fuel →
      readTerms top fuel (seg ++ rest) text acc =
        readTerms top (fuel - seg.length) rest (text ++ String.ofList seg) acc := by
  induction seg with
  | nil =>
    intro fuel text _
    simp
  | cons c seg ih =>
    intro fuel text hlen
    obtain ⟨k, rfl⟩ : ∃ k, fuel = k + 1 := ⟨fuel - 1, by simp at hlen; omega⟩
    obtain ⟨hopen, hclose⟩ := hseg c List.mem_cons_self
    have htext : text.push c ++ String.ofList seg = text ++ String.ofList (c :: seg) := by
      apply String.ext
      simp [String.toList_push]
    rw [List.cons_append, readTerms, if_neg (by simpa using hopen),
      if_neg (by simp [hclose]), ih (fun c hc => hseg c (List.mem_cons_of_mem _ hc)) k _
        (by simp at hlen; omega), htext, List.length_cons, Nat.add_sub_add_right]

/-- A word read after blanks is one more word, when no word is being read or the blanks are
there to end it. -/
theorem wordTerms_blanks_word {text : String} {g w : List Char}
    (hg : ∀ c ∈ g, Text.isBlank c = true) (hw : w ≠ []) (hplain : ∀ c ∈ w, Text.isBlank c = false)
    (hsep : text.toList = [] ∨ g ≠ []) :
    wordTerms (text ++ String.ofList (g ++ w)) = wordTerms text ++ [.word (String.ofList w)] := by
  have hword : Text.fields (String.ofList w) = [String.ofList w] :=
    Text.fields_word (by simpa using hw) (by simpa using hplain)
  rw [wordTerms, wordTerms, String.ofList_append]
  rcases hsep with htext | hgne
  · rw [String.toList_eq_nil_iff.mp htext, String.empty_append, Text.fields_blanks_append hg,
      hword]
    rfl
  · obtain ⟨b, g', rfl⟩ := List.exists_cons_of_ne_nil hgne
    rw [Text.fields_append_of_blank text _ (by
        intro c hc
        simp only [String.toList_append, String.toList_ofList, List.cons_append,
          List.head?_cons, Option.mem_def, Option.some.injEq] at hc
        subst hc
        exact hg _ List.mem_cons_self),
      Text.fields_blanks_append hg, hword, List.map_append]
    rfl

/-- A word written where only a blank or an opening parenthesis may start comes after
blanks. -/
theorem blanks_ne_nil_of_head {g w rest : List Char} (hw : w ≠ [])
    (hplain : ∀ c ∈ w, Text.isBlank c = false ∧ c ≠ '(' ∧ c ≠ ')')
    (hhead : ∀ c ∈ (g ++ w ++ rest).head?, Text.isBlank c = true ∨ c = '(') : g ≠ [] := by
  intro hnil
  obtain ⟨c, w', rfl⟩ := List.exists_cons_of_ne_nil hw
  obtain ⟨hnb, hno, -⟩ := hplain c List.mem_cons_self
  rcases hhead c (by simp [hnil]) with hc | hc
  · rw [hnb] at hc
    exact absurd hc (by decide)
  · exact hno hc

/-- What reading a written list ends on: the end of the text at the top level, or the parenthesis
that closes a group, after which `rest` is left. -/
def Closes (top : Bool) (more rest : List Char) : Prop :=
  (top = true ∧ more = [] ∧ rest = []) ∨ (top = false ∧ more = ')' :: rest)

/-- Reading ends where the text ends or its group closes, with the words of the text being read
added. -/
theorem readTerms_close {top : Bool} {more rest : List Char} (h : Closes top more rest)
    {fuel : Nat} (hfuel : 0 < fuel) (text : String) (acc : List Term) :
    readTerms top fuel more text acc = (acc ++ wordTerms text, rest) := by
  obtain ⟨k, rfl⟩ : ∃ k, fuel = k + 1 := ⟨fuel - 1, by omega⟩
  rcases h with ⟨-, rfl, rfl⟩ | ⟨rfl, rfl⟩
  · rw [readTerms]
  · rw [readTerms, if_neg (by decide), if_pos (by decide)]

/-- **Reading a written list gives it back.** Reading the characters of a written list of items,
from a word that no character of it can lengthen, until the text ends or a group closes, adds the
list to the items read. -/
theorem readTerms_writes {ts : List Term} {cs : List Char} (h : Writes ts cs) :
    ∀ (top : Bool) (fuel : Nat) (text : String) (acc : List Term) (more rest : List Char),
      Closes top more rest → cs.length < fuel →
      (text.toList = [] ∨ ∀ c ∈ cs.head?, Text.isBlank c = true ∨ c = '(') →
      readTerms top fuel (cs ++ more) text acc = (acc ++ wordTerms text ++ ts, rest) := by
  induction h with
  | blanks hg =>
    intro top fuel text acc more rest hcl hfuel _
    rw [readTerms_segment top (fun c hc => paren_of_blank (hg c hc)) more acc fuel text
      (Nat.le_of_lt hfuel), readTerms_close hcl (by omega), wordTerms,
      Text.fields_append_blanks _ hg, List.append_nil]
    rfl
  | @word g w rest' ts hg hw hplain hsep _ ih =>
    intro top fuel text acc more rest hcl hfuel hstart
    -- the blanks and the word join the text being read
    have hseg : ∀ c ∈ g ++ w, c ≠ '(' ∧ c ≠ ')' := by
      intro c hc
      rcases List.mem_append.mp hc with hc | hc
      · exact paren_of_blank (hg c hc)
      · exact (hplain c hc).2
    simp only [List.length_append] at hfuel
    rw [List.append_assoc, readTerms_segment top hseg _ acc fuel text
      (by simp only [List.length_append]; omega),
      ih top _ _ acc more rest hcl (by simp only [List.length_append]; omega) (Or.inr hsep)]
    -- with no blank before it, the word starts the list, and no word is being read
    have hsep' : text.toList = [] ∨ g ≠ [] := hstart.imp id (blanks_ne_nil_of_head hw hplain)
    rw [wordTerms_blanks_word hg hw (fun c hc => (hplain c hc).1) hsep']
    simp
  | @group g inner rest' ins ts hg _ _ ihin ihrest =>
    intro top fuel text acc more rest hcl hfuel _
    simp only [List.length_append, List.length_cons] at hfuel
    rw [List.append_assoc, readTerms_segment top (fun c hc => paren_of_blank (hg c hc)) _ acc
      fuel text (by omega)]
    obtain ⟨k, hk⟩ : ∃ k, fuel - g.length = k + 1 := ⟨fuel - g.length - 1, by omega⟩
    -- the group is read up to its closing parenthesis, and reading goes on after it
    rw [hk, List.cons_append, readTerms, if_pos (by decide), List.append_assoc, List.cons_append,
      ihin false k "" [] (')' :: (rest' ++ more)) (rest' ++ more) (Or.inr ⟨rfl, rfl⟩)
        (by omega) (Or.inl rfl)]
    dsimp only
    have hnone : wordTerms "" = [] := rfl
    rw [ihrest top k "" _ more rest hcl (by omega) (Or.inl rfl), hnone, wordTerms,
      Text.fields_append_blanks _ hg]
    simp [wordTerms]

/-! ### Combining the items of a query -/

/-- One item combined into the phrases and the excluded phrases read so far, groups combined with
`fuel`: the step `combineTerms` folds over a list of items. -/
def combineStep (fuel : Nat) (acc : List String × List String) (t : Term) :
    List String × List String :=
  let (work, nots) := acc
  match t with
  | .word w =>
    if w == "OR" then (work, nots)
    else if w == "AND" then (work ++ [w], nots)
    else match work.getLast? with
      | some "AND" => (work.dropLast.map (· ++ " " ++ w), nots)
      | some "NOT" => (work.dropLast, nots ++ [w])
      | _ => (work ++ [w], nots)
  | .group inner =>
    let (phrases, innerNots) := combineTerms fuel inner
    let nots := nots ++ innerNots
    match work.getLast? with
    | some "AND" => (work.dropLast.flatMap (fun a => phrases.map (a ++ " " ++ ·)), nots)
    | some "NOT" => (work.dropLast, nots ++ phrases)
    | _ => (work ++ phrases, nots)

theorem combineTerms_succ (fuel : Nat) (ts : List Term) :
    combineTerms (fuel + 1) ts =
      match ts.foldl (combineStep fuel) ([], []) with
      | (work, nots) => (work.map fun p => " ".intercalate (Text.fields p), nots) := rfl

/-- The marker the phrases read so far end on: none, or an `AND` or a `NOT` waiting for its
operand. -/
inductive Mark where
  | none | and | not

/-- Phrases with a marker put after them. -/
def Mark.attach : Mark → List String → List String
  | .none, work => work
  | .and, work => work ++ ["AND"]
  | .not, work => work ++ ["NOT"]

/-- Phrases that do not end on a marker. -/
def Open (work : List String) : Prop := ∀ p ∈ work.getLast?, p ≠ "AND" ∧ p ≠ "NOT"

/-- A word after the phrases read so far: added as a phrase, joined to every phrase after `AND`,
or excluded after `NOT`. -/
theorem combineStep_word (n : Nat) (m : Mark) {work : List String} (hopen : Open work)
    (nots : List String) {w : String} (hw : w ≠ "OR" ∧ w ≠ "AND") :
    combineStep n (m.attach work, nots) (.word w) =
      match m with
      | .none => (work ++ [w], nots)
      | .and => (work.map (· ++ " " ++ w), nots)
      | .not => (work, nots ++ [w]) := by
  unfold combineStep
  dsimp only
  rw [if_neg (by simpa using hw.1), if_neg (by simpa using hw.2)]
  cases m with
  | none =>
    split
    · rename_i h
      exact absurd rfl (hopen "AND" (by simpa [Mark.attach] using h)).1
    · rename_i h
      exact absurd rfl (hopen "NOT" (by simpa [Mark.attach] using h)).2
    · rfl
  | and => simp [Mark.attach]
  | not => simp [Mark.attach]

/-- A group after the phrases read so far, combined into its phrases `ps` and excluded phrases
`ns`: its phrases are added, paired with every phrase after `AND`, or excluded after `NOT`. -/
theorem combineStep_group (n : Nat) (m : Mark) {work : List String} (hopen : Open work)
    (nots : List String) {ins : List Term} {ps ns : List String}
    (hins : combineTerms n ins = (ps, ns)) :
    combineStep n (m.attach work, nots) (.group ins) =
      match m with
      | .none => (work ++ ps, nots ++ ns)
      | .and => (work.flatMap (fun a => ps.map (a ++ " " ++ ·)), nots ++ ns)
      | .not => (work, nots ++ ns ++ ps) := by
  unfold combineStep
  dsimp only
  rw [hins]
  dsimp only
  cases m with
  | none =>
    split
    · rename_i h
      exact absurd rfl (hopen "AND" (by simpa [Mark.attach] using h)).1
    · rename_i h
      exact absurd rfl (hopen "NOT" (by simpa [Mark.attach] using h)).2
    · rfl
  | and => simp [Mark.attach]
  | not => simp [Mark.attach]

theorem combineStep_and (n : Nat) (work nots : List String) :
    combineStep n (work, nots) (.word "AND") = (Mark.and.attach work, nots) := rfl

/-- After phrases that do not end on a marker, `NOT` is kept as a marker. -/
theorem combineStep_not (n : Nat) {work : List String} (hopen : Open work) (nots : List String) :
    combineStep n (work, nots) (.word "NOT") = (Mark.not.attach work, nots) :=
  combineStep_word n .none hopen nots (by decide)

theorem combineStep_or (n : Nat) (work nots : List String) :
    combineStep n (work, nots) (.word "OR") = (work, nots) := rfl

/-- The phrases of conjunctions that each have a word do not end on a marker. -/
theorem open_phrases {D : List (List Word)} (hD : ∀ c ∈ D, c ≠ []) : Open (D.map phrase) := by
  intro p hp
  obtain ⟨c, hc, rfl⟩ := List.mem_map.mp (List.mem_of_getLast? hp)
  exact phrase_ne_marker (hD c hc)

/-- What an operand does to the phrases and excluded phrases read so far, after each marker. -/
def Mark.result : Mark → List (List Word) → List (List Word) → List String →
    List String × List String
  | .none, D, E, nots => ((D ++ E).map phrase, nots)
  | .and, D, E, nots => ((D.flatMap fun c => E.map (c ++ ·)).map phrase, nots)
  | .not, D, E, nots => (D.map phrase, nots ++ E.map phrase)

theorem notTerms_cons (o : Operand) (xs : List Operand) :
    notTerms (o :: xs) = .word "NOT" :: o.terms ++ notTerms xs := rfl

section Fold

variable {n : Nat}

/-- Groups of nesting below `n` are combined into their normal forms. -/
def InnerCombined (n : Nat) : Prop :=
  ∀ e : Expr, termsDepth e.terms < n → combineTerms n e.terms = (e.dnf.map phrase, [])

/-- Pairing phrases of conjunctions that have words is the phrase of the paired conjunctions. -/
theorem pair_phrases {D E : List (List Word)} (hD : ∀ c ∈ D, c ≠ []) (hE : ∀ d ∈ E, d ≠ []) :
    (D.map phrase).flatMap (fun a => (E.map phrase).map (a ++ " " ++ ·)) =
      (D.flatMap fun c => E.map (c ++ ·)).map phrase := by
  simp only [List.flatMap_map, List.map_flatMap, List.map_map]
  refine List.flatMap_congr fun c hc => List.map_congr_left fun d hd => ?_
  exact phrase_append (hD c hc) (hE d hd)

/-- **One operand.** Combining an operand after phrases of conjunctions `D` gives what its
marker makes of `D` and the operand's conjunctions. -/
theorem Operand.foldl_terms (hin : InnerCombined n) (o : Operand) (ho : termsDepth o.terms ≤ n)
    (m : Mark) {D : List (List Word)} (hD : ∀ c ∈ D, c ≠ []) (nots : List String) :
    o.terms.foldl (combineStep n) (m.attach (D.map phrase), nots) = m.result D o.dnf nots := by
  cases o with
  | word w =>
    rw [Operand.terms, List.foldl_cons, List.foldl_nil,
      combineStep_word n m (open_phrases hD) nots ⟨w.notOperator.2.1, w.notOperator.1⟩,
      Operand.dnf]
    have hone : phrase [w] = w.text := by
      rw [phrase, List.map_singleton, String.intercalate_singleton]
    cases m with
    | none => simp [Mark.result, hone]
    | and =>
      simp only [Mark.result, List.map_cons, List.map_nil, ← List.map_eq_flatMap, List.map_map]
      congr 1
      refine List.map_congr_left fun c hc => ?_
      rw [Function.comp_apply, ← hone, phrase_append (hD c hc) (List.cons_ne_nil _ _)]
      rfl
    | not => simp [Mark.result, hone]
  | group e =>
    have he : termsDepth e.terms < n := by
      simp only [Operand.terms, termsDepth] at ho
      omega
    rw [Operand.terms, List.foldl_cons, List.foldl_nil,
      combineStep_group n m (open_phrases hD) nots (hin e he), Operand.dnf]
    cases m with
    | none => simp [Mark.result]
    | and => rw [Mark.result, List.append_nil, pair_phrases hD e.dnf_ne_nil]
    | not => simp [Mark.result]

/-- **`NOT` items.** Combining `NOT` items after phrases of conjunctions keeps the phrases and
excludes the phrases of each item. -/
theorem foldl_notTerms (hin : InnerCombined n) (xs : List Operand)
    (hxs : termsDepth (notTerms xs) ≤ n) {D : List (List Word)} (hD : ∀ c ∈ D, c ≠ [])
    (nots : List String) :
    (notTerms xs).foldl (combineStep n) (D.map phrase, nots) =
      (D.map phrase, nots ++ xs.flatMap fun o => o.dnf.map phrase) := by
  induction xs generalizing nots with
  | nil => simp [notTerms]
  | cons o xs ih =>
    rw [notTerms_cons, termsDepth_append, termsDepth] at hxs
    -- `NOT` is kept as a marker, and the operand after it is excluded
    rw [notTerms_cons, List.cons_append, List.foldl_cons, combineStep_not n (open_phrases hD),
      List.foldl_append, Operand.foldl_terms hin o (by omega) .not hD, Mark.result, ih (by omega)]
    simp

/-- An operand after phrases that end on no marker adds its phrases. -/
theorem Operand.foldl_terms_open (hin : InnerCombined n) (o : Operand)
    (ho : termsDepth o.terms ≤ n) {D : List (List Word)} (hD : ∀ c ∈ D, c ≠ [])
    (nots : List String) :
    o.terms.foldl (combineStep n) (D.map phrase, nots) = ((D ++ o.dnf).map phrase, nots) :=
  o.foldl_terms hin ho .none hD nots

/-- **A whole query.** Combining the items of a query gives the phrases of the normal form of its
expression, and the phrases of its `NOT` items. The induction follows the query from its last
operand back; each case combines the items the last operand adds to those before it. -/
theorem Query.foldl_terms (hin : InnerCombined n) (q : Query) (hq : termsDepth q.terms ≤ n) :
    q.terms.foldl (combineStep n) ([], []) =
      (q.expr.dnf.map phrase, q.excluded.flatMap fun o => o.dnf.map phrase) := by
  induction q with
  | first pre o post =>
    simp only [Query.terms, termsDepth_append] at hq
    rw [Query.terms, List.foldl_append, List.foldl_append,
      show (([] : List String), ([] : List String)) = (([] : List (List Word)).map phrase, [])
        from rfl,
      foldl_notTerms hin pre (by omega) (by simp), Operand.foldl_terms_open hin o (by omega)
        (by simp), List.nil_append, foldl_notTerms hin post (by omega) o.dnf_ne_nil]
    simp [Query.expr, Query.excluded, Expr.dnf]
  | and q o post ih =>
    simp only [Query.terms, termsDepth_append, termsDepth] at hq
    have hD : ∀ c ∈ q.expr.dnf.flatMap (fun c => o.dnf.map (c ++ ·)), c ≠ [] :=
      (Expr.join q.expr .and o).dnf_ne_nil
    rw [Query.terms, List.foldl_append, List.foldl_append, List.foldl_cons, ih (by omega),
      combineStep_and, Operand.foldl_terms hin o (by omega) .and q.expr.dnf_ne_nil, Mark.result,
      foldl_notTerms hin post (by omega) hD]
    simp [Query.expr, Query.excluded, Expr.dnf]
  | or q mid o post ih =>
    simp only [Query.terms, termsDepth_append, termsDepth] at hq
    have hD : ∀ c ∈ q.expr.dnf ++ o.dnf, c ≠ [] := (Expr.join q.expr .or o).dnf_ne_nil
    rw [Query.terms, List.foldl_append, List.foldl_append, List.foldl_append, List.foldl_cons,
      ih (by omega), combineStep_or, foldl_notTerms hin mid (by omega) q.expr.dnf_ne_nil,
      Operand.foldl_terms_open hin o (by omega) q.expr.dnf_ne_nil,
      foldl_notTerms hin post (by omega) hD]
    simp [Query.expr, Query.excluded, Expr.dnf]
  | juxt q o post ih =>
    simp only [Query.terms, termsDepth_append] at hq
    have hD : ∀ c ∈ q.expr.dnf ++ o.dnf, c ≠ [] := (Expr.join q.expr .juxt o).dnf_ne_nil
    rw [Query.terms, List.foldl_append, List.foldl_append, ih (by omega),
      Operand.foldl_terms_open hin o (by omega) q.expr.dnf_ne_nil,
      foldl_notTerms hin post (by omega) hD]
    simp [Query.expr, Query.excluded, Expr.dnf]

end Fold

/-- An expression as a query with no `NOT` items. -/
def Expr.toQuery : Expr → Query
  | .single o => .first [] o []
  | .join e .and o => .and e.toQuery o []
  | .join e .or o => .or e.toQuery [] o []
  | .join e .juxt o => .juxt e.toQuery o []

theorem Expr.toQuery_terms : ∀ e : Expr, e.toQuery.terms = e.terms
  | .single o => by simp [Expr.toQuery, Query.terms, Expr.terms, notTerms]
  | .join e .and o => by
    simp [Expr.toQuery, Query.terms, Expr.terms, notTerms, e.toQuery_terms]
  | .join e .or o => by
    simp [Expr.toQuery, Query.terms, Expr.terms, notTerms, e.toQuery_terms]
  | .join e .juxt o => by
    simp [Expr.toQuery, Query.terms, Expr.terms, notTerms, e.toQuery_terms]

theorem Expr.toQuery_expr : ∀ e : Expr, e.toQuery.expr = e
  | .single o => rfl
  | .join e .and o => by rw [Expr.toQuery, Query.expr, e.toQuery_expr]
  | .join e .or o => by rw [Expr.toQuery, Query.expr, e.toQuery_expr]
  | .join e .juxt o => by rw [Expr.toQuery, Query.expr, e.toQuery_expr]

theorem Expr.toQuery_excluded : ∀ e : Expr, e.toQuery.excluded = []
  | .single o => rfl
  | .join e .and o => by rw [Expr.toQuery, Query.excluded, e.toQuery_excluded]; rfl
  | .join e .or o => by rw [Expr.toQuery, Query.excluded, e.toQuery_excluded]; rfl
  | .join e .juxt o => by rw [Expr.toQuery, Query.excluded, e.toQuery_excluded]; rfl

/-- **Combining a query gives its normal forms.** With more fuel than groups are nested, the items
of a query combine into the phrases of the normal form of its expression and the phrases of its
`NOT` items, which rewriting with single blanks keeps. -/
theorem combineTerms_query : ∀ (n : Nat) (q : Query), termsDepth q.terms < n →
    combineTerms n q.terms =
      (q.expr.dnf.map phrase, q.excluded.flatMap fun o => o.dnf.map phrase)
  | 0, _, h => absurd h (Nat.not_lt_zero _)
  | n + 1, q, h => by
    -- a group is an expression with no `NOT` items, combined with one unit of fuel less
    have hin : InnerCombined n := by
      intro e he
      have := combineTerms_query n e.toQuery (by rwa [e.toQuery_terms])
      rwa [e.toQuery_terms, e.toQuery_expr, e.toQuery_excluded, List.flatMap_nil] at this
    rw [combineTerms_succ, Query.foldl_terms hin q (by omega)]
    dsimp only
    rw [List.map_map]
    congr 1
    exact List.map_congr_left fun c hc => respace_phrase (q.expr.dnf_ne_nil c hc)

/-- The set a list of phrases stands for, when each word stands for a set, is the set of the
conjunctions they are the phrases of. -/
theorem phrases_set {α : Type} (S : String → Set α) {D : List (List Word)}
    (hD : ∀ c ∈ D, c ≠ []) :
    (⋃ p ∈ D.map phrase, ⋂ w ∈ Text.fields p, S w) = dnfSet S D := by
  ext x
  simp only [Set.mem_iUnion, Set.mem_iInter, List.mem_map, dnfSet, Set.mem_ofPred_eq]
  constructor
  · rintro ⟨_, ⟨c, hc, rfl⟩, hx⟩
    refine ⟨c, hc, fun w hw => hx w.text ?_⟩
    rw [fields_phrase (hD c hc)]
    exact List.mem_map_of_mem hw
  · rintro ⟨c, hc, hx⟩
    refine ⟨phrase c, ⟨c, hc, rfl⟩, fun v hv => ?_⟩
    rw [fields_phrase (hD c hc)] at hv
    obtain ⟨w, hw, rfl⟩ := List.mem_map.mp hv
    exact hx w hw

/-- **A written combined search reads into disjunctive normal form.** Every query written with
blanks between its words reads into the phrases of the normal form of what its `NOT` items leave,
each conjunction's words joined by single blanks, and into the phrases of its `NOT` items. When
each word stands for a set, the phrases stand for what the query without its `NOT` items means,
and the excluded phrases for the union of what its `NOT` items mean. -/
theorem combined_normalForm (q : Query) {cs : List Char} (h : Writes q.terms cs) :
    combined (String.ofList cs) =
        (q.expr.dnf.map phrase, q.excluded.flatMap fun o => o.dnf.map phrase) ∧
      ∀ {α : Type} (S : String → Set α),
        (⋃ p ∈ (combined (String.ofList cs)).1, ⋂ w ∈ Text.fields p, S w) = q.expr.eval S ∧
        (⋃ p ∈ (combined (String.ofList cs)).2, ⋂ w ∈ Text.fields p, S w) =
          ⋃ o ∈ q.excluded, o.eval S := by
  have hread : readCombined (String.ofList cs) = q.terms := by
    have := readTerms_writes h true (cs.length + 1) "" [] [] [] (Or.inl ⟨rfl, rfl, rfl⟩)
      (Nat.lt_succ_self _) (Or.inl rfl)
    rw [List.append_nil] at this
    rw [readCombined, String.length_ofList, String.toList_ofList, this]
    rfl
  have hform : combined (String.ofList cs) =
      (q.expr.dnf.map phrase, q.excluded.flatMap fun o => o.dnf.map phrase) := by
    rw [combined, hread, String.length_ofList]
    exact combineTerms_query _ q (Nat.lt_succ_of_le h.depth_le)
  refine ⟨hform, fun S => ⟨?_, ?_⟩⟩
  · rw [hform, phrases_set S q.expr.dnf_ne_nil, Expr.dnf_eval]
  · -- each `NOT` item stands for the set of its own phrases
    ext x
    rw [hform]
    simp only [Set.mem_iUnion, List.mem_flatMap]
    constructor
    · rintro ⟨p, ⟨o, ho, hp⟩, hx⟩
      refine ⟨o, ho, ?_⟩
      rw [← Operand.dnf_eval, ← phrases_set S o.dnf_ne_nil]
      exact Set.mem_biUnion hp hx
    · rintro ⟨o, ho, hx⟩
      rw [← Operand.dnf_eval, ← phrases_set S o.dnf_ne_nil] at hx
      obtain ⟨p, hp, hx⟩ := Set.mem_iUnion₂.mp hx
      exact ⟨p, ⟨o, ho, hp⟩, hx⟩

/-- `created NOT (and OR but)` looks for `created`, and excludes `and` and `but`. -/
theorem createdNotGroup_combined :
    combined "created NOT (and OR but)" = (["created"], ["and", "but"]) := by
  let created : Word := ⟨"created", by decide, by simp [Text.isBlank], by decide⟩
  let wAnd : Word := ⟨"and", by decide, by simp [Text.isBlank], by decide⟩
  let wBut : Word := ⟨"but", by decide, by simp [Text.isBlank], by decide⟩
  let q : Query :=
    .first [] (.word created) [.group (.join (.single (.word wAnd)) .or (.word wBut))]
  have hW : Writes q.terms "created NOT (and OR but)".toList := by
    have h := Writes.cons_text [] "created" (by simp) (by decide) (by simp [Text.isBlank])
      (by simp [Text.isBlank])
      (Writes.cons_text [' '] "NOT" (by simp [Text.isBlank]) (by decide) (by simp [Text.isBlank])
        (by simp [Text.isBlank])
        (Writes.group (g := [' ']) (by simp [Text.isBlank])
          (Writes.cons_text [] "and" (by simp) (by decide) (by simp [Text.isBlank])
            (by simp [Text.isBlank])
            (Writes.cons_text [' '] "OR" (by simp [Text.isBlank]) (by decide)
              (by simp [Text.isBlank]) (by simp [Text.isBlank])
              (Writes.cons_text [' '] "but" (by simp [Text.isBlank]) (by decide)
                (by simp [Text.isBlank]) (by simp) (Writes.blanks (g := []) (by simp)))))
          (Writes.blanks (g := []) (by simp))))
    have hcs : [] ++ "created".toList ++ ([' '] ++ "NOT".toList ++ ([' '] ++ '(' ::
        (([] ++ "and".toList ++ ([' '] ++ "OR".toList ++ ([' '] ++ "but".toList ++ []))) ++
          ')' :: []))) = "created NOT (and OR but)".toList := by decide
    rwa [hcs] at h
  have hform := (combined_normalForm q hW).1
  rw [String.ofList_toList] at hform
  rw [hform]
  simp [q, Query.expr, Query.excluded, Expr.dnf, Operand.dnf, phrase, created, wAnd, wBut]

end Search

end Scripture
