import Mathlib
import Scripture.Markup.Xml

/-!
# The shape of a document that is read

A document is read as its top-level nodes: the root element, with comments and processing
instructions before and after it. `Yields x P` says that whatever the reader `x` gives, from any
place where it succeeds, satisfies `P`; it is built up along the reader's steps, so what a whole
document gives follows from what each of its readers gives.

* `xmisc_leaves`, `xelement_element` — what stands around the root is no element; the root is
  one.
* `parseXml_documentNodes` — a document that is read is one root element with only comments and
  processing instructions around it.
-/

namespace Scripture.Markup

/-- Whatever `x` gives, from any place where it succeeds, satisfies `P`. -/
def Yields {α : Type} (x : XmlReader α) (P : α → Prop) : Prop :=
  ∀ p a p', x.run p = .ok (a, p') → P a

section Yields

variable {α β : Type} {P : α → Prop}

theorem yields_pure {a : α} (h : P a) : Yields (pure a : XmlReader α) P := by
  intro p b p' hb
  cases hb
  exact h

theorem yields_throw (e : String) : Yields (throw e : XmlReader α) P := by
  intro p b p' hb
  cases hb

theorem yields_of_forall {x : XmlReader α} (h : ∀ a, P a) : Yields x P := fun _ a _ _ => h a

theorem yields_bind {x : XmlReader α} {f : α → XmlReader β} {Q : β → Prop} (hx : Yields x P)
    (hf : ∀ a, P a → Yields (f a) Q) : Yields (x >>= f) Q := by
  intro p b p' hb
  rw [StateT.run_bind] at hb
  cases hxp : x.run p with
  | error e => rw [hxp] at hb; cases hb
  | ok r =>
    obtain ⟨a, p1⟩ := r
    rw [hxp] at hb
    exact hf a (hx p a p1 hxp) p1 b p' hb

/-- A failure fails whatever would follow it. -/
theorem yields_throw_bind (e : String) (f : α → XmlReader β) {Q : β → Prop} :
    Yields (throw e >>= f) Q :=
  yields_bind (yields_throw e (P := fun _ => False)) fun _ h => h.elim

end Yields

/-- Whether a node is an element. -/
def XmlNode.isElement : XmlNode → Bool
  | .element .. => true
  | _ => false

section Reader

variable (src : Array Char)

theorem xcomment_leaf : Yields (xcomment src) fun n => n.isElement = false := by
  unfold xcomment
  refine yields_bind (yields_of_forall fun _ => trivial) fun body _ => ?_
  refine yields_bind (yields_of_forall fun _ => trivial) fun b _ => ?_
  split
  · exact yields_pure rfl
  · refine yields_bind (yields_of_forall fun _ => trivial) fun o _ => ?_
    split <;> exact yields_throw _

theorem xinstruction_leaf : Yields (xinstruction src) fun n => n.isElement = false := by
  unfold xinstruction
  refine yields_bind (yields_of_forall fun _ => trivial) fun t _ => ?_
  dsimp only
  split
  · exact yields_throw_bind _ _
  refine yields_bind (yields_of_forall fun _ => trivial) fun b _ => ?_
  split
  · exact yields_pure rfl
  refine yields_bind (yields_of_forall fun _ => trivial) fun n _ => ?_
  -- the instruction's data is read unless the target is not followed by a blank
  have hdata : Yields (do
      let d ← xuntil src "?>" src.size ""
      pure (XmlNode.instruction t d)) fun n => n.isElement = false :=
    yields_bind (yields_of_forall fun _ => trivial) fun _ _ => yields_pure rfl
  split
  · exact yields_throw_bind _ _
  · exact hdata

theorem xelement_element (bindings : List (String × String)) :
    ∀ fuel, Yields (xelement src bindings fuel) fun n => n.isElement = true
  | 0 => yields_throw _
  | fuel + 1 => by
    rw [xelement]
    refine yields_bind (yields_of_forall fun _ => trivial) fun q _ => ?_
    refine yields_bind (yields_of_forall fun _ => trivial) fun ac _ => ?_
    refine yields_bind (yields_of_forall fun _ => trivial) fun b _ => ?_
    obtain ⟨inner, localName, attrs⟩ := b
    dsimp only
    split
    · exact yields_pure rfl
    · exact yields_bind (yields_of_forall fun _ => trivial) fun _ _ => yields_pure rfl

/-- What stands around the root element is no element. -/
theorem xmisc_leaves : ∀ (fuel : Nat) (acc : List XmlNode), (∀ n ∈ acc, n.isElement = false) →
    Yields (xmisc src fuel acc) fun ns => ∀ n ∈ ns, n.isElement = false
  | 0, acc, h => yields_pure fun n hn => h n (List.mem_reverse.mp hn)
  | fuel + 1, acc, h => by
    rw [xmisc]
    refine yields_bind (yields_of_forall fun _ => trivial) fun _ _ => ?_
    refine yields_bind (yields_of_forall fun _ => trivial) fun b _ => ?_
    split
    · refine yields_bind (xcomment_leaf src) fun n hn => ?_
      exact xmisc_leaves fuel _ fun m hm => by
        rcases List.mem_cons.mp hm with rfl | hm
        exacts [hn, h m hm]
    refine yields_bind (yields_of_forall fun _ => trivial) fun b _ => ?_
    split
    · refine yields_bind (yields_of_forall fun _ => trivial) fun _ _ => ?_
      refine yields_bind (xinstruction_leaf src) fun n hn => ?_
      exact xmisc_leaves fuel _ fun m hm => by
        rcases List.mem_cons.mp hm with rfl | hm
        exacts [hn, h m hm]
    · exact yields_pure fun n hn => h n (List.mem_reverse.mp hn)

/-- The top-level nodes of a document: one element, the root, with only comments and processing
instructions before and after it. -/
def DocumentNodes (nodes : List XmlNode) : Prop :=
  ∃ before root after, nodes = before ++ root :: after ∧ root.isElement = true ∧
    ∀ n ∈ before ++ after, n.isElement = false

/-- Once past the declaration, a document is read as its root element with what stands around
it. -/
theorem xdocument_root : Yields (do
    let before ← xmisc src src.size []
    if !(← xaccept src "<") then
      if (← xpeek src).isNone then throw "no element found" else throw "syntax error"
    let root ← xelement src [] (src.size + 1)
    let after ← xmisc src src.size []
    if (← xpeek src).isSome then throw "junk after document element"
    pure (before ++ [root] ++ after)) DocumentNodes := by
  refine yields_bind (xmisc_leaves src _ [] (by simp)) fun before hbefore => ?_
  refine yields_bind (yields_of_forall fun _ => trivial) fun b _ => ?_
  dsimp only
  split
  · -- no root element: the reading fails either way
    refine yields_bind (yields_of_forall fun _ => trivial) fun _ _ => ?_
    split <;> exact yields_throw_bind _ _
  refine yields_bind (xelement_element src [] _) fun root hroot => ?_
  refine yields_bind (xmisc_leaves src _ [] (by simp)) fun after hafter => ?_
  refine yields_bind (yields_of_forall fun _ => trivial) fun _ _ => ?_
  split
  · exact yields_throw_bind _ _
  · refine yields_pure ⟨before, root, after, by simp, hroot, fun n hn => ?_⟩
    rcases List.mem_append.mp hn with hn | hn
    exacts [hbefore n hn, hafter n hn]

theorem xdocument_nodes : Yields (xdocument src) DocumentNodes := by
  unfold xdocument
  refine yields_bind (yields_of_forall fun _ => trivial) fun b _ => ?_
  dsimp only
  split
  · refine yields_bind (yields_of_forall fun _ => trivial) fun _ _ => ?_
    refine yields_bind (yields_of_forall fun _ => trivial) fun _ _ => ?_
    split
    · exact yields_throw_bind _ _
    · exact yields_bind (yields_of_forall fun _ => trivial) fun _ _ => xdocument_root src
  · exact xdocument_root src

end Reader

/-- **A document that is read is one root element with only comments and processing instructions
around it.** -/
theorem parseXml_documentNodes {text : String} {nodes : List XmlNode}
    (h : parseXml text = .ok nodes) : DocumentNodes nodes := by
  unfold parseXml at h
  rw [StateT.run'_eq] at h
  cases hr : (xdocument text.toList.toArray).run 0 with
  | error e =>
    rw [hr] at h
    cases h
  | ok r =>
    rw [hr] at h
    cases h
    exact xdocument_nodes _ 0 r.1 r.2 hr
end Scripture.Markup
