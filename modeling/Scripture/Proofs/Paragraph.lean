import Mathlib
import Scripture.Proofs.SitePatterns
import Scripture.Proofs.ContextWindow

/-!
# The paragraph of a verse

The site gives the paragraph of a verse as a range of two reference texts. It widens the verse
to the verses within `paragraphReach` of it, walks back from the verse to the first verse of its
paragraph and on from it to the last, and stops a walk at a verse whose raw text holds a
`marker` attribute or that lies in another book than the verse before it.

A table with a raw text for every verse (`HasEveryVerse`) makes each step of a walk one of three
things (`paragraphWalk_verse`); from that, by induction on the verses walked, the walk back ends
at the start of the paragraph (`StartsParagraph`) and the walk on at its end (`EndsParagraph`).

* `StartsParagraph.unique`, `EndsParagraph.unique` — the two ends are determined by the verse.
* `StartsParagraph.latest_marker` — the start is the latest verse at or before the verse, in its
  book and within reach, that opens a paragraph, when there is one.
* `StartsParagraph.eq_max_of_unmarked` — otherwise it is the later of the first verse of the
  book and the verse the reach before.
* `paragraphOf_refText` — the paragraph of any verse far enough from the end of the Bible.
-/

namespace Scripture.Web

/-- A verse opens a paragraph of a table of raw verse texts when its raw text holds a marker. -/
def OpensParagraph (bible : Table) (p : Nat) : Prop :=
  ∃ raw, bible.lookup (Canon.refText p) = .str raw ∧ HasMarker raw

/-- A table has a raw text for every verse of the Bible. -/
def HasEveryVerse (bible : Table) : Prop :=
  ∀ p < Canon.verseTotal, ∃ raw, bible.lookup (Canon.refText p) = .str raw

/-! ### The two ends of a paragraph -/

/-- `s` starts the paragraph of verse `o` when looking back no further than verse `lo`: the
verses from `s` to `o` lie in the book of `o`, none after `s` opens a paragraph, and `s` itself
opens one, is `lo`, or is the first verse of its book. -/
structure StartsParagraph (bible : Table) (lo o s : Nat) : Prop where
  lo_le : lo ≤ s
  le : s ≤ o
  sameBook : ∀ p, s ≤ p → p ≤ o → (Canon.locate p).1 = (Canon.locate o).1
  unmarked : ∀ p, s < p → p ≤ o → ¬ OpensParagraph bible p
  stops : OpensParagraph bible s ∨ s = lo ∨ (0 < s ∧ (Canon.locate (s - 1)).1 ≠ (Canon.locate s).1)

/-- `e` ends the paragraph of verse `o` when looking on no further than verse `hi`: the verses
from `o` to `e` lie in the book of `o`, none after `o` opens a paragraph, and `e` is `hi` or the
verse after it opens a paragraph or lies in another book. -/
structure EndsParagraph (bible : Table) (o hi e : Nat) : Prop where
  le : o ≤ e
  le_hi : e ≤ hi
  sameBook : ∀ q, o ≤ q → q ≤ e → (Canon.locate q).1 = (Canon.locate o).1
  unmarked : ∀ q, o < q → q ≤ e → ¬ OpensParagraph bible q
  stops : e = hi ∨ OpensParagraph bible (e + 1) ∨ (Canon.locate (e + 1)).1 ≠ (Canon.locate o).1

variable {bible : Table}

/-- A verse that opens a paragraph, is the bound, or is the first verse of its book starts its
own paragraph. -/
theorem StartsParagraph.self {lo o : Nat} (hlo : lo ≤ o)
    (hstops : OpensParagraph bible o ∨ o = lo ∨ (0 < o ∧ (Canon.locate (o - 1)).1 ≠ (Canon.locate o).1)) :
    StartsParagraph bible lo o o :=
  ⟨hlo, le_refl o, fun p h h' => by rw [le_antisymm h' h], fun p h h' => absurd h (by omega),
    hstops⟩

/-- A start for a verse is a start for the next verse, when that verse lies in the same book and
opens no paragraph. -/
theorem StartsParagraph.succ {lo o s : Nat} (h : StartsParagraph bible lo o s)
    (hbook : (Canon.locate o).1 = (Canon.locate (o + 1)).1)
    (hmark : ¬ OpensParagraph bible (o + 1)) : StartsParagraph bible lo (o + 1) s := by
  refine ⟨h.lo_le, by have := h.le; omega, fun p hs hp => ?_, fun p hs hp => ?_, h.stops⟩
  · rcases Nat.lt_or_ge p (o + 1) with hlt | hge
    · exact (h.sameBook p hs (by omega)).trans hbook
    · rw [le_antisymm hp hge]
  · rcases Nat.lt_or_ge p (o + 1) with hlt | hge
    · exact h.unmarked p hs (by omega)
    · rwa [le_antisymm hp hge]

/-- A verse whose next verse opens a paragraph, lies in another book, or lies past the bound ends
its own paragraph. -/
theorem EndsParagraph.self {o hi : Nat} (hle : o ≤ hi)
    (hstops : o = hi ∨ OpensParagraph bible (o + 1) ∨ (Canon.locate (o + 1)).1 ≠ (Canon.locate o).1) :
    EndsParagraph bible o hi o :=
  ⟨le_refl o, hle, fun q h h' => by rw [le_antisymm h' h], fun q h h' => absurd h (by omega),
    hstops⟩

/-- An end for the next verse is an end for a verse, when the next verse lies in the same book
and opens no paragraph. -/
theorem EndsParagraph.pred {o hi e : Nat} (h : EndsParagraph bible (o + 1) hi e)
    (hbook : (Canon.locate (o + 1)).1 = (Canon.locate o).1)
    (hmark : ¬ OpensParagraph bible (o + 1)) : EndsParagraph bible o hi e := by
  refine ⟨by have := h.le; omega, h.le_hi, fun q ho he => ?_, fun q ho he => ?_, ?_⟩
  · rcases Nat.lt_or_ge o q with hlt | hge
    · exact (h.sameBook q hlt he).trans hbook
    · rw [le_antisymm hge ho]
  · rcases Nat.lt_or_ge (o + 1) q with hlt | hge
    · exact h.unmarked q hlt he
    · rwa [le_antisymm hge ho]
  · rw [← hbook]
    exact h.stops

/-- The start of a paragraph is determined by the verse and how far back it is looked for. -/
theorem StartsParagraph.unique {lo o s s' : Nat} (h : StartsParagraph bible lo o s)
    (h' : StartsParagraph bible lo o s') : s = s' := by
  -- the later of two starts is neither marked, nor the bound, nor the first of its book
  have later : ∀ {a b}, StartsParagraph bible lo o a → StartsParagraph bible lo o b → ¬ a < b :=
    fun {a b} ha hb hlt => by
      rcases hb.stops with hm | hlo | ⟨-, hbook⟩
      · exact ha.unmarked b hlt hb.le hm
      · exact absurd ha.lo_le (by omega)
      · exact hbook ((ha.sameBook (b - 1) (by omega) (by have := hb.le; omega)).trans
          (ha.sameBook b hlt.le hb.le).symm)
  exact le_antisymm (not_lt.mp (later h' h)) (not_lt.mp (later h h'))

/-- The end of a paragraph is determined by the verse and how far on it is looked for. -/
theorem EndsParagraph.unique {o hi e e' : Nat} (h : EndsParagraph bible o hi e)
    (h' : EndsParagraph bible o hi e') : e = e' := by
  -- the earlier of two ends is not the bound and the verse after it goes on the paragraph
  have earlier : ∀ {a b}, EndsParagraph bible o hi a → EndsParagraph bible o hi b → ¬ a < b :=
    fun {a b} ha hb hlt => by
      rcases ha.stops with hhi | hm | hbook
      · exact absurd hb.le_hi (by omega)
      · exact hb.unmarked (a + 1) (by have := ha.le; omega) hlt hm
      · exact hbook (hb.sameBook (a + 1) (by have := ha.le; omega) hlt)
  exact le_antisymm (not_lt.mp (earlier h' h)) (not_lt.mp (earlier h h'))

/-- The start of a paragraph that holds a verse opening a paragraph, within reach and in the
verse's book, opens a paragraph itself, and no such verse comes after it: it is the latest. -/
theorem StartsParagraph.latest_marker {lo o s p : Nat} (h : StartsParagraph bible lo o s)
    (ho : o < Canon.verseTotal) (hlo : lo ≤ p) (hp : p ≤ o)
    (hbook : (Canon.locate p).1 = (Canon.locate o).1) (hopens : OpensParagraph bible p) :
    p ≤ s ∧ OpensParagraph bible s := by
  have hps : p ≤ s := not_lt.mp fun hlt => h.unmarked p hlt hp hopens
  refine ⟨hps, ?_⟩
  rcases h.stops with hs | hs | ⟨hpos, hfirst⟩
  · exact hs
  · rwa [le_antisymm hps (hs ▸ hlo)] at hopens
  · -- a verse of the book before its first verse would put the verse before it in the book
    rcases Nat.lt_or_ge p s with hlt | hge
    · have hbelow := Canon.locate_book_mono (show p ≤ s - 1 by omega) (by have := h.le; omega)
      have habove := Canon.locate_book_mono (show s - 1 ≤ s by omega) (by have := h.le; omega)
      have hsbook := h.sameBook s (le_refl s) h.le
      exact absurd (by omega) hfirst
    · rwa [le_antisymm hps hge] at hopens

/-- With no verse opening a paragraph within reach and in the verse's book, the start of its
paragraph is the later of the verse the reach before and the first verse of its book. -/
theorem StartsParagraph.eq_max_of_unmarked {lo o s : Nat} (h : StartsParagraph bible lo o s)
    (ho : o < Canon.verseTotal)
    (hnone : ∀ p, lo ≤ p → p ≤ o → (Canon.locate p).1 = (Canon.locate o).1 →
      ¬ OpensParagraph bible p) :
    s = max lo (Canon.firstVerse (Canon.locate o).1) := by
  have hs : s < Canon.verseTotal := by have := h.le; omega
  have hsbook := h.sameBook s (le_refl s) h.le
  obtain ⟨hfirst, -⟩ := Canon.firstVerse_le_of_locate hs
  rw [hsbook] at hfirst
  rcases h.stops with hopens | hlo | ⟨hpos, hbreak⟩
  · exact absurd hopens (hnone s h.lo_le h.le hsbook)
  · omega
  · -- the verse before `s` lies in another book, so `s` is the first verse of the book
    have heq : s = Canon.firstVerse (Canon.locate o).1 := by
      by_contra hne
      have hprev := Canon.locate_book_eq (o := s - 1) (by omega)
        (Canon.locate_spec ho).1.book_lt (by omega)
        (by have := (Canon.firstVerse_le_of_locate hs).2; rw [hsbook] at this; omega)
      exact hbreak (hprev.trans hsbook.symm)
    have := h.lo_le
    omega

/-! ### Walking from a verse -/

/-- A reference text is never empty. -/
theorem refText_isEmpty (o : Nat) : (Canon.refText o).isEmpty = false := by
  rw [Bool.eq_false_iff, ne_eq, String.isEmpty_iff]
  exact ne_empty_of_toList (RangeList.refText_ne_nil o)

/-- Two verses of the Bible with the same reference text are the same verse. -/
theorem refText_inj {p o : Nat} (hp : p < Canon.verseTotal) (ho : o < Canon.verseTotal)
    (h : Canon.refText p = Canon.refText o) : p = o := by
  obtain ⟨vs, hvs, hmem⟩ := RangeList.parse_refTexts [p] (by simpa using hp)
  obtain ⟨ws, hws, hmem'⟩ := RangeList.parse_refTexts [o] (by simpa using ho)
  rw [List.map_singleton, h, ← List.map_singleton, hws] at hvs
  have hsame : ws = vs :=
    List.map_injective_iff.mpr (fun _ _ h => RangeItem.verse.inj h) (Except.ok.inj hvs)
  simpa using (hmem' p).mp (hsame ▸ (hmem p).mpr (List.mem_singleton_self p))

/-- The marker test on the raw text of a verse says whether the verse opens a paragraph. -/
theorem paragraphMark_test_lookup {p : Nat} {raw : String}
    (hraw : bible.lookup (Canon.refText p) = .str raw) :
    paragraphMark.test raw = true ↔ OpensParagraph bible p := by
  rw [paragraphMark_test_iff]
  constructor
  · exact fun h => ⟨raw, hraw, h⟩
  · rintro ⟨raw', hraw', h⟩
    rw [hraw, Json.str.injEq] at hraw'
    exact hraw' ▸ h

/-- **One step of the walk.** A verse of another book than the verse before it ends the walk at
the verse before; a verse that opens a paragraph ends it at itself or at the verse before; any
other verse goes on. -/
theorem paragraphWalk_verse {inclusive : Bool} {p last : Nat} {raw : String}
    (hp : p < Canon.verseTotal) (hlast : last < Canon.verseTotal)
    (hraw : bible.lookup (Canon.refText p) = .str raw) (rest : List Json) (seen : Option String) :
    paragraphWalk bible inclusive (.str (Canon.refText p) :: rest) (Canon.refText last) seen =
      if (Canon.locate p).1 ≠ (Canon.locate last).1 then .ok (Canon.refText last)
      else if paragraphMark.test raw then
        .ok (if inclusive then Canon.refText p else Canon.refText last)
      else paragraphWalk bible inclusive rest (Canon.refText p) (some (Canon.refText p)) := by
  simp only [paragraphWalk, Table.lookupOf, textOf, hraw, bookOf?_refText hp, bookOf?_refText hlast,
    refText_isEmpty, Except.ok_bind]
  by_cases hbook : (Canon.locate p).1 = (Canon.locate last).1
  · simp [hbook]
    rfl
  · have hname : Canon.bookName (Canon.locate last).1 ≠ Canon.bookName (Canon.locate p).1 :=
      fun h => hbook (bookName_inj (Canon.locate_spec hlast).1.book_lt
        (Canon.locate_spec hp).1.book_lt h).symm
    simp [hbook, hname]
    rfl

/-- **The walk back.** Walking down from a verse that opens no paragraph, through the verses
before it down to `lo`, ends at the start of its paragraph. -/
theorem paragraphWalk_back (hbible : HasEveryVerse bible) (lo : Nat) (k : Nat)
    (hk : lo + k < Canon.verseTotal) (htop : ¬ OpensParagraph bible (lo + k)) :
    ∃ s, paragraphWalk bible true ((List.range' lo k).reverse.map fun p => .str (Canon.refText p))
        (Canon.refText (lo + k)) (some (Canon.refText (lo + k))) = .ok (Canon.refText s) ∧
      StartsParagraph bible lo (lo + k) s := by
  induction k with
  | zero => exact ⟨lo, rfl, StartsParagraph.self (le_refl lo) (Or.inr (Or.inl rfl))⟩
  | succ k ih =>
    obtain ⟨raw, hraw⟩ := hbible (lo + k) (by omega)
    have hlist : (List.range' lo (k + 1)).reverse = (lo + k) :: (List.range' lo k).reverse := by
      simp [List.range'_concat]
    rw [← Nat.add_assoc] at hk htop ⊢
    rw [hlist, List.map_cons, paragraphWalk_verse (by omega) hk hraw]
    by_cases hbook : (Canon.locate (lo + k)).1 = (Canon.locate (lo + k + 1)).1
    · by_cases hmark : paragraphMark.test raw = true
      · -- the verse below opens the paragraph
        have hopens := (paragraphMark_test_lookup hraw).mp hmark
        exact ⟨lo + k, by simp [hbook, hmark],
          (StartsParagraph.self (by omega) (Or.inl hopens)).succ hbook htop⟩
      · obtain ⟨s, hwalk, hs⟩ := ih (by omega) (mt (paragraphMark_test_lookup hraw).mpr hmark)
        refine ⟨s, ?_, hs.succ hbook htop⟩
        rw [if_neg (not_not.mpr hbook), if_neg hmark]
        exact hwalk
    · -- the verse below lies in another book
      exact ⟨lo + k + 1, by simp [hbook],
        StartsParagraph.self (by omega) (Or.inr (Or.inr ⟨by omega, by simpa using hbook⟩))⟩

/-- **The walk on.** Walking up from a verse through the `k` verses after it ends at the end of
its paragraph. -/
theorem paragraphWalk_forth (hbible : HasEveryVerse bible) (k : Nat) :
    ∀ b, b + k < Canon.verseTotal → ∀ seen, ∃ e,
      paragraphWalk bible false ((List.range' (b + 1) k).map fun p => .str (Canon.refText p))
        (Canon.refText b) seen = .ok (Canon.refText e) ∧ EndsParagraph bible b (b + k) e := by
  induction k with
  | zero => exact fun b _ _ => ⟨b, rfl, EndsParagraph.self (le_refl b) (Or.inl rfl)⟩
  | succ k ih =>
    intro b hk seen
    obtain ⟨raw, hraw⟩ := hbible (b + 1) (by omega)
    rw [List.range'_succ, List.map_cons, paragraphWalk_verse (by omega) (by omega) hraw]
    by_cases hbook : (Canon.locate (b + 1)).1 = (Canon.locate b).1
    · by_cases hmark : paragraphMark.test raw = true
      · -- the next verse opens a paragraph
        have hopens := (paragraphMark_test_lookup hraw).mp hmark
        exact ⟨b, by simp [hbook, hmark], EndsParagraph.self (by omega) (Or.inr (Or.inl hopens))⟩
      · obtain ⟨e, hwalk, he⟩ := ih (b + 1) (by omega) (some (Canon.refText (b + 1)))
        refine ⟨e, ?_, ?_⟩
        · rw [if_neg (not_not.mpr hbook), if_neg hmark]
          exact hwalk
        · rw [show b + (k + 1) = b + 1 + k by omega]
          exact he.pred hbook (mt (paragraphMark_test_lookup hraw).mpr hmark)
    · -- the next verse lies in another book
      exact ⟨b, by simp [hbook], EndsParagraph.self (by omega) (Or.inr (Or.inr hbook))⟩

/-- **The first verse of the paragraph.** Walking back from a verse through the verses down to
`lo` gives the start of its paragraph. -/
theorem paragraphEdge_before (hbible : HasEveryVerse bible) {lo o : Nat} (hlo : lo ≤ o)
    (ho : o < Canon.verseTotal) : ∃ s, paragraphEdge bible (.str (Canon.refText o) ::
      (List.range' lo (o - lo)).reverse.map fun p => .str (Canon.refText p)) true
        (Canon.refText o) = .ok (Canon.refText s) ∧ StartsParagraph bible lo o s := by
  obtain ⟨raw, hraw⟩ := hbible o ho
  unfold paragraphEdge
  rw [paragraphWalk_verse ho ho hraw, if_neg (not_not.mpr rfl)]
  by_cases hmark : paragraphMark.test raw = true
  · -- the verse itself opens its paragraph
    have hopens := (paragraphMark_test_lookup hraw).mp hmark
    exact ⟨o, by simp [hmark], StartsParagraph.self hlo (Or.inl hopens)⟩
  · rw [if_neg hmark]
    have hk : lo + (o - lo) = o := Nat.add_sub_cancel' hlo
    have hback := paragraphWalk_back hbible lo (o - lo) (by omega)
      (by rw [hk]; exact mt (paragraphMark_test_lookup hraw).mpr hmark)
    rwa [hk] at hback

/-! ### The window around a verse -/

/-- A list of numbers in increasing order is the range of the numbers it holds. -/
theorem eq_range'_of_pairwise_lt {l : List Nat} {lo n : Nat} (hl : l.Pairwise (· < ·))
    (hmem : ∀ p, p ∈ l ↔ lo ≤ p ∧ p < lo + n) : l = List.range' lo n := by
  have hperm : l.Perm (List.range' lo n) :=
    (List.perm_ext_iff_of_nodup hl.nodup List.nodup_range').mpr fun p => by
      rw [hmem, List.mem_range'_1]
  exact hperm.eq_of_pairwise (fun a b _ _ hab hba => absurd (hab.trans hba) (lt_irrefl a)) hl
    List.pairwise_lt_range'

/-- **The window of a verse.** The reference text of a verse at least the reach before the last
verse, widened by the reach, gives the verses from the reach before it, held at the first verse,
to the reach after it. -/
theorem withContext_refText {o : Nat} (ho : o + paragraphReach < Canon.verseTotal - 1) :
    RangeList.withContext (Canon.refText o) (.int paragraphReach) =
      .ok (List.range' (o - paragraphReach) (o + paragraphReach + 1 - (o - paragraphReach))) := by
  obtain ⟨vs, hparse, hvs⟩ := RangeList.parse_refTexts [o] (by simp; omega)
  rw [show ",".intercalate ([o].map Canon.refText) = Canon.refText o from rfl] at hparse
  rw [RangeList.withContext_verses hparse]
  obtain ⟨hsorted, hmem⟩ := RangeList.dedupSorted_mergeSort
    (vs.flatMap fun v => (VerseRange.make (v.sub paragraphReach) (v.add paragraphReach)).offsets)
  refine congrArg Except.ok (eq_range'_of_pairwise_lt hsorted fun p => ?_)
  rw [hmem, List.mem_flatMap]
  -- every verse read back is the verse written
  have hread : ∀ v ∈ vs, v.offset = o := fun v hv => by
    simpa using (hvs v.offset).mp (List.mem_map_of_mem hv)
  constructor
  · rintro ⟨v, hv, hp⟩
    rw [RangeList.mem_window v (by decide) p, hread v hv] at hp
    omega
  · intro hp
    obtain ⟨v, hv, hvo⟩ := List.mem_map.mp ((hvs o).mpr (List.mem_singleton_self o))
    refine ⟨v, hv, ?_⟩
    rw [RangeList.mem_window v (by decide) p, hvo]
    omega

/-- The place of an item in a list that holds it first after a part without it. -/
theorem idxOf?_append_cons {α : Type} [BEq α] [LawfulBEq α] {xs ys : List α} {a : α}
    (h : a ∉ xs) : (xs ++ a :: ys).idxOf? a = some xs.length := by
  induction xs with
  | nil => simp [List.idxOf?_cons]
  | cons x xs ih =>
    have hx : (x == a) = false := by
      rw [beq_eq_false_iff_ne]
      rintro rfl
      exact h List.mem_cons_self
    simp [List.idxOf?_cons, hx, ih (fun h' => h (List.mem_cons_of_mem _ h'))]

/-! ### The paragraph -/

/-- **The paragraph of a verse.** In a table with a raw text for every verse, the paragraph of a
verse at least the reach before the last verse runs from the verse that starts it, looking back
at most the reach within its book, to the verse that ends it, looking on at most the reach. -/
theorem paragraphOf_refText (hbible : HasEveryVerse bible) {o : Nat}
    (ho : o + paragraphReach < Canon.verseTotal - 1) :
    ∃ s e, paragraphOf bible (.str (Canon.refText o)) =
        .ok (Canon.refText s ++ "-" ++ Canon.refText e) ∧
      StartsParagraph bible (o - paragraphReach) o s ∧
      EndsParagraph bible o (o + paragraphReach) e := by
  set lo := o - paragraphReach with hlo
  -- the window is the verses before the verse, the verse, and the verses after it
  have hsplit : List.range' lo (o + paragraphReach + 1 - lo) =
      List.range' lo (o - lo) ++ o :: List.range' (o + 1) paragraphReach := by
    rw [show o + paragraphReach + 1 - lo = (o - lo) + (paragraphReach + 1) by omega,
      ← List.range'_append_1, Nat.add_sub_cancel' (show lo ≤ o by omega), List.range'_succ]
  have hfresh : Canon.refText o ∉ (List.range' lo (o - lo)).map Canon.refText := by
    simp only [List.mem_map, List.mem_range'_1]
    rintro ⟨p, hp, heq⟩
    have := refText_inj (by omega) (by omega) heq
    omega
  obtain ⟨s, hs, hstart⟩ := paragraphEdge_before hbible (show lo ≤ o by omega) (by omega)
  obtain ⟨e, he, hend⟩ := paragraphWalk_forth hbible paragraphReach o (by omega) none
  refine ⟨s, e, ?_, hstart, hend⟩
  unfold paragraphOf
  rw [show Json.arr [.str (Canon.refText o)] = .arr ([Canon.refText o].map Json.str) from rfl,
    refListText_strs, Except.ok_bind, show ",".intercalate [Canon.refText o] = Canon.refText o from rfl,
    withContext_refText ho, Except.ok_bind, hsplit, List.map_append, List.map_cons]
  dsimp only
  rw [idxOf?_append_cons hfresh]
  -- the verses up to the verse, last first, and the verses after it
  simp only [pure_bind, List.take_length_add_append, List.drop_length_add_append, List.take_succ_cons,
    List.take_zero, List.drop_succ_cons, List.drop_zero, List.map_append, List.map_cons,
    List.map_nil, List.reverse_append, List.reverse_cons, List.reverse_nil, List.nil_append,
    List.singleton_append, List.map_reverse, List.map_map, Function.comp_def]
  rw [← List.map_reverse, hs, Except.ok_bind]
  unfold paragraphEdge
  rw [he]
  rfl

/-- A table holding, under the key of each verse of the Bible, the raw text that `raw` gives for
that key. -/
def verseTable (raw : String → String) : Table :=
  ⟨(List.range Canon.verseTotal).map fun q =>
    (cleanKey (Canon.refText q), .str (raw (cleanKey (Canon.refText q))))⟩

theorem mem_verseTable {raw : String → String} {e : String × Json} :
    e ∈ (verseTable raw).entries ↔ ∃ q < Canon.verseTotal,
      (cleanKey (Canon.refText q), Json.str (raw (cleanKey (Canon.refText q)))) = e := by
  simp only [verseTable, List.mem_map, List.mem_range]

/-- Each verse is read from such a table as the text given for its key. -/
theorem verseTable_lookup (raw : String → String) {p : Nat} (hp : p < Canon.verseTotal) :
    (verseTable raw).lookup (Canon.refText p) = .str (raw (cleanKey (Canon.refText p))) := by
  have hkey : (cleanKey (Canon.refText p), Json.str (raw (cleanKey (Canon.refText p)))) ∈
      (verseTable raw).entries.reverse := by
    exact List.mem_reverse.mpr (mem_verseTable.mpr ⟨p, hp, rfl⟩)
  have hsome : ((verseTable raw).entries.reverse.find? (·.1 == cleanKey (Canon.refText p))).isSome :=
    List.find?_isSome.mpr ⟨_, hkey, by simp⟩
  obtain ⟨x, hx⟩ := Option.isSome_iff_exists.mp hsome
  -- the entry found is keyed by the key looked up, and holds the text given for that key
  have hfound := List.find?_some hx
  obtain ⟨q, -, rfl⟩ := mem_verseTable.mp (List.mem_reverse.mp (List.mem_of_find?_eq_some hx))
  have hq : cleanKey (Canon.refText q) = cleanKey (Canon.refText p) := by simpa using hfound
  simp only [Table.lookup, Table.read, Table.get?, hx, Option.map_some, Option.getD_some, hq]

theorem verseTable_hasEveryVerse (raw : String → String) : HasEveryVerse (verseTable raw) :=
  fun _ hp => ⟨_, verseTable_lookup raw hp⟩

/-- The Bible with empty verses but for a paragraph mark at Genesis 50:24. -/
def genesisMarked : Table :=
  verseTable fun key => if key = "Genesis 50:24" then "<milestone marker=\"¶\" type=\"x-p\"/>" else ""

/-- The paragraph of Genesis 50:25 in a Bible marked only at Genesis 50:24 runs from that mark to
Genesis 50:26: the walk back stops at the mark, and the walk on at the end of Genesis. -/
theorem paragraphOf_markedGenesis :
    HasEveryVerse genesisMarked ∧ 1531 + paragraphReach < Canon.verseTotal - 1 ∧
      paragraphOf genesisMarked (.str "Genesis 50:25") = .ok "Genesis 50:24-Genesis 50:26" := by
  have hbible : HasEveryVerse genesisMarked := verseTable_hasEveryVerse _
  have hreach : 1531 + paragraphReach < Canon.verseTotal - 1 := by decide
  obtain ⟨s, e, hpar, hs, he⟩ := paragraphOf_refText hbible hreach
  have htexts : Canon.refText 1530 = "Genesis 50:24" ∧ Canon.refText 1531 = "Genesis 50:25" ∧
      Canon.refText 1532 = "Genesis 50:26" := by
    decide +kernel
  have hbooks : (Canon.locate 1530).1 = (Canon.locate 1531).1 ∧
      (Canon.locate 1531).1 = (Canon.locate 1532).1 ∧ (Canon.locate 1533).1 ≠ (Canon.locate 1531).1 := by
    decide +kernel
  have hlookup : ∀ p, p < Canon.verseTotal → ∀ key, Canon.refText p = key →
      genesisMarked.lookup (Canon.refText p) =
        .str (if cleanKey key = "Genesis 50:24" then "<milestone marker=\"¶\" type=\"x-p\"/>" else "") := by
    rintro p hp _ rfl
    exact verseTable_lookup _ hp
  -- Genesis 50:24 holds the mark; Genesis 50:25 and 50:26 hold nothing
  have hmark : OpensParagraph genesisMarked 1530 := by
    refine ⟨_, hlookup 1530 (by decide) _ htexts.1, ?_⟩
    rw [show cleanKey "Genesis 50:24" = "Genesis 50:24" by cbv, if_pos rfl]
    exact ⟨"<milestone ".toList, ['¶'], " type=\"x-p\"/>".toList, by decide, by decide, by decide⟩
  have hempty : ∀ p, p < Canon.verseTotal → ∀ key, Canon.refText p = key →
      cleanKey key ≠ "Genesis 50:24" → ¬ OpensParagraph genesisMarked p := by
    rintro p hp key hkey hne ⟨raw, hraw, pre, value, post, hsplit, -, -⟩
    rw [hlookup p hp key hkey, if_neg hne, Json.str.injEq] at hraw
    subst hraw
    simp at hsplit
  have h1531 := hempty 1531 (by decide) _ htexts.2.1 (by rw [show cleanKey "Genesis 50:25" = "Genesis 50:25" by cbv]; decide)
  have h1532 := hempty 1532 (by decide) _ htexts.2.2 (by rw [show cleanKey "Genesis 50:26" = "Genesis 50:26" by cbv]; decide)
  have hs' : StartsParagraph genesisMarked (1531 - paragraphReach) 1531 1530 :=
    (StartsParagraph.self (by decide) (.inl hmark)).succ hbooks.1 h1531
  have he' : EndsParagraph genesisMarked 1531 (1531 + paragraphReach) 1532 :=
    (EndsParagraph.self (by decide) (.inr (.inr (by rw [← hbooks.2.1]; exact hbooks.2.2)))).pred
      hbooks.2.1.symm h1532
  rw [hs.unique hs', he.unique he', htexts.1, htexts.2.1, htexts.2.2] at hpar
  exact ⟨hbible, hreach, hpar⟩

end Scripture.Web
