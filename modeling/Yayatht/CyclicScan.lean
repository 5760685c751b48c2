import Mathlib.Data.List.Pairwise
import Mathlib.Order.Defs.LinearOrder
import Mathlib.Order.Lattice

set_option autoImplicit false

/-!
# Scans that resume where the last one broke off

A scan goes round its entries in the order of their slots, starting at a cursor. One
that breaks off leaves the cursor at the first entry it missed; a complete one leaves
it where it was. The entries may change between two scans. Entries that stay take turns:
none is served twice without every other being served in between.
-/
namespace Yayatht.CyclicScan

variable {ι κ : Type} [LinearOrder κ] {a b c d : κ}

/-- Going round from `c`, `a` comes before `b`. -/
def Ahead (c a b : κ) : Prop := (c ≤ a ∧ b < c) ∨ (c ≤ a ∧ a < b) ∨ (a < b ∧ b < c)

theorem Ahead.asymm (h : Ahead c a b) : ¬ Ahead c b a := by
  unfold Ahead at *
  grind

theorem Ahead.of_not (hne : a ≠ b) (h : ¬ Ahead c a b) : Ahead c b a := by
  unfold Ahead at *
  grind

theorem Ahead.trans (h : Ahead c a b) (h' : Ahead c b d) : Ahead c a d := by
  unfold Ahead at *
  grind

theorem Ahead.onward (h : Ahead c a b) (ha : a = d ∨ Ahead c d a) : Ahead d a b := by
  unfold Ahead at *
  grind

theorem Ahead.round (h : Ahead c a b) (hb : Ahead c b d) : Ahead d a b := by
  unfold Ahead at *
  grind

theorem Ahead.between (h : Ahead c a d) (hb : b = d ∨ Ahead c d b) : Ahead d b a := by
  unfold Ahead at *
  grind

variable (slot : ι → κ)

/-- The entries at or after the cursor, then those before it. -/
def cycleFrom (cursor : κ) (live : List ι) : List ι :=
  live.filter (fun i => cursor ≤ slot i) ++ live.filter fun i => slot i < cursor

variable {slot} {cursor cursor' : κ} {live served later : List ι} {x y : ι}

theorem mem_cycleFrom : x ∈ cycleFrom slot cursor live ↔ x ∈ live := by
  have htotal : cursor ≤ slot x ∨ slot x < cursor := le_or_gt cursor (slot x)
  simp only [cycleFrom, List.mem_append, List.mem_filter, decide_eq_true_eq]
  rw [← and_or_left, and_iff_left htotal]

theorem pairwise_cycleFrom (h : live.Pairwise fun i j => slot i < slot j) :
    (cycleFrom slot cursor live).Pairwise fun i j => Ahead cursor (slot i) (slot j) := by
  refine List.pairwise_append.mpr ⟨?_, ?_, ?_⟩
  · refine (h.filter _).imp_of_mem fun hi _ hlt => .inr (.inl ⟨?_, hlt⟩)
    exact of_decide_eq_true (List.mem_filter.mp hi).2
  · refine (h.filter _).imp_of_mem fun _ hj hlt => .inr (.inr ⟨hlt, ?_⟩)
    exact of_decide_eq_true (List.mem_filter.mp hj).2
  · intro i hi j hj
    exact .inl ⟨of_decide_eq_true (List.mem_filter.mp hi).2, of_decide_eq_true (List.mem_filter.mp hj).2⟩

variable (slot) in
/-- What a scan from the cursor serves, and where it leaves the cursor. -/
structure Scan (cursor : κ) (live served : List ι) (cursor' : κ) : Prop where
  sorted : live.Pairwise fun i j => slot i < slot j
  cut : ∃ rest, cycleFrom slot cursor live = served ++ rest ∧ cursor' = (rest.head?.map slot).getD cursor

namespace Scan

theorem pairwise (h : Scan slot cursor live served cursor') :
    served.Pairwise fun i j => Ahead cursor (slot i) (slot j) := by
  obtain ⟨rest, horder, -⟩ := h.cut
  have hp : (cycleFrom slot cursor live).Pairwise fun i j => Ahead cursor (slot i) (slot j) :=
    pairwise_cycleFrom h.sorted
  rw [horder] at hp
  exact (List.pairwise_append.mp hp).1

/-- The cursor stays after a complete scan and else goes to the first entry missed. -/
theorem cases_cut (h : Scan slot cursor live served cursor') :
    ((∀ i ∈ live, i ∈ served) ∧ cursor' = cursor) ∨
      ∃ z, cursor' = slot z ∧ (∀ i ∈ served, Ahead cursor (slot i) (slot z)) ∧
        ∀ i ∈ live, i ∉ served → slot i = slot z ∨ Ahead cursor (slot z) (slot i) := by
  obtain ⟨rest, horder, hcursor⟩ := h.cut
  have hp : (cycleFrom slot cursor live).Pairwise fun i j => Ahead cursor (slot i) (slot j) :=
    pairwise_cycleFrom h.sorted
  rw [horder] at hp
  obtain ⟨-, hrest, hacross⟩ := List.pairwise_append.mp hp
  have hmem : ∀ i ∈ live, i ∈ served ∨ i ∈ rest := by
    intro i hi
    have hcycle : i ∈ cycleFrom slot cursor live := mem_cycleFrom.mpr hi
    rwa [horder, List.mem_append] at hcycle
  cases rest with
  | nil => exact .inl ⟨fun i hi => (hmem i hi).resolve_right List.not_mem_nil, hcursor⟩
  | cons z rest =>
    refine .inr ⟨z, hcursor, fun i hi => hacross i hi z List.mem_cons_self, fun i hi hn => ?_⟩
    rcases List.mem_cons.mp ((hmem i hi).resolve_left hn) with rfl | hi
    · exact .inl rfl
    · exact .inr ((List.pairwise_cons.mp hrest).1 i hi)

theorem slot_ne (h : Scan slot cursor live served cursor') (hx : x ∈ live) (hy : y ∈ live) (hne : x ≠ y) :
    slot x ≠ slot y :=
  have : Std.Symm fun i j => slot i ≠ slot j := ⟨fun _ _ => Ne.symm⟩
  List.Pairwise.forall (h.sorted.imp ne_of_lt) hx hy hne

theorem missed (h : Scan slot cursor live served cursor') (hy : y ∈ live) (hnot : y ∉ served)
    (hahead : Ahead cursor (slot y) (slot x)) : x ∉ served ∧ Ahead cursor' (slot y) (slot x) := by
  rcases h.cases_cut with ⟨hall, -⟩ | ⟨z, rfl, hbefore, hafter⟩
  · exact absurd (hall y hy) hnot
  have hz := hafter y hy hnot
  refine ⟨fun hx => ?_, hahead.onward hz⟩
  have hxz := hbefore x hx
  rcases hz with hz | hz
  · rw [← hz] at hxz
    exact hxz.asymm hahead
  · exact (hz.trans hahead).asymm hxz

theorem served_first (h : Scan slot cursor live served cursor') {before after : List ι}
    (hserved : served = before ++ x :: after) (hy : y ∈ served) (hahead : Ahead cursor (slot y) (slot x)) :
    y ∈ before := by
  have hp := h.pairwise
  rw [hserved] at hp hy
  obtain ⟨hx, -⟩ := List.pairwise_cons.mp (List.pairwise_append.mp hp).2.1
  rcases List.mem_append.mp hy with hy | hy
  · exact hy
  rcases List.mem_cons.mp hy with rfl | hy
  · exact absurd hahead hahead.asymm
  · exact absurd (hx y hy) hahead.asymm

/-- After an entry was served, every other one that has not been served since is ahead of it. -/
theorem served_behind (h : Scan slot cursor live served cursor') {before after : List ι}
    (hserved : served = before ++ x :: after) (hx : x ∈ live) (hy : y ∈ live) (hne : x ≠ y) (hnot : y ∉ after) :
    Ahead cursor' (slot y) (slot x) := by
  have hxs : x ∈ served := by
    rw [hserved]
    exact List.mem_append_right _ List.mem_cons_self
  by_cases hahead : Ahead cursor (slot y) (slot x)
  · rcases h.cases_cut with ⟨-, rfl⟩ | ⟨z, rfl, hbefore, -⟩
    · exact hahead
    · exact hahead.round (hbefore x hxs)
  · have hxy := Ahead.of_not (h.slot_ne hy hx hne.symm) hahead
    have hys : y ∉ served := by
      intro hy
      have hp := h.pairwise
      rw [hserved] at hp hy
      rcases List.mem_append.mp hy with hy | hy
      · exact hahead ((List.pairwise_append.mp hp).2.2 y hy x List.mem_cons_self)
      · exact (List.mem_cons.mp hy).elim (fun he => hne he.symm) hnot
    rcases h.cases_cut with ⟨hall, -⟩ | ⟨z, rfl, hbefore, hafter⟩
    · exact absurd (hall y hy) hys
    · exact (hbefore x hxs).between (hafter y hy hys)

theorem nodup (h : Scan slot cursor live served cursor') : served.Nodup :=
  h.pairwise.imp fun hahead he => by
    rw [he] at hahead
    exact hahead.asymm hahead

end Scan

variable (slot) in
/-- Scan after scan, with the entries in `stays` there at each; the list has what they serve. -/
inductive Scans (stays : ι → Prop) : κ → List ι → Prop
  | done (cursor : κ) : Scans stays cursor []
  | scan {cursor cursor' : κ} {live served later : List ι} (h : Scan slot cursor live served cursor')
      (hstays : ∀ i, stays i → i ∈ live) (hlater : Scans stays cursor' later) :
      Scans stays cursor (served ++ later)

namespace Scans

variable {stays : ι → Prop}

theorem owed (h : Scans slot stays cursor served) (hy : stays y) (hahead : Ahead cursor (slot y) (slot x))
    (before after : List ι) (hserved : served = before ++ x :: after) : y ∈ before := by
  induction h generalizing before after with
  | done cursor => simp at hserved
  | @scan cursor cursor' live served later h hstays _ ih =>
    by_cases hys : y ∈ served
    · rcases List.append_eq_append_iff.mp hserved with ⟨middle, rfl, -⟩ | ⟨middle, hs, hl⟩
      · exact List.mem_append_left _ hys
      cases middle with
      | nil =>
        rw [List.append_nil] at hs
        rwa [← hs]
      | cons first middle =>
        obtain ⟨rfl, -⟩ := List.cons.inj hl
        exact h.served_first hs hys hahead
    · obtain ⟨hxs, hnext⟩ := h.missed (hstays y hy) hys hahead
      rcases List.append_eq_append_iff.mp hserved with ⟨middle, rfl, hl⟩ | ⟨middle, hs, hl⟩
      · exact List.mem_append_right _ (ih hnext _ _ hl)
      cases middle with
      | nil => exact absurd (ih hnext [] after hl.symm) List.not_mem_nil
      | cons first middle =>
        obtain ⟨rfl, -⟩ := List.cons.inj hl
        exact absurd (by rw [hs]; simp) hxs

/-- Between two turns of an entry every other one has a turn. -/
theorem fair (h : Scans slot stays cursor served) (hx : stays x) (hy : stays y) (hne : x ≠ y)
    (before between after : List ι) (hserved : served = before ++ x :: (between ++ x :: after)) :
    y ∈ between := by
  induction h generalizing before between after with
  | done cursor => simp at hserved
  | @scan cursor cursor' live served later h hstays hlater ih =>
    rcases List.append_eq_append_iff.mp hserved with ⟨middle, -, hl⟩ | ⟨middle, hs, hl⟩
    · exact ih middle between after hl
    cases middle with
    | nil => exact ih [] between after hl.symm
    | cons first middle =>
      obtain ⟨rfl, hrest⟩ := List.cons.inj hl
      -- The first turn is in this scan; the second one cannot be.
      rcases List.append_eq_append_iff.mp hrest with ⟨rest, hm, hr⟩ | ⟨rest, rfl, hr⟩
      · cases rest with
        | nil =>
          by_cases hym : y ∈ middle
          · rw [hm, List.append_nil] at hym
            exact hym
          · have hnext := h.served_behind hs (hstays x hx) (hstays y hy) hne hym
            exact absurd (hlater.owed hy hnext [] after hr.symm) List.not_mem_nil
        | cons second rest =>
          obtain ⟨rfl, -⟩ := List.cons.inj hr
          have hnodup := h.nodup
          rw [hs, hm] at hnodup
          have htwice := (List.nodup_cons.mp (List.nodup_append.mp hnodup).2.1).1
          exact absurd (List.mem_append_right _ List.mem_cons_self) htwice
      · by_cases hym : y ∈ middle
        · exact List.mem_append_left _ hym
        · have hnext := h.served_behind hs (hstays x hx) (hstays y hy) hne hym
          exact List.mem_append_right _ (hlater.owed hy hnext rest after hr)

end Scans

end Yayatht.CyclicScan
