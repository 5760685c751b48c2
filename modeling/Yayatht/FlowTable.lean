import Mathlib.Data.Nat.Notation
import Mathlib.Data.List.Nodup

set_option autoImplicit false

namespace Yayatht

structure FlowId where
  slot : ℕ
  generation : ℕ
  deriving DecidableEq, Repr

structure Slot (α : Type) where
  generation : ℕ
  value : Option α
  retired : Bool

/-- The free list is a stack; its head is the entry the source pops. -/
structure FlowTable (α : Type) where
  slots : List (Slot α)
  free : List ℕ
  deferred : List FlowId

namespace FlowTable

variable {α : Type}

def generationMax : ℕ := 4294967295

def withCapacity (capacity : ℕ) : FlowTable α where
  slots := List.replicate capacity ⟨1, none, false⟩
  free := List.range capacity
  deferred := []

def get (t : FlowTable α) (id : FlowId) : Option α :=
  match t.slots[id.slot]? with
  | some slot => if slot.generation = id.generation then slot.value else none
  | none => none

/-- `get_mut` followed by an assignment through the reference. -/
def modify (t : FlowTable α) (id : FlowId) (f : α → α) : FlowTable α :=
  { t with
    slots := t.slots.modify id.slot fun slot =>
      if slot.generation = id.generation then { slot with value := slot.value.map f } else slot }

def insert (t : FlowTable α) (value : α) : FlowTable α × Except α FlowId :=
  match t.free with
  | [] => (t, .error value)
  | index :: free =>
    match t.slots[index]? with
    | none => ({ t with free := free }, .error value)
    | some slot =>
      if slot.retired then ({ t with free := free }, .error value)
      else
        ({ t with
            slots := t.slots.set index { slot with value := some value }
            free := free },
          .ok ⟨index, slot.generation⟩)

def deferRemove (t : FlowTable α) (id : FlowId) : FlowTable α :=
  if (t.get id).isSome ∧ id ∉ t.deferred then { t with deferred := t.deferred ++ [id] } else t

/-- The ids of the occupied slots, in slot order from `index` on. -/
def activeFrom : ℕ → List (Slot α) → List FlowId
  | _, [] => []
  | index, slot :: slots =>
    match slot.value with
    | some _ => ⟨index, slot.generation⟩ :: activeFrom (index + 1) slots
    | none => activeFrom (index + 1) slots

def activeIds (t : FlowTable α) : List FlowId := activeFrom 0 t.slots

/-- Empties one deferred slot and makes it reusable under the next generation. -/
def vacate (t : FlowTable α) (id : FlowId) : FlowTable α × List α :=
  match t.slots[id.slot]? with
  | none => (t, [])
  | some slot =>
    if slot.generation ≠ id.generation then (t, [])
    else if slot.generation < generationMax then
      ({ t with
          slots := t.slots.set id.slot { slot with value := none, generation := slot.generation + 1 }
          free := id.slot :: t.free },
        slot.value.toList)
    else
      ({ t with slots := t.slots.set id.slot { slot with value := none, retired := true } },
        slot.value.toList)

def flushDeferred (t : FlowTable α) : FlowTable α × List α :=
  t.deferred.foldl
    (fun acc id =>
      let (u, removed) := acc.1.vacate id
      (u, acc.2 ++ removed))
    ({ t with deferred := [] }, [])

@[simp] theorem modify_free (t : FlowTable α) (id : FlowId) (f : α → α) :
    (t.modify id f).free = t.free := rfl

@[simp] theorem modify_deferred (t : FlowTable α) (id : FlowId) (f : α → α) :
    (t.modify id f).deferred = t.deferred := rfl

theorem get_eq_some_iff (t : FlowTable α) (id : FlowId) (a : α) :
    t.get id = some a ↔
      ∃ slot, t.slots[id.slot]? = some slot ∧ slot.generation = id.generation ∧ slot.value = some a := by
  unfold get
  constructor
  · intro h
    split at h
    · rename_i slot hs
      split at h
      · exact ⟨slot, hs, by assumption, h⟩
      · cases h
    · cases h
  · rintro ⟨slot, hs, hg, hv⟩
    simp [hs, hg, hv]

@[simp] theorem get_modify_self (t : FlowTable α) (id : FlowId) (f : α → α) :
    (t.modify id f).get id = (t.get id).map f := by
  unfold get modify
  simp only [List.getElem?_modify]
  cases hs : t.slots[id.slot]? with
  | none => simp
  | some slot =>
    by_cases hg : slot.generation = id.generation <;> simp [hg]

theorem get_modify_of_ne (t : FlowTable α) (id other : FlowId) (f : α → α) (h : other ≠ id) :
    (t.modify id f).get other = t.get other := by
  unfold get modify
  simp only [List.getElem?_modify]
  by_cases hslot : id.slot = other.slot
  · have hgen : id.generation ≠ other.generation := by
      intro hg
      apply h
      cases id
      cases other
      simp_all
    cases hs : t.slots[other.slot]? with
    | none => simp
    | some slot =>
      by_cases hg : slot.generation = id.generation
      · have hne : slot.generation ≠ other.generation := by omega
        simp [hslot, hg, hgen]
      · simp [hslot, hg]
  · simp [hslot]

theorem get_modify (t : FlowTable α) (id other : FlowId) (f : α → α) :
    (t.modify id f).get other = if other = id then (t.get id).map f else t.get other := by
  by_cases h : other = id
  · subst h
    simp
  · simp [h, get_modify_of_ne t id other f h]

theorem modify_eq_of_get {t : FlowTable α} {id : FlowId} {a : α} (f : α → α) (h : t.get id = some a) :
    t.modify id f = t.modify id fun _ => f a := by
  obtain ⟨slot, hs, hg, hv⟩ := (get_eq_some_iff t id a).mp h
  unfold modify
  congr 1
  apply List.ext_getElem?
  intro i
  rw [List.getElem?_modify, List.getElem?_modify]
  by_cases hi : id.slot = i
  · subst hi
    simp [hs, hg, hv]
  · simp [hi]

@[simp] theorem modify_modify (t : FlowTable α) (id : FlowId) (f g : α → α) :
    (t.modify id f).modify id g = t.modify id (g ∘ f) := by
  unfold modify
  congr 1
  apply List.ext_getElem?
  intro i
  simp only [List.getElem?_modify]
  by_cases hi : id.slot = i
  · subst hi
    cases t.slots[id.slot]? with
    | none => rfl
    | some slot =>
      by_cases hg : slot.generation = id.generation <;> simp [hg, Function.comp_def]
  · simp [hi]

theorem modify_self {t : FlowTable α} {id : FlowId} {a : α} (h : t.get id = some a) :
    (t.modify id fun _ => a) = t := by
  obtain ⟨slot, hs, hg, hv⟩ := (get_eq_some_iff t id a).mp h
  unfold modify
  obtain ⟨slots, free, deferred⟩ := t
  simp only [mk.injEq, and_self, and_true]
  apply List.ext_getElem?
  intro i
  rw [List.getElem?_modify]
  by_cases hi : id.slot = i
  · subst hi
    change slots[id.slot]? = some slot at hs
    cases slot
    simp_all
  · simp [hi]

@[simp] theorem get_deferRemove (t : FlowTable α) (id other : FlowId) :
    (t.deferRemove id).get other = t.get other := by
  unfold deferRemove
  split <;> rfl

theorem get_vacate (t : FlowTable α) (id other : FlowId) :
    (t.vacate id).1.get other = if other = id then none else t.get other := by
  unfold vacate
  cases hs : t.slots[id.slot]? with
  | none =>
    dsimp only
    by_cases he : other = id
    · subst he
      simp [get, hs]
    · rw [if_neg he]
  | some slot =>
    have hlt : id.slot < t.slots.length := (List.getElem?_eq_some_iff.mp hs).1
    dsimp only
    by_cases hg : slot.generation = id.generation
    · rw [if_neg (not_not.mpr hg)]
      by_cases hslot : other.slot = id.slot
      · by_cases he : other = id
        · subst he
          split <;> simp [get, hlt, hg]
        · have hne : id.generation ≠ other.generation := by
            intro h
            apply he
            cases id
            cases other
            simp_all
          have hget : t.get other = none := by
            unfold get
            rw [hslot, hs]
            exact if_neg fun h => hne (hg.symm.trans h)
          rw [if_neg he, hget]
          split <;> simp [get, hslot, hlt]
      · have he : other ≠ id := by
          rintro rfl
          exact hslot rfl
        have hne : id.slot ≠ other.slot := fun h => hslot h.symm
        rw [if_neg he]
        split <;> simp [get, hne]
    · rw [if_pos hg]
      split
      · rename_i he
        subst he
        simp [get, hs, hg]
      · rfl

theorem get_flushDeferred (t : FlowTable α) (other : FlowId) :
    t.flushDeferred.1.get other = if other ∈ t.deferred then none else t.get other := by
  have h : ∀ (ids : List FlowId) (acc : FlowTable α × List α),
      (ids.foldl (fun acc id => ((acc.1.vacate id).1, acc.2 ++ (acc.1.vacate id).2)) acc).1.get other =
        if other ∈ ids then none else acc.1.get other := by
    intro ids
    induction ids with
    | nil => simp
    | cons id ids ih =>
      intro acc
      rw [List.foldl_cons, ih, get_vacate]
      by_cases he : other = id <;> simp [he]
  exact h t.deferred _

/-- Free slots are vacant, and what is deferred is present. -/
structure Wf (t : FlowTable α) : Prop where
  free_nodup : t.free.Nodup
  free_vacant : ∀ index ∈ t.free,
    ∃ slot, t.slots[index]? = some slot ∧ slot.value = none ∧ slot.retired = false
  retired_vacant : ∀ slot ∈ t.slots, slot.retired = true → slot.value = none
  deferred_nodup : t.deferred.Nodup
  deferred_present : ∀ id ∈ t.deferred, (t.get id).isSome = true

/-- The identifier stands or stood for an entry. -/
def Used (t : FlowTable α) (id : FlowId) : Prop :=
  ∃ slot, t.slots[id.slot]? = some slot ∧
    (id.generation < slot.generation ∨
      id.generation = slot.generation ∧ (slot.value.isSome = true ∨ slot.retired = true))

@[simp] theorem get_withCapacity (capacity : ℕ) (id : FlowId) :
    (withCapacity capacity : FlowTable α).get id = none := by
  unfold get withCapacity
  rw [List.getElem?_replicate]
  by_cases h : id.slot < capacity
  · rw [if_pos h]
    dsimp only
    split <;> rfl
  · rw [if_neg h]

theorem wf_withCapacity (capacity : ℕ) : (withCapacity capacity : FlowTable α).Wf where
  free_nodup := List.nodup_range
  free_vacant index h := ⟨⟨1, none, false⟩, by
    simpa [withCapacity, List.getElem?_replicate] using h, rfl, rfl⟩
  retired_vacant slot h hr := by
    rw [(List.mem_replicate.mp h).2]
  deferred_nodup := List.nodup_nil
  deferred_present _ h := by cases h

theorem used_of_get {t : FlowTable α} {id : FlowId} {a : α} (h : t.get id = some a) : t.Used id := by
  obtain ⟨slot, hs, hg, hv⟩ := (get_eq_some_iff t id a).mp h
  exact ⟨slot, hs, .inr ⟨hg.symm, .inl (by rw [hv]; rfl)⟩⟩

theorem Used.modify {t : FlowTable α} {id : FlowId} (h : t.Used id) (other : FlowId) (f : α → α) :
    (t.modify other f).Used id := by
  obtain ⟨slot, hs, hu⟩ := h
  unfold FlowTable.modify Used
  simp only [List.getElem?_modify, hs]
  refine ⟨_, rfl, ?_⟩
  by_cases hslot : other.slot = id.slot
  · by_cases hg : slot.generation = other.generation <;> simpa [hslot, hg] using hu
  · simpa [hslot] using hu

theorem Wf.modify {t : FlowTable α} (h : t.Wf) (id : FlowId) (f : α → α) : (t.modify id f).Wf where
  free_nodup := h.free_nodup
  free_vacant index hi := by
    obtain ⟨slot, hs, hv, hr⟩ := h.free_vacant index hi
    unfold FlowTable.modify
    simp only [List.getElem?_modify, hs]
    refine ⟨_, rfl, ?_⟩
    by_cases hslot : id.slot = index
    · by_cases hg : slot.generation = id.generation <;> simp [hslot, hg, hv, hr]
    · simp [hslot, hv, hr]
  retired_vacant slot hm hr := by
    obtain ⟨index, hi⟩ := List.mem_iff_getElem?.mp hm
    unfold FlowTable.modify at hi
    simp only [List.getElem?_modify] at hi
    obtain ⟨found, hf, he⟩ := Option.map_eq_some_iff.mp hi
    have hv := h.retired_vacant found (List.mem_of_getElem? hf)
    subst he
    by_cases hslot : id.slot = index
    · by_cases hg : found.generation = id.generation <;> simp_all
    · simp_all
  deferred_nodup := h.deferred_nodup
  deferred_present other ho := by
    have hp := h.deferred_present other ho
    rw [get_modify]
    split
    · rename_i he
      subst he
      simpa using hp
    · exact hp

theorem Wf.deferRemove {t : FlowTable α} (h : t.Wf) (id : FlowId) : (t.deferRemove id).Wf := by
  unfold FlowTable.deferRemove
  split
  · rename_i hd
    refine ⟨h.free_nodup, h.free_vacant, h.retired_vacant, ?_, ?_⟩
    · exact List.nodup_append.mpr ⟨h.deferred_nodup, List.nodup_singleton _, by
        intro a ha b hb he
        rw [List.mem_singleton] at hb
        subst hb
        exact hd.2 (he ▸ ha)⟩
    · intro other ho
      rcases List.mem_append.mp ho with ho | ho
      · exact h.deferred_present other ho
      · rw [List.mem_singleton] at ho
        subst ho
        exact hd.1
  · exact h

theorem Used.deferRemove {t : FlowTable α} {id : FlowId} (h : t.Used id) (other : FlowId) :
    (t.deferRemove other).Used id := by
  unfold FlowTable.deferRemove
  split <;> exact h

theorem mem_deferred_deferRemove {t : FlowTable α} {id other : FlowId} :
    other ∈ (t.deferRemove id).deferred ↔
      other ∈ t.deferred ∨ (other = id ∧ (t.get id).isSome = true) := by
  unfold FlowTable.deferRemove
  split
  · rename_i hd
    simp only [List.mem_append, List.mem_singleton]
    constructor
    · rintro (h | h)
      · exact .inl h
      · exact .inr ⟨h, hd.1⟩
    · rintro (h | h)
      · exact .inl h
      · exact .inr h.1
  · rename_i hd
    constructor
    · exact .inl
    · rintro (h | ⟨rfl, h⟩)
      · exact h
      · by_contra hn
        exact hd ⟨h, hn⟩

theorem Used.vacate {t : FlowTable α} {id : FlowId} (h : t.Used id) (other : FlowId) :
    (t.vacate other).1.Used id := by
  obtain ⟨slot, hs, hu⟩ := h
  unfold FlowTable.vacate
  cases ho : t.slots[other.slot]? with
  | none => exact ⟨slot, hs, hu⟩
  | some found =>
    dsimp only
    have hlt : other.slot < t.slots.length := (List.getElem?_eq_some_iff.mp ho).1
    by_cases hg : found.generation = other.generation
    · rw [if_neg (not_not.mpr hg)]
      by_cases hslot : other.slot = id.slot
      · rw [hslot, hs] at ho
        cases ho
        rw [hslot] at hlt
        split
        · refine ⟨_, by rw [hslot]; exact List.getElem?_set_self hlt, .inl ?_⟩
          dsimp only
          omega
        · refine ⟨_, by rw [hslot]; exact List.getElem?_set_self hlt, ?_⟩
          rcases hu with hu | hu
          · exact .inl hu
          · exact .inr ⟨hu.1, .inr rfl⟩
      · split <;> exact ⟨slot, by simp [hslot, hs], hu⟩
    · rw [if_pos hg]
      exact ⟨slot, hs, hu⟩

theorem Wf.vacate {t : FlowTable α} (h : t.Wf) {id : FlowId} (hp : (t.get id).isSome = true)
    (hd : id ∉ t.deferred) : (t.vacate id).1.Wf := by
  obtain ⟨a, ha⟩ := Option.isSome_iff_exists.mp hp
  obtain ⟨slot, hs, hg, hv⟩ := (get_eq_some_iff t id a).mp ha
  have hget := get_vacate t id
  have hlt : id.slot < t.slots.length := (List.getElem?_eq_some_iff.mp hs).1
  have hretired : slot.retired = false := by
    by_contra hr
    have hnone := h.retired_vacant slot (List.mem_of_getElem? hs) (by simpa using hr)
    rw [hv] at hnone
    cases hnone
  have hfree : id.slot ∉ t.free := by
    intro hm
    obtain ⟨found, hf, hnone, -⟩ := h.free_vacant id.slot hm
    rw [hs] at hf
    cases hf
    rw [hv] at hnone
    cases hnone
  have hkeep : ∀ index ∈ t.free, id.slot ≠ index := by
    rintro index hi rfl
    exact hfree hi
  have hpresent : ∀ other ∈ t.deferred, other ≠ id := by
    rintro other ho rfl
    exact hd ho
  unfold FlowTable.vacate at hget ⊢
  rw [hs] at hget ⊢
  dsimp only at hget ⊢
  rw [if_neg (not_not.mpr hg)] at hget ⊢
  split
  · rename_i hmax
    rw [if_pos hmax] at hget
    refine ⟨List.nodup_cons.mpr ⟨hfree, h.free_nodup⟩, ?_, ?_, h.deferred_nodup, ?_⟩
    · intro index hi
      rcases List.mem_cons.mp hi with rfl | hi
      · exact ⟨_, List.getElem?_set_self hlt, rfl, hretired⟩
      · obtain ⟨found, hf, hnone⟩ := h.free_vacant index hi
        exact ⟨found, by simp [hkeep index hi, hf], hnone⟩
    · intro found hm hr
      rcases List.mem_or_eq_of_mem_set hm with hm | rfl
      · exact h.retired_vacant found hm hr
      · rfl
    · intro other ho
      rw [hget, if_neg (hpresent other ho)]
      exact h.deferred_present other ho
  · rename_i hmax
    rw [if_neg hmax] at hget
    refine ⟨h.free_nodup, ?_, ?_, h.deferred_nodup, ?_⟩
    · intro index hi
      obtain ⟨found, hf, hnone⟩ := h.free_vacant index hi
      exact ⟨found, by simp [hkeep index hi, hf], hnone⟩
    · intro found hm hr
      rcases List.mem_or_eq_of_mem_set hm with hm | rfl
      · exact h.retired_vacant found hm hr
      · rfl
    · intro other ho
      rw [hget, if_neg (hpresent other ho)]
      exact h.deferred_present other ho

/-- Induction over the slots a flush vacates. -/
theorem flushDeferred_induction {P : FlowTable α → Prop} (t : FlowTable α)
    (h₀ : P { t with deferred := [] })
    (hstep : ∀ (u : FlowTable α) (id : FlowId), id ∈ t.deferred → P u → P (u.vacate id).1) :
    P t.flushDeferred.1 := by
  have h : ∀ (ids : List FlowId) (acc : FlowTable α × List α), (∀ id ∈ ids, id ∈ t.deferred) →
      P acc.1 →
      P (ids.foldl (fun acc id => ((acc.1.vacate id).1, acc.2 ++ (acc.1.vacate id).2)) acc).1 := by
    intro ids
    induction ids with
    | nil => exact fun _ _ h => h
    | cons id ids ih =>
      intro acc hids hacc
      exact ih _ (fun other ho => hids other (List.mem_cons_of_mem _ ho))
        (hstep acc.1 id (hids id List.mem_cons_self) hacc)
  exact h t.deferred _ (fun _ ho => ho) h₀

@[simp] theorem vacate_deferred (t : FlowTable α) (id : FlowId) :
    (t.vacate id).1.deferred = t.deferred := by
  unfold vacate
  split
  · rfl
  · split
    · rfl
    · split <;> rfl

@[simp] theorem flushDeferred_deferred (t : FlowTable α) : t.flushDeferred.1.deferred = [] :=
  flushDeferred_induction (P := fun u => u.deferred = []) t rfl fun u id _ hu => by
    rw [vacate_deferred, hu]

theorem get_removed {t : FlowTable α} (h : t.deferred = []) (id other : FlowId) :
    (t.deferRemove id).flushDeferred.1.get other = if other = id then none else t.get other := by
  rw [get_flushDeferred, get_deferRemove]
  by_cases heq : other = id
  · subst heq
    rw [if_pos rfl]
    split
    · rfl
    · rename_i hm
      cases hget : t.get other with
      | none => rfl
      | some a => exact absurd (mem_deferred_deferRemove.mpr (.inr ⟨rfl, by rw [hget]; rfl⟩)) hm
  · rw [if_neg heq, if_neg]
    intro hm
    rcases mem_deferred_deferRemove.mp hm with hd | ⟨he, -⟩
    · rw [h] at hd
      cases hd
    · exact heq he

theorem Used.flushDeferred {t : FlowTable α} {id : FlowId} (h : t.Used id) :
    t.flushDeferred.1.Used id :=
  flushDeferred_induction (P := fun u => u.Used id) t h fun _ other _ hu => hu.vacate other

theorem Wf.flushDeferred {t : FlowTable α} (h : t.Wf) : t.flushDeferred.1.Wf := by
  have hloop : ∀ (ids : List FlowId) (acc : FlowTable α × List α), ids.Nodup →
      acc.1.deferred = [] → (∀ id ∈ ids, (acc.1.get id).isSome = true) → acc.1.Wf →
      (ids.foldl (fun acc id => ((acc.1.vacate id).1, acc.2 ++ (acc.1.vacate id).2)) acc).1.Wf := by
    intro ids
    induction ids with
    | nil => exact fun _ _ _ _ h => h
    | cons id ids ih =>
      intro acc hnodup hd hp hw
      obtain ⟨hid, hnodup⟩ := List.nodup_cons.mp hnodup
      refine ih _ hnodup ?_ ?_ ?_
      · exact (vacate_deferred acc.1 id).trans hd
      · intro other ho
        dsimp only
        rw [get_vacate, if_neg]
        · exact hp other (List.mem_cons_of_mem _ ho)
        · rintro rfl
          exact hid ho
      · exact hw.vacate (hp id List.mem_cons_self) (by rw [hd]; exact List.not_mem_nil)
  exact hloop t.deferred _ h.deferred_nodup rfl h.deferred_present
    ⟨h.free_nodup, h.free_vacant, h.retired_vacant, List.nodup_nil, fun _ ho => by cases ho⟩

/-- What an insertion does: the table was full, or an unused identifier is given out. -/
theorem Wf.insert_cases {t : FlowTable α} (h : t.Wf) (value : α) :
    (t.insert value = (t, .error value)) ∨
      ∃ u id, t.insert value = (u, .ok id) ∧ u.Wf ∧ u.deferred = t.deferred ∧ ¬ t.Used id ∧
        (∀ other, u.get other = if other = id then some value else t.get other) ∧
        (∀ other, t.Used other → u.Used other) := by
  unfold FlowTable.insert
  cases hf : t.free with
  | nil => exact .inl rfl
  | cons index free =>
    obtain ⟨slot, hs, hv, hr⟩ := h.free_vacant index (by rw [hf]; exact List.mem_cons_self)
    have hlt : index < t.slots.length := (List.getElem?_eq_some_iff.mp hs).1
    have hnodup := h.free_nodup
    rw [hf] at hnodup
    obtain ⟨hindex, hnodup⟩ := List.nodup_cons.mp hnodup
    right
    refine ⟨{ t with
      slots := t.slots.set index { slot with value := some value }
      free := free }, ⟨index, slot.generation⟩, by simp [hs, hr], ?_, rfl, ?_, ?_, ?_⟩
    · have hget : ∀ other : FlowId, (t.get other).isSome = true →
          (FlowTable.get { t with
            slots := t.slots.set index { slot with value := some value }
            free := free } other).isSome = true := by
        intro other ho
        obtain ⟨a, ha⟩ := Option.isSome_iff_exists.mp ho
        obtain ⟨found, hfound, hg, hfv⟩ := (get_eq_some_iff t other a).mp ha
        have hne : index ≠ other.slot := by
          rintro rfl
          rw [hs] at hfound
          cases hfound
          rw [hv] at hfv
          cases hfv
        simp [FlowTable.get, hne, hfound, hg, hfv]
      refine ⟨hnodup, ?_, ?_, h.deferred_nodup, fun other ho => hget other (h.deferred_present other ho)⟩
      · intro other ho
        obtain ⟨found, hfound, hrest⟩ := h.free_vacant other (by rw [hf]; exact List.mem_cons_of_mem _ ho)
        have hne : index ≠ other := by
          rintro rfl
          exact hindex ho
        exact ⟨found, by simp [hne, hfound], hrest⟩
      · intro found hm hretired
        rcases List.mem_or_eq_of_mem_set hm with hm | rfl
        · exact h.retired_vacant found hm hretired
        · rw [hr] at hretired
          cases hretired
    · rintro ⟨found, hfound, hu⟩
      rw [hs] at hfound
      cases hfound
      simp [hv, hr] at hu
    · intro other
      by_cases hslot : index = other.slot
      · subst hslot
        by_cases hg : slot.generation = other.generation
        · have he : other = ⟨other.slot, slot.generation⟩ := by rw [hg]
          rw [if_pos he]
          simp [FlowTable.get, hlt, hg]
        · have he : other ≠ ⟨other.slot, slot.generation⟩ := by
            intro he
            exact hg (congrArg FlowId.generation he).symm
          have hnone : t.get other = none := by
            unfold FlowTable.get
            rw [hs]
            exact if_neg hg
          rw [if_neg he, hnone]
          simp [FlowTable.get, hlt, hg]
      · have he : other ≠ ⟨index, slot.generation⟩ := by
          rintro rfl
          exact hslot rfl
        rw [if_neg he]
        simp [FlowTable.get, hslot]
    · rintro other ⟨found, hfound, hu⟩
      by_cases hslot : index = other.slot
      · subst hslot
        rw [hs] at hfound
        cases hfound
        refine ⟨_, List.getElem?_set_self hlt, ?_⟩
        rcases hu with hu | hu
        · exact .inl hu
        · exact .inr ⟨hu.1, .inl rfl⟩
      · exact ⟨found, by simp [hslot, hfound], hu⟩

theorem mem_activeFrom (slots : List (Slot α)) (start : ℕ) (id : FlowId) :
    id ∈ activeFrom start slots ↔
      ∃ slot, start ≤ id.slot ∧ slots[id.slot - start]? = some slot ∧
        slot.generation = id.generation ∧ slot.value.isSome = true := by
  induction slots generalizing start with
  | nil => simp [activeFrom]
  | cons slot slots ih =>
    have hrest : (∃ found, start ≤ id.slot ∧ (slot :: slots)[id.slot - start]? = some found ∧
        found.generation = id.generation ∧ found.value.isSome = true) ↔
        (id.slot = start ∧ slot.generation = id.generation ∧ slot.value.isSome = true) ∨
          id ∈ activeFrom (start + 1) slots := by
      rw [ih]
      constructor
      · rintro ⟨found, hle, hf, hg, hv⟩
        rcases Nat.eq_or_lt_of_le hle with he | hlt
        · rw [← he, Nat.sub_self] at hf
          cases hf
          exact .inl ⟨he.symm, hg, hv⟩
        · have he : id.slot - start = id.slot - (start + 1) + 1 := by omega
          rw [he, List.getElem?_cons_succ] at hf
          exact .inr ⟨found, hlt, hf, hg, hv⟩
      · rintro (⟨he, hg, hv⟩ | ⟨found, hlt, hf, hg, hv⟩)
        · exact ⟨slot, by omega, by rw [he, Nat.sub_self]; rfl, hg, hv⟩
        · have he : id.slot - start = id.slot - (start + 1) + 1 := by omega
          exact ⟨found, by omega, by rw [he, List.getElem?_cons_succ]; exact hf, hg, hv⟩
    rw [hrest]
    cases hv : slot.value with
    | none => simp [activeFrom, hv]
    | some a =>
      rw [activeFrom, hv]
      simp only [List.mem_cons, Option.isSome_some, and_true]
      apply or_congr_left
      constructor
      · rintro rfl
        exact ⟨rfl, rfl⟩
      · rintro ⟨h1, h2⟩
        cases id
        simp_all

theorem mem_activeIds (t : FlowTable α) (id : FlowId) : id ∈ t.activeIds ↔ (t.get id).isSome = true := by
  unfold activeIds
  rw [mem_activeFrom]
  unfold get
  cases hs : t.slots[id.slot]? with
  | none => simp
  | some slot => by_cases hg : slot.generation = id.generation <;> simp [hg]

theorem nodup_activeFrom (slots : List (Slot α)) (start : ℕ) : (activeFrom start slots).Nodup := by
  induction slots generalizing start with
  | nil => exact List.nodup_nil
  | cons slot slots ih =>
    unfold activeFrom
    cases slot.value with
    | none => exact ih (start + 1)
    | some a =>
      refine List.nodup_cons.mpr ⟨?_, ih (start + 1)⟩
      intro hm
      obtain ⟨found, hle, -⟩ := (mem_activeFrom slots (start + 1) _).mp hm
      dsimp only at hle
      omega

theorem nodup_activeIds (t : FlowTable α) : t.activeIds.Nodup := nodup_activeFrom t.slots 0

theorem length_activeFrom_le (slots : List (Slot α)) (start : ℕ) :
    (activeFrom start slots).length ≤ slots.length := by
  induction slots generalizing start with
  | nil => exact Nat.le_refl _
  | cons slot slots ih =>
    have htail := ih (start + 1)
    unfold activeFrom
    cases slot.value with
    | none => exact Nat.le_succ_of_le htail
    | some value => exact Nat.succ_le_succ htail

theorem length_slots_modify (t : FlowTable α) (id : FlowId) (f : α → α) :
    (t.modify id f).slots.length = t.slots.length := List.length_modify _ _ _

theorem length_slots_deferRemove (t : FlowTable α) (id : FlowId) :
    (t.deferRemove id).slots.length = t.slots.length := by
  unfold deferRemove
  split <;> rfl

theorem length_slots_insert (t : FlowTable α) (value : α) : (t.insert value).1.slots.length = t.slots.length := by
  unfold insert
  cases t.free with
  | nil => rfl
  | cons index free =>
    dsimp only
    split
    · rfl
    · split
      · rfl
      · exact List.length_set

theorem length_slots_vacate (t : FlowTable α) (id : FlowId) : (t.vacate id).1.slots.length = t.slots.length := by
  unfold vacate
  split
  · rfl
  · split
    · rfl
    · split <;> exact List.length_set

theorem length_slots_flushDeferred (t : FlowTable α) : t.flushDeferred.1.slots.length = t.slots.length := by
  refine flushDeferred_induction (P := fun u => u.slots.length = t.slots.length) t rfl fun u id _ hu => ?_
  exact (length_slots_vacate u id).trans hu

end FlowTable

end Yayatht
