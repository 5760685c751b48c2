import Yayatht.FlowTable

set_option autoImplicit false

/-!
# Histories of a slot table

An identifier is fresh until an insertion returns it, live until its removal is
asked for, leaving until the next flush, and gone from then on. The history alone
decides which; the table agrees with it however often a slot is used again.
-/
namespace Yayatht.FlowTable

variable {α : Type}

inductive Op (α : Type) where
  | insert (value : α)
  | get (id : FlowId)
  | getMut (id : FlowId) (f : α → α)
  | deferRemove (id : FlowId)
  | flushDeferred

inductive Answer (α : Type) where
  | inserted (result : Except α FlowId)
  | found (value : Option α)
  | flushed (values : List α)
  | done

def apply (t : FlowTable α) : Op α → FlowTable α × Answer α
  | .insert value => ((t.insert value).1, .inserted (t.insert value).2)
  | .get id => (t, .found (t.get id))
  | .getMut id f => (t.modify id f, .done)
  | .deferRemove id => (t.deferRemove id, .done)
  | .flushDeferred => (t.flushDeferred.1, .flushed t.flushDeferred.2)

def play (capacity : ℕ) : List (Op α) → FlowTable α × List (Op α × Answer α)
  | [] => (withCapacity capacity, [])
  | op :: earlier =>
    let (t, events) := play capacity earlier
    ((t.apply op).1, (op, (t.apply op).2) :: events)

inductive Standing (α : Type) where
  | fresh
  | live (value : α)
  | leaving (value : α)
  | gone

namespace Standing

def value : Standing α → Option α
  | .fresh => none
  | .live a => some a
  | .leaving a => some a
  | .gone => none

def issue (a : α) : Standing α → Standing α
  | .fresh => .live a
  | s => s

def map (f : α → α) : Standing α → Standing α
  | .live a => .live (f a)
  | .leaving a => .leaving (f a)
  | s => s

def defer : Standing α → Standing α
  | .live a => .leaving a
  | s => s

def flush : Standing α → Standing α
  | .leaving _ => .gone
  | s => s

end Standing

/-- Where an identifier stands after the events, newest first. -/
def standing (id : FlowId) : List (Op α × Answer α) → Standing α
  | [] => .fresh
  | (.insert value, .inserted (.ok issued)) :: events =>
    if issued = id then (standing id events).issue value else standing id events
  | (.getMut target f, _) :: events =>
    if target = id then (standing id events).map f else standing id events
  | (.deferRemove target, _) :: events =>
    if target = id then (standing id events).defer else standing id events
  | (.flushDeferred, _) :: events => (standing id events).flush
  | _ :: events => standing id events

def LiveSlot (t : FlowTable α) (index : ℕ) : Prop :=
  ∃ slot, t.slots[index]? = some slot ∧ slot.value.isSome = true

def RetiredSlot (t : FlowTable α) (index : ℕ) : Prop :=
  ∃ slot, t.slots[index]? = some slot ∧ slot.retired = true

/-- A slot that is neither occupied nor retired is free; the last generation is the
only one after which a slot is retired. -/
structure Filled (capacity : ℕ) (t : FlowTable α) : Prop where
  length : t.slots.length = capacity
  covered : ∀ index slot, t.slots[index]? = some slot → slot.value = none → slot.retired = false →
    index ∈ t.free
  generation_le : ∀ slot ∈ t.slots, slot.generation ≤ generationMax
  retired_last : ∀ slot ∈ t.slots, slot.retired = true → slot.generation = generationMax

/-- What the table has under an identifier of the given standing. -/
def Agrees (t : FlowTable α) (id : FlowId) : Standing α → Prop
  | .fresh => t.get id = none
  | .live a => t.get id = some a ∧ id ∉ t.deferred
  | .leaving a => t.get id = some a ∧ id ∈ t.deferred
  | .gone => t.get id = none ∧ t.Used id

structure Sound (capacity : ℕ) (t : FlowTable α) (events : List (Op α × Answer α)) : Prop where
  wf : t.Wf
  filled : Filled capacity t
  agrees : ∀ id, Agrees t id (standing id events)

section Filled

variable {capacity : ℕ} {t : FlowTable α}

theorem filled_withCapacity (capacity : ℕ) : Filled capacity (withCapacity capacity : FlowTable α) where
  length := by simp [withCapacity]
  covered index slot hs _ _ := by
    have hlt := (List.getElem?_eq_some_iff.mp hs).1
    simpa [withCapacity] using hlt
  generation_le slot hm := by
    rw [(List.mem_replicate.mp hm).2]
    exact (by decide : 1 ≤ generationMax)
  retired_last slot hm hr := by
    rw [(List.mem_replicate.mp hm).2] at hr
    cases hr

theorem Filled.modify (h : Filled capacity t) (id : FlowId) (f : α → α) :
    Filled capacity (t.modify id f) := by
  have hfound : ∀ (index : ℕ) (slot : Slot α), (t.modify id f).slots[index]? = some slot →
      ∃ found : Slot α, t.slots[index]? = some found ∧ slot.generation = found.generation ∧
        slot.retired = found.retired ∧ (slot.value = none → found.value = none) := by
    intro index slot hs
    unfold FlowTable.modify at hs
    rw [List.getElem?_modify] at hs
    obtain ⟨found, hf, rfl⟩ := Option.map_eq_some_iff.mp hs
    refine ⟨found, hf, ?_⟩
    by_cases hi : id.slot = index
    · by_cases hg : found.generation = id.generation <;> simp [hi, hg]
    · simp [hi]
  refine ⟨by simpa [FlowTable.modify] using h.length, ?_, ?_, ?_⟩
  · intro index slot hs hv hr
    obtain ⟨found, hf, -, hretired, hvalue⟩ := hfound index slot hs
    exact h.covered index found hf (hvalue hv) (hretired ▸ hr)
  · intro slot hm
    obtain ⟨index, hs⟩ := List.mem_iff_getElem?.mp hm
    obtain ⟨found, hf, hg, -⟩ := hfound index slot hs
    rw [hg]
    exact h.generation_le found (List.mem_of_getElem? hf)
  · intro slot hm hr
    obtain ⟨index, hs⟩ := List.mem_iff_getElem?.mp hm
    obtain ⟨found, hf, hg, hretired, -⟩ := hfound index slot hs
    rw [hg]
    exact h.retired_last found (List.mem_of_getElem? hf) (hretired ▸ hr)

theorem Filled.deferRemove (h : Filled capacity t) (id : FlowId) : Filled capacity (t.deferRemove id) := by
  unfold FlowTable.deferRemove
  split
  · exact ⟨h.length, h.covered, h.generation_le, h.retired_last⟩
  · exact h

theorem Filled.set (h : Filled capacity t) {index : ℕ} {slot : Slot α} {free : List ℕ}
    (hfree : ∀ other ∈ t.free, other ≠ index → other ∈ free)
    (hslot : slot.value = none → slot.retired = false → index ∈ free)
    (hle : slot.generation ≤ generationMax)
    (hlast : slot.retired = true → slot.generation = generationMax) :
    Filled capacity { t with slots := t.slots.set index slot, free := free } := by
  refine ⟨by simpa using h.length, ?_, ?_, ?_⟩
  · intro other found hs hv hr
    by_cases hi : index = other
    · subst hi
      have hlt := (List.getElem?_eq_some_iff.mp hs).1
      rw [List.length_set] at hlt
      rw [List.getElem?_set_self hlt] at hs
      cases hs
      exact hslot hv hr
    · rw [List.getElem?_set_ne hi] at hs
      exact hfree other (h.covered other found hs hv hr) fun he => hi he.symm
  · intro found hm
    rcases List.mem_or_eq_of_mem_set hm with hm | rfl
    · exact h.generation_le found hm
    · exact hle
  · intro found hm hr
    rcases List.mem_or_eq_of_mem_set hm with hm | rfl
    · exact h.retired_last found hm hr
    · exact hlast hr

theorem Filled.insert (h : Filled capacity t) (hw : t.Wf) (value : α) :
    Filled capacity (t.insert value).1 := by
  unfold FlowTable.insert
  cases hf : t.free with
  | nil => exact h
  | cons index free =>
    obtain ⟨slot, hs, hv, hr⟩ := hw.free_vacant index (by rw [hf]; exact List.mem_cons_self)
    have hm := List.mem_of_getElem? hs
    simp only [hs, hr, Bool.false_eq_true, if_false]
    refine h.set ?_ (fun hn => by cases hn) (h.generation_le slot hm) fun hn => by cases hn
    intro other ho hne
    rw [hf] at ho
    exact (List.mem_cons.mp ho).resolve_left hne

theorem Filled.vacate (h : Filled capacity t) (id : FlowId) : Filled capacity (t.vacate id).1 := by
  unfold FlowTable.vacate
  split
  · exact h
  rename_i slot hs
  have hle := h.generation_le slot (List.mem_of_getElem? hs)
  split
  · exact h
  split
  · rename_i hlt
    refine h.set (fun other ho _ => List.mem_cons_of_mem _ ho) (fun _ _ => List.mem_cons_self) hlt ?_
    intro hr
    have hlast := h.retired_last slot (List.mem_of_getElem? hs) hr
    omega
  · rename_i hlt
    refine h.set (fun other ho _ => ho) (fun _ hr => by cases hr) hle fun _ => ?_
    dsimp only
    omega

theorem Filled.flushDeferred (h : Filled capacity t) : Filled capacity t.flushDeferred.1 :=
  flushDeferred_induction (P := Filled capacity) t
    ⟨h.length, h.covered, h.generation_le, h.retired_last⟩ fun _ id _ hu => hu.vacate id

end Filled

section Flush

variable {t : FlowTable α}

theorem vacate_removed (t : FlowTable α) (id : FlowId) : (t.vacate id).2 = (t.get id).toList := by
  unfold vacate get
  cases t.slots[id.slot]? with
  | none => rfl
  | some slot =>
    dsimp only
    by_cases hg : slot.generation = id.generation
    · rw [if_neg (not_not.mpr hg), if_pos hg]
      split <;> rfl
    · rw [if_pos hg, if_neg hg]
      rfl

theorem Wf.flushed (h : t.Wf) : t.flushDeferred.2 = t.deferred.filterMap t.get := by
  have hloop : ∀ (ids : List FlowId) (acc : FlowTable α × List α), ids.Nodup →
      (ids.foldl (fun acc id => ((acc.1.vacate id).1, acc.2 ++ (acc.1.vacate id).2)) acc).2 =
        acc.2 ++ ids.filterMap acc.1.get := by
    intro ids
    induction ids with
    | nil =>
      intro acc _
      simp
    | cons id ids ih =>
      intro acc hnodup
      obtain ⟨hid, hnodup⟩ := List.nodup_cons.mp hnodup
      have hget : ids.filterMap (acc.1.vacate id).1.get = ids.filterMap acc.1.get := by
        apply List.filterMap_congr
        intro other ho
        rw [get_vacate, if_neg]
        rintro rfl
        exact hid ho
      rw [List.foldl_cons, ih _ hnodup]
      dsimp only
      rw [hget, vacate_removed, List.append_assoc]
      cases hv : acc.1.get id with
      | none => rw [List.filterMap_cons_none hv]; rfl
      | some a => rw [List.filterMap_cons_some hv]; rfl
  exact hloop t.deferred _ h.deferred_nodup

end Flush

section Retired

variable {t : FlowTable α} {index : ℕ}

theorem RetiredSlot.insert (h : t.RetiredSlot index) (value : α) : (t.insert value).1.RetiredSlot index := by
  obtain ⟨slot, hs, hr⟩ := h
  unfold FlowTable.insert
  split
  · exact ⟨slot, hs, hr⟩
  rename_i head _ _
  split
  · exact ⟨slot, hs, hr⟩
  rename_i found hfound
  split
  · exact ⟨slot, hs, hr⟩
  rename_i hnot
  refine ⟨slot, ?_, hr⟩
  rw [List.getElem?_set_ne]
  · exact hs
  · rintro rfl
    rw [hs] at hfound
    cases hfound
    exact hnot hr

theorem RetiredSlot.modify (h : t.RetiredSlot index) (id : FlowId) (f : α → α) :
    (t.modify id f).RetiredSlot index := by
  obtain ⟨slot, hs, hr⟩ := h
  unfold FlowTable.modify RetiredSlot
  simp only [List.getElem?_modify, hs]
  refine ⟨_, rfl, ?_⟩
  by_cases hi : id.slot = index
  · by_cases hg : slot.generation = id.generation <;> simp [hi, hg, hr]
  · simp [hi, hr]

/-- Generations end at the last one, so a retired slot is not vacated into a new one. -/
theorem RetiredSlot.vacate {capacity : ℕ} (h : t.RetiredSlot index) (hf : Filled capacity t) (id : FlowId) :
    (t.vacate id).1.RetiredSlot index := by
  obtain ⟨slot, hs, hr⟩ := h
  have hlt := (List.getElem?_eq_some_iff.mp hs).1
  unfold FlowTable.vacate
  split
  · exact ⟨slot, hs, hr⟩
  rename_i found hfound
  split
  · exact ⟨slot, hs, hr⟩
  by_cases hi : id.slot = index
  · subst hi
    rw [hs] at hfound
    cases hfound
    have hlast := hf.retired_last slot (List.mem_of_getElem? hs) hr
    rw [if_neg (by omega)]
    exact ⟨_, List.getElem?_set_self hlt, rfl⟩
  · split <;> exact ⟨slot, by simp [hi, hs], hr⟩

theorem RetiredSlot.apply {capacity : ℕ} (h : t.RetiredSlot index) (hf : Filled capacity t) (op : Op α) :
    (t.apply op).1.RetiredSlot index := by
  cases op with
  | insert value => exact h.insert value
  | get id => exact h
  | getMut id f => exact h.modify id f
  | deferRemove id =>
    change (t.deferRemove id).RetiredSlot index
    unfold FlowTable.deferRemove
    split <;> exact h
  | flushDeferred =>
    refine (flushDeferred_induction (P := fun u => Filled capacity u ∧ u.RetiredSlot index) t
      ⟨⟨hf.length, hf.covered, hf.generation_le, hf.retired_last⟩, h⟩ fun u id _ hu => ?_).2
    exact ⟨hu.1.vacate id, hu.2.vacate hu.1 id⟩

end Retired

section Steps

variable {capacity : ℕ} {t : FlowTable α} {events : List (Op α × Answer α)}

theorem Agrees.get_eq {t : FlowTable α} {id : FlowId} {s : Standing α} (h : Agrees t id s) :
    t.get id = s.value := by
  cases s with
  | fresh => exact h
  | live a => exact h.1
  | leaving a => exact h.1
  | gone => exact h.1

theorem Sound.fresh_of_not_used (h : Sound capacity t events) {id : FlowId} (hu : ¬ t.Used id) :
    standing id events = .fresh := by
  have ha := h.agrees id
  cases hs : standing id events with
  | fresh => rfl
  | live a =>
    rw [hs] at ha
    exact absurd (used_of_get ha.1) hu
  | leaving a =>
    rw [hs] at ha
    exact absurd (used_of_get ha.1) hu
  | gone =>
    rw [hs] at ha
    exact absurd ha.2 hu

theorem Agrees.congr {t u : FlowTable α} {id : FlowId} {s : Standing α} (h : Agrees t id s)
    (hget : u.get id = t.get id) (hdeferred : id ∈ u.deferred ↔ id ∈ t.deferred)
    (hused : t.Used id → u.Used id) : Agrees u id s := by
  cases s with
  | fresh => exact hget.trans h
  | live a => exact ⟨hget.trans h.1, fun hd => h.2 (hdeferred.mp hd)⟩
  | leaving a => exact ⟨hget.trans h.1, hdeferred.mpr h.2⟩
  | gone => exact ⟨hget.trans h.1, hused h.2⟩

theorem Agrees.modify {t : FlowTable α} {id : FlowId} {s : Standing α} (h : Agrees t id s) (f : α → α) :
    Agrees (t.modify id f) id (s.map f) := by
  have hget := get_modify_self t id f
  cases s with
  | fresh => exact hget.trans (by rw [show t.get id = none from h]; rfl)
  | live a => exact ⟨hget.trans (by rw [h.1]; rfl), h.2⟩
  | leaving a => exact ⟨hget.trans (by rw [h.1]; rfl), h.2⟩
  | gone => exact ⟨hget.trans (by rw [h.1]; rfl), h.2.modify id f⟩

theorem Agrees.deferRemove {t : FlowTable α} {id : FlowId} {s : Standing α} (h : Agrees t id s) :
    Agrees (t.deferRemove id) id s.defer := by
  cases s with
  | fresh => exact (get_deferRemove t id id).trans h
  | live a =>
    refine ⟨(get_deferRemove t id id).trans h.1, mem_deferred_deferRemove.mpr (.inr ⟨rfl, ?_⟩)⟩
    rw [h.1]
    rfl
  | leaving a =>
    exact ⟨(get_deferRemove t id id).trans h.1, mem_deferred_deferRemove.mpr (.inl h.2)⟩
  | gone => exact ⟨(get_deferRemove t id id).trans h.1, h.2.deferRemove id⟩

theorem Agrees.flushDeferred {t : FlowTable α} {id : FlowId} {s : Standing α} (hw : t.Wf)
    (h : Agrees t id s) : Agrees t.flushDeferred.1 id s.flush := by
  have hget := get_flushDeferred t id
  have habsent : t.get id = none → id ∉ t.deferred := by
    intro hnone hd
    have hp := hw.deferred_present id hd
    rw [hnone] at hp
    cases hp
  cases s with
  | fresh =>
    rw [if_neg (habsent h)] at hget
    exact hget.trans h
  | live a =>
    rw [if_neg h.2] at hget
    exact ⟨hget.trans h.1, by simp⟩
  | leaving a =>
    rw [if_pos h.2] at hget
    exact ⟨hget, (used_of_get h.1).flushDeferred⟩
  | gone =>
    rw [if_neg (habsent h.1)] at hget
    exact ⟨hget.trans h.1, h.2.flushDeferred⟩

theorem Sound.insert (h : Sound capacity t events) (value : α) :
    Sound capacity (t.apply (.insert value)).1
      ((.insert value, (t.apply (.insert value)).2) :: events) := by
  have hfilled := h.filled.insert h.wf value
  change Sound capacity (t.insert value).1 ((.insert value, .inserted (t.insert value).2) :: events)
  rcases h.wf.insert_cases value with hfull | ⟨u, issued, hinsert, hw, hdeferred, hfresh, hget, hused⟩
  · rw [hfull] at hfilled ⊢
    exact ⟨h.wf, hfilled, h.agrees⟩
  · rw [hinsert] at hfilled ⊢
    refine ⟨hw, hfilled, fun id => ?_⟩
    simp only [standing]
    split
    · rename_i he
      subst he
      rw [h.fresh_of_not_used hfresh]
      refine ⟨by rw [hget, if_pos rfl], fun hd => hfresh ?_⟩
      rw [hdeferred] at hd
      obtain ⟨a, ha⟩ := Option.isSome_iff_exists.mp (h.wf.deferred_present _ hd)
      exact used_of_get ha
    · rename_i hne
      refine (h.agrees id).congr ?_ (by rw [hdeferred]) (hused id)
      rw [hget, if_neg fun he => hne he.symm]

theorem Sound.getMut (h : Sound capacity t events) (target : FlowId) (f : α → α) :
    Sound capacity (t.modify target f) ((.getMut target f, .done) :: events) := by
  refine ⟨h.wf.modify target f, h.filled.modify target f, fun id => ?_⟩
  simp only [standing]
  split
  · rename_i he
    subst he
    exact (h.agrees _).modify f
  · rename_i hne
    exact (h.agrees id).congr (get_modify_of_ne t target id f fun he => hne he.symm) Iff.rfl
      fun hu => hu.modify target f

theorem Sound.deferRemove (h : Sound capacity t events) (target : FlowId) :
    Sound capacity (t.deferRemove target) ((.deferRemove target, .done) :: events) := by
  refine ⟨h.wf.deferRemove target, h.filled.deferRemove target, fun id => ?_⟩
  simp only [standing]
  split
  · rename_i he
    subst he
    exact (h.agrees _).deferRemove
  · rename_i hne
    refine (h.agrees id).congr (get_deferRemove t target id) ?_ fun hu => hu.deferRemove target
    rw [mem_deferred_deferRemove]
    constructor
    · rintro (hd | hd)
      · exact hd
      · exact absurd hd.1.symm hne
    · exact .inl

theorem Sound.apply (h : Sound capacity t events) (op : Op α) :
    Sound capacity (t.apply op).1 ((op, (t.apply op).2) :: events) := by
  cases op with
  | insert value => exact h.insert value
  | get id => exact ⟨h.wf, h.filled, h.agrees⟩
  | getMut id f => exact h.getMut id f
  | deferRemove id => exact h.deferRemove id
  | flushDeferred =>
    exact ⟨h.wf.flushDeferred, h.filled.flushDeferred, fun id => (h.agrees id).flushDeferred h.wf⟩

theorem sound_play (capacity : ℕ) (ops : List (Op α)) :
    Sound capacity (play capacity ops).1 (play capacity ops).2 := by
  induction ops with
  | nil => exact ⟨wf_withCapacity capacity, filled_withCapacity capacity, get_withCapacity capacity⟩
  | cons op ops ih => exact ih.apply op

theorem gone_stays (capacity : ℕ) (id : FlowId) (ops later : List (Op α))
    (h : standing id (play capacity ops).2 = .gone) :
    standing id (play capacity (later ++ ops)).2 = .gone := by
  induction later with
  | nil => exact h
  | cons op later ih =>
    change standing id ((op, _) :: (play capacity (later ++ ops)).2) = .gone
    cases op with
    | insert value =>
      simp only [FlowTable.apply]
      cases ((play capacity (later ++ ops)).1.insert value).2 with
      | error v => exact ih
      | ok issued =>
        simp only [standing, ih]
        split <;> rfl
    | get _ => exact ih
    | getMut _ _ =>
      simp only [standing, ih]
      split <;> rfl
    | deferRemove _ =>
      simp only [standing, ih]
      split <;> rfl
    | flushDeferred =>
      simp only [standing, ih]
      rfl

end Steps

section Partition

variable {capacity : ℕ} {t : FlowTable α}

theorem partition_slot (hw : t.Wf) (hf : Filled capacity t) {index : ℕ} (hlt : index < capacity) :
    (index ∈ t.free ∧ ¬ t.LiveSlot index ∧ ¬ t.RetiredSlot index) ∨
      (index ∉ t.free ∧ t.LiveSlot index ∧ ¬ t.RetiredSlot index) ∨
      (index ∉ t.free ∧ ¬ t.LiveSlot index ∧ t.RetiredSlot index) := by
  obtain ⟨slot, hs⟩ : ∃ slot, t.slots[index]? = some slot :=
    ⟨_, List.getElem?_eq_getElem (by rw [hf.length]; exact hlt)⟩
  have hfree : index ∈ t.free → slot.value = none ∧ slot.retired = false := by
    intro hm
    obtain ⟨found, hfound, hrest⟩ := hw.free_vacant index hm
    rw [hs] at hfound
    cases hfound
    exact hrest
  have hlive : t.LiveSlot index ↔ slot.value.isSome = true := by simp [LiveSlot, hs]
  have hretired : t.RetiredSlot index ↔ slot.retired = true := by simp [RetiredSlot, hs]
  have hvacant := hw.retired_vacant slot (List.mem_of_getElem? hs)
  have hcovered := hf.covered index slot hs
  rw [hlive, hretired]
  cases hv : slot.value with
  | none =>
    cases hr : slot.retired with
    | false => exact .inl ⟨hcovered hv hr, by simp, by simp⟩
    | true =>
      refine .inr (.inr ⟨fun hm => ?_, by simp, rfl⟩)
      rw [(hfree hm).2] at hr
      cases hr
  | some a =>
    cases hr : slot.retired with
    | false =>
      refine .inr (.inl ⟨fun hm => ?_, rfl, by simp⟩)
      rw [(hfree hm).1] at hv
      cases hv
    | true =>
      rw [hvacant hr] at hv
      cases hv

theorem insert_fails_iff (hw : t.Wf) (value : α) :
    (∃ returned, (t.insert value).2 = .error returned) ↔ t.free = [] := by
  constructor
  · rintro ⟨returned, hreturned⟩
    cases hf : t.free with
    | nil => rfl
    | cons index free =>
      obtain ⟨slot, hs, -, hr⟩ := hw.free_vacant index (by rw [hf]; exact List.mem_cons_self)
      simp [FlowTable.insert, hf, hs, hr] at hreturned
  · intro hf
    exact ⟨value, by simp [FlowTable.insert, hf]⟩

end Partition

/-- What the answers of a table tell apart after some operations, newest first. -/
structure Distinguishes (capacity : ℕ) (ops : List (Op α)) (t : FlowTable α)
    (events : List (Op α × Answer α)) : Prop where
  resolves : ∀ id, t.get id = (standing id events).value
  issues_fresh : ∀ value u id, t.insert value = (u, .ok id) → standing id events = .fresh
  stays_gone : ∀ id, standing id events = .gone →
    ∀ later, (play capacity (later ++ ops)).1.get id = none
  free_nodup : t.free.Nodup
  free_lt : ∀ index ∈ t.free, index < capacity
  partition : ∀ index < capacity,
    (index ∈ t.free ∧ ¬ t.LiveSlot index ∧ ¬ t.RetiredSlot index) ∨
      (index ∉ t.free ∧ t.LiveSlot index ∧ ¬ t.RetiredSlot index) ∨
      (index ∉ t.free ∧ ¬ t.LiveSlot index ∧ t.RetiredSlot index)
  retired_last : ∀ slot ∈ t.slots, slot.retired = true → slot.generation = generationMax
  stays_retired : ∀ index, t.RetiredSlot index → ∀ op, (t.apply op).1.RetiredSlot index
  insert_fails : ∀ value, (∃ returned, (t.insert value).2 = .error returned) ↔ t.free = []
  insert_returns : ∀ value, t.free = [] → t.insert value = (t, .error value)
  flushes : ∃ ids : List FlowId, ids.Nodup ∧ (∀ id, id ∈ ids ↔ ∃ a, standing id events = .leaving a) ∧
    t.flushDeferred.2.map some = ids.map fun id => (standing id events).value

/-- Handles are never confused, whatever is done to a table of whatever capacity. -/
theorem play_distinguishes (capacity : ℕ) (ops : List (Op α)) :
    Distinguishes capacity ops (play capacity ops).1 (play capacity ops).2 := by
  have h := sound_play capacity ops
  have hget : ∀ id, (play capacity ops).1.get id = (standing id (play capacity ops).2).value :=
    fun id => (h.agrees id).get_eq
  refine ⟨hget, ?_, ?_, h.wf.free_nodup, ?_, fun index hlt => partition_slot h.wf h.filled hlt,
    h.filled.retired_last, fun index hr op => hr.apply h.filled op, insert_fails_iff h.wf, ?_, ?_⟩
  · intro value u id hinsert
    rcases h.wf.insert_cases value with hfull | ⟨v, issued, hissued, -, -, hfresh, -, -⟩
    · rw [hfull] at hinsert
      cases hinsert
    · rw [hissued] at hinsert
      cases hinsert
      exact h.fresh_of_not_used hfresh
  · intro id hgone later
    have hlater := (sound_play capacity (later ++ ops)).agrees id
    rw [gone_stays capacity id ops later hgone] at hlater
    exact hlater.1
  · intro index hm
    obtain ⟨slot, hs, -⟩ := h.wf.free_vacant index hm
    rw [← h.filled.length]
    exact (List.getElem?_eq_some_iff.mp hs).1
  · intro value hf
    simp [FlowTable.insert, hf]
  · refine ⟨_, h.wf.deferred_nodup, fun id => ?_, ?_⟩
    · have ha := h.agrees id
      constructor
      · intro hd
        cases hs : standing id (play capacity ops).2 with
        | leaving a => exact ⟨a, rfl⟩
        | live a =>
          rw [hs] at ha
          exact absurd hd ha.2
        | fresh =>
          have hp := h.wf.deferred_present id hd
          rw [hget, hs] at hp
          cases hp
        | gone =>
          have hp := h.wf.deferred_present id hd
          rw [hget, hs] at hp
          cases hp
      · rintro ⟨a, hs⟩
        rw [hs] at ha
        exact ha.2
    · rw [h.wf.flushed]
      have hall : ∀ ids : List FlowId, (∀ id ∈ ids, ((play capacity ops).1.get id).isSome = true) →
          (ids.filterMap (play capacity ops).1.get).map some =
            ids.map fun id => (standing id (play capacity ops).2).value := by
        intro ids
        induction ids with
        | nil => exact fun _ => rfl
        | cons id ids ih =>
          intro hp
          obtain ⟨a, ha⟩ := Option.isSome_iff_exists.mp (hp id List.mem_cons_self)
          rw [List.filterMap_cons_some ha, List.map_cons, List.map_cons, ← hget, ha,
            ih fun other ho => hp other (List.mem_cons_of_mem _ ho)]
      exact hall _ h.wf.deferred_present

end Yayatht.FlowTable
