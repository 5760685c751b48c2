import Mathlib.Data.Nat.Bitwise
import Yayatht.FlowTableHistory
import Yayatht.ReactorCalls

set_option autoImplicit false

namespace Yayatht

inductive Resource where
  | upstreamSocket
  | tap
  | timer
  | control
  | dnsUpstream
  | udpSocket
  | socksControl
  | socksRelay
  deriving DecidableEq, Repr

namespace Resource

def raw : Resource → UInt64
  | .upstreamSocket => 1
  | .tap => 2
  | .timer => 3
  | .control => 4
  | .dnsUpstream => 5
  | .udpSocket => 6
  | .socksControl => 7
  | .socksRelay => 8

def fromRaw : UInt64 → Option Resource
  | 1 => some .upstreamSocket
  | 2 => some .tap
  | 3 => some .timer
  | 4 => some .control
  | 5 => some .dnsUpstream
  | 6 => some .udpSocket
  | 7 => some .socksControl
  | 8 => some .socksRelay
  | _ => none

theorem fromRaw_raw (resource : Resource) : fromRaw resource.raw = some resource := by cases resource <;> rfl

theorem raw_of_fromRaw {value : UInt64} {resource : Resource} (h : fromRaw value = some resource) :
    resource.raw = value := by
  unfold fromRaw at h
  split at h <;> cases h <;> rfl

theorem raw_lt (resource : Resource) : resource.raw.toNat < 128 := by cases resource <;> decide

end Resource

structure EpollToken where
  raw : UInt64
  deriving DecidableEq, Repr

namespace EpollToken

def slotBits : UInt64 := 20
def resourceBits : UInt64 := 7
def slotMask : UInt64 := (1 <<< slotBits) - 1
def resourceMask : UInt64 := (1 <<< resourceBits) - 1
def sideShift : UInt64 := slotBits + resourceBits
def generationShift : UInt64 := 32

def flow (id : FlowId) (resource : Resource) (targetSide : Bool) : Option EpollToken :=
  if slotMask < UInt64.ofNat id.slot ∨ id.generation = 0 then none
  else some ⟨(UInt64.ofNat id.generation <<< generationShift) ||| UInt64.ofNat id.slot |||
    ((resource.raw &&& resourceMask) <<< slotBits) ||| (targetSide.toUInt64 <<< sideShift)⟩

/-- The token of a resource that belongs to no flow. -/
def global (resource : Resource) : EpollToken := ⟨(resource.raw &&& resourceMask) <<< slotBits⟩

def decode (token : EpollToken) : Option (Option FlowId × Resource × Bool) :=
  if token.raw &&& 0xf0000000 ≠ 0 then none
  else
    match Resource.fromRaw ((token.raw >>> slotBits) &&& resourceMask) with
    | none => none
    | some resource =>
      let generation := (token.raw >>> generationShift).toUInt32
      let slot := (token.raw &&& slotMask).toUInt32
      let flow := if generation = 0 then none else some ⟨slot.toNat, generation.toNat⟩
      some (flow, resource, token.raw &&& (1 <<< sideShift) ≠ 0)

/-- The entry an event with this token goes to. -/
def target {α : Type} (token : EpollToken) (table : FlowTable α) : Option α :=
  match token.decode with
  | some (some id, _, _) => table.get id
  | _ => none

def packed (generation side resource slot : ℕ) : ℕ :=
  generation * 2 ^ 32 + side * 2 ^ 27 + resource * 2 ^ 20 + slot

variable {generation side resource slot : ℕ}

/-- The fields do not overlap, so joining their bits adds them. -/
theorem or_eq_packed (hslot : slot < 2 ^ 20) (hresource : resource < 2 ^ 7) (hside : side < 2) :
    generation <<< 32 ||| slot ||| resource <<< 20 ||| side <<< 27 = packed generation side resource slot := by
  have hlow : slot ||| resource <<< 20 = resource <<< 20 + slot := by
    rw [Nat.or_comm, Nat.shiftLeft_add_eq_or_of_lt hslot]
  have hlow_lt : resource <<< 20 + slot < 2 ^ 27 := by
    rw [Nat.shiftLeft_eq]
    omega
  have hmiddle : (resource <<< 20 + slot) ||| side <<< 27 = side <<< 27 + (resource <<< 20 + slot) := by
    rw [Nat.or_comm, Nat.shiftLeft_add_eq_or_of_lt hlow_lt]
  have hmiddle_lt : side <<< 27 + (resource <<< 20 + slot) < 2 ^ 32 := by
    rw [Nat.shiftLeft_eq side]
    omega
  rw [Nat.or_assoc, Nat.or_assoc, ← Nat.or_assoc slot, hlow, hmiddle,
    ← Nat.shiftLeft_add_eq_or_of_lt hmiddle_lt]
  simp only [Nat.shiftLeft_eq, packed]
  omega

theorem and_reserved_eq_zero_iff (value : ℕ) : value &&& 0xf0000000 = 0 ↔ value / 2 ^ 28 % 2 ^ 4 = 0 := by
  have hlow : (value &&& 0xf0000000) % 2 ^ 28 = 0 := by
    rw [Nat.and_mod_two_pow]
    exact Nat.and_zero _
  have hhigh : (value &&& 0xf0000000) / 2 ^ 28 = value / 2 ^ 28 % 2 ^ 4 := by
    rw [Nat.and_div_two_pow]
    exact Nat.and_two_pow_sub_one_eq_mod _ 4
  omega

theorem and_side_ne_zero_iff (value : ℕ) : value &&& 2 ^ 27 ≠ 0 ↔ value / 2 ^ 27 % 2 = 1 := by
  rw [Nat.and_two_pow, Nat.testBit_eq_decide_div_mod_eq]
  simp

theorem packed_lt (hgeneration : generation < 2 ^ 32) (hslot : slot < 2 ^ 20) (hresource : resource < 2 ^ 7)
    (hside : side < 2) : packed generation side resource slot < 2 ^ 64 := by
  unfold packed
  omega

def Wide (id : FlowId) : Prop := id.slot < 2 ^ 32 ∧ id.generation < 2 ^ 32

section Codec

variable {id : FlowId} {kind : Resource} {targetSide : Bool} {token : EpollToken}

theorem toNat_ofNat_slot (hwide : Wide id) : (UInt64.ofNat id.slot).toNat = id.slot := by
  rw [UInt64.toNat_ofNat']
  exact Nat.mod_eq_of_lt (lt_trans hwide.1 (by decide))

theorem flow_eq_some_iff (hwide : Wide id) : flow id kind targetSide = some token ↔
    id.slot < 2 ^ 20 ∧ id.generation ≠ 0 ∧
      token.raw.toNat = packed id.generation targetSide.toNat kind.raw.toNat id.slot := by
  have hmask : slotMask < UInt64.ofNat id.slot ↔ ¬ id.slot < 2 ^ 20 := by
    have hvalue : slotMask.toNat = 2 ^ 20 - 1 := rfl
    rw [UInt64.lt_iff_toNat_lt, toNat_ofNat_slot hwide, hvalue]
    omega
  unfold flow
  split
  · rename_i hbad
    rw [hmask] at hbad
    refine iff_of_false (by simp) ?_
    rintro ⟨hslot, hgeneration, -⟩
    exact hbad.elim (fun h => h hslot) hgeneration
  rename_i hgood
  rw [hmask, not_or, not_not] at hgood
  obtain ⟨hslot, hgeneration⟩ := hgood
  have hside : targetSide.toNat < 2 := by cases targetSide <;> decide
  have hresource := kind.raw_lt
  have hside_nat : targetSide.toUInt64.toNat = targetSide.toNat := by cases targetSide <;> rfl
  have hgeneration_nat : (UInt64.ofNat id.generation <<< generationShift).toNat = id.generation <<< 32 := by
    have hlt : id.generation * 2 ^ 32 < 2 ^ 64 := by
      have hle := hwide.2
      omega
    rw [UInt64.toNat_shiftLeft, UInt64.toNat_ofNat', Nat.shiftLeft_eq, Nat.shiftLeft_eq,
      Nat.mod_eq_of_lt (lt_trans hwide.2 (by decide : 2 ^ 32 < 2 ^ 64))]
    exact Nat.mod_eq_of_lt hlt
  have hresource_nat : ((kind.raw &&& resourceMask) <<< slotBits).toNat = kind.raw.toNat <<< 20 := by
    cases kind <;> rfl
  have hshift_nat : (targetSide.toUInt64 <<< sideShift).toNat = targetSide.toNat <<< 27 := by
    cases targetSide <;> rfl
  have hraw : ((UInt64.ofNat id.generation <<< generationShift) ||| UInt64.ofNat id.slot |||
      ((kind.raw &&& resourceMask) <<< slotBits) ||| (targetSide.toUInt64 <<< sideShift)).toNat =
      packed id.generation targetSide.toNat kind.raw.toNat id.slot := by
    rw [UInt64.toNat_or, UInt64.toNat_or, UInt64.toNat_or, hgeneration_nat, hresource_nat, hshift_nat,
      toNat_ofNat_slot hwide, or_eq_packed hslot hresource hside]
  rw [Option.some_inj, and_iff_right hslot, and_iff_right hgeneration, ← hraw, UInt64.toNat_inj]
  constructor
  · intro h
    rw [← h]
  · intro h
    rw [← h]

theorem decode_eq_some_iff : token.decode = some (some id, kind, targetSide) ↔
    id.slot < 2 ^ 20 ∧ id.generation ≠ 0 ∧ id.generation < 2 ^ 32 ∧
      token.raw.toNat = packed id.generation targetSide.toNat kind.raw.toNat id.slot := by
  have hlt := token.raw.toNat_lt
  have hreserved : token.raw &&& 0xf0000000 = 0 ↔ token.raw.toNat / 2 ^ 28 % 2 ^ 4 = 0 := by
    rw [← UInt64.toNat_inj, UInt64.toNat_and]
    exact and_reserved_eq_zero_iff _
  have hresource : ((token.raw >>> slotBits) &&& resourceMask).toNat = token.raw.toNat / 2 ^ 20 % 2 ^ 7 := by
    rw [UInt64.toNat_and, UInt64.toNat_shiftRight, Nat.shiftRight_eq_div_pow]
    exact Nat.and_two_pow_sub_one_eq_mod _ 7
  have hgeneration : (token.raw >>> generationShift).toUInt32.toNat = token.raw.toNat / 2 ^ 32 := by
    rw [UInt64.toNat_toUInt32, UInt64.toNat_shiftRight, Nat.shiftRight_eq_div_pow]
    change token.raw.toNat / 2 ^ 32 % 2 ^ 32 = _
    omega
  have hslot : (token.raw &&& slotMask).toUInt32.toNat = token.raw.toNat % 2 ^ 20 := by
    have hand : token.raw.toNat &&& (2 ^ 20 - 1) = token.raw.toNat % 2 ^ 20 := Nat.and_two_pow_sub_one_eq_mod _ 20
    rw [UInt64.toNat_toUInt32, UInt64.toNat_and]
    change (token.raw.toNat &&& (2 ^ 20 - 1)) % 2 ^ 32 = _
    rw [hand]
    omega
  have hside : token.raw &&& (1 <<< sideShift) ≠ 0 ↔ token.raw.toNat / 2 ^ 27 % 2 = 1 := by
    rw [ne_eq, ← UInt64.toNat_inj, UInt64.toNat_and]
    exact and_side_ne_zero_iff _
  have hbit : targetSide.toNat < 2 := by cases targetSide <;> decide
  have hkind := kind.raw_lt
  have hsame : decide (token.raw &&& (1 <<< sideShift) ≠ 0) = targetSide ↔
      token.raw.toNat / 2 ^ 27 % 2 = targetSide.toNat := by
    have htwo := Nat.mod_two_eq_zero_or_one (token.raw.toNat / 2 ^ 27)
    cases targetSide with
    | false =>
      rw [decide_eq_false_iff_not, hside, Bool.toNat_false]
      omega
    | true => rw [decide_eq_true_iff, hside, Bool.toNat_true]
  constructor
  · intro h
    unfold decode at h
    split at h
    · cases h
    rename_i hclear
    rw [not_not, hreserved] at hclear
    split at h
    · cases h
    rename_i resource hfound
    have hraw := congrArg UInt64.toNat (Resource.raw_of_fromRaw hfound)
    rw [hresource] at hraw
    simp only [Option.some.injEq, Prod.mk.injEq] at h
    obtain ⟨hflow, rfl, hdecided⟩ := h
    split at hflow
    · cases hflow
    rename_i hnonzero
    cases hflow
    have hfield := hsame.mp hdecided
    rw [← UInt32.toNat_inj, hgeneration] at hnonzero
    dsimp only
    rw [hgeneration, hslot]
    refine ⟨Nat.mod_lt _ (by decide), hnonzero, by omega, ?_⟩
    unfold packed
    omega
  · rintro ⟨hslot_lt, hnonzero, hgeneration_lt, hraw⟩
    unfold packed at hraw
    have hclear : token.raw &&& 0xf0000000 = 0 := hreserved.mpr (by omega)
    have hfound : (token.raw >>> slotBits) &&& resourceMask = kind.raw := by
      rw [← UInt64.toNat_inj, hresource]
      omega
    have hnumber : ¬ (token.raw >>> generationShift).toUInt32 = 0 := by
      rw [← UInt32.toNat_inj, hgeneration]
      change ¬ _ = 0
      omega
    have hflow : FlowId.mk (token.raw &&& slotMask).toUInt32.toNat
        (token.raw >>> generationShift).toUInt32.toNat = id := by
      rw [hgeneration, hslot]
      cases id
      congr 1
      · dsimp only at *
        omega
      · dsimp only at *
        omega
    have hfield := hsame.mpr (by omega)
    unfold decode
    rw [if_neg (not_not.mpr hclear), hfound, Resource.fromRaw_raw]
    dsimp only
    rw [if_neg hnumber, hflow, hfield]

theorem exists_flow (hwide : Wide id) (hslot : id.slot < 2 ^ 20) (hgeneration : id.generation ≠ 0) (kind : Resource)
    (targetSide : Bool) : ∃ token, flow id kind targetSide = some token := by
  have hside : targetSide.toNat < 2 := by cases targetSide <;> decide
  have hlt := packed_lt hwide.2 hslot kind.raw_lt hside
  exact ⟨⟨UInt64.ofNat (packed id.generation targetSide.toNat kind.raw.toNat id.slot)⟩,
    (flow_eq_some_iff hwide).mpr ⟨hslot, hgeneration, UInt64.toNat_ofNat_of_lt' hlt⟩⟩

theorem decode_flow (hwide : Wide id) (h : flow id kind targetSide = some token) :
    token.decode = some (some id, kind, targetSide) := by
  obtain ⟨hslot, hgeneration, hraw⟩ := (flow_eq_some_iff hwide).mp h
  exact decode_eq_some_iff.mpr ⟨hslot, hgeneration, hwide.2, hraw⟩

theorem flow_decode (h : token.decode = some (some id, kind, targetSide)) :
    Wide id ∧ flow id kind targetSide = some token := by
  obtain ⟨hslot, hgeneration, hlt, hraw⟩ := decode_eq_some_iff.mp h
  have hwide : Wide id := ⟨lt_trans hslot (by decide), hlt⟩
  exact ⟨hwide, (flow_eq_some_iff hwide).mpr ⟨hslot, hgeneration, hraw⟩⟩

/-- The generation of a flow is in the upper half, which the other tokens leave empty. -/
theorem flow_ne_global (hwide : Wide id) (h : flow id kind targetSide = some token) (other : Resource) :
    token ≠ global other := by
  rintro rfl
  obtain ⟨-, hgeneration, hraw⟩ := (flow_eq_some_iff hwide).mp h
  have hsmall : (global other).raw.toNat < 2 ^ 32 := by cases other <;> decide
  unfold packed at hraw
  omega

end Codec

end EpollToken

namespace FlowTable

variable {α : Type} {capacity : ℕ} {t : FlowTable α} {id : FlowId}

/-- No slot is without a generation. -/
def Numbered (t : FlowTable α) : Prop := ∀ slot ∈ t.slots, slot.generation ≠ 0

theorem numbered_withCapacity (capacity : ℕ) : (withCapacity capacity : FlowTable α).Numbered := by
  intro slot hm
  rw [(List.mem_replicate.mp hm).2]
  exact Nat.one_ne_zero

theorem Numbered.set (h : t.Numbered) {index : ℕ} {slot : Slot α} {free : List ℕ} (hslot : slot.generation ≠ 0) :
    Numbered { t with slots := t.slots.set index slot, free := free } := by
  intro found hm
  rcases List.mem_or_eq_of_mem_set hm with hm | rfl
  · exact h found hm
  · exact hslot

theorem Numbered.vacate (h : t.Numbered) (id : FlowId) : (t.vacate id).1.Numbered := by
  unfold FlowTable.vacate
  split
  · exact h
  rename_i slot hs
  have hgeneration := h slot (List.mem_of_getElem? hs)
  split
  · exact h
  split
  · exact h.set (by dsimp only; omega)
  · exact h.set hgeneration

theorem Numbered.apply (h : t.Numbered) (op : Op α) : (t.apply op).1.Numbered := by
  cases op with
  | insert value =>
    change (t.insert value).1.Numbered
    unfold FlowTable.insert
    split
    · exact h
    split
    · exact h
    rename_i slot hs
    split
    · exact h
    · exact h.set (h slot (List.mem_of_getElem? hs))
  | get id => exact h
  | getMut id f =>
    intro slot hm
    obtain ⟨index, hs⟩ := List.mem_iff_getElem?.mp hm
    change (t.modify id f).slots[index]? = some slot at hs
    unfold FlowTable.modify at hs
    rw [List.getElem?_modify] at hs
    obtain ⟨found, hf, rfl⟩ := Option.map_eq_some_iff.mp hs
    have hgeneration := h found (List.mem_of_getElem? hf)
    split
    · split <;> exact hgeneration
    · exact hgeneration
  | deferRemove id =>
    change (t.deferRemove id).Numbered
    unfold FlowTable.deferRemove
    split <;> exact h
  | flushDeferred =>
    exact flushDeferred_induction (P := Numbered) t h fun u id _ hu => hu.vacate id

theorem numbered_play (capacity : ℕ) (ops : List (Op α)) : (play capacity ops).1.Numbered := by
  induction ops with
  | nil => exact numbered_withCapacity capacity
  | cons op ops ih => exact ih.apply op

theorem exists_of_insert {value : α} (hw : t.Wf) (h : (t.insert value).2 = .ok id) :
    ∃ slot, t.slots[id.slot]? = some slot ∧ slot.generation = id.generation ∧ slot.value = none := by
  unfold FlowTable.insert at h
  cases hf : t.free with
  | nil => simp [hf] at h
  | cons index free =>
    obtain ⟨slot, hs, hv, hr⟩ := hw.free_vacant index (by rw [hf]; exact List.mem_cons_self)
    simp only [hf, hs, hr, Bool.false_eq_true, if_false, Except.ok.injEq] at h
    cases h
    exact ⟨slot, hs, rfl, hv⟩

theorem issued_stays {id : FlowId} (ops later : List (Op α)) (h : standing id (play capacity ops).2 ≠ .fresh) :
    standing id (play capacity (later ++ ops)).2 ≠ .fresh := by
  induction later with
  | nil => exact h
  | cons op later ih =>
    change standing id ((op, _) :: (play capacity (later ++ ops)).2) ≠ .fresh
    revert ih
    generalize hs : standing id (play capacity (later ++ ops)).2 = s
    intro ih
    cases op with
    | insert value =>
      simp only [FlowTable.apply]
      cases ((play capacity (later ++ ops)).1.insert value).2 with
      | error v => exact hs ▸ ih
      | ok issued =>
        simp only [standing, hs]
        split
        · cases s <;> simp_all [Standing.issue]
        · exact ih
    | get _ => exact hs ▸ ih
    | getMut _ _ =>
      simp only [standing, hs]
      split
      · cases s <;> simp_all [Standing.map]
      · exact ih
    | deferRemove _ =>
      simp only [standing, hs]
      split
      · cases s <;> simp_all [Standing.defer]
      · exact ih
    | flushDeferred =>
      simp only [standing, hs]
      cases s <;> simp_all [Standing.flush]

/-- A slot that is given out again answers no token of an earlier flow, whatever happens later. -/
theorem target_reused {value value' : α} {id' : FlowId} {earlier middle later : List (Op α)}
    (hcapacity : capacity ≤ 2 ^ 20) (hissued : ((play capacity earlier).1.insert value).2 = .ok id)
    (hreused : ((play capacity (middle ++ .insert value :: earlier)).1.insert value').2 = .ok id')
    (hslot : id'.slot = id.slot) (kind : Resource) (targetSide : Bool) :
    ∃ token, EpollToken.flow id kind targetSide = some token ∧ (∀ t : FlowTable α, token.target t = t.get id) ∧
      id ≠ id' ∧
      token.target (play capacity (later ++ .insert value' :: (middle ++ .insert value :: earlier))).1 = none := by
  have hearlier := sound_play capacity earlier
  have hmiddle := sound_play capacity (middle ++ .insert value :: earlier)
  obtain ⟨first, hfirst, hgeneration, -⟩ := exists_of_insert hearlier.wf hissued
  have hin : id.slot < capacity := hearlier.filled.length ▸ (List.getElem?_eq_some_iff.mp hfirst).1
  have hle := hearlier.filled.generation_le first (List.mem_of_getElem? hfirst)
  have hnonzero := numbered_play capacity earlier first (List.mem_of_getElem? hfirst)
  rw [hgeneration] at hle hnonzero
  unfold generationMax at hle
  have hwide : EpollToken.Wide id := ⟨by omega, by omega⟩
  -- the insertion issued the identifier, and nothing makes it fresh again
  have hgiven : standing id (play capacity (.insert value :: earlier)).2 ≠ .fresh := by
    change standing id ((.insert value, .inserted ((play capacity earlier).1.insert value).2) :: _) ≠ _
    rw [hissued]
    simp only [standing, if_true]
    cases standing id (play capacity earlier).2 <;> simp [Standing.issue]
  have hstays := issued_stays _ middle hgiven
  -- its slot was free when it was given out again, so the identifier is gone
  have hgone : standing id (play capacity (middle ++ .insert value :: earlier)).2 = .gone := by
    obtain ⟨slot, hs, -, hvacant⟩ := exists_of_insert hmiddle.wf hreused
    rw [hslot] at hs
    have hnone : (play capacity (middle ++ .insert value :: earlier)).1.get id = none := by
      unfold FlowTable.get
      rw [hs]
      dsimp only
      split
      · exact hvacant
      · rfl
    rw [(hmiddle.agrees id).get_eq] at hnone
    revert hnone hstays
    cases standing id (play capacity (middle ++ .insert value :: earlier)).2 <;> simp [Standing.value]
  have hfresh : standing id' (play capacity (middle ++ .insert value :: earlier)).2 = .fresh :=
    (play_distinguishes capacity _).issues_fresh value' _ id' (Prod.ext rfl hreused)
  obtain ⟨token, htoken⟩ :=
    EpollToken.exists_flow hwide (lt_of_lt_of_le hin hcapacity) hnonzero kind targetSide
  have htarget : ∀ t : FlowTable α, token.target t = t.get id := by
    intro t
    unfold EpollToken.target
    rw [EpollToken.decode_flow hwide htoken]
  refine ⟨token, htoken, htarget, ?_, ?_⟩
  · rintro rfl
    rw [hgone] at hfresh
    cases hfresh
  · rw [htarget]
    have hlater := (play_distinguishes capacity _).stays_gone id hgone (later ++ [.insert value'])
    rwa [List.append_assoc] at hlater

end FlowTable

/-- Tokens are read back as they were made, and no token of a flow stands for anything else. -/
theorem EpollToken.unambiguous :
    (∀ id kind targetSide, Wide id → id.slot < 2 ^ 20 → id.generation ≠ 0 →
      ∃ token, flow id kind targetSide = some token ∧ token.decode = some (some id, kind, targetSide)) ∧
    (∀ raw id kind targetSide, (EpollToken.mk raw).decode = some (some id, kind, targetSide) →
      flow id kind targetSide = some ⟨raw⟩) ∧
    (∀ id kind targetSide token other, Wide id → flow id kind targetSide = some token → token ≠ global other) ∧
    ∀ (α : Type) (capacity : ℕ) (earlier middle later : List (FlowTable.Op α)) (value value' : α)
      (id id' : FlowId), capacity ≤ 2 ^ 20 → ((FlowTable.play capacity earlier).1.insert value).2 = .ok id →
      ((FlowTable.play capacity (middle ++ .insert value :: earlier)).1.insert value').2 = .ok id' →
      id'.slot = id.slot → ∀ kind targetSide, ∃ token, flow id kind targetSide = some token ∧
        (∀ t : FlowTable α, token.target t = t.get id) ∧ id ≠ id' ∧
        token.target
          (FlowTable.play capacity (later ++ .insert value' :: (middle ++ .insert value :: earlier))).1 = none := by
  refine ⟨fun id kind targetSide hwide hslot hgeneration => ?_, fun raw id kind targetSide h => ?_,
    fun id kind targetSide token other hwide h => flow_ne_global hwide h other, ?_⟩
  · obtain ⟨token, htoken⟩ := exists_flow hwide hslot hgeneration kind targetSide
    exact ⟨token, htoken, decode_flow hwide htoken⟩
  · exact (flow_decode h).2
  · intro α capacity earlier middle later value value' id id' hcapacity hissued hreused hslot kind targetSide
    exact FlowTable.target_reused hcapacity hissued hreused hslot kind targetSide

end Yayatht
