import Yayatht.UdpEngine
import Yayatht.FlowTableHistory

set_option autoImplicit false

namespace Yayatht

namespace FlowTable

variable {α : Type} {t u : FlowTable α} {p : α → Bool}

/-- How many occupied slots hold a value with the property. -/
def count (t : FlowTable α) (p : α → Bool) : ℕ := t.activeIds.countP fun id => (t.get id).any p

theorem count_congr (h : ∀ id, (u.get id).map p = (t.get id).map p) : u.count p = t.count p := by
  have hsome : ∀ id, (u.get id).isSome = (t.get id).isSome := by
    intro id
    have hmap := congrArg Option.isSome (h id)
    simpa using hmap
  have hany : ∀ id, (u.get id).any p = (t.get id).any p := by
    intro id
    have hmap := congrArg (Option.any fun b => b) (h id)
    simpa [Option.any_map, Function.comp_def] using hmap
  have hperm : u.activeIds.Perm t.activeIds := by
    apply (List.perm_ext_iff_of_nodup (nodup_activeIds u) (nodup_activeIds t)).mpr
    intro id
    rw [mem_activeIds, mem_activeIds, hsome]
  unfold count
  rw [hperm.countP_eq]
  simp only [hany]

theorem count_added {id : FlowId} {a : α} (hnone : t.get id = none)
    (hget : ∀ other, u.get other = if other = id then some a else t.get other) :
    u.count p = t.count p + (p a).toNat := by
  have habsent : id ∉ t.activeIds := by
    rw [mem_activeIds, hnone]
    simp
  have hperm : u.activeIds.Perm (id :: t.activeIds) := by
    apply (List.perm_ext_iff_of_nodup (nodup_activeIds u)
      (List.nodup_cons.mpr ⟨habsent, nodup_activeIds t⟩)).mpr
    intro other
    rw [mem_activeIds, List.mem_cons, mem_activeIds, hget]
    by_cases he : other = id <;> simp [he]
  have hrest : t.activeIds.countP (fun other => (u.get other).any p) =
      t.activeIds.countP fun other => (t.get other).any p := by
    apply List.countP_congr
    intro other ho
    rw [hget, if_neg]
    rintro rfl
    exact habsent ho
  unfold count
  rw [hperm.countP_eq, List.countP_cons, hrest, hget id, if_pos rfl]
  cases hp : p a <;> simp [hp]

theorem count_true (t : FlowTable α) : t.count (fun _ => true) = t.activeIds.length := by
  unfold count
  rw [List.countP_eq_length]
  intro id hm
  obtain ⟨a, ha⟩ := Option.isSome_iff_exists.mp ((mem_activeIds t id).mp hm)
  rw [ha]
  rfl

theorem count_pos {id : FlowId} {a : α} (h : t.get id = some a) (hp : p a = true) : 0 < t.count p := by
  apply List.countP_pos_iff.mpr
  refine ⟨id, (mem_activeIds t id).mpr ?_, ?_⟩
  · rw [h]
    rfl
  · rw [h]
    exact hp

theorem activeFrom_length_le (slots : List (Slot α)) (start : ℕ) :
    (activeFrom start slots).length ≤ slots.length := by
  induction slots generalizing start with
  | nil => exact Nat.le_refl 0
  | cons slot slots ih =>
    have hrest := ih (start + 1)
    unfold activeFrom
    cases slot.value with
    | none =>
      rw [List.length_cons]
      dsimp only
      omega
    | some a =>
      rw [List.length_cons, List.length_cons]
      omega

end FlowTable

namespace Udp

inductive Op where
  | accept (key : FlowKey) (now : Millis)
  | acceptRouted (key : FlowKey) (replySource : SocketAddr) (now : Millis)
  | recordOutbound (id : FlowId) (now : Millis)
  | recordInbound (id : FlowId) (now : Millis)
  | remove (id : FlowId)
  | expire (now : Millis)

namespace Engine

def apply (e : Engine) : Op → Engine
  | .accept key now => (e.accept key now).1
  | .acceptRouted key replySource now => (e.acceptRouted key replySource now).1
  | .recordOutbound id now => e.recordOutbound id now
  | .recordInbound id now => e.recordInbound id now
  | .remove id => (e.remove id).1
  | .expire now => (e.expire now).1

def play (maxFlows maxAssociations : ℕ) (ops : List Op) : Engine :=
  ops.foldl apply (new maxFlows maxAssociations)

def flowCount (e : Engine) (key : AssociationKey) : ℕ :=
  e.flows.count fun f => f.key.association = key

/-- The three containers say the same. -/
structure Consistent (maxFlows maxAssociations : ℕ) (e : Engine) : Prop where
  flows_limit : e.maxFlows = maxFlows
  associations_limit : e.maxAssociations = maxAssociations
  wf : e.flows.Wf
  filled : FlowTable.Filled maxFlows e.flows
  settled : e.flows.deferred = []
  byKey_iff : ∀ key id, e.byKey.find? key = some id ↔ ∃ f, e.flow id = some f ∧ f.key = key
  byKey_distinct : e.byKey.Distinct
  byKey_size : e.byKey.size = e.activeIds.length
  counted : ∀ key, e.associations.find? key = if e.flowCount key = 0 then none else some (e.flowCount key)
  associations_distinct : e.associations.Distinct
  associations_le : e.associations.size ≤ maxAssociations
  oneFamily : ∀ id f, e.flow id = some f →
    f.key.source.isIpv4 = f.key.target.isIpv4 ∧ f.key.source.isIpv4 = f.replySource.isIpv4

namespace Consistent

variable {maxFlows maxAssociations : ℕ} {e : Engine}

theorem initial (maxFlows maxAssociations : ℕ) :
    Consistent maxFlows maxAssociations (new maxFlows maxAssociations) := by
  have hget : ∀ id, (new maxFlows maxAssociations).flow id = none := FlowTable.get_withCapacity maxFlows
  have hids : (new maxFlows maxAssociations).activeIds = [] := by
    apply List.eq_nil_iff_forall_not_mem.mpr
    intro id hm
    have hs := (FlowTable.mem_activeIds _ id).mp hm
    rw [show (new maxFlows maxAssociations).flows.get id = none from hget id] at hs
    cases hs
  refine ⟨rfl, rfl, FlowTable.wf_withCapacity maxFlows, FlowTable.filled_withCapacity maxFlows, rfl, ?_,
    List.nodup_nil, ?_, ?_, List.nodup_nil, Nat.zero_le _, ?_⟩
  · intro key id
    constructor
    · intro hf
      cases hf
    · rintro ⟨f, hf, -⟩
      rw [hget] at hf
      cases hf
  · rw [hids]
    rfl
  · intro key
    have hcount : (new maxFlows maxAssociations).flowCount key = 0 := by
      unfold flowCount FlowTable.count
      rw [show (new maxFlows maxAssociations).flows.activeIds = [] from hids]
      rfl
    rw [hcount]
    rfl
  · intro id f hf
    rw [hget] at hf
    cases hf

theorem flow_key (h : Consistent maxFlows maxAssociations e) {id other : FlowId} {f g : Flow}
    (hf : e.flow id = some f) (hg : e.flow other = some g) (hkey : f.key = g.key) : id = other := by
  have h1 := (h.byKey_iff f.key id).mpr ⟨f, hf, rfl⟩
  have h2 := (h.byKey_iff f.key other).mpr ⟨g, hg, hkey.symm⟩
  rw [h1] at h2
  cases h2
  rfl

theorem modify (h : Consistent maxFlows maxAssociations e) (id : FlowId) {g : Flow → Flow}
    (hkey : ∀ f, (g f).key = f.key) (hreply : ∀ f, (g f).replySource = f.replySource) :
    Consistent maxFlows maxAssociations { e with flows := e.flows.modify id g } := by
  have hget : ∀ other, (e.flows.modify id g).get other =
      if other = id then (e.flows.get id).map g else e.flows.get other := fun other =>
    FlowTable.get_modify e.flows id other g
  have hback : ∀ other f, (e.flows.modify id g).get other = some f →
      ∃ old, e.flow other = some old ∧ f.key = old.key ∧ f.replySource = old.replySource := by
    intro other f hf
    rw [hget] at hf
    split at hf
    · rename_i he
      subst he
      obtain ⟨old, hold, rfl⟩ := Option.map_eq_some_iff.mp hf
      exact ⟨old, hold, hkey old, hreply old⟩
    · exact ⟨f, hf, rfl, rfl⟩
  have hforth : ∀ other old, e.flow other = some old →
      ∃ f, (e.flows.modify id g).get other = some f ∧ f.key = old.key := by
    intro other old hold
    rw [hget]
    split
    · rename_i he
      subst he
      rw [show e.flows.get other = some old from hold]
      exact ⟨g old, rfl, hkey old⟩
    · exact ⟨old, hold, rfl⟩
  have hcount : ∀ q : FlowKey → Bool,
      (e.flows.modify id g).count (fun f => q f.key) = e.flows.count fun f => q f.key := by
    intro q
    apply FlowTable.count_congr
    intro other
    rw [hget]
    split
    · rename_i he
      subst he
      cases e.flows.get other with
      | none => rfl
      | some f => simp [hkey]
    · rfl
  refine ⟨h.flows_limit, h.associations_limit, h.wf.modify id g, h.filled.modify id g, h.settled, ?_,
    h.byKey_distinct, ?_, ?_, h.associations_distinct, h.associations_le, ?_⟩
  · intro key other
    rw [h.byKey_iff key other]
    constructor
    · rintro ⟨old, hold, rfl⟩
      exact hforth other old hold
    · rintro ⟨f, hf, rfl⟩
      obtain ⟨old, hold, hk, -⟩ := hback other f hf
      exact ⟨old, hold, hk.symm⟩
  · have hsame := hcount fun _ => true
    rw [FlowTable.count_true, FlowTable.count_true] at hsame
    rw [h.byKey_size]
    exact hsame.symm
  · intro key
    have hsame : flowCount { e with flows := e.flows.modify id g } key = e.flowCount key :=
      hcount fun k => k.association = key
    rw [hsame]
    exact h.counted key
  · intro other f hf
    obtain ⟨old, hold, hk, hr⟩ := hback other f hf
    rw [hk, hr]
    exact h.oneFamily other old hold

theorem rollback {associations : KeyedMap AssociationKey ℕ} {key : AssociationKey} {created : Bool}
    (hcreated : created = !associations.contains key) :
    (if created then (if created then associations.insert key 0 else associations).erase key
      else if created then associations.insert key 0 else associations) = associations := by
  cases created with
  | false => rfl
  | true =>
    have habsent : associations.find? key = none := by
      unfold KeyedMap.contains at hcreated
      cases hf : associations.find? key with
      | none => rfl
      | some n =>
        rw [hf] at hcreated
        cases hcreated
    simp only [if_true]
    rw [KeyedMap.erase_insert, KeyedMap.erase_of_absent habsent]

theorem acceptRouted_cases (h : Consistent maxFlows maxAssociations e) (key : FlowKey)
    (replySource : SocketAddr) (now : Millis) :
    (∃ error, e.acceptRouted key replySource now = (e, .error error)) ∨
      (∃ id, e.byKey.find? key = some id ∧
        e.acceptRouted key replySource now = (e.recordOutbound id now, .ok ⟨id, false, false⟩)) ∨
      ∃ flows id f associations created,
        e.acceptRouted key replySource now =
          ({ e with flows := flows, byKey := e.byKey.insert key id, associations := associations },
            .ok ⟨id, true, created⟩) ∧
        e.byKey.find? key = none ∧ f.key = key ∧ key.source.isIpv4 = key.target.isIpv4 ∧
        f.replySource = replySource ∧ flows.Wf ∧ FlowTable.Filled maxFlows flows ∧ flows.deferred = [] ∧
        e.flows.get id = none ∧
        (∀ other, flows.get other = if other = id then some f else e.flows.get other) ∧
        associations.Distinct ∧ associations.size ≤ maxAssociations ∧
        ∀ other, associations.find? other =
          if other = key.association then some ((e.associations.find? key.association).getD 0 + 1)
          else e.associations.find? other := by
  unfold acceptRouted
  split
  · exact .inl ⟨_, rfl⟩
  rename_i hfamily
  split
  · rename_i id hkey
    split
    · exact .inl ⟨_, rfl⟩
    · exact .inr (.inl ⟨id, hkey, rfl⟩)
  rename_i hkey
  split
  · exact .inl ⟨_, rfl⟩
  dsimp only
  split
  · exact .inl ⟨_, rfl⟩
  rename_i hroom
  generalize hf : (⟨key, replySource, now, 1, 0, not_not.mp (not_or.mp hfamily).2⟩ : Flow) = f
  generalize hcreated : (!e.associations.contains key.association) = created at hroom ⊢
  have hfilled := h.filled.insert h.wf f
  rcases h.wf.insert_cases f with hfull | ⟨flows, id, hinsert, hw, hdeferred, hfresh, hget, -⟩
  · rw [hfull]
    dsimp only
    rw [rollback hcreated.symm]
    exact .inl ⟨_, rfl⟩
  · rw [hinsert] at hfilled ⊢
    refine .inr (.inr ⟨flows, id, f, _, _, rfl, hkey, ?_, not_not.mp (not_or.mp hfamily).1, ?_, hw, hfilled,
      hdeferred.trans h.settled, ?_, hget, ?_⟩)
    · rw [← hf]
    · rw [← hf]
    · cases hold : e.flows.get id with
      | none => rfl
      | some old => exact absurd (FlowTable.used_of_get hold) hfresh
    -- the association is there, or it is made with no flow yet
    cases created with
    | false =>
      refine ⟨h.associations_distinct.modify _ _, ?_, fun other => ?_⟩
      · simpa using h.associations_le
      · simp only [Bool.false_eq_true, if_false]
        rw [KeyedMap.find?_modify]
        unfold KeyedMap.contains at hcreated
        cases hfind : e.associations.find? key.association with
        | none =>
          rw [hfind] at hcreated
          cases hcreated
        | some n => rfl
    | true =>
      have habsent : e.associations.find? key.association = none := by
        unfold KeyedMap.contains at hcreated
        cases hfind : e.associations.find? key.association with
        | none => rfl
        | some n =>
          rw [hfind] at hcreated
          cases hcreated
      have hlt : e.associations.size < maxAssociations := by
        rw [← h.associations_limit]
        simpa using hroom
      refine ⟨(h.associations_distinct.insert _ _).modify _ _, ?_, fun other => ?_⟩
      · simp only [if_true, KeyedMap.size_modify]
        rw [KeyedMap.size_insert_of_absent habsent]
        exact hlt
      · simp only [if_true]
        rw [KeyedMap.find?_modify, KeyedMap.find?_insert, KeyedMap.find?_insert, if_pos rfl, habsent]
        by_cases ho : other = key.association <;> simp [ho]

theorem recordOutbound (h : Consistent maxFlows maxAssociations e) (id : FlowId) (now : Millis) :
    Consistent maxFlows maxAssociations (e.recordOutbound id now) :=
  h.modify id (fun _ => rfl) fun _ => rfl

theorem recordInbound (h : Consistent maxFlows maxAssociations e) (id : FlowId) (now : Millis) :
    Consistent maxFlows maxAssociations (e.recordInbound id now) :=
  h.modify id (fun _ => rfl) fun _ => rfl

theorem getD_find? (h : Consistent maxFlows maxAssociations e) (key : AssociationKey) :
    (e.associations.find? key).getD 0 = e.flowCount key := by
  rw [h.counted key]
  split
  · rename_i hzero
    rw [hzero]
    rfl
  · rfl

theorem acceptRouted (h : Consistent maxFlows maxAssociations e) (key : FlowKey)
    (replySource : SocketAddr) (now : Millis) :
    Consistent maxFlows maxAssociations (e.acceptRouted key replySource now).1 := by
  rcases h.acceptRouted_cases key replySource now with ⟨error, haccept⟩ | ⟨id, -, haccept⟩ |
    ⟨flows, id, f, associations, created, haccept, hkey, hfkey, hfamily, hreply, hw, hfilled, hdeferred,
      hnone, hget, hdistinct, hle, hfind⟩
  · rw [haccept]
    exact h
  · rw [haccept]
    exact h.recordOutbound id now
  rw [haccept]
  have hcount : ∀ q : Flow → Bool, flows.count q = e.flows.count q + (q f).toNat := fun q =>
    FlowTable.count_added hnone hget
  refine ⟨h.flows_limit, h.associations_limit, hw, hfilled, hdeferred, ?_, h.byKey_distinct.insert key id,
    ?_, ?_, hdistinct, hle, ?_⟩
  · intro other target
    change (e.byKey.insert key id).find? other = some target ↔ ∃ g, flows.get target = some g ∧ g.key = other
    rw [KeyedMap.find?_insert, hget]
    by_cases ho : other = key
    · rw [if_pos ho]
      subst ho
      constructor
      · rintro ⟨⟩
        exact ⟨f, by rw [if_pos rfl], hfkey⟩
      · rintro ⟨g, hg, hgkey⟩
        split at hg
        · rename_i ht
          rw [ht]
        · have hold := (h.byKey_iff other target).mpr ⟨g, hg, hgkey⟩
          rw [hkey] at hold
          cases hold
    · rw [if_neg ho, h.byKey_iff other target]
      by_cases ht : target = id
      · subst ht
        rw [if_pos rfl, show e.flow target = none from hnone]
        constructor
        · rintro ⟨g, hg, -⟩
          cases hg
        · rintro ⟨g, hg, hgkey⟩
          cases hg
          exact absurd (hgkey.symm.trans hfkey) ho
      · rw [if_neg ht]
        exact Iff.rfl
  · have hlength := hcount fun _ => true
    rw [FlowTable.count_true, FlowTable.count_true] at hlength
    change (e.byKey.insert key id).size = flows.activeIds.length
    rw [KeyedMap.size_insert_of_absent hkey, h.byKey_size, hlength]
    rfl
  · intro other
    have hother : flows.count (fun g => decide (g.key.association = other)) =
        e.flowCount other + (decide (f.key.association = other)).toNat := hcount _
    change associations.find? other = if flows.count _ = 0 then none else some (flows.count _)
    rw [hfind, hother, hfkey, h.getD_find?]
    by_cases ho : other = key.association
    · subst ho
      simp
    · have hne : ¬ key.association = other := fun he => ho he.symm
      simp [ho, hne, h.counted other]
  · intro other g hg
    change flows.get other = some g at hg
    rw [hget] at hg
    split at hg
    · cases hg
      rw [hfkey]
      refine ⟨hfamily, ?_⟩
      have hsame := f.sameFamily
      rw [hfkey] at hsame
      exact hsame
    · exact h.oneFamily other g hg

theorem get_remove (h : Consistent maxFlows maxAssociations e) (id other : FlowId) :
    (e.remove id).1.flow other = if other = id then none else e.flow other := by
  unfold remove
  split
  · rename_i hnone
    split
    · rename_i he
      rw [he]
      exact hnone
    · rfl
  · exact FlowTable.get_removed h.settled id other

theorem remove (h : Consistent maxFlows maxAssociations e) (id : FlowId) :
    Consistent maxFlows maxAssociations (e.remove id).1 := by
  have hget := h.get_remove id
  unfold Engine.remove at hget ⊢
  split
  · exact h
  rename_i f hf
  rw [hf] at hget
  dsimp only at hget ⊢
  generalize hflows : (e.flows.deferRemove id).flushDeferred.1 = flows at hget ⊢
  change ∀ other, flows.get other = if other = id then none else e.flows.get other at hget
  have hcount : ∀ q : Flow → Bool, e.flows.count q = flows.count q + (q f).toNat := by
    intro q
    refine @FlowTable.count_added _ _ _ _ id f (by rw [hget, if_pos rfl]) fun other => ?_
    rw [hget]
    by_cases he : other = id
    · rw [if_pos he, he, hf]
    · rw [if_neg he, if_neg he]
  have hfound : e.byKey.find? f.key = some id := (h.byKey_iff f.key id).mpr ⟨f, hf, rfl⟩
  have hassociation := h.counted f.key.association
  have hsource : e.flowCount f.key.association =
      flows.count (fun g => decide (g.key.association = f.key.association)) + 1 := by
    have hone := hcount fun g => decide (g.key.association = f.key.association)
    simpa [flowCount] using hone
  rw [if_neg (by omega), hsource] at hassociation
  have hmodified : (e.associations.modify f.key.association (· - 1)).find? f.key.association =
      some (flows.count fun g => decide (g.key.association = f.key.association)) := by
    rw [KeyedMap.find?_modify, if_pos rfl, hassociation]
    simp
  refine ⟨h.flows_limit, h.associations_limit, ?_, ?_, ?_, ?_, h.byKey_distinct.erase _, ?_, ?_, ?_, ?_, ?_⟩
  · rw [← hflows]
    exact (h.wf.deferRemove id).flushDeferred
  · rw [← hflows]
    exact (h.filled.deferRemove id).flushDeferred
  · rw [← hflows]
    exact FlowTable.flushDeferred_deferred _
  · intro key other
    change (e.byKey.erase f.key).find? key = some other ↔ ∃ g, flows.get other = some g ∧ g.key = key
    rw [KeyedMap.find?_erase, hget]
    by_cases hk : key = f.key
    · rw [if_pos hk]
      constructor
      · intro hn
        cases hn
      · rintro ⟨g, hg, hgkey⟩
        split at hg
        · cases hg
        · rename_i hne
          exact absurd (h.flow_key hg hf (hgkey.trans hk)) hne
    · rw [if_neg hk, h.byKey_iff key other]
      by_cases he : other = id
      · rw [if_pos he, he]
        constructor
        · rintro ⟨g, hg, hgkey⟩
          have hgf : g = f := by
            rw [show e.flow id = some f from hf] at hg
            cases hg
            rfl
          exact absurd (hgkey.symm.trans (congrArg Flow.key hgf)) hk
        · rintro ⟨g, hg, -⟩
          cases hg
      · rw [if_neg he]
        exact Iff.rfl
  · have hlength := hcount fun _ => true
    rw [FlowTable.count_true, FlowTable.count_true] at hlength
    change (e.byKey.erase f.key).size = flows.activeIds.length
    have hsize := h.byKey_distinct.size_erase hfound
    have hactive : e.byKey.size = e.flows.activeIds.length := h.byKey_size
    simp only [Bool.toNat_true] at hlength
    omega
  · intro key
    change _ = if flows.count (fun g => decide (g.key.association = key)) = 0 then none
      else some (flows.count fun g => decide (g.key.association = key))
    by_cases hk : key = f.key.association
    · subst hk
      rw [hmodified]
      split
      · rename_i hzero
        rw [KeyedMap.find?_erase_self, if_pos (Option.some.inj hzero)]
      · rename_i hzero
        rw [hmodified, if_neg]
        intro hz
        exact hzero (by rw [hz])
    · have hother : e.flowCount key = flows.count fun g => decide (g.key.association = key) := by
        have hone := hcount fun g => decide (g.key.association = key)
        have hne : ¬ f.key.association = key := fun he => hk he.symm
        simpa [flowCount, hne] using hone
      have hkeep : (e.associations.modify f.key.association (· - 1)).find? key = e.associations.find? key := by
        rw [KeyedMap.find?_modify, if_neg hk]
      rw [← hother, ← h.counted key]
      split
      · rw [KeyedMap.find?_erase_of_ne _ _ _ hk, hkeep]
      · exact hkeep
  · dsimp only
    split
    · exact (h.associations_distinct.modify _ _).erase _
    · exact h.associations_distinct.modify _ _
  · have hle := h.associations_le
    dsimp only
    split
    · refine Nat.le_trans (KeyedMap.size_erase_le _ _) ?_
      rw [KeyedMap.size_modify]
      exact hle
    · rw [KeyedMap.size_modify]
      exact hle
  · intro other g hg
    change flows.get other = some g at hg
    rw [hget] at hg
    split at hg
    · cases hg
    · exact h.oneFamily other g hg

theorem removeAll (h : Consistent maxFlows maxAssociations e) (ids : List FlowId) :
    Consistent maxFlows maxAssociations (ids.foldl (fun e id => (e.remove id).1) e) ∧
      ∀ other, (ids.foldl (fun e id => (e.remove id).1) e).flow other =
        if other ∈ ids then none else e.flow other := by
  induction ids generalizing e with
  | nil => exact ⟨h, fun other => by simp⟩
  | cons id ids ih =>
    obtain ⟨hrest, hflow⟩ := ih (h.remove id)
    refine ⟨hrest, fun other => ?_⟩
    rw [List.foldl_cons, hflow, h.get_remove]
    by_cases he : other = id <;> simp [he]

theorem mem_expired (e : Engine) (now : Millis) (id : FlowId) :
    id ∈ (e.expire now).2 ↔ ∃ f, e.flow id = some f ∧ f.expiresAt ≤ now := by
  unfold expire
  rw [List.mem_filter, FlowTable.mem_activeIds]
  change (e.flow id).isSome = true ∧ (e.flow id).any _ = true ↔ _
  cases e.flow id with
  | none => simp
  | some f => simp

theorem apply (h : Consistent maxFlows maxAssociations e) (op : Op) :
    Consistent maxFlows maxAssociations (e.apply op) := by
  cases op with
  | accept key now => exact h.acceptRouted key key.target now
  | acceptRouted key replySource now => exact h.acceptRouted key replySource now
  | recordOutbound id now => exact h.recordOutbound id now
  | recordInbound id now => exact h.recordInbound id now
  | remove id => exact h.remove id
  | expire now => exact (h.removeAll _).1

/-- Every operation keeps the containers in step. -/
theorem play (maxFlows maxAssociations : ℕ) (ops : List Op) :
    Consistent maxFlows maxAssociations (play maxFlows maxAssociations ops) := by
  have hloop : ∀ (ops : List Op) (e : Engine), Consistent maxFlows maxAssociations e →
      Consistent maxFlows maxAssociations (ops.foldl Engine.apply e) := by
    intro ops
    induction ops with
    | nil => exact fun _ h => h
    | cons op ops ih => exact fun e h => ih (e.apply op) (h.apply op)
  exact hloop ops _ (initial maxFlows maxAssociations)

end Consistent

structure Invariant (maxFlows maxAssociations : ℕ) (e : Engine) : Prop where
  byKey_iff : ∀ key id, e.byKey.find? key = some id ↔ ∃ f, e.flow id = some f ∧ f.key = key
  byKey_distinct : e.byKey.Distinct
  active_flows : e.activeFlows = e.activeIds.length
  association_iff : ∀ key, e.hasAssociation key = true ↔ ∃ id f, e.flow id = some f ∧ f.key.association = key
  association_count : ∀ key count, e.associations.find? key = some count → count = e.flowCount key
  associations_distinct : e.associations.Distinct
  flows_le : e.activeIds.length ≤ maxFlows
  associations_le : e.activeAssociations ≤ maxAssociations
  oneFamily : ∀ id f, e.flow id = some f →
    f.key.source.isIpv4 = f.key.target.isIpv4 ∧ f.key.source.isIpv4 = f.replySource.isIpv4
  refused_unchanged : ∀ key replySource now error,
    (e.acceptRouted key replySource now).2 = .error error → (e.acceptRouted key replySource now).1 = e
  expired_iff : ∀ now id, id ∈ (e.expire now).2 ↔ ∃ f, e.flow id = some f ∧ f.expiresAt ≤ now
  expired_nodup : ∀ now, (e.expire now).2.Nodup
  expire_removes : ∀ now id, (e.expire now).1.flow id = if id ∈ (e.expire now).2 then none else e.flow id

theorem flowCount_ne_zero (e : Engine) (key : AssociationKey) :
    e.flowCount key ≠ 0 ↔ ∃ id f, e.flow id = some f ∧ f.key.association = key := by
  constructor
  · intro hne
    obtain ⟨id, -, hany⟩ := List.countP_pos_iff.mp (Nat.pos_of_ne_zero hne)
    cases hf : e.flow id with
    | none =>
      rw [show e.flows.get id = none from hf] at hany
      cases hany
    | some f =>
      rw [show e.flows.get id = some f from hf] at hany
      exact ⟨id, f, hf, by simpa using hany⟩
  · rintro ⟨id, f, hf, hkey⟩
    exact Nat.ne_of_gt (FlowTable.count_pos hf (by simpa using hkey))

section Associations

variable {maxFlows maxAssociations : ℕ} {e : Engine}

theorem Consistent.hasAssociation_iff (h : Consistent maxFlows maxAssociations e) (key : AssociationKey) :
    e.hasAssociation key = true ↔ ∃ id f, e.flow id = some f ∧ f.key.association = key := by
  rw [← flowCount_ne_zero e key]
  unfold hasAssociation KeyedMap.contains
  rw [h.counted key]
  split <;> simp_all

end Associations

theorem Consistent.invariant {maxFlows maxAssociations : ℕ} {e : Engine}
    (h : Consistent maxFlows maxAssociations e) : Invariant maxFlows maxAssociations e where
  byKey_iff := h.byKey_iff
  byKey_distinct := h.byKey_distinct
  active_flows := h.byKey_size
  association_iff key := h.hasAssociation_iff key
  association_count key count hc := by
    rw [h.counted key] at hc
    split at hc
    · cases hc
    · exact (Option.some.inj hc).symm
  associations_distinct := h.associations_distinct
  flows_le := by
    have hle := FlowTable.activeFrom_length_le e.flows.slots 0
    rw [h.filled.length] at hle
    exact hle
  associations_le := h.associations_le
  oneFamily := h.oneFamily
  refused_unchanged key replySource now error herror := by
    rcases h.acceptRouted_cases key replySource now with ⟨_, haccept⟩ | ⟨_, _, haccept⟩ |
      ⟨_, _, _, _, _, haccept, -⟩
    · rw [haccept]
    · rw [haccept] at herror
      cases herror
    · rw [haccept] at herror
      cases herror
  expired_iff := Consistent.mem_expired e
  expired_nodup now := (FlowTable.nodup_activeIds e.flows).filter _
  expire_removes now := (h.removeAll (e.expire now).2).2

end Engine

end Udp

end Yayatht
