import Mathlib.Data.List.Sort
import Yayatht.CyclicScan
import Yayatht.DatagramSteps
import Yayatht.RelaySide

set_option autoImplicit false

namespace Yayatht
open EffectLogic CyclicScan

theorem FlowTable.pairwise_activeFrom {α : Type} (slots : List (Slot α)) (start : ℕ) :
    (activeFrom start slots).Pairwise fun i j => i.slot < j.slot := by
  induction slots generalizing start with
  | nil => exact List.Pairwise.nil
  | cons slot slots ih =>
    unfold activeFrom
    cases slot.value with
    | none => exact ih (start + 1)
    | some value =>
      refine List.pairwise_cons.mpr ⟨fun id hid => ?_, ih (start + 1)⟩
      obtain ⟨_, hle, -⟩ := (mem_activeFrom slots (start + 1) id).mp hid
      dsimp only
      omega

theorem takeWhile_below {ids : List FlowId} (h : ids.Pairwise fun i j => i.slot < j.slot) (cursor : ℕ) :
    ids.takeWhile (fun id => id.slot < cursor) = ids.filter (fun id => id.slot < cursor) ∧
      ids = ids.filter (fun id => id.slot < cursor) ++ ids.filter fun id => cursor ≤ id.slot := by
  induction ids with
  | nil => exact ⟨rfl, rfl⟩
  | cons id ids ih =>
    obtain ⟨hid, hids⟩ := List.pairwise_cons.mp h
    obtain ⟨hwhile, hsplit⟩ := ih hids
    by_cases hlt : id.slot < cursor
    · have hnot : ¬ cursor ≤ id.slot := by omega
      simp only [hlt, hnot, decide_true, decide_false, List.takeWhile_cons_of_pos, List.filter_cons_of_pos, hwhile,
        Bool.false_eq_true, not_false_eq_true, List.filter_cons_of_neg, List.cons_append]
      exact ⟨trivial, congrArg _ hsplit⟩
    · have hnone : ids.filter (fun id => id.slot < cursor) = [] := by
        rw [List.filter_eq_nil_iff]
        intro other hother
        have := hid other hother
        simp only [decide_eq_true_eq]
        omega
      have hle : cursor ≤ id.slot := by omega
      rw [hnone, List.nil_append] at hsplit
      simp only [hlt, hle, decide_true, decide_false, Bool.false_eq_true, not_false_eq_true,
        List.takeWhile_cons_of_neg, List.filter_cons_of_pos, List.filter_cons_of_neg, hnone, List.nil_append]
      exact ⟨trivial, congrArg _ hsplit⟩

namespace Reactor

variable (cfg : Config)

/-- The scan starts at the first live flow at or after the cursor and goes round once. -/
theorem timerOrder_eq_cycleFrom (s : Reactor) :
    timerOrder s = cycleFrom FlowId.slot s.timerCursorSlot s.flows.activeIds := by
  obtain ⟨hwhile, hsplit⟩ := takeWhile_below (FlowTable.pairwise_activeFrom s.flows.slots 0) s.timerCursorSlot
  unfold timerOrder cycleFrom FlowTable.activeIds
  dsimp only
  rw [hwhile]
  generalize FlowTable.activeFrom 0 s.flows.slots = ids at hsplit
  generalize ids.filter (fun id => id.slot < s.timerCursorSlot) = low at hsplit
  generalize ids.filter (fun id => s.timerCursorSlot ≤ id.slot) = high at hsplit
  subst hsplit
  cases high with
  | nil =>
    rw [List.append_nil, Nat.mod_self]
    simp
  | cons id high =>
    have hlt : low.length < (low ++ id :: high).length := by simp
    rw [Nat.mod_eq_of_lt hlt, List.drop_left, List.take_left]

end Reactor

/-! ## What the rest of the reactor leaves alone -/

def scanned (s : Reactor) := (s.flows.activeIds, timers s)

def SameScan (s t : Reactor) : Prop := scanned t = scanned s

instance : IsPreorder Reactor SameScan where
  refl _ := rfl
  trans _ _ _ h h' := Eq.trans h' h

theorem activeIds_of_constructions {s t : Reactor} (h : constructions t = constructions s) :
    t.flows.activeIds = s.flows.activeIds := by
  have : Std.Antisymm fun i j : FlowId => i.slot < j.slot := ⟨fun _ _ h h' => absurd h' (Nat.lt_asymm h)⟩
  have : Std.Irrefl fun i j : FlowId => i.slot < j.slot := ⟨fun _ => Nat.lt_irrefl _⟩
  refine List.Pairwise.eq_of_mem_iff (FlowTable.pairwise_activeFrom _ 0) (FlowTable.pairwise_activeFrom _ 0) ?_
  intro id
  have hid : (t.flows.get id).map FlowEntry.construction = (s.flows.get id).map _ := congrFun h id
  have hsome := congrArg Option.isSome hid
  rw [Option.isSome_map, Option.isSome_map] at hsome
  change id ∈ t.flows.activeIds ↔ id ∈ s.flows.activeIds
  rw [FlowTable.mem_activeIds, FlowTable.mem_activeIds, hsome]

theorem Apart.timers {α : Type} {m : Io α} (h : Apart m) : Spares timers Error.Other m :=
  h.coarsen fun _ _ h => congrArg (Prod.snd ∘ Prod.snd) h

theorem Apart.sameScan {α : Type} {m : Io α} (h : Apart m) (s : Reactor) :
    Tracks SameScan (fun _ => True) m s := by
  have hview : ∀ t, apartSide t = apartSide s → SameScan s t := fun t ht =>
    Prod.ext (activeIds_of_constructions (congrArg (Prod.fst ∘ Prod.fst) ht)) (congrArg (Prod.snd ∘ Prod.snd) ht)
  exact Ends.mono (h s) (fun _ t ht => hview t ht) fun _ t ht => ⟨hview t ht.1, trivial⟩

namespace Reactor

variable (cfg : Config)

theorem tolerant_sameScan : Tolerant cfg (fun _ _ _ => True) (fun _ => True) SameScan where
  hidden s t hcore _ hcursor := by
    have hflows : t.flows = s.flows := congrArg Core.flows hcore
    have hjournal : t.journal = s.journal := congrArg Core.journal hcore
    unfold SameScan scanned timers serviced
    rw [hflows, hjournal, hcursor]
  engine _ _ _ := rfl
  associations _ _ _ := rfl
  dialed _ _ _ _ := rfl
  replied _ _ _ := rfl
  errors _ _ _ := trivial
  fits _ _ _ _ := trivial
  reply client gateway payload s _ := Apart.sameScan (apart.queueUdpFrame cfg client gateway payload) s
  icmp key payload originalLen error s := Apart.sameScan (apart.queueUdpIcmpFor cfg key payload originalLen error) s

/-! ## A tick is a scan -/

theorem serviced_note (s : Reactor) (id : FlowId) (e : FlowEntry) (now : Millis) :
    serviced { s with journal := .serviced id e now :: s.journal } = serviced s ++ [id] := by
  exact List.reverse_cons (a := id)

theorem serviceFlow_timers (id : FlowId) (now : Millis) (s : Reactor) :
    Ends (serviceFlow cfg id now) s (fun _ t => timers t = (s.timerCursorSlot, serviced s ++ [id]))
      fun _ t => timers t = timers s ∨ timers t = (s.timerCursorSlot, serviced s ++ [id]) := by
  have hafter : ∀ (e : FlowEntry) {m : Io Unit}, Apart m →
      Ends m { s with journal := .serviced id e now :: s.journal }
        (fun _ t => timers t = (s.timerCursorSlot, serviced s ++ [id]))
        fun _ t => timers t = timers s ∨ timers t = (s.timerCursorSlot, serviced s ++ [id]) := by
    intro e m hm
    have hnoted : timers { s with journal := .serviced id e now :: s.journal } =
        (s.timerCursorSlot, serviced s ++ [id]) := Prod.ext rfl (serviced_note s id e now)
    exact Ends.mono (hm.timers _) (fun _ _ ht => ht.trans hnoted) fun _ _ ht => .inr (ht.1.trans hnoted)
  unfold serviceFlow flowEntry
  refine Ends.bind (R := fun _ t => t = s) (Ends.get_bind ?_) ?_
  · cases s.flows.get id with
    | none => exact Ends.throw (.inl rfl)
    | some e => exact Ends.pure rfl
  rintro e _ rfl
  refine Ends.modify_bind (hafter e ?_)
  split
  · split
    · exact apart.failTcpFlow cfg id
    · exact (apart.retransmitOldest cfg id true).bind fun _ => apart.serviceProbe cfg id now
  · exact apart.serviceProbe cfg id now

theorem serviceFlows_timers (now : Millis) (ids : List FlowId) (s : Reactor) :
    Ends (serviceFlows cfg now ids) s
      (fun _ t => ∃ ids' rest, ids = ids' ++ rest ∧ serviced t = serviced s ++ ids' ∧
        t.timerCursorSlot = (rest.head?.map FlowId.slot).getD s.timerCursorSlot)
      fun _ t => ∃ ids' rest, ids = ids' ++ rest ∧ serviced t = serviced s ++ ids' := by
  induction ids generalizing s with
  | nil => exact Ends.pure ⟨[], [], rfl, (List.append_nil _).symm, rfl⟩
  | cons id ids ih =>
    unfold serviceFlows
    refine Ends.bind (m := framesAvailable) (R := fun _ t => s = t) (by rfl) ?_
    rintro available _ rfl
    split
    · exact Ends.modify_bind (Ends.modify ⟨[], id :: ids, rfl, (List.append_nil _).symm, rfl⟩)
    refine Ends.bind (Ends.mono (serviceFlow_timers cfg id now s) (fun _ _ ht => ht) fun _ t ht => ?_) ?_
    · rcases ht with ht | ht
      · exact ⟨[], id :: ids, rfl, (congrArg Prod.snd ht).trans (List.append_nil _).symm⟩
      · exact ⟨[id], ids, rfl, congrArg Prod.snd ht⟩
    intro _ t ht
    have hserviced : serviced t = serviced s ++ [id] := congrArg Prod.snd ht
    have hcursor : t.timerCursorSlot = s.timerCursorSlot := congrArg Prod.fst ht
    refine Ends.mono (ih t) ?_ ?_
    · rintro _ u ⟨ids', rest, rfl, hu, hc⟩
      exact ⟨id :: ids', rest, rfl, by rw [hu, hserviced, List.append_assoc]; rfl, by rw [hc, hcursor]⟩
    · rintro _ u ⟨ids', rest, rfl, hu⟩
      exact ⟨id :: ids', rest, rfl, by rw [hu, hserviced, List.append_assoc]; rfl⟩

/-- A tick services the first of the live flows in the order from the cursor; one that ends well is a scan. -/
theorem handleTimers_scan (s : Reactor) :
    Ends (handleTimers cfg) s
      (fun _ t => ∃ ids, serviced t = serviced s ++ ids ∧
        Scan FlowId.slot s.timerCursorSlot s.flows.activeIds ids t.timerCursorSlot)
      fun _ t => ∃ ids, serviced t = serviced s ++ ids ∧
        ids <+: cycleFrom FlowId.slot s.timerCursorSlot s.flows.activeIds := by
  have hscan : Tracks SameScan (fun _ => True) (do
      Call.timer
      let now ← Call.now
      handleDnsTimers cfg now
      handleUdpTimers cfg now
      pure now) s := by
    refine Tracks.bind (Apart.sameScan (apart.asked _ _) s) fun _ t _ => ?_
    refine Tracks.bind (Apart.sameScan (apart.ask _ _) t) fun now t _ => ?_
    refine Tracks.bind ((tolerant_sameScan cfg).handleDnsTimers now t) fun _ t _ => ?_
    exact Tracks.bind ((tolerant_sameScan cfg).handleUdpTimers now t) fun _ t _ => Tracks.pure now
  have hsplit : handleTimers cfg = (do
      Call.timer
      let now ← Call.now
      handleDnsTimers cfg now
      handleUdpTimers cfg now
      pure now) >>= fun now => handleFlowTimers cfg now := by
    simp only [handleTimers, bind_assoc, pure_bind]
  rw [hsplit]
  have hsame : ∀ t, SameScan s t → serviced t = serviced s ∧
      timerOrder t = cycleFrom FlowId.slot s.timerCursorSlot s.flows.activeIds ∧
        t.timerCursorSlot = s.timerCursorSlot := by
    intro t ht
    have hids : t.flows.activeIds = s.flows.activeIds := congrArg Prod.fst ht
    have hcursor : t.timerCursorSlot = s.timerCursorSlot := congrArg (Prod.fst ∘ Prod.snd) ht
    refine ⟨congrArg (Prod.snd ∘ Prod.snd) ht, ?_, hcursor⟩
    rw [timerOrder_eq_cycleFrom, hids, hcursor]
  refine Ends.bind (Ends.mono hscan (fun _ _ ht => ht) fun _ t ht => ?_) fun now t ht => Ends.get_bind ?_
  · exact ⟨[], (hsame t ht.1).1.trans (List.append_nil _).symm, List.nil_prefix⟩
  obtain ⟨hserviced, horder, hcursor⟩ := hsame t ht
  refine Ends.mono (serviceFlows_timers cfg now _ t) ?_ ?_
  · rintro _ u ⟨ids, rest, hids, hu, hc⟩
    rw [horder] at hids
    rw [hserviced] at hu
    rw [hcursor] at hc
    exact ⟨ids, hu, FlowTable.pairwise_activeFrom _ 0, rest, hids, hc⟩
  · rintro _ u ⟨ids, rest, hids, hu⟩
    rw [horder] at hids
    rw [hserviced] at hu
    exact ⟨ids, hu, rest, hids.symm⟩

/-! ## Runs -/

theorem Tracks.timers {α : Type} {m : Io α} (h : ∀ s, Tracks SameScan (fun _ => True) m s) :
    Spares Yayatht.timers (fun _ => True) m := fun s =>
  Ends.mono (h s) (fun _ _ ht => congrArg Prod.snd ht) fun _ _ ht => ⟨congrArg Prod.snd ht.1, trivial⟩

theorem timers_of_apart {α : Type} {m : Io α} (h : Apart m) : Spares Yayatht.timers (fun _ => True) m :=
  h.timers.weaken fun _ _ => trivial

theorem timers_handleFrame (frame : TapFrame) : Spares timers (fun _ => True) (handleFrame cfg frame) := by
  have htcp : ∀ key segment, Spares timers (fun _ => True) (handleTcp cfg key segment) := fun key segment =>
    ((abroad_handleTcp cfg key segment).coarsen fun _ _ h => congrArg Prod.snd h).weaken fun _ _ => trivial
  have hudp : ∀ endpoints payload, Spares timers (fun _ => True) (handleUdp cfg endpoints payload) :=
    fun endpoints payload => Tracks.timers ((tolerant_sameScan cfg).handleUdp endpoints payload)
  cases frame with
  | malformed error => exact Spares.throw trivial
  | ignored => exact Spares.pure _
  | arpRequest target => exact timers_of_apart (apart.handleArp cfg target)
  | neighborSolicitation target source => exact timers_of_apart (apart.handleNeighborSolicitation cfg target source)
  | tcpV4 source destination segment => exact htcp _ segment
  | tcpV6 source destination segment => exact htcp _ segment
  | udpV4 source destination sourcePort destinationPort payload => exact hudp _ payload
  | udpV6 source destination sourcePort destinationPort payload => exact hudp _ payload

theorem timers_absorb {m : Io Unit} (h : Spares timers (fun _ => True) m) :
    Spares timers (fun _ => True) (absorb m) := by
  refine Spares.tryCatch h fun error _ => ?_
  cases error with
  | panic text => exact Spares.throw trivial
  | io x => exact Spares.modify fun _ => rfl
  | packet x => exact Spares.modify fun _ => rfl
  | invariant text => exact Spares.modify fun _ => rfl

theorem timers_readTap (budget : ℕ) : Spares timers (fun _ => True) (readTap cfg budget) := by
  induction budget with
  | zero => exact Spares.pure _
  | succ budget ih =>
    refine (timers_of_apart Conduct.framesAvailable).bind fun available => ?_
    split
    · refine (timers_of_apart apart.noteFramePoolExhaustion).bind fun _ => ?_
      exact timers_of_apart apart.updateTapInterest
    refine (timers_of_apart (apart.ask _ _)).bind fun answer => ?_
    split
    · exact Spares.throw trivial
    · refine Spares.bind (Spares.modify fun _ => rfl) fun _ => ?_
      exact (timers_absorb (timers_handleFrame cfg _)).bind fun _ => ih
    · exact Spares.pure _
    · exact Spares.throw trivial

theorem timers_endOfBatch : Spares timers (fun _ => True) (endOfBatch cfg) := by
  have hP := tolerant_sameScan cfg
  refine Spares.bind (Tracks.timers hP.activateSocksAssociations) fun _ => ?_
  refine (timers_of_apart (apart.applyPendingPressure cfg)).bind fun _ => ?_
  refine Spares.bind (Spares.modify fun _ => rfl) fun _ => Spares.get.bind fun s => ?_
  split
  · refine (timers_of_apart (apart.closeFlows cfg _)).bind fun _ => Spares.get.bind fun s => ?_
    refine Spares.bind (Tracks.timers (hP.closeUdpFlows _)) fun _ => Spares.get.bind fun s => ?_
    exact Tracks.timers (hP.removeEach _)
  · exact Spares.pure _

theorem timers_handle (event : Event) (hevent : event ≠ .timer) :
    Spares timers (fun _ => True) (handle cfg event) := by
  have hP := tolerant_sameScan cfg
  cases event with
  | tap events =>
    unfold handle handleTap
    refine Spares.when_bind ((timers_readTap cfg _).bind fun _ => ?_) ?_
    · exact timers_of_apart (apart_flushAckRefresh cfg)
    · split
      · exact timers_of_apart apart.flushTapQueue
      · exact Spares.pure _
  | timer => exact absurd rfl hevent
  | control => exact timers_of_apart apart.handleControl
  | dnsUpstream events => exact Tracks.timers (hP.handleDnsUpstream events)
  | socket id events => exact timers_of_apart (apart.handleSocket cfg (wide_unbuilt id) events)
  | udpSocket id events => exact Tracks.timers (hP.handleUdpSocket id events)
  | socksControl id events => exact Tracks.timers (hP.handleSocksControl id events)
  | socksRelay id events => exact Tracks.timers fun s => hP.handleSocksRelay id events s fun _ _ _ => trivial
  | endOfBatch => exact timers_endOfBatch cfg

/-- Ticks of the timer with other handlers between them, which create and remove flows; beyond that
the flow table may change in any way. The flows in `stays` are live at each tick. A tick that fails
is the last one. -/
inductive Ticks (stays : FlowId → Prop) : Reactor → Reactor → Prop
  | done (s : Reactor) : Ticks stays s s
  | tick {s t u : Reactor} (answers : Kernel) (hstays : ∀ id, stays id → (s.flows.get id).isSome = true)
      (h : outcome cfg s .timer answers = .ok () t) (later : Ticks stays t u) : Ticks stays s u
  | failed {s t : Reactor} (answers : Kernel) (error : Error)
      (hstays : ∀ id, stays id → (s.flows.get id).isSome = true)
      (h : outcome cfg s .timer answers = .error error t) : Ticks stays s t
  | other {s t u : Reactor} (event : Event) (answers : Kernel) (hevent : event ≠ .timer)
      (h : outcome cfg s event answers = .ok () t) (later : Ticks stays t u) : Ticks stays s u
  | churn {s u : Reactor} (flows : FlowTable FlowEntry) (later : Ticks stays { s with flows := flows } u) :
      Ticks stays s u

variable {cfg} {stays : FlowId → Prop} {s t : Reactor}

theorem Ticks.scans (h : Ticks cfg stays s t) :
    ∃ ids, serviced t = serviced s ++ ids ∧ Scans FlowId.slot stays s.timerCursorSlot ids := by
  induction h with
  | done s => exact ⟨[], (List.append_nil _).symm, .done _⟩
  | @tick s t u answers hstays h _ ih =>
    obtain ⟨ids, hserviced, hscan⟩ := Ends.ok (handleTimers_scan cfg { s with kernel := answers }) h
    obtain ⟨later, hlater, hscans⟩ := ih
    refine ⟨ids ++ later, ?_, .scan hscan (fun id hid => (FlowTable.mem_activeIds _ id).mpr (hstays id hid)) hscans⟩
    rw [hlater, hserviced, List.append_assoc]
    rfl
  | @failed s t answers error hstays h =>
    obtain ⟨ids, hserviced, rest, hids⟩ := Ends.error (handleTimers_scan cfg { s with kernel := answers }) h
    have hscan : Scan FlowId.slot s.timerCursorSlot s.flows.activeIds ids _ :=
      ⟨FlowTable.pairwise_activeFrom _ 0, rest, hids.symm, rfl⟩
    refine ⟨ids ++ [], ?_, .scan hscan (fun id hid => (FlowTable.mem_activeIds _ id).mpr (hstays id hid)) (.done _)⟩
    rw [hserviced, List.append_nil]
    rfl
  | @other s t u event answers hevent h _ ih =>
    have hspared := timers_handle cfg event hevent { s with kernel := answers }
    have hsame : timers t = timers { s with kernel := answers } := Ends.ok (Q := fun _ u => timers u = _) hspared h
    have hserviced : serviced t = serviced s := congrArg Prod.snd hsame
    have hcursor : t.timerCursorSlot = s.timerCursorSlot := congrArg Prod.fst hsame
    rwa [hserviced, hcursor] at ih
  | churn flows _ ih => exact ih

/-- Each tick services a run of the live flows in the order of their slots from the cursor on, wrapping
around; and between two services of a flow that stays every other flow that stays is serviced. -/
theorem timer_service_in_turn (cfg : Config) :
    (∀ (s : Reactor) (answers : Kernel), ∃ ids,
      serviced (final (outcome cfg s .timer answers)) = serviced s ++ ids ∧
        ids <+: cycleFrom FlowId.slot s.timerCursorSlot s.flows.activeIds) ∧
    ∀ (stays : FlowId → Prop) (s t : Reactor), Ticks cfg stays s t → ∃ ids, serviced t = serviced s ++ ids ∧
      ∀ x y, stays x → stays y → x ≠ y → ∀ before between after,
        ids = before ++ x :: (between ++ x :: after) → y ∈ between := by
  refine ⟨fun s answers => ?_, fun stays s t h => ?_⟩
  · refine Ends.final (m := handleTimers cfg) (s := { s with kernel := answers })
      (Ends.mono (handleTimers_scan cfg _) ?_ fun _ _ ht => ht)
    rintro _ t ⟨ids, hserviced, hscan⟩
    obtain ⟨rest, hids, -⟩ := hscan.cut
    exact ⟨ids, hserviced, rest, hids.symm⟩
  · obtain ⟨ids, hserviced, hscans⟩ := h.scans
    exact ⟨ids, hserviced, fun x y hx hy hne => hscans.fair hx hy hne⟩

def replayTicks (cfg : Config) (ids : List FlowId) : List (Event × Kernel) → Reactor → Option Reactor
  | [], s => some s
  | (event, answers) :: rest, s =>
    match event, outcome cfg s event answers with
    | .timer, .ok () t => if ids.all fun id => (s.flows.get id).isSome then replayTicks cfg ids rest t else none
    | _, .ok () t => replayTicks cfg ids rest t
    | _, .error _ _ => none

theorem ticks_of_replay {ids : List FlowId} (script : List (Event × Kernel)) {s t : Reactor}
    (h : replayTicks cfg ids script s = some t) : Ticks cfg (· ∈ ids) s t := by
  induction script generalizing s with
  | nil =>
    cases h
    exact .done _
  | cons step script ih =>
    obtain ⟨event, answers⟩ := step
    unfold replayTicks at h
    split at h
    · rename_i u hu
      split at h
      · rename_i hlive
        exact .tick answers (fun id hid => List.all_eq_true.mp hlive id hid) hu (ih h)
      · cases h
    · rename_i u hevent hu
      exact .other _ answers (fun he => hevent he) hu (ih h)
    · cases h

def synFrom (port : UInt16) : TapFrame :=
  .tcpV4 0xc0000202#32 0x08080808#32
    { sourcePort := port, destinationPort := 80, sequence := 7, acknowledgment := 0, flags := { syn := true },
      window := 1000 }

/-- Two connections are opened while the TAP blocks on the second; the first tick then takes the last
frame for the first connection. -/
def exhaustedScript : List (Event × Kernel) :=
  [(.tap readable, Kernel.quiet.reads (synFrom 40000)),
    (.tap readable, { Kernel.quiet.reads (synFrom 40001) with tapWrite := Stream'.const (.error .wouldBlock) }),
    (.timer, { Kernel.quiet with clock := Stream'.const 100000 }),
    (.tap writable, { Kernel.quiet with clock := Stream'.const 100000 }),
    (.timer, { Kernel.quiet with clock := Stream'.const 100000 })]

theorem timer_service_exhausted :
    ∃ (s t : Reactor) (before between after : List FlowId),
      Ticks (.sample (.direct false)) (· ∈ [⟨0, 1⟩, ⟨1, 1⟩]) s t ∧
        serviced t = serviced s ++ (before ++ ⟨0, 1⟩ :: (between ++ ⟨0, 1⟩ :: after)) ∧ ⟨1, 1⟩ ∈ between := by
  have hrun : (replayTicks (.sample (.direct false)) [⟨0, 1⟩, ⟨1, 1⟩] exhaustedScript
      (Reactor.new (.sample (.direct false)) .quiet {} 0 0)).map serviced =
        some [⟨0, 1⟩, ⟨1, 1⟩, ⟨0, 1⟩] := by decide +kernel
  obtain ⟨t, ht, hserviced⟩ := Option.map_eq_some_iff.mp hrun
  have hticks := ticks_of_replay exhaustedScript ht
  obtain ⟨ids, hids, hturn⟩ := (timer_service_in_turn (.sample (.direct false))).2 _ _ t hticks
  have hstart : ids = [] ++ ⟨0, 1⟩ :: ([⟨1, 1⟩] ++ ⟨0, 1⟩ :: []) := by
    rw [hserviced] at hids
    exact hids.symm
  refine ⟨_, t, [], [⟨1, 1⟩], [], hticks, ?_, ?_⟩
  · rw [hids, hstart]
  · exact hturn ⟨0, 1⟩ ⟨1, 1⟩ (by decide) (by decide) (by decide) _ _ _ hstart

end Reactor

end Yayatht
