import Yayatht.FlowConduct

set_option autoImplicit false

namespace Yayatht
open EffectLogic

/-- How far each TCP flow is constructed. -/
def constructions (s : Reactor) (id : FlowId) : Option FlowConstruction :=
  (s.flows.get id).map FlowEntry.construction

def aside (s : Reactor) := (constructions s, relays s)

/-- The flows the timer ticks serviced, oldest first. -/
def serviced (s : Reactor) : List FlowId := (s.journal.filterMap Notice.serviced?).reverse

/-- Where the timer scan stands and whom it serviced. -/
def timers (s : Reactor) : ℕ × List FlowId := (s.timerCursorSlot, serviced s)

def apartSide (s : Reactor) := (aside s, resolver s, timers s)

/-- `m` keeps to the TCP flows and the TAP, and is not the timer scan. -/
abbrev Apart {α : Type} (m : Io α) : Prop := Spares apartSide Error.Other m

theorem Apart.resolver {α : Type} {m : Io α} (h : Apart m) : Spares resolver Error.Other m :=
  h.coarsen fun _ _ h => congrArg (Prod.fst ∘ Prod.snd) h

/-- What other handlers than those of the datagram flows and the timer leave alone. -/
def abroad (s : Reactor) := (relays s, timers s)

/-- Edits that leave the construction alone. -/
def Unbuilt (_ : FlowId) (e f : FlowEntry) : Prop := f.construction = e.construction

theorem constructions_modify {s : Reactor} {id : FlowId} {e : FlowEntry} {g : FlowEntry → FlowEntry}
    (hget : s.flows.get id = some e) (hg : (g e).construction = e.construction) :
    constructions { s with flows := s.flows.modify id g } = constructions s := by
  funext other
  unfold constructions
  dsimp only
  rw [FlowTable.get_modify]
  split
  · rename_i heq
    rw [heq, hget]
    exact congrArg some hg
  · rfl

theorem constructions_retire (s : Reactor) (id : FlowId) :
    constructions
      { s with flows := (s.flows.modify id fun e => { e with flow := e.flow.close }).deferRemove id } =
      constructions s := by
  funext other
  unfold constructions
  dsimp only
  rw [FlowTable.get_deferRemove, FlowTable.get_modify]
  split
  · rename_i heq
    rw [heq]
    cases s.flows.get id with
    | none => rfl
    | some e => rfl
  · rfl

theorem apart : Conduct Unbuilt Error.Other (EffectLogic.Alike apartSide) where
  hidden s t h := by
    simp only [footing, Prod.mk.injEq] at h
    obtain ⟨hflows, -, hrelays, hresolver, hcursor, hjournal⟩ := h
    have hconstructions : constructions t = constructions s := by
      unfold constructions
      rw [hflows]
    simp only [EffectLogic.Alike, apartSide, aside, timers, serviced, hconstructions, hrelays, hresolver, hcursor, hjournal]
  noted s notice hn := by
    have hserviced : serviced { s with journal := notice :: s.journal } = serviced s := by
      unfold serviced
      rw [List.filterMap_cons_none hn]
    exact congrArg (fun ids => (aside s, Yayatht.resolver s, s.timerCursorSlot, ids)) hserviced
  edited s id e g hget hg :=
    congrArg (fun built => ((built, relays s), Yayatht.resolver s, timers s)) (constructions_modify hget hg)
  retired s id := congrArg (fun built => ((built, relays s), Yayatht.resolver s, timers s)) (constructions_retire s id)
  listed _ _ := rfl
  errors _ h := h
  slight _ _ _ h := congrArg Prod.fst h.1

theorem away : Conduct (fun _ _ _ => True) Error.Other (EffectLogic.Alike abroad) where
  hidden s t h := by
    have hside := apart.hidden s t h
    exact Prod.ext (congrArg (Prod.snd ∘ Prod.fst) hside) (congrArg (Prod.snd ∘ Prod.snd) hside)
  noted s notice hn := congrArg (Prod.mk (relays s)) (congrArg (Prod.snd ∘ Prod.snd) (apart.noted s notice hn))
  edited _ _ _ _ _ _ := rfl
  retired _ _ := rfl
  listed _ _ := rfl
  errors _ h := h
  slight _ _ _ _ := trivial

theorem wide_unbuilt (id : FlowId) : Wide Unbuilt id := fun _ _ h => h.1

namespace Reactor

variable (cfg : Config)

theorem apart_flushAckRefreshes (count : ℕ) : Apart (flushAckRefreshes cfg count) := by
  induction count with
  | zero => exact Spares.pure _
  | succ count ih =>
    refine Spares.get_bind fun s => ?_
    cases s.ackRefreshQueue.getLast? with
    | none => exact (Spares.pure _ : Apart _) s
    | some id =>
      refine Spares.set_bind rfl (Spares.bind (Conduct.flowIsClosed id) fun closed => ?_)
      cases closed with
      | true => exact ih
      | false =>
        refine apart.refreshUnlessSuppressed cfg id ?_
        exact Spares.bind (apart.updateSocketInterest (wide_unbuilt id)) fun _ => ih

theorem apart_flushAckRefresh : Apart (flushAckRefresh cfg) :=
  Spares.get.bind fun _ => apart_flushAckRefreshes cfg _

theorem apart_queueDnsReply (endpoints : Dns.Endpoints) (payload : Bytes) :
    Apart (queueDnsReply cfg endpoints payload) := by
  refine (apart.queueUdpFrame cfg _ _ _).bind fun queued => ?_
  cases queued with
  | true => exact Spares.pure _
  | false => exact Spares.modify fun _ => rfl

theorem apart_failTransactions (failed : List (Dns.Transaction × Bytes)) : Apart (failTransactions cfg failed) := by
  induction failed with
  | nil => exact Spares.pure _
  | cons transaction rest ih =>
    exact Spares.bind (Spares.modify fun _ => rfl) fun _ => (apart_queueDnsReply cfg _ _).bind fun _ => ih

theorem abroad_registerFlow (key : FlowKey) (e : FlowEntry) : Spares abroad Error.Other (registerFlow key e) := by
  refine Spares.get_bind fun s => ?_
  obtain ⟨flows, inserted⟩ := s.flows.insert e
  cases inserted with
  | error e => exact Spares.set_bind rfl (Spares.pure _)
  | ok id => exact Spares.set_bind rfl (Spares.bind (away.note rfl) fun _ => Spares.pure _)

theorem abroad_startFlow (id : FlowId) : Spares abroad Error.Other (startFlow id) := by
  have hentry : Spares abroad Error.Other (flowEntry id) := (away.flowEntry id)
  have hmodify : ∀ f, Spares abroad Error.Other (modifyEntry id f) := fun f =>
    hentry.bind fun _ => Spares.modify fun _ => rfl
  unfold startFlow
  split
  · refine hentry.bind fun _ => (away.asked _ _).bind fun _ => hentry.bind fun e => ?_
    refine (away.ensure _ (by simp [missingTexts])).bind fun active => (hmodify _).bind fun _ => ?_
    exact Spares.modify fun _ => rfl
  · exact (away.invariant (by simp [missingTexts]))

theorem abroad_connectFlow (key : FlowKey) (segment : TcpSegment) (logicalTarget : SocketAddr) :
    Spares abroad Error.Other (connectFlow cfg key segment logicalTarget) := by
  unfold connectFlow
  obtain ⟨targetInterface, transportPeer⟩ := routeTarget cfg logicalTarget
  refine (away.connect _).bind fun answer => ?_
  cases answer with
  | error e => exact away.refuseSyn cfg _ _
  | ok connected =>
    refine (away.ask _ _).bind fun answer => (away.orThrow answer).bind fun endpoint => ?_
    refine (away.asked _ _).bind fun buffers => (away.asked _ _).bind fun random => ?_
    refine Spares.get.bind fun s => (away.constructFlow _ _).bind fun construction => ?_
    refine (abroad_registerFlow _ _).bind fun registered => ?_
    cases registered with
    | none => exact away.refuseSyn cfg _ _
    | some id =>
      refine (away.note rfl).bind fun _ => (abroad_startFlow id).bind fun _ => ?_
      have hfinish : ∀ connected, Spares abroad Error.Other (if connected = true then (do
          finishTransportConnect cfg id
          updateSocketInterest id) else pure () : Io Unit) := by
        intro connected
        cases connected with
        | false => exact Spares.pure _
        | true =>
          exact (away.finishTransportConnect cfg fun _ _ _ => trivial).bind fun _ =>
            away.updateSocketInterest fun _ _ _ => trivial
      cases connected with
      | true => exact hfinish true
      | false => exact (away.asked _ _).bind hfinish

theorem abroad_handleTcp (key : FlowKey) (segment : TcpSegment) :
    Spares abroad Error.Other (handleTcp cfg key segment) := by
  refine Spares.get.bind fun s => ?_
  cases s.byKey.find? key with
  | some id => exact away.handleExistingTcp cfg (fun _ _ _ => trivial) fun _ => trivial
  | none =>
    dsimp only
    split
    · exact Spares.pure _
    split
    · cases cfg.dnsUpstream with
      | some resolver => exact abroad_connectFlow cfg key segment resolver
      | none =>
        refine (away.buildTcpFrame cfg _ _ _ _ _ _ _).bind fun frame => ?_
        refine away.countReset.bind fun _ => Spares.bind (Spares.modify fun _ => rfl) fun _ => ?_
        exact away.queueTap cfg _ _ _
    · exact abroad_connectFlow cfg key segment _

end Reactor

end Yayatht
