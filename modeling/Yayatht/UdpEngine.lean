import Yayatht.Addresses
import Yayatht.FlowTable
import Yayatht.KeyedMap

set_option autoImplicit false

namespace Yayatht.Udp

def dnsTimeout : Millis := 15000
def oneShotTimeout : Millis := 30000
def streamTimeout : Millis := 120000

structure AssociationKey where
  source : SocketAddr
  deriving DecidableEq, Repr

structure FlowKey where
  source : SocketAddr
  target : SocketAddr
  deriving DecidableEq, Repr

def FlowKey.association (key : FlowKey) : AssociationKey := ⟨key.source⟩

inductive TimeoutClass where
  | dns
  | oneShot
  | stream
  deriving DecidableEq, Repr

def TimeoutClass.duration : TimeoutClass → Millis
  | .dns => dnsTimeout
  | .oneShot => oneShotTimeout
  | .stream => streamTimeout

/-- A logical flow; the namespace endpoint and the endpoint its replies come from
have one address family. -/
structure Flow where
  key : FlowKey
  replySource : SocketAddr
  lastActivity : Millis
  outboundDatagrams : ℕ
  inboundDatagrams : ℕ
  sameFamily : key.source.isIpv4 = replySource.isIpv4

def Flow.timeoutClass (f : Flow) : TimeoutClass :=
  if f.key.target.port = 53 then .dns
  else if f.outboundDatagrams > 1 ∧ f.inboundDatagrams > 1 then .stream
  else .oneShot

def Flow.expiresAt (f : Flow) : Millis := f.lastActivity + f.timeoutClass.duration

structure Accept where
  id : FlowId
  created : Bool
  associationCreated : Bool
  deriving DecidableEq, Repr

inductive AcceptError where
  | familyMismatch
  | replyRouteConflict
  | flowLimit
  | associationLimit
  deriving DecidableEq, Repr

structure Engine where
  flows : FlowTable Flow
  byKey : KeyedMap FlowKey FlowId
  associations : KeyedMap AssociationKey ℕ
  maxFlows : ℕ
  maxAssociations : ℕ

namespace Engine

def new (maxFlows maxAssociations : ℕ) : Engine where
  flows := FlowTable.withCapacity maxFlows
  byKey := {}
  associations := {}
  maxFlows := maxFlows
  maxAssociations := maxAssociations

def recordOutbound (e : Engine) (id : FlowId) (now : Millis) : Engine :=
  { e with
    flows := e.flows.modify id fun f =>
      { f with lastActivity := now, outboundDatagrams := min (f.outboundDatagrams + 1) 255 } }

def recordInbound (e : Engine) (id : FlowId) (now : Millis) : Engine :=
  { e with
    flows := e.flows.modify id fun f =>
      { f with lastActivity := now, inboundDatagrams := min (f.inboundDatagrams + 1) 255 } }

def acceptRouted (e : Engine) (key : FlowKey) (replySource : SocketAddr) (now : Millis) :
    Engine × Except AcceptError Accept :=
  if h : key.source.isIpv4 ≠ key.target.isIpv4 ∨ key.source.isIpv4 ≠ replySource.isIpv4 then
    (e, .error .familyMismatch)
  else
    match e.byKey.find? key with
    | some id =>
      if (e.flows.get id).any fun f => f.replySource ≠ replySource then
        (e, .error .replyRouteConflict)
      else (e.recordOutbound id now, .ok ⟨id, false, false⟩)
    | none =>
      if e.maxFlows ≤ e.byKey.size then (e, .error .flowLimit)
      else
        let associationCreated := !e.associations.contains key.association
        if associationCreated ∧ e.maxAssociations ≤ e.associations.size then
          (e, .error .associationLimit)
        else
          let associations :=
            if associationCreated then e.associations.insert key.association 0 else e.associations
          let flow : Flow := ⟨key, replySource, now, 1, 0, not_not.mp (not_or.mp h).2⟩
          match e.flows.insert flow with
          | (flows, .error _) =>
            ({ e with
                flows := flows
                associations :=
                  if associationCreated then associations.erase key.association else associations },
              .error .flowLimit)
          | (flows, .ok id) =>
            ({ e with
                flows := flows
                byKey := e.byKey.insert key id
                associations := associations.modify key.association (· + 1) },
              .ok ⟨id, true, associationCreated⟩)

def accept (e : Engine) (key : FlowKey) (now : Millis) : Engine × Except AcceptError Accept :=
  e.acceptRouted key key.target now

def flow (e : Engine) (id : FlowId) : Option Flow := e.flows.get id

def idForKey (e : Engine) (key : FlowKey) : Option FlowId := e.byKey.find? key

def hasAssociation (e : Engine) (key : AssociationKey) : Bool := e.associations.contains key

def activeIds (e : Engine) : List FlowId := e.flows.activeIds

def activeFlows (e : Engine) : ℕ := e.byKey.size

def activeAssociations (e : Engine) : ℕ := e.associations.size

def remove (e : Engine) (id : FlowId) : Engine × Bool :=
  match e.flows.get id with
  | none => (e, false)
  | some f =>
    let key := f.key.association
    let associations := e.associations.modify key (· - 1)
    ({ e with
        byKey := e.byKey.erase f.key
        associations := if associations.find? key = some 0 then associations.erase key else associations
        flows := (e.flows.deferRemove id).flushDeferred.1 },
      true)

def expire (e : Engine) (now : Millis) : Engine × List FlowId :=
  let expired := e.flows.activeIds.filter fun id => (e.flows.get id).any fun f => f.expiresAt ≤ now
  (expired.foldl (fun e id => (e.remove id).1) e, expired)

theorem flow_recordInbound {e : Engine} {id : FlowId} {now : Millis} {f : Flow}
    (h : (e.recordInbound id now).flow id = some f) :
    ∃ g, e.flow id = some g ∧ f.key = g.key ∧ f.replySource = g.replySource := by
  unfold flow recordInbound at h
  rw [FlowTable.get_modify, if_pos rfl] at h
  obtain ⟨g, hg, rfl⟩ := Option.map_eq_some_iff.mp h
  exact ⟨g, hg, rfl, rfl⟩

end Engine

end Yayatht.Udp
