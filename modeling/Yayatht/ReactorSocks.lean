import Yayatht.ReactorDatagrams

set_option autoImplicit false

namespace Yayatht
open Proxy

def rebuildBase (attempt : ℕ) : Millis :=
  min (socksRebuildInitial * 2 ^ min (attempt - 1) 6) socksRebuildMax

namespace Reactor

variable (cfg : Config)

def association (id : FlowId) : Io SocksAssociation := do
  let s ← get
  ensure "SOCKS association disappeared" (s.socksAssociations.get id)

def modifyAssociation (id : FlowId) (f : SocksAssociation → SocksAssociation) : Io Unit :=
  modify fun s => { s with socksAssociations := s.socksAssociations.modify id f }

/-- Tears the sockets down and sets the next attempt, with up to twice the base delay. -/
def scheduleSocksRebuild (id : FlowId) : Io Unit := do
  let s ← get
  match s.socksAssociations.get id with
  | none => pure ()
  | some a =>
    let attempt := min (a.retryAttempt + 1) 255
    modifyAssociation id fun a =>
      { a with
        retryAttempt := attempt
        state := .backoff
        handshake := none
        response := []
        control := false
        relay := false }
    deleteIf a.control
    deleteIf a.relay
    let random ← Call.random
    let base := rebuildBase attempt
    let now ← Call.now
    modifyAssociation id fun a =>
      { a with retryAt := now + base + base * (random.toNat % 256) / 255 }
    modify fun s =>
      { s with
        metrics := { s.metrics with udpAssociationFailures := s.metrics.udpAssociationFailures + 1 } }

def queueSocksDatagram (id : FlowId) (target : SocketAddr) (payload : Bytes) : Io Unit := do
  let a ← association id
  let queued := payload.length + 22
  if queued > socksUdpQueueBytes - a.pendingBytes then countUdpQueueDrop
  else
    modifyAssociation id fun a =>
      { a with
        pending := a.pending ++ [(target, payload)]
        pendingBytes := a.pendingBytes + queued }

def sendSocksDatagram (id : FlowId) (target : SocketAddr) (payload : Bytes) : Io Unit := do
  let a ← association id
  if a.state ≠ .ready then queueSocksDatagram id target payload
  else if a.relay = false then throw (.invariant "ready SOCKS association has no relay")
  else
    let datagram ← ensure "SOCKS UDP datagram exceeds relay buffer"
      (SocksUdp.encode cfg.socksBufferCapacity (.socket target) payload).toOption
    match ← Call.send datagram.length with
    | .ok sent => if sent = datagram.length then countUdpSent else countUdpQueueDrop
    | .error .wouldBlock => countUdpQueueDrop
    | .error _ => scheduleSocksRebuild id

/-- The relay endpoint a bound address stands for; `none` for a domain. -/
def relayEndpoint (proxy : SocketAddr) : SocksAddress → Option SocketAddr
  | .socket address =>
    some (if address.isUnspecified then SocketAddr.new proxy.ip address.port else address)
  | .domain .. => none

def promoteAssociation (id : FlowId) (bound : SocksAddress) (proxy : SocketAddr) : Io Unit := do
  match relayEndpoint proxy bound with
  | none => scheduleSocksRebuild id
  | some endpoint =>
    let a ← association id
    if a.relay = false then throw (.invariant "SOCKS association has no relay socket")
    else if endpoint.isIpv4 ≠ proxy.isIpv4 then scheduleSocksRebuild id
    else
      match ← Call.connectDatagram endpoint with
      | .error _ => scheduleSocksRebuild id
      | .ok () =>
        Call.epollModify
        modifyAssociation id fun a =>
          { a with handshake := none, response := [], state := .pendingActivation }

/-- Whether the response left a handshake that may be complete. -/
def consumeSocksRounds (id : FlowId) : ℕ → Io Bool
  | 0 => pure true
  | rounds + 1 => do
    let a ← association id
    let h ← ensure "SOCKS association has no handshake" a.handshake
    if h.wantsInput then
      note (.socksReply h a.response)
      let (h, result) := h.receive a.response
      modifyAssociation id fun a => { a with handshake := some h }
      match result with
      | .error _ =>
        scheduleSocksRebuild id
        pure false
      | .ok 0 => pure true
      | .ok consumed =>
        modifyAssociation id fun a => { a with response := a.response.drop consumed }
        consumeSocksRounds id rounds
    else pure true

def proxyAddress : Option SocketAddr :=
  match cfg.upstream with
  | .proxy _ address _ => some address
  | .direct _ => none

def consumeSocksResponse (id : FlowId) : Io Unit := do
  let a ← association id
  if ← consumeSocksRounds id (a.response.length + 1) then
    let s ← get
    match (s.socksAssociations.get id).bind SocksAssociation.handshake with
    | none => pure ()
    | some h =>
      if h.isComplete then
        let bound ← ensure "SOCKS ASSOCIATE response has no BND address" h.boundAddress
        let proxy ← ensure "SOCKS association without proxy" (proxyAddress cfg)
        promoteAssociation id bound proxy
      else pure ()
  else pure ()

/-- Whether the association survived the sends of the event. -/
def flushSocksOutput (id : FlowId) : Io Bool := do
  let a ← association id
  let h ← ensure "SOCKS association has no handshake" a.handshake
  if h.output = [] then pure true
  else
    match ← Call.send h.output.length with
    | .ok 0 =>
      scheduleSocksRebuild id
      pure false
    | .ok sent =>
      let (h, result) := h.advanceOutput sent
      modifyAssociation id fun a => { a with handshake := some h }
      match result with
      | .ok () => pure true
      | .error _ =>
        scheduleSocksRebuild id
        pure false
    | .error .wouldBlock => pure true
    | .error _ =>
      scheduleSocksRebuild id
      pure false

/-- Reads the control stream until it blocks; every round adds at least one byte. -/
def readSocksControl (id : FlowId) : ℕ → Io Bool
  | 0 => pure true
  | rounds + 1 => do
    match ← Call.recv 4096 with
    | .ok [] =>
      scheduleSocksRebuild id
      pure false
    | .ok bytes =>
      let a ← association id
      if a.response.length + bytes.length > proxyResponseCapacity then
        scheduleSocksRebuild id
        pure false
      else
        modifyAssociation id fun a => { a with response := a.response ++ bytes }
        readSocksControl id rounds
    | .error .wouldBlock => pure true
    | .error _ =>
      scheduleSocksRebuild id
      pure false

def concludeSocksControl (id : FlowId) : Io Unit := do
  consumeSocksResponse cfg id
  let s ← get
  if (s.socksAssociations.get id).any fun a => a.state = .handshaking then Call.epollModify
  else pure ()

/-- Whether a connecting control socket is connected now. -/
def finishSocksConnect (id : FlowId) (events : UInt32) : Io Bool := do
  if has events writable then
    if (← Call.pendingError).isSome then
      scheduleSocksRebuild id
      pure false
    else
      modifyAssociation id fun a => { a with state := .handshaking }
      pure true
  else pure false

def driveSocksControl (id : FlowId) (events : UInt32) : Io Unit := do
  let a ← association id
  if a.control = false then throw (.invariant "SOCKS association has no control socket")
  else
    let connected ← if a.state = .connecting then finishSocksConnect id events else pure true
    if connected then
      let sent ← if has events writable then flushSocksOutput id else pure true
      if sent then
        let read ←
          if has events readable then readSocksControl id (proxyResponseCapacity + 1) else pure true
        if read then concludeSocksControl cfg id else pure ()
      else pure ()
    else pure ()

/-- The sockets and the handshake of a new attempt; `none` when one of the calls failed. -/
def openSocksSockets (proxy : SocketAddr) (credentials : Option Credentials) :
    Io (Option (Bool × Handshake)) := do
  match ← Call.bindUdp with
  | .error _ => pure none
  | .ok () =>
    match ← Call.localAddress with
    | .error _ => pure none
    | .ok relayLocal =>
      match ← Call.connect proxy with
      | .error _ => pure none
      | .ok connected =>
        match ← Call.localAddress with
        | .error _ => pure none
        | .ok controlLocal =>
          match Handshake.new .socks5 .udpAssociate
              (SocketAddr.new controlLocal.ip relayLocal.port) credentials with
          | .error _ => pure none
          | .ok handshake => pure (some (connected, handshake))

def rebuildSocksAssociation (id : FlowId) : Io Unit := do
  match cfg.upstream with
  | .proxy .socks5 address credentials =>
    let s ← get
    let retrying := (s.socksAssociations.get id).any fun a => a.retryAttempt > 0
    match ← openSocksSockets address credentials with
    | none => scheduleSocksRebuild id
    | some (connected, handshake) =>
      if tokenFits id then
        Call.epollAdd
        let _ ← association id
        modifyAssociation id fun a =>
          { a with
            control := true
            relay := true
            handshake := some handshake
            response := []
            state := if connected then .handshaking else .connecting }
        modify fun s =>
          { s with
            metrics :=
              { s.metrics with
                udpAssociationRebuilds := s.metrics.udpAssociationRebuilds + retrying.toNat } }
        if connected then driveSocksControl cfg id writable else pure ()
      else throw (.invariant "SOCKS association does not fit epoll token")
  | _ => throw (.invariant "SOCKS rebuild without SOCKS upstream")

def newAssociation (key : Udp.AssociationKey) (now : Millis) : SocksAssociation where
  key := key
  state := .backoff
  control := false
  relay := false
  handshake := none
  response := []
  pending := []
  pendingBytes := 0
  retryAttempt := 0
  retryAt := now

def associationFor (source : SocketAddr) (now : Millis) : Io FlowId := do
  let s ← get
  match s.socksByKey.find? ⟨source⟩ with
  | some id => pure id
  | none =>
    let (associations, inserted) := s.socksAssociations.insert (newAssociation ⟨source⟩ now)
    set { s with socksAssociations := associations }
    let id ← ensure "SOCKS association table exhausted" inserted.toOption
    modify fun s => { s with socksByKey := s.socksByKey.insert ⟨source⟩ id }
    rebuildSocksAssociation cfg id
    pure id

def handleSocksUdpRouted (source target replySource : SocketAddr) (message : Bytes) : Io Unit := do
  let now ← Call.now
  match ← acceptUdp ⟨source, target⟩ replySource now with
  | .error error => countAcceptError error
  | .ok accepted =>
    if accepted.created then countUdpCreated accepted else pure ()
    let id ← associationFor cfg source now
    let s ← get
    if (s.socksAssociations.get id).any fun a => a.state = .ready then
      sendSocksDatagram cfg id target message
    else queueSocksDatagram id target message

def handleSocksControl (id : FlowId) (events : UInt32) : Io Unit := do
  let s ← get
  match s.socksAssociations.get id with
  | none => pure ()
  | some a =>
    if a.state = .backoff ∨ a.control = false then pure ()
    else
      let failed ← if has events errorEvent then (·.isSome) <$> Call.pendingError else pure false
      if failed then scheduleSocksRebuild id
      else if a.state = .ready then
        if has events (readable ||| hangup ||| readHangup) then
          match ← Call.recv 1 with
          | .ok [] => scheduleSocksRebuild id
          | .ok _ => pure ()
          | .error .wouldBlock => pure ()
          | .error _ => scheduleSocksRebuild id
        else pure ()
      else driveSocksControl cfg id events

def sendPendingSocks (id : FlowId) : List (SocketAddr × Bytes) → Io Unit
  | [] => pure ()
  | (target, payload) :: rest => do
    let s ← get
    if (s.socksAssociations.get id).any fun a => a.state = .ready then
      sendSocksDatagram cfg id target payload
      sendPendingSocks id rest
    else pure ()

def activateSocksAssociation (id : FlowId) : Io Unit := do
  let s ← get
  let a ← expect "pending association has relay"
    ((s.socksAssociations.get id).filter fun a => a.relay)
  Call.epollAdd
  modifyAssociation id fun a =>
    { a with state := .ready, retryAttempt := 0, pendingBytes := 0, pending := [] }
  sendPendingSocks cfg id a.pending

def activateEach : List FlowId → Io Unit
  | [] => pure ()
  | id :: ids => do
    activateSocksAssociation cfg id
    activateEach ids

def associationsWhere (s : Reactor) (p : SocksAssociation → Bool) : List FlowId :=
  s.socksAssociations.activeIds.filter fun id => (s.socksAssociations.get id).any p

def activateSocksAssociations : Io Unit := do
  let s ← get
  activateEach cfg (associationsWhere s fun a => a.state = .pendingActivation)

/-- One datagram from the relay of a ready association. -/
def relayDatagram (source : SocketAddr) (datagram : Bytes) : Io Unit := do
  if datagram.length > cfg.socksBufferCapacity then countUdpQueueDrop
  else
    match SocksUdp.decode datagram with
    | .error (.unsupportedFragment _) =>
      modify fun s =>
        { s with
          metrics := { s.metrics with udpUnsupportedFragments := s.metrics.udpUnsupportedFragments + 1 } }
    | .error _ => countUnknown
    | .ok ⟨.domain .., _⟩ => countUnknown
    | .ok ⟨.socket target, payload⟩ =>
      let s ← get
      match s.udpEngine.idForKey ⟨source, target⟩ with
      | none => countUnknown
      | some flowId =>
        let now ← Call.now
        modify fun s =>
          { s with
            udpEngine := s.udpEngine.recordInbound flowId now
            metrics := { s.metrics with udpDatagramsReceived := s.metrics.udpDatagramsReceived + 1 } }
        let s ← get
        let flow ← expect "flow was found by key" (s.udpEngine.flow flowId)
        if flow.replySource.port = 53 ∧ flow.replySource ≠ flow.key.target then
          modify fun s =>
            { s with metrics := { s.metrics with dnsResponses := s.metrics.dnsResponses + 1 } }
        else pure ()
        if ← queueUdpFrame cfg source flow.replySource payload then pure () else countUdpQueueDrop
where
  countUnknown : Io Unit :=
    modify fun s =>
      { s with
        metrics := { s.metrics with udpUnknownRelayDatagrams := s.metrics.udpUnknownRelayDatagrams + 1 } }

def relayDatagrams (id : FlowId) (source : SocketAddr) : ℕ → Io Unit
  | 0 => pure ()
  | budget + 1 => do
    match ← Call.recvDatagram with
    | .ok datagram =>
      relayDatagram cfg source datagram
      relayDatagrams id source budget
    | .error .wouldBlock => pure ()
    | .error _ => scheduleSocksRebuild id

def handleSocksRelay (id : FlowId) (events : UInt32) : Io Unit := do
  let s ← get
  match s.socksAssociations.get id with
  | none => pure ()
  | some a =>
    if a.state ≠ .ready then pure ()
    else if a.relay = false then throw (.panic "ready association has relay")
    else if has events errorEvent then
      let (errors, last) ← Call.udpErrors
      modify fun s =>
        { s with
          metrics := { s.metrics with udpSocketErrors := s.metrics.udpSocketErrors + errors.length } }
      orThrow last
      scheduleSocksRebuild id
    else if has events readable then relayDatagrams cfg id a.key.source udpRxBudget
    else pure ()

end Reactor

end Yayatht
