import Yayatht.ReactorSocks

set_option autoImplicit false

namespace Yayatht
open Proxy

/-- Handshake rounds a resolver connection can take: each reply but the last leads to one request. -/
def handshakeRounds : ℕ := 8

namespace Reactor

variable (cfg : Config)

def queueDnsReply (endpoints : Dns.Endpoints) (payload : Bytes) : Io Unit := do
  if ← queueUdpFrame cfg endpoints.client endpoints.gateway payload then pure ()
  else
    modify fun s =>
      { s with metrics := { s.metrics with dnsReplyDrops := s.metrics.dnsReplyDrops + 1 } }

def failTransactions : List (Dns.Transaction × Bytes) → Io Unit
  | [] => pure ()
  | (transaction, reply) :: rest => do
    modify fun s => { s with metrics := { s.metrics with dnsFailures := s.metrics.dnsFailures + 1 } }
    queueDnsReply cfg transaction.endpoints reply
    failTransactions rest

/-- Tears the resolver connection down and answers every outstanding query SERVFAIL. -/
def failDnsConnection : Io Unit := do
  let s ← get
  let (engine, failed) := s.dnsEngine.failAll
  set { s with
    dnsConnection := .idle
    dnsWriteBuffer := []
    dnsReadBuffer := []
    dnsEngine := engine }
  failTransactions cfg failed

def updateDnsInterest : Io Unit := do
  let s ← get
  match s.dnsConnection with
  | .idle => pure ()
  | _ => Call.epollModify

/-- Every round but the last one sends at least one byte. -/
def flushDnsRounds : ℕ → Io Unit
  | 0 => pure ()
  | rounds + 1 => do
    let s ← get
    if s.dnsWriteBuffer = [] then pure ()
    else
      match ← Call.send s.dnsWriteBuffer.length with
      | .ok 0 => failDnsConnection cfg
      | .ok sent =>
        modify fun s => { s with dnsWriteBuffer := s.dnsWriteBuffer.drop sent }
        flushDnsRounds rounds
      | .error .wouldBlock => pure ()
      | .error _ => failDnsConnection cfg

def flushDnsWrite : Io Unit := do
  let s ← get
  match s.dnsConnection with
  | .ready => flushDnsRounds cfg (s.dnsWriteBuffer.length + 1)
  | _ => pure ()

def ensureDnsConnection : Io Unit := do
  let s ← get
  match s.dnsConnection with
  | .idle =>
    let resolver ← ensure "DNS forward without a resolver" cfg.dnsUpstream
    let (transport, handshake) ←
      match cfg.upstream with
      | .proxy protocol address credentials =>
        (fun h => (address, some h)) <$> expect "CONNECT is supported by configured proxy protocols"
          (Handshake.new protocol .connect resolver credentials).toOption
      | .direct _ => pure (resolver, none)
    match ← Call.connect transport with
    | .ok connected =>
      Call.epollAdd
      modify fun s =>
        { s with
          metrics := { s.metrics with dnsUpstreamConnects := s.metrics.dnsUpstreamConnects + 1 }
          dnsConnection := .connecting connected handshake }
    | .error _ => failDnsConnection cfg
  | _ => pure ()

def forwardDnsQuery (upstreamId : UInt16) (message : Bytes) : Io Unit := do
  let s ← get
  if message.length < 65536 ∧ s.dnsWriteBuffer.length + 2 + message.length ≤ dnsWriteBufferLimit then
    let now ← Call.now
    modify fun s =>
      { s with
        dnsWriteBuffer :=
          s.dnsWriteBuffer ++ Dns.wordBytes (UInt16.ofNat message.length) ++ Dns.wordBytes upstreamId ++
            message.drop 2
        dnsLastActivity := now }
    ensureDnsConnection cfg
    flushDnsWrite cfg
    updateDnsInterest
  else
    let (engine, aborted) := s.dnsEngine.abort upstreamId
    set { s with dnsEngine := engine }
    failTransactions cfg aborted.toList

def handleDnsUdp (endpoints : Dns.Endpoints) (message : Bytes) : Io Unit := do
  modify fun s => { s with metrics := { s.metrics with dnsQueries := s.metrics.dnsQueries + 1 } }
  let now ← Call.now
  let s ← get
  let (engine, disposition) :=
    s.dnsEngine.acceptQuery endpoints message cfg.dnsUpstream.isSome now
  set { s with dnsEngine := engine }
  match disposition with
  | .drop =>
    modify fun s => { s with metrics := { s.metrics with dnsDropped := s.metrics.dnsDropped + 1 } }
  | .respond reply =>
    modify fun s =>
      { s with
        metrics :=
          { s.metrics with
            dnsFailures := s.metrics.dnsFailures + 1
            dnsRefused := s.metrics.dnsRefused + if cfg.dnsUpstream.isSome then 0 else 1 } }
    queueDnsReply cfg endpoints reply
  | .forward upstreamId => forwardDnsQuery cfg upstreamId message

/-- Room for a DNS message in one frame, whatever the address family. -/
def dnsFrameLimit : ℕ :=
  cfg.mtuFrameCapacity - cfg.vnetLen - ethernetHeaderLen - 40 - udpHeaderLen

def processDnsFrame (frame : Bytes) : Io Unit := do
  let s ← get
  let (engine, reply) := s.dnsEngine.acceptResponse frame (dnsFrameLimit cfg)
  set { s with dnsEngine := engine }
  match reply with
  | none => pure ()
  | some reply =>
    let now ← Call.now
    modify fun s =>
      { s with
        metrics :=
          { s.metrics with
            dnsResponses := s.metrics.dnsResponses + 1
            dnsTruncated := s.metrics.dnsTruncated + reply.truncated.toNat }
        dnsLastActivity := now }
    queueDnsReply cfg reply.transaction.endpoints reply.payload

/-- Every round takes a length prefix off the buffer. -/
def processDnsRounds : ℕ → Io Unit
  | 0 => pure ()
  | rounds + 1 => do
    let s ← get
    match s.dnsReadBuffer with
    | high :: low :: rest =>
      let length := beWord high low
      if rest.length < length then pure ()
      else
        set { s with dnsReadBuffer := rest.drop length }
        processDnsFrame cfg (rest.take length)
        processDnsRounds rounds
    | _ => pure ()

def processDnsFrames : Io Unit := do
  let s ← get
  processDnsRounds cfg (s.dnsReadBuffer.length + 1)

/-- Reads until the stream blocks; `false` when it ended or overflowed. -/
def readDnsRounds : ℕ → Io Bool
  | 0 => pure true
  | rounds + 1 => do
    match ← Call.recv 4096 with
    | .ok [] => pure false
    | .ok bytes =>
      let s ← get
      if s.dnsReadBuffer.length + bytes.length > dnsReadBufferLimit then pure false
      else
        set { s with dnsReadBuffer := s.dnsReadBuffer ++ bytes }
        readDnsRounds rounds
    | .error .wouldBlock => pure true
    | .error _ => pure false

def readDnsStream : Io Bool := do
  let s ← get
  match s.dnsConnection with
  | .ready =>
    let alive ← readDnsRounds (dnsReadBufferLimit + 1)
    processDnsFrames cfg
    pure alive
  | _ => pure true

def setDnsHandshake (h : Handshake) : Io Unit :=
  modify fun s =>
    match s.dnsConnection with
    | .connecting connected _ => { s with dnsConnection := .connecting connected (some h) }
    | _ => s

/-- The outcome of one stage of the resolver handshake. -/
inductive DnsStage where
  | proceed (h : Handshake)
  | wait
  | failed

def sendDnsHandshake (h : Handshake) : ℕ → Io DnsStage
  | 0 => pure (.proceed h)
  | rounds + 1 =>
    if h.output = [] then pure (.proceed h)
    else do
      match ← Call.send h.output.length with
      | .ok 0 => pure .failed
      | .ok sent =>
        let (h, result) := h.advanceOutput sent
        setDnsHandshake h
        match result with
        | .ok () => sendDnsHandshake h rounds
        | .error _ => pure .failed
      | .error .wouldBlock => pure .wait
      | .error _ => pure .failed

def readDnsHandshake (h : Handshake) : Io DnsStage := do
  match ← Call.recv proxyResponseCapacity with
  | .ok [] => pure .failed
  | .ok response =>
    let (h, result) := h.receive response
    setDnsHandshake h
    match result with
    | .ok 0 => pure .wait
    | .ok consumed =>
      match ← Call.discardAnswer with
      | .error error => throw (.io error)
      | .ok inflow =>
        if inflow.taken.of consumed = consumed then pure (.proceed h) else pure .failed
    | .error _ => pure .failed
  | .error .wouldBlock => pure .wait
  | .error _ => pure .failed

def promoteDns : Io Unit := do
  modify fun s => { s with dnsConnection := .ready }
  flushDnsWrite cfg

def driveDnsRounds : ℕ → Io Unit
  | 0 => pure ()
  | rounds + 1 => do
    let s ← get
    match s.dnsConnection with
    | .connecting _ (some h) =>
      if h.isComplete then promoteDns cfg
      else
        match ← sendDnsHandshake h (h.output.length + 1) with
        | .failed => failDnsConnection cfg
        | .wait => pure ()
        | .proceed h =>
          if h.wantsInput then
            match ← readDnsHandshake h with
            | .failed => failDnsConnection cfg
            | .wait => pure ()
            | .proceed _ => driveDnsRounds rounds
          else driveDnsRounds rounds
    | .connecting _ none => promoteDns cfg
    | _ => pure ()

def finishDnsConnect (events : UInt32) : Io Bool := do
  if has events writable then
    if (← Call.pendingError).isSome then
      failDnsConnection cfg
      pure false
    else
      modify fun s =>
        match s.dnsConnection with
        | .connecting _ handshake => { s with dnsConnection := .connecting true handshake }
        | _ => s
      pure true
  else pure false

/-- `false` when the event is done with. -/
def driveDnsConnect (events : UInt32) : Io Bool := do
  let s ← get
  match s.dnsConnection with
  | .connecting connected _ =>
    let ready ← if connected then pure true else finishDnsConnect cfg events
    if ready then
      driveDnsRounds cfg handshakeRounds
      pure true
    else pure false
  | _ => pure true

def driveDnsStream (events : UInt32) : Io Bool := do
  let s ← get
  match s.dnsConnection with
  | .ready =>
    if has events writable then flushDnsWrite cfg else pure ()
    if has events (readable ||| readHangup) then
      if ← readDnsStream cfg then pure true
      else
        failDnsConnection cfg
        pure false
    else pure true
  | _ => pure true

def handleDnsUpstream (events : UInt32) : Io Unit := do
  let s ← get
  match s.dnsConnection with
  | .idle => pure ()
  | _ =>
    let failed ← if has events errorEvent then (·.isSome) <$> Call.pendingError else pure false
    if failed then failDnsConnection cfg
    else if ← driveDnsConnect cfg events then
      if ← driveDnsStream cfg events then updateDnsInterest else pure ()
    else pure ()

def handleDnsTimers (now : Millis) : Io Unit := do
  let s ← get
  let (engine, expired) := s.dnsEngine.expire now
  set { s with dnsEngine := engine }
  failTransactions cfg expired
  modify fun s =>
    match s.dnsConnection with
    | .idle => s
    | _ =>
      if s.dnsEngine.isIdle ∧ s.dnsWriteBuffer = [] ∧ dnsIdleTimeout ≤ now - s.dnsLastActivity then
        { s with dnsConnection := .idle, dnsReadBuffer := [] }
      else s

end Reactor

end Yayatht
