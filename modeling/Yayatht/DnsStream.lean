import Yayatht.DnsFraming

set_option autoImplicit false

/-!
# The query stream to the resolver

Queries are written behind their lengths and under their upstream identifiers. The
handlers of the resolver run beside a record of the queries queued since its last
connection was given up and of the bytes written on the present one; the record is read
by nobody.
-/
namespace Yayatht

open Dns EffectLogic

/-- The queries queued since a connection was given up and the bytes written since it was made. -/
structure Outflow where
  queued : List (UInt16 × Bytes) := []
  written : Bytes := []

abbrev Noted := EStateM Error (Reactor × Outflow)

def queryFrame (query : UInt16 × Bytes) : Bytes :=
  wordBytes (UInt16.ofNat query.2.length) ++ wordBytes query.1 ++ query.2.drop 2

def queryFrames (queries : List (UInt16 × Bytes)) : Bytes := queries.flatMap queryFrame

namespace Noted

variable (cfg : Config)

def failDnsConnection : Noted Unit := do
  record fun _ _ => {}
  lifted (Reactor.failDnsConnection cfg)

def flushDnsRounds : ℕ → Noted Unit
  | 0 => pure ()
  | rounds + 1 => do
    let s ← lifted get
    if s.dnsWriteBuffer = [] then pure ()
    else
      match ← lifted (Call.send s.dnsWriteBuffer.length) with
      | .ok 0 => failDnsConnection cfg
      | .ok sent =>
        record fun s o => { o with written := o.written ++ s.dnsWriteBuffer.take sent }
        lifted (modify fun s => { s with dnsWriteBuffer := s.dnsWriteBuffer.drop sent })
        flushDnsRounds rounds
      | .error .wouldBlock => pure ()
      | .error _ => failDnsConnection cfg

def flushDnsWrite : Noted Unit := do
  let s ← lifted get
  match s.dnsConnection with
  | .ready => flushDnsRounds cfg (s.dnsWriteBuffer.length + 1)
  | _ => pure ()

def ensureDnsConnection : Noted Unit := do
  let s ← lifted get
  match s.dnsConnection with
  | .idle =>
    let resolver ← lifted (ensure "DNS forward without a resolver" cfg.dnsUpstream)
    let (transport, handshake) ←
      match cfg.upstream with
      | .proxy protocol address credentials =>
        (fun h => (address, some h)) <$> lifted (expect "CONNECT is supported by configured proxy protocols"
          (Proxy.Handshake.new protocol .connect resolver credentials).toOption)
      | .direct _ => pure (resolver, none)
    match ← lifted (Call.connect transport) with
    | .ok connected =>
      lifted Call.epollAdd
      lifted (modify fun s =>
        { s with
          metrics := { s.metrics with dnsUpstreamConnects := s.metrics.dnsUpstreamConnects + 1 }
          dnsConnection := .connecting connected handshake })
    | .error _ => failDnsConnection cfg
  | _ => pure ()

def forwardDnsQuery (upstreamId : UInt16) (message : Bytes) : Noted Unit := do
  let s ← lifted get
  if message.length < 65536 ∧ s.dnsWriteBuffer.length + 2 + message.length ≤ dnsWriteBufferLimit then
    let now ← lifted Call.now
    record fun _ o => { o with queued := o.queued ++ [(upstreamId, message)] }
    lifted (modify fun s =>
      { s with
        dnsWriteBuffer :=
          s.dnsWriteBuffer ++ wordBytes (UInt16.ofNat message.length) ++ wordBytes upstreamId ++
            message.drop 2
        dnsLastActivity := now })
    ensureDnsConnection cfg
    flushDnsWrite cfg
    lifted Reactor.updateDnsInterest
  else
    let (engine, aborted) := s.dnsEngine.abort upstreamId
    lifted (set { s with dnsEngine := engine })
    lifted (Reactor.failTransactions cfg aborted.toList)

def promoteDns : Noted Unit := do
  lifted (modify fun s => { s with dnsConnection := .ready })
  flushDnsWrite cfg

def driveDnsRounds : ℕ → Noted Unit
  | 0 => pure ()
  | rounds + 1 => do
    let s ← lifted get
    match s.dnsConnection with
    | .connecting _ (some h) =>
      if h.isComplete then promoteDns cfg
      else
        match ← lifted (Reactor.sendDnsHandshake h (h.output.length + 1)) with
        | .failed => failDnsConnection cfg
        | .wait => pure ()
        | .proceed h =>
          if h.wantsInput then
            match ← lifted (Reactor.readDnsHandshake h) with
            | .failed => failDnsConnection cfg
            | .wait => pure ()
            | .proceed _ => driveDnsRounds rounds
          else driveDnsRounds rounds
    | .connecting _ none => promoteDns cfg
    | _ => pure ()

def finishDnsConnect (events : UInt32) : Noted Bool := do
  if has events writable then
    if (← lifted Call.pendingError).isSome then
      failDnsConnection cfg
      pure false
    else
      lifted (modify fun s =>
        match s.dnsConnection with
        | .connecting _ handshake => { s with dnsConnection := .connecting true handshake }
        | _ => s)
      pure true
  else pure false

def driveDnsConnect (events : UInt32) : Noted Bool := do
  let s ← lifted get
  match s.dnsConnection with
  | .connecting connected _ =>
    let ready ← if connected then pure true else finishDnsConnect cfg events
    if ready then
      driveDnsRounds cfg handshakeRounds
      pure true
    else pure false
  | _ => pure true

def driveDnsStream (events : UInt32) : Noted Bool := do
  let s ← lifted get
  match s.dnsConnection with
  | .ready =>
    if has events writable then flushDnsWrite cfg else pure ()
    if has events (readable ||| readHangup) then
      if ← lifted (Reactor.readDnsStream cfg) then pure true
      else
        failDnsConnection cfg
        pure false
    else pure true
  | _ => pure true

def handleDnsUpstream (events : UInt32) : Noted Unit := do
  let s ← lifted get
  match s.dnsConnection with
  | .idle => pure ()
  | _ =>
    let failed ← if has events errorEvent then (·.isSome) <$> lifted Call.pendingError else pure false
    if failed then failDnsConnection cfg
    else if ← driveDnsConnect cfg events then
      if ← driveDnsStream cfg events then lifted Reactor.updateDnsInterest else pure ()
    else pure ()

/-- The timers close a connection that carries nothing any more. -/
def closesIdle (s : Reactor) (now : Millis) : Bool :=
  s.dnsEngine.isIdle ∧ s.dnsWriteBuffer = [] ∧ dnsIdleTimeout ≤ now - s.dnsLastActivity

def handleDnsTimers (now : Millis) : Noted Unit := do
  let s ← lifted get
  let (engine, expired) := s.dnsEngine.expire now
  lifted (set { s with dnsEngine := engine })
  lifted (Reactor.failTransactions cfg expired)
  record fun s o =>
    match s.dnsConnection with
    | .idle => o
    | _ => if closesIdle s now then {} else o
  lifted (modify fun s =>
    match s.dnsConnection with
    | .idle => s
    | _ =>
      if s.dnsEngine.isIdle ∧ s.dnsWriteBuffer = [] ∧ dnsIdleTimeout ≤ now - s.dnsLastActivity then
        { s with dnsConnection := .idle, dnsReadBuffer := [] }
      else s)

/-! ## The record is read by nobody -/

theorem erases_failDnsConnection : Erases (failDnsConnection cfg) (Reactor.failDnsConnection cfg) :=
  Erases.record_bind (Erases.lifted _)

theorem erases_flushDnsRounds (rounds : ℕ) :
    Erases (flushDnsRounds cfg rounds) (Reactor.flushDnsRounds cfg rounds) := by
  induction rounds with
  | zero => exact Erases.pure _
  | succ rounds ih =>
    refine (Erases.lifted _).bind fun s => ?_
    split
    · exact Erases.pure _
    refine (Erases.lifted _).bind fun answer => ?_
    cases answer with
    | ok sent =>
      cases sent with
      | zero => exact erases_failDnsConnection cfg
      | succ sent => exact Erases.record_bind ((Erases.lifted _).bind fun _ => ih)
    | error e =>
      cases e with
      | wouldBlock => exact Erases.pure _
      | unexpectedEof => exact erases_failDnsConnection cfg
      | os code => exact erases_failDnsConnection cfg

theorem erases_flushDnsWrite : Erases (flushDnsWrite cfg) (Reactor.flushDnsWrite cfg) := by
  refine (Erases.lifted _).bind fun s => ?_
  cases s.dnsConnection with
  | idle => exact Erases.pure _
  | connecting connected handshake => exact Erases.pure _
  | ready => exact erases_flushDnsRounds cfg _

theorem erases_ensureDnsConnection : Erases (ensureDnsConnection cfg) (Reactor.ensureDnsConnection cfg) := by
  refine (Erases.lifted _).bind fun s => ?_
  cases s.dnsConnection with
  | idle =>
    refine (Erases.lifted _).bind fun resolver => ?_
    cases cfg.upstream with
    | proxy protocol address credentials =>
      refine Erases.bind (Erases.bind (Erases.lifted _) fun h => Erases.pure _) fun pair => ?_
      refine (Erases.lifted _).bind fun answer => ?_
      cases answer with
      | ok connected => exact (Erases.lifted _).bind fun _ => Erases.lifted _
      | error e => exact erases_failDnsConnection cfg
    | direct loopback =>
      refine Erases.bind (Erases.pure _) fun pair => (Erases.lifted _).bind fun answer => ?_
      cases answer with
      | ok connected => exact (Erases.lifted _).bind fun _ => Erases.lifted _
      | error e => exact erases_failDnsConnection cfg
  | connecting connected handshake => exact Erases.pure _
  | ready => exact Erases.pure _

theorem erases_forwardDnsQuery (upstreamId : UInt16) (message : Bytes) :
    Erases (forwardDnsQuery cfg upstreamId message) (Reactor.forwardDnsQuery cfg upstreamId message) := by
  refine (Erases.lifted _).bind fun s => ?_
  split
  · refine (Erases.lifted _).bind fun now => Erases.record_bind ((Erases.lifted _).bind fun _ => ?_)
    refine (erases_ensureDnsConnection cfg).bind fun _ => (erases_flushDnsWrite cfg).bind fun _ => ?_
    exact Erases.lifted _
  · obtain ⟨engine, aborted⟩ := s.dnsEngine.abort upstreamId
    exact (Erases.lifted _).bind fun _ => Erases.lifted _

theorem erases_promoteDns : Erases (promoteDns cfg) (Reactor.promoteDns cfg) :=
  (Erases.lifted _).bind fun _ => erases_flushDnsWrite cfg

theorem erases_driveDnsRounds (rounds : ℕ) :
    Erases (driveDnsRounds cfg rounds) (Reactor.driveDnsRounds cfg rounds) := by
  induction rounds with
  | zero => exact Erases.pure _
  | succ rounds ih =>
    refine (Erases.lifted _).bind fun s => ?_
    cases s.dnsConnection with
    | idle => exact Erases.pure _
    | ready => exact Erases.pure _
    | connecting connected handshake =>
      cases handshake with
      | none => exact erases_promoteDns cfg
      | some h =>
        dsimp only
        split
        · exact erases_promoteDns cfg
        refine (Erases.lifted _).bind fun stage => ?_
        cases stage with
        | failed => exact erases_failDnsConnection cfg
        | wait => exact Erases.pure _
        | proceed h =>
          dsimp only
          split
          · refine (Erases.lifted _).bind fun stage => ?_
            cases stage with
            | failed => exact erases_failDnsConnection cfg
            | wait => exact Erases.pure _
            | proceed h => exact ih
          · exact ih

theorem erases_finishDnsConnect (events : UInt32) :
    Erases (finishDnsConnect cfg events) (Reactor.finishDnsConnect cfg events) := by
  unfold finishDnsConnect Reactor.finishDnsConnect
  split
  · refine (Erases.lifted _).bind fun error => ?_
    split
    · exact (erases_failDnsConnection cfg).bind fun _ => Erases.pure _
    · exact (Erases.lifted _).bind fun _ => Erases.pure _
  · exact Erases.pure _

theorem erases_driveDnsConnect (events : UInt32) :
    Erases (driveDnsConnect cfg events) (Reactor.driveDnsConnect cfg events) := by
  refine (Erases.lifted _).bind fun s => ?_
  cases s.dnsConnection with
  | idle => exact Erases.pure _
  | ready => exact Erases.pure _
  | connecting connected handshake =>
    have hready : ∀ ready, Erases (if ready = true then (do
          driveDnsRounds cfg handshakeRounds
          pure true) else pure false : Noted Bool) (if ready = true then (do
          Reactor.driveDnsRounds cfg handshakeRounds
          pure true) else pure false : Io Bool) := by
      intro ready
      cases ready with
      | true => exact (erases_driveDnsRounds cfg _).bind fun _ => Erases.pure _
      | false => exact Erases.pure _
    cases connected with
    | true => exact hready true
    | false => exact (erases_finishDnsConnect cfg events).bind hready

theorem erases_driveDnsStream (events : UInt32) :
    Erases (driveDnsStream cfg events) (Reactor.driveDnsStream cfg events) := by
  refine (Erases.lifted _).bind fun s => ?_
  cases s.dnsConnection with
  | idle => exact Erases.pure _
  | connecting connected handshake => exact Erases.pure _
  | ready =>
    have hread : Erases (if has events (readable ||| readHangup) then (do
          if ← lifted (Reactor.readDnsStream cfg) then pure true
          else
            failDnsConnection cfg
            pure false) else pure true : Noted Bool) (if has events (readable ||| readHangup) then (do
          if ← Reactor.readDnsStream cfg then pure true
          else
            Reactor.failDnsConnection cfg
            pure false) else pure true : Io Bool) := by
      split
      · refine (Erases.lifted _).bind fun alive => ?_
        cases alive with
        | true => exact Erases.pure _
        | false => exact (erases_failDnsConnection cfg).bind fun _ => Erases.pure _
      · exact Erases.pure _
    dsimp only
    split
    · exact (erases_flushDnsWrite cfg).bind fun _ => hread
    · exact hread

theorem erases_handleDnsUpstream (events : UInt32) :
    Erases (handleDnsUpstream cfg events) (Reactor.handleDnsUpstream cfg events) := by
  have hdrive : ∀ failed, Erases (if failed = true then failDnsConnection cfg else (do
        if ← driveDnsConnect cfg events then
          if ← driveDnsStream cfg events then lifted Reactor.updateDnsInterest else pure ()
        else pure ()) : Noted Unit) (if failed = true then Reactor.failDnsConnection cfg else (do
        if ← Reactor.driveDnsConnect cfg events then
          if ← Reactor.driveDnsStream cfg events then Reactor.updateDnsInterest else pure ()
        else pure ()) : Io Unit) := by
    intro failed
    cases failed with
    | true => exact erases_failDnsConnection cfg
    | false =>
      refine (erases_driveDnsConnect cfg events).bind fun going => ?_
      cases going with
      | false => exact Erases.pure _
      | true =>
        refine (erases_driveDnsStream cfg events).bind fun alive => ?_
        cases alive with
        | true => exact Erases.lifted _
        | false => exact Erases.pure _
  have hevent : Erases (do
        let failed ← if has events errorEvent then (·.isSome) <$> lifted Call.pendingError else pure false
        if failed then failDnsConnection cfg
        else if ← driveDnsConnect cfg events then
          if ← driveDnsStream cfg events then lifted Reactor.updateDnsInterest else pure ()
        else pure () : Noted Unit) (do
        let failed ← if has events errorEvent then (·.isSome) <$> Call.pendingError else pure false
        if failed then Reactor.failDnsConnection cfg
        else if ← Reactor.driveDnsConnect cfg events then
          if ← Reactor.driveDnsStream cfg events then Reactor.updateDnsInterest else pure ()
        else pure () : Io Unit) := by
    split
    · exact Erases.bind (Erases.bind (Erases.lifted _) fun error => Erases.pure _) hdrive
    · exact hdrive false
  refine (Erases.lifted _).bind fun s => ?_
  cases s.dnsConnection with
  | idle => exact Erases.pure _
  | connecting connected handshake => exact hevent
  | ready => exact hevent

theorem erases_handleDnsTimers (now : Millis) :
    Erases (handleDnsTimers cfg now) (Reactor.handleDnsTimers cfg now) := by
  refine (Erases.lifted _).bind fun s => ?_
  obtain ⟨engine, expired⟩ := s.dnsEngine.expire now
  refine (Erases.lifted _).bind fun _ => (Erases.lifted _).bind fun _ => ?_
  exact Erases.record_bind (Erases.lifted _)

/-! ## What was written -/

def outlet (s : Reactor) : Bytes × Bool :=
  (s.dnsWriteBuffer, match s.dnsConnection with | .idle => true | _ => false)

/-- What was written and what is to be written make up the queries; a connection begins with nothing written. -/
structure Flowing (x : Reactor × Outflow) : Prop where
  split : x.2.written ++ x.1.dnsWriteBuffer = queryFrames x.2.queued
  fresh : x.1.dnsConnection = .idle → x.2.written = []

theorem Flowing.of_outlet {x : Reactor × Outflow} {t : Reactor} (h : Flowing x) (ht : outlet t = outlet x.1) :
    Flowing (t, x.2) := by
  obtain ⟨hbuffer, hidle⟩ := Prod.mk.inj ht
  refine ⟨?_, fun hti => h.fresh ?_⟩
  · change x.2.written ++ t.dnsWriteBuffer = _
    rw [hbuffer]
    exact h.split
  · change t.dnsConnection = .idle at hti
    rw [hti] at hidle
    cases hc : x.1.dnsConnection with
    | idle => rfl
    | connecting connected handshake => rw [hc] at hidle; cases hidle
    | ready => rw [hc] at hidle; cases hidle

abbrev KeepsFlowing {α : Type} (m : Noted α) : Prop := Keeps Flowing (fun _ => Flowing) m

theorem keeps_lifted {α : Type} {E : Error → Prop} {m : Io α} (h : Spares outlet E m) : KeepsFlowing (lifted m) :=
  fun x hx => Ends.lifted ((h x.1).mono (fun _ _ ht => hx.of_outlet ht) fun _ _ ht => hx.of_outlet ht.1)

theorem outlet_of_resolver {α : Type} {m : Io α} (h : Spares resolver Error.Other m) : Spares outlet Error.Other m :=
  h.coarsen fun s t ht => by
    obtain ⟨hconnection, hrest⟩ := Prod.mk.inj ht
    unfold outlet
    rw [hconnection, (Prod.mk.inj hrest).1]

/-- A connection that is given up leaves nothing behind, also when a reply cannot be queued. -/
theorem cleared_failDnsConnection (s : Reactor) :
    Ends (Reactor.failDnsConnection cfg) s (fun _ t => resolver t = (.idle, [], []))
      fun _ t => resolver t = (.idle, [], []) := by
  refine Ends.get_bind (Ends.set_bind ?_)
  have hspares := (Reactor.apart_failTransactions cfg s.dnsEngine.failAll.2).resolver
  exact (hspares _).mono (fun _ _ ht => ht) fun _ _ ht => ht.1

theorem ends_failDnsConnection (x : Reactor × Outflow) :
    Ends (failDnsConnection cfg) x (fun _ => Flowing) fun _ => Flowing := by
  have hflowing : ∀ t : Reactor, resolver t = (.idle, [], []) → Flowing (t, {}) := by
    intro t ht
    obtain ⟨-, hrest⟩ := Prod.mk.inj ht
    refine ⟨?_, fun _ => rfl⟩
    change [] ++ t.dnsWriteBuffer = _
    rw [(Prod.mk.inj hrest).1]
    rfl
  refine Ends.record_bind (Ends.lifted ?_)
  exact (cleared_failDnsConnection cfg x.1).mono (fun _ t ht => hflowing t ht) fun _ t ht => hflowing t ht

theorem keeps_failDnsConnection : KeepsFlowing (failDnsConnection cfg) := fun x _ => ends_failDnsConnection cfg x

theorem ends_get_bind {α : Type} {f : Reactor → Noted α} {x : Reactor × Outflow}
    {Q : α → Reactor × Outflow → Prop} {E : Error → Reactor × Outflow → Prop} (h : Ends (f x.1) x Q E) :
    Ends (lifted get >>= f) x Q E := h

theorem ends_send_bind {α : Type} {length : ℕ} {f : Except IoError ℕ → Noted α} {x : Reactor × Outflow}
    {Q : α → Reactor × Outflow → Prop} {E : Error → Reactor × Outflow → Prop}
    (h : ∀ answer t, resolver t = resolver x.1 → Ends (f answer) (t, x.2) Q E) :
    Ends (lifted (Call.send length) >>= f) x Q E :=
  h _ { x.1 with kernel := { x.1.kernel with send := x.1.kernel.send.tail } } rfl

theorem ends_flushDnsRounds (rounds : ℕ) {x : Reactor × Outflow} (hx : Flowing x)
    (hready : x.1.dnsConnection = .ready) :
    Ends (flushDnsRounds cfg rounds) x (fun _ => Flowing) fun _ => Flowing := by
  induction rounds generalizing x with
  | zero => exact Ends.pure hx
  | succ rounds ih =>
    refine ends_get_bind ?_
    split
    · exact Ends.pure hx
    refine ends_send_bind fun answer t ht => ?_
    obtain ⟨hconnection, hrest⟩ := Prod.mk.inj ht
    have hbuffer := (Prod.mk.inj hrest).1
    have hstay : Flowing (t, x.2) := by
      refine ⟨?_, fun hidle => ?_⟩
      · change x.2.written ++ t.dnsWriteBuffer = _
        rw [hbuffer]
        exact hx.split
      · change t.dnsConnection = .idle at hidle
        rw [hconnection, hready] at hidle
        cases hidle
    split
    · exact ends_failDnsConnection cfg _
    · rename_i sent _
      refine Ends.record_bind (Ends.bind (R := fun _ y => Flowing y ∧ y.1.dnsConnection = .ready)
        (Ends.lifted (Ends.modify ?_)) fun _ y hy => ih hy.1 hy.2)
      refine ⟨⟨?_, fun hidle => ?_⟩, hconnection.trans hready⟩
      · change (x.2.written ++ t.dnsWriteBuffer.take sent) ++ t.dnsWriteBuffer.drop sent = _
        rw [List.append_assoc, List.take_append_drop]
        exact hstay.split
      · change t.dnsConnection = .idle at hidle
        rw [hconnection, hready] at hidle
        cases hidle
    · exact Ends.pure hstay
    · exact ends_failDnsConnection cfg _

theorem keeps_flushDnsWrite : KeepsFlowing (flushDnsWrite cfg) := by
  intro x hx
  refine ends_get_bind ?_
  cases hc : x.1.dnsConnection with
  | idle => exact Ends.pure hx
  | connecting connected handshake => exact Ends.pure hx
  | ready => exact ends_flushDnsRounds cfg _ hx hc

theorem Flowing.connected {x : Reactor × Outflow} {t : Reactor} (h : Flowing x)
    (hbuffer : t.dnsWriteBuffer = x.1.dnsWriteBuffer) (hc : t.dnsConnection ≠ .idle) : Flowing (t, x.2) := by
  refine ⟨?_, fun hidle => absurd hidle hc⟩
  change x.2.written ++ t.dnsWriteBuffer = _
  rw [hbuffer]
  exact h.split

theorem keeps_apart {α : Type} {m : Io α} (h : Apart m) : KeepsFlowing (lifted m) :=
  keeps_lifted (outlet_of_resolver h.resolver)

theorem keeps_dial (transport : SocketAddr) (handshake : Option Proxy.Handshake) : KeepsFlowing (do
    match ← lifted (Call.connect transport) with
    | .ok connected =>
      lifted Call.epollAdd
      lifted (modify fun s =>
        { s with
          metrics := { s.metrics with dnsUpstreamConnects := s.metrics.dnsUpstreamConnects + 1 }
          dnsConnection := .connecting connected handshake })
    | .error _ => failDnsConnection cfg : Noted Unit) := by
  refine Keeps.bind (keeps_apart (apart.connect transport)) fun answer => ?_
  cases answer with
  | ok connected =>
    refine Keeps.bind (keeps_apart (apart.asked _ _)) fun _ x hx => Ends.lifted (Ends.modify ?_)
    exact hx.connected rfl (by simp)
  | error e => exact keeps_failDnsConnection cfg

theorem keeps_ensureDnsConnection : KeepsFlowing (ensureDnsConnection cfg) := by
  intro x hx
  refine ends_get_bind ?_
  cases x.1.dnsConnection with
  | idle =>
    revert x
    refine Keeps.bind (keeps_apart (apart.ensure _ (by simp [missingTexts]))) fun resolver => ?_
    cases cfg.upstream with
    | proxy protocol address credentials =>
      refine Keeps.bind (Keeps.bind (keeps_apart (apart.expect _ (by simp [missingTexts]))) fun h => Keeps.pure _) ?_
      exact fun pair => keeps_dial cfg pair.1 pair.2
    | direct loopback => exact Keeps.bind (Keeps.pure _) fun pair => keeps_dial cfg pair.1 pair.2
  | connecting connected handshake => exact Ends.pure hx
  | ready => exact Ends.pure hx

theorem queryFrames_append (queries : List (UInt16 × Bytes)) (query : UInt16 × Bytes) :
    queryFrames (queries ++ [query]) = queryFrames queries ++ queryFrame query := by
  unfold queryFrames
  rw [List.flatMap_append]
  simp

theorem keeps_updateDnsInterest : KeepsFlowing (lifted Reactor.updateDnsInterest) := by
  refine keeps_lifted (E := Error.Other) (Spares.get.bind fun s => ?_)
  cases s.dnsConnection with
  | idle => exact Spares.pure _
  | connecting connected handshake => exact outlet_of_resolver (Apart.resolver (apart.asked _ _))
  | ready => exact outlet_of_resolver (Apart.resolver (apart.asked _ _))

theorem keeps_forwardDnsQuery (upstreamId : UInt16) (message : Bytes) :
    KeepsFlowing (forwardDnsQuery cfg upstreamId message) := by
  intro x hx
  refine ends_get_bind ?_
  split
  · refine Ends.bind (keeps_apart (apart.ask _ _) x hx) fun now x hx => Ends.record_bind ?_
    refine Ends.bind (R := fun _ => Flowing) (Ends.lifted (Ends.modify ⟨?_, hx.fresh⟩)) fun _ y hy => ?_
    · change x.2.written ++ (x.1.dnsWriteBuffer ++ wordBytes (UInt16.ofNat message.length) ++ wordBytes upstreamId ++
        message.drop 2) = queryFrames (x.2.queued ++ [(upstreamId, message)])
      rw [queryFrames_append, ← hx.split]
      simp only [queryFrame, List.append_assoc]
    · revert y
      refine Keeps.bind (keeps_ensureDnsConnection cfg) fun _ => Keeps.bind (keeps_flushDnsWrite cfg) fun _ => ?_
      exact keeps_updateDnsInterest
  · obtain ⟨engine, aborted⟩ := x.1.dnsEngine.abort upstreamId
    refine Ends.bind (R := fun _ => Flowing) (Ends.lifted ?_) fun _ y hy => ?_
    · exact hx.of_outlet rfl
    · exact keeps_apart (Reactor.apart_failTransactions cfg _) y hy

theorem keeps_promoteDns : KeepsFlowing (promoteDns cfg) := by
  refine Keeps.bind (fun x hx => Ends.lifted (Ends.modify ?_)) fun _ => keeps_flushDnsWrite cfg
  exact hx.connected rfl (by simp)

theorem outlet_setDnsHandshake (h : Proxy.Handshake) : Spares outlet Error.Other (Reactor.setDnsHandshake h) := by
  refine Spares.modify fun s => ?_
  cases hc : s.dnsConnection with
  | idle => rfl
  | connecting connected handshake =>
    unfold outlet
    dsimp only
    rw [hc]
  | ready => rfl

theorem outlet_sendDnsHandshake (h : Proxy.Handshake) (rounds : ℕ) :
    Spares outlet Error.Other (Reactor.sendDnsHandshake h rounds) := by
  induction rounds generalizing h with
  | zero => exact Spares.pure _
  | succ rounds ih =>
    unfold Reactor.sendDnsHandshake
    split
    · exact Spares.pure _
    refine (outlet_of_resolver (Apart.resolver (apart.send _))).bind fun answer => ?_
    split
    · exact Spares.pure _
    · obtain ⟨advanced, result⟩ := h.advanceOutput _
      refine (outlet_setDnsHandshake advanced).bind fun _ => ?_
      cases result with
      | ok a => exact ih advanced
      | error e => exact Spares.pure _
    · exact Spares.pure _
    · exact Spares.pure _

theorem outlet_readDnsHandshake (h : Proxy.Handshake) :
    Spares outlet Error.Other (Reactor.readDnsHandshake h) := by
  refine (outlet_of_resolver (Apart.resolver (apart.recv _))).bind fun answer => ?_
  split
  · exact Spares.pure _
  · obtain ⟨received, result⟩ := h.receive _
    refine (outlet_setDnsHandshake received).bind fun _ => ?_
    split
    · exact Spares.pure _
    · refine (outlet_of_resolver (Apart.resolver (apart.ask _ _))).bind fun answer => ?_
      cases answer with
      | error e => exact Spares.throw trivial
      | ok inflow =>
        dsimp only
        split <;> exact Spares.pure _
    · exact Spares.pure _
  · exact Spares.pure _
  · exact Spares.pure _

theorem outlet_processDnsRounds (rounds : ℕ) : Spares outlet Error.Other (Reactor.processDnsRounds cfg rounds) := by
  induction rounds with
  | zero => exact Spares.pure _
  | succ rounds ih =>
    refine Spares.get_bind fun s => ?_
    split
    · dsimp only
      split
      · exact (Spares.pure _ : Spares outlet Error.Other _) s
      · exact Spares.set_bind rfl
          ((outlet_of_resolver (Reactor.resolver_processDnsFrame cfg _)).bind fun _ => ih)
    · exact (Spares.pure _ : Spares outlet Error.Other _) s

theorem outlet_readDnsRounds (rounds : ℕ) : Spares outlet Error.Other (Reactor.readDnsRounds rounds) := by
  induction rounds with
  | zero => exact Spares.pure _
  | succ rounds ih =>
    refine (outlet_of_resolver (Apart.resolver (apart.recv _))).bind fun answer => ?_
    split
    · exact Spares.pure _
    · refine Spares.get_bind fun s => ?_
      split
      · exact (Spares.pure _ : Spares outlet Error.Other _) s
      · exact Spares.set_bind rfl ih
    · exact Spares.pure _
    · exact Spares.pure _

theorem outlet_readDnsStream : Spares outlet Error.Other (Reactor.readDnsStream cfg) := by
  refine Spares.get.bind fun s => ?_
  split
  · exact (outlet_readDnsRounds _).bind fun _ =>
      Spares.bind (Spares.get.bind fun _ => outlet_processDnsRounds cfg _) fun _ => Spares.pure _
  · exact Spares.pure _

theorem keeps_driveDnsRounds (rounds : ℕ) : KeepsFlowing (driveDnsRounds cfg rounds) := by
  induction rounds with
  | zero => exact Keeps.pure _
  | succ rounds ih =>
    refine Keeps.bind (keeps_lifted (E := Error.Other) Spares.get) fun s => ?_
    split
    · split
      · exact keeps_promoteDns cfg
      refine Keeps.bind (keeps_lifted (outlet_sendDnsHandshake _ _)) fun stage => ?_
      cases stage with
      | failed => exact keeps_failDnsConnection cfg
      | wait => exact Keeps.pure _
      | proceed h =>
        dsimp only
        split
        · refine Keeps.bind (keeps_lifted (outlet_readDnsHandshake _)) fun stage => ?_
          cases stage with
          | failed => exact keeps_failDnsConnection cfg
          | wait => exact Keeps.pure _
          | proceed h => exact ih
        · exact ih
    · exact keeps_promoteDns cfg
    · exact Keeps.pure _

theorem keeps_finishDnsConnect (events : UInt32) : KeepsFlowing (finishDnsConnect cfg events) := by
  unfold finishDnsConnect
  split
  · refine Keeps.bind (keeps_apart (apart.asked _ _)) fun error => ?_
    split
    · exact Keeps.bind (keeps_failDnsConnection cfg) fun _ => Keeps.pure _
    · refine Keeps.bind (keeps_lifted (E := Error.Other) (Spares.modify fun s => ?_)) fun _ => Keeps.pure _
      cases hc : s.dnsConnection with
      | idle => rfl
      | connecting connected handshake =>
        unfold outlet
        dsimp only
        rw [hc]
      | ready => rfl
  · exact Keeps.pure _

theorem keeps_driveDnsConnect (events : UInt32) : KeepsFlowing (driveDnsConnect cfg events) := by
  refine Keeps.bind (keeps_lifted (E := Error.Other) Spares.get) fun s => ?_
  split
  · have hready : ∀ ready, KeepsFlowing (if ready = true then (do
        driveDnsRounds cfg handshakeRounds
        pure true) else pure false : Noted Bool) := by
      intro ready
      cases ready with
      | true => exact Keeps.bind (keeps_driveDnsRounds cfg _) fun _ => Keeps.pure _
      | false => exact Keeps.pure _
    split
    · exact hready true
    · exact Keeps.bind (keeps_finishDnsConnect cfg events) hready
  · exact Keeps.pure _

theorem keeps_driveDnsStream (events : UInt32) : KeepsFlowing (driveDnsStream cfg events) := by
  refine Keeps.bind (keeps_lifted (E := Error.Other) Spares.get) fun s => ?_
  split
  · refine Keeps.when_bind (keeps_flushDnsWrite cfg) ?_
    split
    · refine Keeps.bind (keeps_lifted (outlet_readDnsStream cfg)) fun alive => ?_
      cases alive with
      | true => exact Keeps.pure _
      | false => exact Keeps.bind (keeps_failDnsConnection cfg) fun _ => Keeps.pure _
    · exact Keeps.pure _
  · exact Keeps.pure _

theorem keeps_handleDnsUpstream (events : UInt32) : KeepsFlowing (handleDnsUpstream cfg events) := by
  refine Keeps.bind (keeps_lifted (E := Error.Other) Spares.get) fun s => ?_
  split
  · exact Keeps.pure _
  · have hdrive : ∀ failed, KeepsFlowing (if failed = true then failDnsConnection cfg else (do
        if ← driveDnsConnect cfg events then
          if ← driveDnsStream cfg events then lifted Reactor.updateDnsInterest else pure ()
        else pure ()) : Noted Unit) := by
      intro failed
      cases failed with
      | true => exact keeps_failDnsConnection cfg
      | false =>
        refine Keeps.bind (keeps_driveDnsConnect cfg events) fun going => ?_
        cases going with
        | false => exact Keeps.pure _
        | true =>
          refine Keeps.bind (keeps_driveDnsStream cfg events) fun alive => ?_
          cases alive with
          | true => exact keeps_updateDnsInterest
          | false => exact Keeps.pure _
    split
    · exact Keeps.bind (Keeps.bind (keeps_apart (apart.asked _ _)) fun error => Keeps.pure _) hdrive
    · exact hdrive false

theorem keeps_handleDnsTimers (now : Millis) : KeepsFlowing (handleDnsTimers cfg now) := by
  intro x hx
  refine ends_get_bind ?_
  obtain ⟨engine, expired⟩ := x.1.dnsEngine.expire now
  refine Ends.bind (R := fun _ => Flowing) (Ends.lifted (hx.of_outlet rfl)) fun _ y hy => ?_
  refine Ends.bind (keeps_apart (Reactor.apart_failTransactions cfg _) y hy) fun _ z hz => ?_
  refine Ends.record_bind (Ends.lifted (Ends.modify ?_))
  have hstay : z.1.dnsConnection ≠ .idle → Flowing
      (if z.1.dnsEngine.isIdle ∧ z.1.dnsWriteBuffer = [] ∧ dnsIdleTimeout ≤ now - z.1.dnsLastActivity then
        { z.1 with dnsConnection := .idle, dnsReadBuffer := [] } else z.1,
        if closesIdle z.1 now then {} else z.2) := by
    intro _
    unfold closesIdle
    by_cases hcloses : z.1.dnsEngine.isIdle ∧ z.1.dnsWriteBuffer = [] ∧ dnsIdleTimeout ≤ now - z.1.dnsLastActivity
    · rw [if_pos hcloses, if_pos (decide_eq_true hcloses)]
      refine ⟨?_, fun _ => rfl⟩
      change [] ++ z.1.dnsWriteBuffer = _
      rw [hcloses.2.1]
      rfl
    · rw [if_neg hcloses, if_neg (by simpa using hcloses)]
      exact hz
  cases hc : z.1.dnsConnection with
  | idle => exact hz
  | connecting connected handshake => exact hstay (by simp [hc])
  | ready => exact hstay (by simp [hc])

/-- The handlers of the resolver in any order, with anything else that leaves its connection alone between them. -/
inductive WriteRun : Reactor × Outflow → Prop
  | start {s : Reactor} (h : resolver s = (.idle, [], [])) : WriteRun (s, {})
  | elsewhere {x : Reactor × Outflow} {t : Reactor} (hx : WriteRun x) (h : resolver t = resolver x.1) :
      WriteRun (t, x.2)
  | forward {x : Reactor × Outflow} (hx : WriteRun x) (upstreamId : UInt16) (message : Bytes) :
      WriteRun (final (forwardDnsQuery cfg upstreamId message x))
  | upstream {x : Reactor × Outflow} (hx : WriteRun x) (events : UInt32) :
      WriteRun (final (handleDnsUpstream cfg events x))
  | timers {x : Reactor × Outflow} (hx : WriteRun x) (now : Millis) : WriteRun (final (handleDnsTimers cfg now x))

theorem WriteRun.flowing {x : Reactor × Outflow} (hx : WriteRun cfg x) : Flowing x := by
  induction hx with
  | @start s h =>
    obtain ⟨-, hrest⟩ := Prod.mk.inj h
    refine ⟨?_, fun _ => rfl⟩
    change [] ++ s.dnsWriteBuffer = _
    rw [(Prod.mk.inj hrest).1]
    rfl
  | elsewhere _ h ih =>
    obtain ⟨hconnection, hrest⟩ := Prod.mk.inj h
    refine ih.of_outlet ?_
    unfold outlet
    rw [hconnection, (Prod.mk.inj hrest).1]
  | forward _ upstreamId message ih => exact (keeps_forwardDnsQuery cfg upstreamId message _ ih).final
  | upstream _ events ih => exact (keeps_handleDnsUpstream cfg events _ ih).final
  | timers _ now ih => exact (keeps_handleDnsTimers cfg now _ ih).final

end Noted

/-- However its stream is cut, the resolver's messages are passed on, each once and in their order, exactly
when no event overflows the buffer. What is written to it is a start of the queries queued on its
connection, and a connection that is given up leaves nothing to the next. -/
theorem resolver_streams_kept (cfg : Config) :
    (∀ (events : List Reactor.ReadEvent) (messages : List Bytes), (∀ message ∈ messages, message.length < 65536) →
      Reactor.receivedAll events = framedAll messages →
      (Reactor.Delivers cfg [] events messages [] ↔ Reactor.Within [] events)) ∧
    (∀ x, Noted.WriteRun cfg x →
      x.2.written <+: queryFrames x.2.queued ∧ (x.1.dnsConnection = .idle → x.2.written = [])) ∧
    (∀ s, Ends (Reactor.failDnsConnection cfg) s (fun _ t => resolver t = (.idle, [], []))
      fun _ t => resolver t = (.idle, [], [])) ∧
    (∀ upstreamId message, Erases (Noted.forwardDnsQuery cfg upstreamId message)
      (Reactor.forwardDnsQuery cfg upstreamId message)) ∧
    (∀ events, Erases (Noted.handleDnsUpstream cfg events) (Reactor.handleDnsUpstream cfg events)) ∧
    ∀ now, Erases (Noted.handleDnsTimers cfg now) (Reactor.handleDnsTimers cfg now) := by
  refine ⟨fun events messages hmessages hstream => Reactor.delivers_iff_within cfg hmessages hstream, ?_,
    Noted.cleared_failDnsConnection cfg, Noted.erases_forwardDnsQuery cfg, Noted.erases_handleDnsUpstream cfg,
    Noted.erases_handleDnsTimers cfg⟩
  intro x hx
  have hflowing := hx.flowing
  exact ⟨⟨x.1.dnsWriteBuffer, hflowing.split⟩, hflowing.fresh⟩

def splitEvents : List Reactor.ReadEvent :=
  [⟨[[0]], false, by decide⟩, ⟨[[3, 1], [2, 3]], true, by decide⟩]

def resolverConfig : Config := { Config.sample (.direct false) with dnsUpstream := some (.v4 0x08080808#32 53) }

def halting : Kernel :=
  { Kernel.quiet with send := Stream'.cons (.ok (.part 2)) (Stream'.const (.error .wouldBlock)) }

def partlyWritten : Reactor × Outflow :=
  final (Noted.handleDnsUpstream resolverConfig writable
    (final (Noted.forwardDnsQuery resolverConfig 7 [0, 0, 1] (Reactor.new resolverConfig halting {} 0 0, {}))))

theorem resolver_streams_kept_split :
    Reactor.Delivers (.sample (.direct false)) [] splitEvents [[1, 2, 3]] [] ∧
      partlyWritten.2.written = [0, 3] ∧ queryFrames partlyWritten.2.queued = [0, 3, 0, 7, 1] ∧
      partlyWritten.2.written <+: queryFrames partlyWritten.2.queued := by
  have hkept := (resolver_streams_kept (.sample (.direct false))).1 splitEvents [[1, 2, 3]] (by decide) rfl
  have hrun : Noted.WriteRun resolverConfig partlyWritten := by
    unfold partlyWritten
    exact .upstream (.forward (.start rfl) 7 [0, 0, 1]) writable
  exact ⟨hkept.mpr ⟨by decide, by decide, trivial⟩, by decide +kernel, by decide +kernel,
    ((resolver_streams_kept resolverConfig).2.1 _ hrun).1⟩

def pageMessage : Bytes := List.replicate 4094 0

theorem length_framed_pageMessage : (framed pageMessage).length = 4096 := by
  unfold framed pageMessage
  rw [List.length_append, List.length_replicate]
  rfl

/-- 33 such messages in one event. -/
def floodEvent : Reactor.ReadEvent where
  chunks := (List.replicate 33 pageMessage).map framed
  ended := false
  sizes := by
    intro chunk hchunk
    obtain ⟨message, hm, rfl⟩ := List.mem_map.mp hchunk
    rw [List.eq_of_mem_replicate hm, length_framed_pageMessage]
    omega

theorem flatten_framed (messages : List Bytes) : (messages.map framed).flatten = framedAll messages := by
  induction messages with
  | nil => rfl
  | cons message messages ih => exact congrArg (framed message ++ ·) ih

theorem flood_not_delivered :
    Reactor.receivedAll [floodEvent] = framedAll (List.replicate 33 pageMessage) ∧
      ¬ Reactor.Delivers (.sample (.direct false)) [] [floodEvent] (List.replicate 33 pageMessage) [] := by
  have hreceived : floodEvent.received.length = 33 * 4096 := by
    change ((List.replicate 33 pageMessage).map framed).flatten.length = _
    rw [List.map_replicate, List.length_flatten, List.map_replicate, length_framed_pageMessage]
    rfl
  refine ⟨?_, fun hdelivers => ?_⟩
  · change floodEvent.received ++ [] = _
    rw [List.append_nil]
    exact flatten_framed _
  · obtain ⟨hfits, -⟩ := hdelivers.within _ (Nat.zero_le _)
    rw [hreceived] at hfits
    unfold dnsReadBufferLimit at hfits
    simp at hfits

end Yayatht
