import Yayatht.ControlCodec
import Yayatht.MetricsMerge

set_option autoImplicit false

/-!
# Status clients

The supervisor takes the clients of the control socket between two looks at its children.
Every step for a client ends in `?`, up to the loop that keeps the target running.
-/
namespace Yayatht.Supervisor

/-- `reported` carries the payload that the text of the error is read from. -/
inductive Failure where
  | os (error : IoError)
  | control (error : Control.Error)
  | merge (error : MergeError)
  | reported (payload : Bytes)
  | other (text : String)
  | timedOut (text : String)
  | invalidData (text : String)
  deriving DecidableEq

/-- `reported` is a message of the namespace process, `lost` one of the supervisor about it. -/
inductive Error where
  | io (failure : Failure)
  | dataplane (text : String)
  | reported (payload : Bytes)
  | lost (text : String)
  deriving DecidableEq

/-- The JSON library; `member` is a document as a member of another one. -/
structure Json (ρ : Type) where
  fromSlice : Bytes → Except String (Document ρ)
  toVecPretty : Document ρ → Except String Bytes
  member : Document ρ → Value ρ

/-! ## One worker -/

/-- What a look at a worker's channel gives, and whether the deadline has passed by then. -/
structure Poll where
  packet : Except IoError Bytes
  late : Bool

/-- The channel of a worker during one query. After the polls the deadline has passed and
nothing has arrived. -/
structure Channel where
  sent : Except IoError Unit
  polls : List Poll

def recvPacket : Except IoError Bytes → Except IoError Bytes
  | .ok [] => .error .unexpectedEof
  | answer => answer

/-- A packet into a buffer for the largest message. -/
def receive (packet : Except IoError Bytes) : Except Failure Control.Message := do
  let bytes ← (recvPacket packet).mapError .os
  (Control.decode (bytes.take (Control.maxPayload + 20))).mapError .control

def requestIdBase : UInt64 := 0x6d65747269637300

def requestId (workerIndex : ℕ) : UInt64 := requestIdBase + UInt64.ofNat workerIndex

def timedOut (workerIndex : ℕ) : Failure :=
  .timedOut ("timed out querying data-plane worker " ++ toString workerIndex ++ " metrics")

variable {ρ : Type}

def awaitMetrics (json : Json ρ) (workerIndex : ℕ) : List Poll → Except Failure (Document ρ)
  | [] => .error (timedOut workerIndex)
  | poll :: polls =>
    match receive poll.packet with
    | .ok message =>
      if message.kind = .status ∧ message.requestId = requestId workerIndex then
        (json.fromSlice message.payload).mapError .other
      else if message.kind = .error then .error (.reported message.payload)
      else awaitMetrics json workerIndex polls
    | .error (.os .wouldBlock) =>
      if poll.late then .error (timedOut workerIndex) else awaitMetrics json workerIndex polls
    | .error failure => .error failure

def queryWorkerMetrics (json : Json ρ) (workerIndex : ℕ) (channel : Channel) : Except Failure (Document ρ) := do
  let _ ← (Control.encode .status (requestId workerIndex) []).mapError .control
  channel.sent.mapError .os
  awaitMetrics json workerIndex channel.polls

def queryEach (json : Json ρ) (channel : ℕ → Channel) : List ℕ → Except Failure (List (Document ρ))
  | [] => pure []
  | workerIndex :: rest => do
    let metrics ← queryWorkerMetrics json workerIndex (channel workerIndex)
    let others ← queryEach json channel rest
    pure (metrics :: others)

def queryDataplaneMetrics [DecidableEq ρ] (json : Json ρ) (workers : ℕ) (channel : ℕ → Channel) :
    Except Failure (Document ρ) := do
  let metrics ← queryEach json channel (List.range workers)
  (mergeDataplaneMetrics metrics).mapError .merge

/-! ## One client -/

/-- A client with the outcomes of the calls made for it. -/
structure Client where
  timeout : Except IoError Unit
  request : Except IoError Bytes
  channel : ℕ → Channel
  written : Except IoError Unit

def serveClient [DecidableEq ρ] (json : Json ρ) (metadataJson : Except String Bytes) (workers : ℕ)
    (client : Client) : Except Failure Unit := do
  client.timeout.mapError .os
  let request ← client.request.mapError .os
  let message ← (Control.decode (request.take 128)).mapError .control
  if message.kind = .status then
    let metadata ← metadataJson.mapError .other
    let payload ← (json.fromSlice metadata).mapError .other
    let metrics ← queryDataplaneMetrics json workers client.channel
    match payload with
    | .other _ => throw (.invalidData "invalid instance JSON")
    | .object fields =>
      let payload ← (json.toVecPretty (.object (fields.insert "dataplane" (json.member metrics)))).mapError .other
      let _ ← (Control.encode .status message.requestId payload).mapError .control
      client.written.mapError .os
  else pure ()

/-- The clients that wait, until `accept` fails. -/
def serveStatus [DecidableEq ρ] (json : Json ρ) (metadataJson : Except String Bytes) (workers : ℕ) :
    List Client → IoError → Except Failure Unit
  | [], .wouldBlock => pure ()
  | [], error => throw (.os error)
  | client :: clients, error => do
    serveClient json metadataJson workers client
    serveStatus json metadataJson workers clients error

/-! ## The running instance -/

inductive WaitStatus where
  | exited (code : ℕ)
  | signaled (signal : ℕ)
  | stillRunning
  | noChildren
  deriving DecidableEq, Repr

def sigchld : ℕ := 17

/-- A read of the signal descriptor that gives a signal or fails, and the call that passes it on. -/
structure Signal where
  number : Except IoError ℕ
  forwarded : Except IoError Unit

/-- One round of the supervisor with the outcomes of its calls. -/
structure Round where
  signals : List Signal
  clients : List Client
  accept : IoError
  packet : Except IoError Bytes
  workers : List (Except IoError WaitStatus)
  init : Except IoError WaitStatus

def forwardSignals : List Signal → Except Failure Unit
  | [] => pure ()
  | signal :: signals => do
    let number ← signal.number.mapError .os
    if number ≠ sigchld then signal.forwarded.mapError .os
    forwardSignals signals

/-- The exit code of the target once it has been reported. -/
def readControl (packet : Except IoError Bytes) : Except Error (Option ℤ) :=
  match receive packet with
  | .ok message =>
    if message.kind = .exit then
      if message.payload.length ≠ 4 then .error (.io (.invalidData "invalid exit status"))
      else .ok (some (BitVec.ofNat 32 (Wire.leValue message.payload)).toInt)
    else if message.kind = .error then .error (.reported message.payload)
    else .ok none
  | .error (.os .wouldBlock) => .ok none
  | .error (.os .unexpectedEof) => .error (.lost "control channel closed")
  | .error failure => .error (.io failure)

def watchWorkers : ℕ → List (Except IoError WaitStatus) → Except Error Unit
  | _, [] => pure ()
  | workerIndex, worker :: workers => do
    let status ← worker.mapError fun error => .io (.os error)
    if status ≠ .stillRunning then
      throw (.dataplane ("worker " ++ toString workerIndex ++ " exited before target command"))
    watchWorkers (workerIndex + 1) workers

/-- The exit code, or nothing when the supervisor sleeps before the next round. -/
def superviseRound [DecidableEq ρ] (json : Json ρ) (metadataJson : Except String Bytes) (round : Round) :
    Except Error (Option ℤ) := do
  (forwardSignals round.signals).mapError .io
  (serveStatus json metadataJson round.workers.length round.clients round.accept).mapError .io
  match ← readControl round.packet with
  | some code => pure (some code)
  | none =>
    watchWorkers 0 round.workers
    let status ← round.init.mapError fun error => .io (.os error)
    if status ≠ .stillRunning then throw (.lost "exited without target status")
    pure none

/-- The rounds up to the one that ends the run. -/
def superviseRunning [DecidableEq ρ] (json : Json ρ) (metadataJson : Except String Bytes) :
    List Round → Except Error (Option ℤ)
  | [] => pure none
  | round :: rounds => do
    match ← superviseRound json metadataJson round with
    | some code => pure (some code)
    | none => superviseRunning json metadataJson rounds

section Success

variable {ε ε' α β : Type} {m : Except ε α} {f : ε → ε'} {next : α → Except ε β} {a : α} {b : β}

theorem bind_eq_ok : (m >>= next) = .ok b ↔ ∃ a, m = .ok a ∧ next a = .ok b := by
  cases m with
  | error error => simp [bind, Except.bind]
  | ok value => simp [bind, Except.bind]

theorem mapError_eq_ok : m.mapError f = .ok a ↔ m = .ok a := by
  cases m <;> simp [Except.mapError]

end Success

variable {json : Json ρ} {metadataJson : Except String Bytes} {workers workerIndex : ℕ} {channel : ℕ → Channel}
  {client : Client} {polls : List Poll} {metrics : Document ρ}

/-! ## Workers that report -/

/-- A poll after which the query goes on. -/
def Waits (workerIndex : ℕ) (poll : Poll) : Prop :=
  match receive poll.packet with
  | .ok message =>
    ¬ (message.kind = .status ∧ message.requestId = requestId workerIndex) ∧ message.kind ≠ .error
  | .error failure => failure = .os .wouldBlock ∧ poll.late = false

/-- A packet with the metrics that the query asks for. -/
def Carries (json : Json ρ) (workerIndex : ℕ) (poll : Poll) (metrics : Document ρ) : Prop :=
  ∃ payload, receive poll.packet = .ok ⟨.status, requestId workerIndex, payload⟩ ∧
    json.fromSlice payload = .ok metrics

/-- The worker answers the query before the deadline, with metrics that can be read. -/
structure Reports (json : Json ρ) (workerIndex : ℕ) (channel : Channel) (metrics : Document ρ) : Prop where
  sent : channel.sent = .ok ()
  answer : ∃ before poll after, channel.polls = before ++ poll :: after ∧
    (∀ earlier ∈ before, Waits workerIndex earlier) ∧ Carries json workerIndex poll metrics

theorem awaitMetrics_waits {poll : Poll} (h : Waits workerIndex poll) :
    awaitMetrics json workerIndex (poll :: polls) = awaitMetrics json workerIndex polls := by
  rw [awaitMetrics]
  unfold Waits at h
  split at h
  · rename_i message hmessage
    simp only [hmessage]
    rw [if_neg h.1, if_neg h.2]
  · rename_i failure hfailure
    obtain ⟨rfl, hlate⟩ := h
    simp only [hfailure]
    rw [hlate, if_neg Bool.false_ne_true]

theorem awaitMetrics_carries {poll : Poll} (h : Carries json workerIndex poll metrics) :
    awaitMetrics json workerIndex (poll :: polls) = .ok metrics := by
  obtain ⟨payload, hpacket, hmetrics⟩ := h
  rw [awaitMetrics]
  simp only [hpacket]
  rw [if_pos ⟨trivial, trivial⟩]
  exact mapError_eq_ok.mpr hmetrics

theorem waits_or_carries {poll : Poll} (h : awaitMetrics json workerIndex (poll :: polls) = .ok metrics) :
    Waits workerIndex poll ∨ Carries json workerIndex poll metrics := by
  rw [awaitMetrics] at h
  unfold Waits Carries
  split at h
  · rename_i message hmessage
    simp only [hmessage]
    split at h
    · rename_i hours
      refine .inr ⟨message.payload, ?_, mapError_eq_ok.mp h⟩
      rw [← hours.1, ← hours.2]
    · rename_i hours
      split at h
      · cases h
      · rename_i hkind
        exact .inl ⟨hours, hkind⟩
  · rename_i hblock
    simp only [hblock]
    split at h
    · cases h
    · rename_i hlate
      exact .inl ⟨trivial, Bool.eq_false_iff.mpr hlate⟩
  · cases h

theorem awaitMetrics_eq_ok_iff : awaitMetrics json workerIndex polls = .ok metrics ↔
    ∃ before poll after, polls = before ++ poll :: after ∧ (∀ earlier ∈ before, Waits workerIndex earlier) ∧
      Carries json workerIndex poll metrics := by
  constructor
  · intro h
    induction polls with
    | nil => cases h
    | cons poll polls ih =>
      rcases waits_or_carries h with hwaits | hcarries
      · rw [awaitMetrics_waits hwaits] at h
        obtain ⟨before, last, after, rfl, hbefore, hlast⟩ := ih h
        exact ⟨poll :: before, last, after, rfl, List.forall_mem_cons.mpr ⟨hwaits, hbefore⟩, hlast⟩
      · exact ⟨[], poll, polls, rfl, fun _ hin => absurd hin List.not_mem_nil, hcarries⟩
  · rintro ⟨before, poll, after, rfl, hbefore, hcarries⟩
    induction before with
    | nil => exact awaitMetrics_carries hcarries
    | cons earlier before ih =>
      obtain ⟨hearlier, hrest⟩ := List.forall_mem_cons.mp hbefore
      rw [List.cons_append, awaitMetrics_waits hearlier]
      exact ih hrest

theorem encode_eq_ok_iff {kind : Control.Kind} {id : UInt64} {payload : Bytes} :
    (∃ bytes, Control.encode kind id payload = .ok bytes) ↔ payload.length ≤ Control.maxPayload := by
  unfold Control.encode
  split
  · rename_i hlong
    simp [not_le.mpr hlong]
  · rename_i hfits
    simp [not_lt.mp hfits]

theorem queryWorkerMetrics_eq_ok_iff {channel : Channel} :
    queryWorkerMetrics json workerIndex channel = .ok metrics ↔ Reports json workerIndex channel metrics := by
  have hencode : ∃ bytes, Control.encode .status (requestId workerIndex) [] = .ok bytes :=
    encode_eq_ok_iff.mpr (Nat.zero_le _)
  obtain ⟨bytes, hbytes⟩ := hencode
  unfold queryWorkerMetrics
  simp only [bind_eq_ok, mapError_eq_ok, hbytes, Except.ok.injEq, exists_eq_left', awaitMetrics_eq_ok_iff]
  constructor
  · rintro ⟨_, hsent, hanswer⟩
    exact ⟨hsent, hanswer⟩
  · intro h
    exact ⟨(), h.sent, h.answer⟩

theorem queryEach_eq_ok_iff {indices : List ℕ} {all : List (Document ρ)} :
    queryEach json channel indices = .ok all ↔
      List.Forall₂ (fun workerIndex metrics => Reports json workerIndex (channel workerIndex) metrics) indices all := by
  induction indices generalizing all with
  | nil =>
    rw [List.forall₂_nil_left_iff]
    simp only [queryEach, pure, Except.pure, Except.ok.injEq]
    exact eq_comm
  | cons workerIndex indices ih =>
    rw [List.forall₂_cons_left_iff]
    simp only [queryEach, bind_eq_ok, queryWorkerMetrics_eq_ok_iff, ih, pure, Except.pure, Except.ok.injEq]
    constructor
    · rintro ⟨metrics, hmetrics, others, hothers, rfl⟩
      exact ⟨metrics, others, hmetrics, hothers, rfl⟩
    · rintro ⟨metrics, others, hmetrics, hothers, rfl⟩
      exact ⟨metrics, hmetrics, others, hothers, rfl⟩

/-! ## Clients that are served -/

section Serving

variable [DecidableEq ρ]

/-- The status can be put together from the instance and the reports of all workers, it fits in
one message and the client takes it. -/
structure Answered (json : Json ρ) (metadataJson : Except String Bytes) (workers : ℕ) (client : Client)
    (metadata : Bytes) (fields : Object ρ) (reports : List (Document ρ)) (metrics : Document ρ) (payload : Bytes) :
    Prop where
  stored : metadataJson = .ok metadata
  object : json.fromSlice metadata = .ok (.object fields)
  reported : List.Forall₂ (fun workerIndex report => Reports json workerIndex (client.channel workerIndex) report)
    (List.range workers) reports
  merged : mergeDataplaneMetrics reports = .ok metrics
  serialized : json.toVecPretty (.object (fields.insert "dataplane" (json.member metrics))) = .ok payload
  fits : payload.length ≤ Control.maxPayload
  written : client.written = .ok ()

/-- The client sends a whole control message. If that asks for the status, it can be answered. -/
def Served (json : Json ρ) (metadataJson : Except String Bytes) (workers : ℕ) (client : Client) : Prop :=
  client.timeout = .ok () ∧ ∃ request message, client.request = .ok request ∧
    Control.decode (request.take 128) = .ok message ∧
    (message.kind = .status → ∃ metadata fields reports metrics payload,
      Answered json metadataJson workers client metadata fields reports metrics payload)

theorem queryDataplaneMetrics_eq_ok_iff : queryDataplaneMetrics json workers channel = .ok metrics ↔
    ∃ reports, List.Forall₂ (fun workerIndex report => Reports json workerIndex (channel workerIndex) report)
      (List.range workers) reports ∧ mergeDataplaneMetrics reports = .ok metrics := by
  unfold queryDataplaneMetrics
  simp only [bind_eq_ok, mapError_eq_ok, queryEach_eq_ok_iff]

theorem serveClient_eq_ok_iff : serveClient json metadataJson workers client = .ok () ↔
    Served json metadataJson workers client := by
  unfold serveClient Served
  simp only [bind_eq_ok, mapError_eq_ok]
  constructor
  · rintro ⟨_, htimeout, request, hrequest, message, hmessage, hanswer⟩
    refine ⟨htimeout, request, message, hrequest, hmessage, fun hkind => ?_⟩
    rw [if_pos hkind] at hanswer
    simp only [bind_eq_ok, mapError_eq_ok, queryDataplaneMetrics_eq_ok_iff] at hanswer
    obtain ⟨metadata, hstored, document, hdocument, metrics, ⟨reports, hreported, hmerged⟩, hreply⟩ := hanswer
    cases document with
    | other rest => cases hreply
    | object fields =>
      simp only [bind_eq_ok, mapError_eq_ok] at hreply
      obtain ⟨payload, hpayload, response, hresponse, hwritten⟩ := hreply
      exact ⟨metadata, fields, reports, metrics, payload, hstored, hdocument, hreported, hmerged, hpayload,
        encode_eq_ok_iff.mp ⟨response, hresponse⟩, hwritten⟩
  · rintro ⟨htimeout, request, message, hrequest, hmessage, hanswer⟩
    refine ⟨(), htimeout, request, hrequest, message, hmessage, ?_⟩
    split
    · rename_i hkind
      obtain ⟨metadata, fields, reports, metrics, payload, h⟩ := hanswer hkind
      obtain ⟨response, hresponse⟩ : ∃ response, Control.encode .status message.requestId payload = .ok response :=
        encode_eq_ok_iff.mpr h.fits
      simp only [bind_eq_ok, mapError_eq_ok, queryDataplaneMetrics_eq_ok_iff]
      refine ⟨metadata, h.stored, .object fields, h.object, metrics, ⟨reports, h.reported, h.merged⟩, ?_⟩
      simp only [bind_eq_ok, mapError_eq_ok]
      exact ⟨payload, h.serialized, response, hresponse, h.written⟩
    · rfl

theorem serveStatus_eq_ok_iff {clients : List Client} {accept : IoError} :
    serveStatus json metadataJson workers clients accept = .ok () ↔
      accept = .wouldBlock ∧ ∀ client ∈ clients, Served json metadataJson workers client := by
  induction clients with
  | nil => cases accept <;> simp [serveStatus, pure, Except.pure, throw, throwThe, MonadExceptOf.throw]
  | cons client clients ih =>
    rw [serveStatus, bind_eq_ok, List.forall_mem_cons]
    constructor
    · rintro ⟨_, hclient, hclients⟩
      obtain ⟨haccept, hserved⟩ := ih.mp hclients
      exact ⟨haccept, serveClient_eq_ok_iff.mp hclient, hserved⟩
    · rintro ⟨haccept, hclient, hserved⟩
      exact ⟨(), serveClient_eq_ok_iff.mpr hclient, ih.mpr ⟨haccept, hserved⟩⟩

/-! ## The instance without its clients -/

def Round.silent (round : Round) : Round := { round with clients := [], accept := .wouldBlock }

/-- No call of the round fails because of the clients that wait. -/
def Round.Calm (json : Json ρ) (metadataJson : Except String Bytes) (round : Round) : Prop :=
  round.accept = .wouldBlock ∧ ∀ client ∈ round.clients, Served json metadataJson round.workers.length client

theorem superviseRound_silent {round : Round} (h : round.Calm json metadataJson) :
    superviseRound json metadataJson round = superviseRound json metadataJson round.silent := by
  have hserved := serveStatus_eq_ok_iff.mpr h
  have hsilent : serveStatus json metadataJson round.workers.length [] .wouldBlock = .ok () := rfl
  unfold superviseRound Round.silent
  rw [hserved, hsilent]

theorem superviseRunning_silent {rounds : List Round} (h : ∀ round ∈ rounds, round.Calm json metadataJson) :
    superviseRunning json metadataJson rounds = superviseRunning json metadataJson (rounds.map Round.silent) := by
  induction rounds with
  | nil => rfl
  | cons round rounds ih =>
    obtain ⟨hround, hrounds⟩ := List.forall_mem_cons.mp h
    rw [List.map_cons, superviseRunning, superviseRunning, superviseRound_silent hround, ih hrounds]

theorem superviseRunning_append {before rounds : List Round}
    (h : superviseRunning json metadataJson before = .ok none) :
    superviseRunning json metadataJson (before ++ rounds) = superviseRunning json metadataJson rounds := by
  induction before with
  | nil => rfl
  | cons round before ih =>
    obtain ⟨ended, hround, hrest⟩ := bind_eq_ok.mp h
    rw [List.cons_append, superviseRunning, hround]
    cases ended with
    | some code => cases hrest
    | none => exact ih hrest

/-- A client that is not served ends the run, whatever the children do. -/
theorem superviseRunning_not_calm {before after : List Round} {round : Round}
    (hbefore : superviseRunning json metadataJson before = .ok none)
    (hsignals : forwardSignals round.signals = .ok ()) (h : ¬ round.Calm json metadataJson) :
    ∃ failure, superviseRunning json metadataJson (before ++ round :: after) = .error (.io failure) := by
  cases hserve : serveStatus json metadataJson round.workers.length round.clients round.accept with
  | ok done => exact absurd (serveStatus_eq_ok_iff.mp hserve) h
  | error failure =>
    refine ⟨failure, ?_⟩
    rw [superviseRunning_append hbefore, superviseRunning, superviseRound, hsignals, hserve]
    rfl

/-- The supervisor gets past the clients that wait exactly when every one of them is served.
Then the run is the one without clients; else it ends in the first round where one is not. -/
theorem status_harmless_iff (json : Json ρ) (metadataJson : Except String Bytes) :
    (∀ workers clients accept, serveStatus json metadataJson workers clients accept = .ok () ↔
      accept = .wouldBlock ∧ ∀ client ∈ clients, Served json metadataJson workers client) ∧
    (∀ rounds : List Round, (∀ round ∈ rounds, round.Calm json metadataJson) →
      superviseRunning json metadataJson rounds = superviseRunning json metadataJson (rounds.map Round.silent)) ∧
    ∀ (before after : List Round) (round : Round), superviseRunning json metadataJson before = .ok none →
      forwardSignals round.signals = .ok () → ¬ round.Calm json metadataJson →
      ∃ failure, superviseRunning json metadataJson (before ++ round :: after) = .error (.io failure) :=
  ⟨fun _ _ _ => serveStatus_eq_ok_iff, fun _ h => superviseRunning_silent h,
    fun _ _ _ hbefore hsignals h => superviseRunning_not_calm hbefore hsignals h⟩

end Serving

def emptyJson : Json Empty where
  fromSlice _ := .ok (.object ∅)
  toVecPretty _ := .ok [0x7b, 0x7d]
  member _ := .unsigned 0

def gone : Client where
  timeout := .ok ()
  request := .ok []
  channel _ := ⟨.ok (), []⟩
  written := .ok ()

def visited : Round where
  signals := []
  clients := [gone]
  accept := .wouldBlock
  packet := .error .wouldBlock
  workers := [.ok .stillRunning]
  init := .ok .stillRunning

theorem client_stops_instance :
    serveStatus emptyJson (.ok [0x7b, 0x7d]) 1 [gone] .wouldBlock =
        .error (.control (.invalidData "invalid control header")) ∧
      superviseRunning emptyJson (.ok [0x7b, 0x7d]) [visited] =
        .error (.io (.control (.invalidData "invalid control header"))) ∧
      superviseRunning emptyJson (.ok [0x7b, 0x7d]) [visited.silent] = .ok none ∧
      ¬ ∀ clients, serveStatus emptyJson (.ok [0x7b, 0x7d]) 1 clients .wouldBlock = .ok () := by
  refine ⟨rfl, rfl, rfl, fun h => ?_⟩
  have hok := h [gone]
  cases hok

end Yayatht.Supervisor
