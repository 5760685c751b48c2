import Yayatht.LaunchConfig
import Yayatht.ProgramTrees
import Yayatht.StatusClients

set_option autoImplicit false

/-!
# The processes of an instance

The supervisor clones a data-plane worker for each queue and the init of the namespace,
brings them up over packet channels, lets the init start the target, and watches them
until the target has ended. Each of the three is a program over its system calls; what
the kernel answers is left to the run, within what `allows` says of packets, children
and their ends.
-/
namespace Yayatht.Launch
open Processes Processes.Program Supervisor

/-- A child of the supervisor. -/
inductive Role where
  | worker (index : ℕ)
  | namespaceInit
  deriving DecidableEq, Repr

inductive Party where
  | supervisor
  | child (role : Role)
  deriving DecidableEq, Repr

inductive SandboxConfig where
  | on
  | off
  deriving DecidableEq, Repr

def SandboxConfig.enabled : SandboxConfig → Bool
  | .on => true
  | .off => false

inductive Profile where
  | supervisor
  | dataPlane
  | namespaceInit
  deriving DecidableEq, Repr

/-- Calls that only succeed or fail. -/
inductive Setup where
  | ensureNofileCapacity (required : ℕ)
  | setChildSubreaper
  | blockSignals
  | createInstance
  | seqpacketPair
  | writeResolvConf (ipv4 : Option (BitVec 32)) (ipv6 : Option (BitVec 128))
  | writeIdentityMaps (role : Role)
  | updateChildren
  | setTarget (pid : BitVec 32)
  | setState (state : String)
  | setNonblocking (role : Role)
  | setNoNewPrivs
  | installSeccomp (profile : Profile)
  | setParentDeathSignal (signal : ℕ)
  | setNofileLimit (limit : ℕ)
  | disableCoreDumps
  | isolateFilesystem
  | dropAllCapabilities
  | mountPrivateProc
  | bindResolvConf
  | createTap (offload multiQueue : Bool)
  | configureNamespace
  deriving DecidableEq, Repr

/-- The control channel of a child has its name; the channel that carries the TAP of a worker
has that of the worker. -/
inductive Call where
  | setup (s : Setup)
  | dupControl
  | clone (role : Role)
  | sendPacket (role : Role) (packet : Bytes)
  | recvPacket (role : Role) (size : ℕ)
  | sendFd (worker : ℕ) (packet : Bytes)
  | recvFd (worker : ℕ) (size : ℕ)
  | kill (role : Role) (signal : ℕ)
  | wait (role : Role) (nohang : Bool)
  | waitAny
  | forkExec (command : List Bytes)
  | signalGroup (pid : BitVec 32) (signal : ℕ)
  | readSignal
  | serveStatus
  | runDataplane
  | sleep
  | exit (code : ℕ)
  deriving DecidableEq, Repr

abbrev Answer : Call → Type
  | .setup _ => Except IoError Unit
  | .dupControl => Except IoError Unit
  | .clone _ => Except IoError Unit
  | .sendPacket _ _ => Except IoError Unit
  | .recvPacket _ _ => Except IoError Bytes
  | .sendFd _ _ => Except IoError Unit
  | .recvFd _ _ => Except IoError Bytes
  | .kill _ _ => Except IoError Unit
  | .wait _ _ => Except IoError WaitStatus
  | .waitAny => Except IoError (Option (BitVec 32 × WaitStatus))
  | .forkExec _ => Except IoError (BitVec 32)
  | .signalGroup _ _ => Except IoError Unit
  | .readSignal => Except IoError (Option ℕ)
  | .serveStatus => Except Failure Unit
  | .runDataplane => Except Failure Unit
  | .sleep => Unit
  | .exit _ => Unit

inductive Error where
  | config (error : ConfigError)
  | io (failure : Failure)
  | dataplaneReported (payload : Bytes)
  | dataplane (text : String)
  | namespaceReported (payload : Bytes)
  | namespace (text : String)
  deriving DecidableEq

abbrev Proc (ε : Type) := ExceptT ε (Program Call Answer)

section Calls

variable {ε ε' α : Type}

abbrev call (c : Call) : Proc ε (Answer c) := Program.inquire c

abbrev liftExcept (r : Except ε α) : Proc ε α := Program.settled r

def setup (s : Setup) : Proc Failure Unit := do
  match ← call (.setup s) with
  | .ok () => pure ()
  | .error error => throw (.os error)

def orFail (answer : Except IoError α) : Proc Failure α := liftExcept (answer.mapError .os)

def attempt (p : Proc ε α) : Proc ε' (Except ε α) := ExceptT.mk (p.run.bind fun r => .ret (.ok r))

def optionally (flag : Bool) (p : Proc ε Unit) : Proc ε Unit := if flag then p else pure ()

def fromIo (p : Proc Failure α) : Proc Error α := do
  match ← attempt p with
  | .ok a => pure a
  | .error failure => throw (.io failure)

end Calls

/-! ## `control.rs` -/

def messageCapacity : ℕ := Control.maxPayload + 20

def send (role : Role) (kind : Control.Kind) (requestId : UInt64) (payload : Bytes) : Proc Failure Unit := do
  let packet ← liftExcept ((Control.encode kind requestId payload).mapError .control)
  orFail (← call (.sendPacket role packet))

def receive (role : Role) (size : ℕ) : Proc Failure Control.Message := do
  let bytes ← orFail (recvPacket (← call (.recvPacket role size)))
  liftExcept ((Control.decode bytes).mapError .control)

def expect (role : Role) (expected : Control.Kind) : Proc Failure Bytes := do
  let message ← receive role messageCapacity
  if message.kind = .error then throw (.reported message.payload)
  else if message.kind ≠ expected then throw (.invalidData "unexpected message")
  else pure message.payload

def sigkill : ℕ := 9
def sigterm : ℕ := 15

/-! ## A data-plane worker -/

def workerNofileLimit (c : WorkerConfig) : Except Failure ℕ :=
  (dataplaneNofileLimit c.maxTcpFlows c.maxUdpFlows c.maxUdpAssociations).mapError fun _ =>
    .control (.invalidInput "fd budget overflow")

def confineWorker (sandbox : SandboxConfig) (nofileLimit : ℕ) : Proc Failure Unit := do
  setup (.setNofileLimit nofileLimit)
  if sandbox.enabled then
    setup .disableCoreDumps
    setup .isolateFilesystem
  setup .dropAllCapabilities
  setup .setNoNewPrivs
  if sandbox.enabled then setup (.installSeccomp .dataPlane)

def serveDataplane (index : ℕ) (sandbox : SandboxConfig) (config : WorkerConfig) : Proc Failure Unit := do
  setup (.setParentDeathSignal sigkill)
  let _ ← expect (.worker index) .mapsReady
  let bytes ← orFail (← call (.recvFd index 128))
  let message ← liftExcept ((Control.decode bytes).mapError .control)
  if message.kind ≠ .ready then throw (.invalidData "invalid TAP transfer")
  let nofileLimit ← liftExcept (workerNofileLimit config)
  confineWorker sandbox nofileLimit
  send (.worker index) .ready 1 []
  setup (.setNonblocking (.worker index))
  liftExcept (← call .runDataplane)

/-- `render` is the text of an error. -/
def dataPlaneChild (render : Failure → Bytes) (index : ℕ) (sandbox : SandboxConfig) (config : WorkerConfig) :
    Program Call Answer Unit :=
  .call .dupControl fun errorControl =>
    (serveDataplane index sandbox config).run.bind fun
      | .ok () => .call (.exit 0) fun _ => .ret ()
      | .error failure =>
        match errorControl with
        | .ok () =>
          (send (.worker index) .error 0 (render failure)).run.bind fun _ => .call (.exit 125) fun _ => .ret ()
        | .error _ => .call (.exit 125) fun _ => .ret ()

/-! ## The init of the namespace -/

def cStrings (command : List Bytes) : Except Failure (List Bytes) :=
  if command.any fun value => value.contains 0 then
    .error (.control (.invalidInput "command contains an embedded NUL"))
  else .ok command

def forkExec (command : List Bytes) : Proc Failure (BitVec 32) := do
  if command = [] then throw (.control (.invalidInput "empty command"))
  orFail (← call (.forkExec command))

/-- The signals that arrived, but for `SIGCHLD`, go to the target. -/
def relaySignals (target : BitVec 32) : Proc Failure Unit :=
  repeating (fun () => do
    match ← orFail (← call .readSignal) with
    | none => pure (.inr ())
    | some signal =>
      if signal ≠ sigchld then orFail (← call (.signalGroup target signal))
      pure (.inl ())) ()

def readShutdown (target : BitVec 32) : Proc Failure Unit := do
  match ← attempt (receive .namespaceInit 128) with
  | .ok message => if message.kind = .shutdown then orFail (← call (.signalGroup target sigterm))
  | .error (.os .wouldBlock) => pure ()
  | .error (.os .unexpectedEof) => orFail (← call (.signalGroup target sigterm))
  | .error failure => throw failure

/-- Takes the children that ended. It leaves with the status of the target, if that is known, and
says whether there are no children left. -/
def reapChildren (target : BitVec 32) (mainStatus : Option ℕ) : Proc Failure (Option ℕ × Bool) :=
  repeating (fun mainStatus => do
    match ← orFail (← call .waitAny) with
    | some (pid, .stillRunning) => if pid = -1 then pure (.inr (mainStatus, false)) else pure (.inl mainStatus)
    | some (pid, .exited code) => pure (.inl (if pid = target then some code else mainStatus))
    | some (pid, .signaled signal) => pure (.inl (if pid = target then some (128 + signal) else mainStatus))
    | some (_, .noChildren) => pure (.inr (mainStatus, true))
    | none => pure (.inr (mainStatus, true))) mainStatus

def superviseTarget (target : BitVec 32) : Proc Failure ℕ :=
  repeating (fun mainStatus => do
    relaySignals target
    readShutdown target
    match ← reapChildren target mainStatus with
    | (some code, true) => pure (.inr code)
    | (mainStatus, _) =>
      let _ ← call .sleep
      pure (.inl mainStatus)) none

def prepareNamespace (config : LaunchConfig) (resolvConf : Bool) : Proc Failure Unit := do
  setup (.setParentDeathSignal sigkill)
  let _ ← expect .namespaceInit .mapsReady
  setup .mountPrivateProc
  optionally resolvConf (setup .bindResolvConf)
  (List.range config.workers).forM fun _ => setup (.createTap config.network.tapOffload (1 < config.workers))
  setup .configureNamespace
  let packet ← liftExcept ((Control.encode .ready 1 []).mapError .control)
  (List.range config.workers).forM fun index => do orFail (← call (.sendFd index packet))
  send .namespaceInit .ready 1 []

def namespaceChildInner (config : LaunchConfig) (sandbox : SandboxConfig) (resolvConf : Bool) : Proc Failure ℕ := do
  prepareNamespace config resolvConf
  let _ ← expect .namespaceInit .exec
  let command ← liftExcept (cStrings config.command)
  setup .blockSignals
  let target ← forkExec command
  setup (.setNonblocking .namespaceInit)
  if sandbox.enabled then
    setup .setNoNewPrivs
    setup (.installSeccomp .namespaceInit)
  send .namespaceInit .status 2 (Wire.leBytes 4 target.toNat)
  superviseTarget target

def namespaceChild (render : Failure → Bytes) (config : LaunchConfig) (sandbox : SandboxConfig) (resolvConf : Bool) :
    Program Call Answer Unit :=
  (namespaceChildInner config sandbox resolvConf).run.bind fun
    | .ok code =>
      (send .namespaceInit .exit 3 (Wire.leBytes 4 code)).run.bind fun _ => .call (.exit 0) fun _ => .ret ()
    | .error failure =>
      (send .namespaceInit .error 0 (render failure)).run.bind fun _ => .call (.exit 125) fun _ => .ret ()

/-! ## The supervisor -/

section Children

variable {ε : Type}

def killDataplanes (workers : List ℕ) : Proc ε Unit := do
  workers.forM fun index => do let _ ← call (.kill (.worker index) sigkill)
  workers.forM fun index => do let _ ← call (.wait (.worker index) false)

/-- Also what `ChildGuard` does when it is dropped. -/
def killChildren (workers : List ℕ) : Proc ε Unit := do
  workers.forM fun index => do let _ ← call (.kill (.worker index) sigkill)
  let _ ← call (.kill .namespaceInit sigkill)
  workers.forM fun index => do let _ ← call (.wait (.worker index) false)
  let _ ← call (.wait .namespaceInit false)

def shutdownDataplanes (workers : List ℕ) : Proc ε Unit :=
  match Control.encode .shutdown 3 [] with
  | .error _ => pure ()
  | .ok shutdown => workers.forM fun index => do let _ ← call (.sendPacket (.worker index) shutdown)

def waitDataplanes (workers : List ℕ) : Proc ε Unit :=
  workers.forM fun index => do let _ ← call (.wait (.worker index) false)

end Children

def expectReady (role : Role) : Proc Error Unit := do
  let message ← fromIo (receive role messageCapacity)
  match message.kind, role with
  | .ready, _ => pure ()
  | .error, .namespaceInit => throw (.namespaceReported message.payload)
  | .error, .worker _ => throw (.dataplaneReported message.payload)
  | _, _ => throw (.io (.invalidData "unexpected message"))

/-- The first list is still to be cloned, the second one has been. -/
def cloneWorkers : List ℕ → List ℕ → Proc Error Unit
  | [], _ => pure ()
  | index :: rest, workers => do
    match ← call (.setup .seqpacketPair) with
    | .error error =>
      killDataplanes workers
      throw (.io (.os error))
    | .ok () =>
      match ← call (.setup .seqpacketPair) with
      | .error error =>
        killDataplanes workers
        throw (.io (.os error))
      | .ok () =>
        match ← call (.clone (.worker index)) with
        | .error error =>
          killDataplanes workers
          throw (.io (.os error))
        | .ok () => cloneWorkers rest (workers ++ [index])

/-- A call after whose failure the children are killed at once. -/
def setupOrKill (workers : List ℕ) (s : Setup) : Proc Error Unit := do
  match ← call (.setup s) with
  | .ok () => pure ()
  | .error error =>
    killChildren workers
    throw (.io (.os error))

def readyOrKill (workers : List ℕ) (role : Role) : Proc Error Unit := do
  match ← attempt (expectReady role) with
  | .ok () => pure ()
  | .error error =>
    killChildren workers
    throw error

def forwardSignals : Proc Error Unit :=
  repeating (fun () => do
    match ← fromIo (do orFail (← call .readSignal)) with
    | none => pure (.inr ())
    | some signal =>
      if signal ≠ sigchld then fromIo (do orFail (← call (.kill .namespaceInit signal)))
      pure (.inl ())) ()

/-- The exit code of the target, once it was reported and the children are gone. -/
def readExit (workers : List ℕ) : Proc Error (Option ℤ) := do
  match ← attempt (receive .namespaceInit messageCapacity) with
  | .ok message =>
    if message.kind = .exit then
      if message.payload.length ≠ 4 then throw (.io (.invalidData "invalid exit status"))
      else
        shutdownDataplanes workers
        let _ ← call (.wait .namespaceInit false)
        waitDataplanes workers
        pure (some (BitVec.ofNat 32 (Wire.leValue message.payload)).toInt)
    else if message.kind = .error then throw (.namespaceReported message.payload)
    else pure none
  | .error (.os .wouldBlock) => pure none
  | .error (.os .unexpectedEof) => throw (.namespace "control channel closed")
  | .error failure => throw (.io failure)

def watchWorker (workers : List ℕ) (index : ℕ) : Proc Error Unit := do
  match ← fromIo (do orFail (← call (.wait (.worker index) true))) with
  | .stillRunning => pure ()
  | _ =>
    shutdownDataplanes workers
    let _ ← call (.kill .namespaceInit sigterm)
    let _ ← call (.wait .namespaceInit false)
    waitDataplanes workers
    throw (.dataplane ("worker " ++ toString index ++ " exited before target command"))

def watchNamespace (workers : List ℕ) : Proc Error Unit := do
  match ← fromIo (do orFail (← call (.wait .namespaceInit true))) with
  | .stillRunning => pure ()
  | _ =>
    shutdownDataplanes workers
    waitDataplanes workers
    throw (.namespace "exited without target status")

def superviseRunning (workers : List ℕ) : Proc Error ℤ :=
  repeating (fun () => do
    forwardSignals
    fromIo (do liftExcept (← call .serveStatus))
    match ← readExit workers with
    | some code => pure (.inr code)
    | none =>
      workers.forM (watchWorker workers)
      watchNamespace workers
      let _ ← call .sleep
      pure (.inl ())) ()

/-- From the maps to the start of the target. -/
def bringUp (workers : List ℕ) : Proc Error Unit := do
  workers.forM fun index => setupOrKill workers (.writeIdentityMaps (.worker index))
  setupOrKill workers (.writeIdentityMaps .namespaceInit)
  workers.forM fun index => fromIo (send (.worker index) .mapsReady 1 [])
  fromIo (send .namespaceInit .mapsReady 1 [])
  readyOrKill workers .namespaceInit
  workers.forM fun index => readyOrKill workers (.worker index)
  fromIo (setup .updateChildren)
  fromIo (send .namespaceInit .exec 2 [])

def recordTarget (workers : List ℕ) : Proc Error Unit := do
  let targetPayload ← fromIo (expect .namespaceInit .status)
  if targetPayload.length ≠ 4 then
    killChildren workers
    throw (.io (.invalidData "invalid target pid"))
  fromIo (setup (.setTarget (BitVec.ofNat 32 (Wire.leValue targetPayload))))

/-- What runs under the guard that kills the children when it fails. -/
def guardedRun (sandbox : SandboxConfig) (workers : List ℕ) : Proc Error ℤ := do
  bringUp workers
  recordTarget workers
  fromIo (setup (.setNonblocking .namespaceInit))
  workers.forM fun index => fromIo (setup (.setNonblocking (.worker index)))
  if sandbox.enabled then
    fromIo (setup .setNoNewPrivs)
    fromIo (setup (.installSeccomp .supervisor))
  superviseRunning workers

def underGuard (workers : List ℕ) (p : Proc Error ℤ) : Proc Error ℤ := do
  match ← attempt p with
  | .ok code => pure code
  | .error error =>
    killChildren workers
    throw error

def supervisorFdLimit (workers : ℕ) : ℕ := saturatingAdd u64Max (saturatingMul u64Max workers 4) 32

/-- The largest limit of a worker. -/
def dataplaneFdLimit (config : LaunchConfig) : Except Failure ℕ := do
  let limits ← (List.range config.workers).mapM fun index => workerNofileLimit (config.dataplane index)
  pure (limits.foldl max 0)

def prepare (config : LaunchConfig) : Proc Error Unit := do
  liftExcept (config.validate.mapError .config)
  let dataplaneLimit ← fromIo (liftExcept (dataplaneFdLimit config))
  fromIo (setup (.ensureNofileCapacity (max dataplaneLimit (supervisorFdLimit config.workers))))
  fromIo (setup .setChildSubreaper)
  fromIo (setup .blockSignals)
  fromIo (setup .createInstance)
  fromIo (setup .seqpacketPair)
  if config.dns.mode ≠ .off then
    fromIo (setup (.writeResolvConf config.network.gatewayIpv4 config.network.gatewayIpv6))

def run (config : LaunchConfig) (sandbox : SandboxConfig) : Proc Error ℤ := do
  prepare config
  let workers := List.range config.workers
  cloneWorkers workers []
  match ← call (.clone .namespaceInit) with
  | .error error =>
    killDataplanes workers
    throw (.io (.os error))
  | .ok () =>
    let code ← underGuard workers (guardedRun sandbox workers)
    fromIo (setup (.setState "exited"))
    pure code

def LaunchConfig.clearProxyCredentials (c : LaunchConfig) : LaunchConfig :=
  { c with
    upstream :=
      match c.upstream with
      | .direct hostLoopback => .direct hostLoopback
      | .proxy protocol address _ => .proxy protocol address none }

abbrev Returns : Party → Type
  | .supervisor => Except Error ℤ
  | .child _ => Unit

def programs (render : Failure → Bytes) (config : LaunchConfig) (sandbox : SandboxConfig) :
    (party : Party) → Program Call Answer (Returns party)
  | .supervisor => (run config sandbox).run
  | .child (.worker index) => dataPlaneChild render index sandbox (config.dataplane index)
  | .child .namespaceInit =>
    namespaceChild render (LaunchConfig.clearProxyCredentials config) sandbox (decide (config.dns.mode ≠ .off))

/-! ## The kernel -/

abbrev Journal := List (Occurrence Party Call Answer)

def peer (role : Role) : Party → Party
  | .supervisor => .child role
  | .child _ => .supervisor

/-- A packet that the party sent on a control channel. -/
def Occurrence.sentOn (who : Party) (role : Role) : Occurrence Party Call Answer → Option Bytes
  | ⟨party, .sendPacket channel packet, .ok ()⟩ => if party = who ∧ channel = role then some packet else none
  | _ => none

def Occurrence.receivedOn (who : Party) (role : Role) : Occurrence Party Call Answer → Bool
  | ⟨party, .recvPacket channel _, .ok (_ :: _)⟩ => party = who ∧ channel = role
  | _ => false

/-- The next packet for a party on a control channel: packets arrive in order, each once. -/
def nextPacket (journal : Journal) (who : Party) (role : Role) : Option Bytes :=
  (journal.filterMap (Occurrence.sentOn (peer role who) role)).reverse[journal.countP (Occurrence.receivedOn who role)]?

def Occurrence.passedTo (worker : ℕ) : Occurrence Party Call Answer → Option Bytes
  | ⟨.child .namespaceInit, .sendFd channel packet, .ok ()⟩ => if channel = worker then some packet else none
  | _ => none

def Occurrence.cloned (role : Role) : Occurrence Party Call Answer → Bool
  | ⟨.supervisor, .clone made, .ok ()⟩ => made = role
  | _ => false

/-- The end of a child was reported to the supervisor. -/
def Occurrence.reaped (role : Role) : Occurrence Party Call Answer → Bool
  | ⟨.supervisor, .wait child _, .ok (.exited _)⟩ => child = role
  | ⟨.supervisor, .wait child _, .ok (.signaled _)⟩ => child = role
  | _ => false

def Occurrence.exited (role : Role) : Occurrence Party Call Answer → Bool
  | ⟨.child child, .exit _, _⟩ => child = role
  | _ => false

/-- A child that was made and whose end was not reported. -/
def child (journal : Journal) (role : Role) : Bool :=
  journal.any (Occurrence.cloned role) && !journal.any (Occurrence.reaped role)

def running (journal : Journal) : Party → Bool
  | .supervisor => true
  | .child role => child journal role && !journal.any (Occurrence.exited role)

/-- An end that `wait` can report: codes are bytes, signals fit seven bits. -/
def WaitStatus.real : WaitStatus → Bool
  | .exited code => code < 256
  | .signaled signal => signal < 128
  | _ => true

/-- What the kernel may answer. -/
def allows (journal : Journal) (e : Occurrence Party Call Answer) : Bool :=
  running journal e.who &&
    match e with
    | ⟨who, .recvPacket role size, .ok (byte :: bytes)⟩ =>
      (nextPacket journal who role).any fun packet => packet.take size = byte :: bytes
    | ⟨_, .recvFd worker size, .ok bytes⟩ =>
      (journal.filterMap (Occurrence.passedTo worker)).any fun packet => packet.take size = bytes
    | ⟨.supervisor, .wait _ nohang, .ok .stillRunning⟩ => nohang
    | ⟨.supervisor, .wait role _, .ok .noChildren⟩ => !child journal role
    | ⟨.supervisor, .wait role _, .ok status⟩ => child journal role && WaitStatus.real status
    | ⟨_, .waitAny, .ok (some (_, status))⟩ => WaitStatus.real status
    | _ => true

/-- An instance running. -/
abbrev Runs (render : Failure → Bytes) (config : LaunchConfig) (sandbox : SandboxConfig) :=
  Run (fun journal e => allows journal e = true) (programs render config sandbox)

end Yayatht.Launch
