import Yayatht.LaunchChannels

set_option autoImplicit false

namespace Yayatht.Launch
open Processes Processes.Program Supervisor

/-! ## A worker -/

/-- How a worker is shut in. -/
def confinement (sandbox : SandboxConfig) (limit : ℕ) : List Call :=
  [.setup (.setParentDeathSignal sigkill), .setup (.setNofileLimit limit)] ++
    (if sandbox.enabled then [.setup .disableCoreDumps, .setup .isolateFilesystem] else []) ++
    [.setup .dropAllCapabilities, .setup .setNoNewPrivs] ++
    if sandbox.enabled then [.setup (.installSeccomp .dataPlane)] else []

/-- The worker has its maps and its TAP, and the first thing it did was to confine itself. -/
structure Confined (index : ℕ) (sandbox : SandboxConfig) (config : WorkerConfig) (past : History) : Prop where
  maps : ∃ message, message.kind = .mapsReady ∧ Heard (.worker index) message past
  tap : ∃ bytes message, ⟨.recvFd index 128, .ok bytes⟩ ∈ past ∧ Control.decode bytes = .ok message ∧
    message.kind = .ready
  steps : ∃ limit, workerNofileLimit config = .ok limit ∧ confinement sandbox limit <+: deeds past

def WorkerRule (index : ℕ) (sandbox : SandboxConfig) (config : WorkerConfig) :
    Exchange Call Answer → History → Prop
  | ⟨.sendPacket _ packet, _⟩, past => ∃ message, Control.decode packet = .ok message ∧
      (message.kind = .ready ∨ message.kind = .error) ∧
      (message.kind = .ready → Confined index sandbox config past)
  | ⟨.runDataplane, _⟩, past => Confined index sandbox config past
  | _, _ => True

section Worker

variable {index : ℕ} {sandbox : SandboxConfig} {config : WorkerConfig} {past past' : History}

theorem Confined.later (h : Confined index sandbox config past) (hpast : past <:+ past') :
    Confined index sandbox config past' where
  maps := by
    obtain ⟨message, hkind, hheard⟩ := h.maps
    exact ⟨message, hkind, hheard.suffix hpast⟩
  tap := by
    obtain ⟨bytes, message, hmem, htap⟩ := h.tap
    exact ⟨bytes, message, hpast.subset hmem, htap⟩
  steps := by
    obtain ⟨limit, hlimit, hsteps⟩ := h.steps
    exact ⟨limit, hlimit, hsteps.trans (deeds_suffix hpast)⟩

theorem confineWorker_done {limit : ℕ} (hI : Whenever (WorkerRule index sandbox config) past) :
    Holds (Whenever (WorkerRule index sandbox config)) past (confineWorker sandbox limit).run
      (IfOk fun _ past' => ∃ calls, Done past calls past' ∧
        [.setup (.setParentDeathSignal sigkill)] ++ calls = confinement sandbox limit) := by
  unfold confineWorker confinement
  refine Holds.bindE (setup_done hI fun _ => trivial) fun _ past1 hI hnofile => ?_
  cases sandbox with
  | on =>
    refine Holds.bindE (setup_done hI fun _ => trivial) fun _ past2 hI hdumps => ?_
    refine Holds.bindE (setup_done hI fun _ => trivial) fun _ past3 hI hfiles => ?_
    refine Holds.bindE (setup_done hI fun _ => trivial) fun _ past4 hI hcaps => ?_
    refine Holds.bindE (setup_done hI fun _ => trivial) fun _ past5 hI hprivs => ?_
    refine (setup_done hI fun _ => trivial).post fun result past6 _ hseccomp => ?_
    cases result with
    | error e => exact trivial
    | ok u =>
      exact ⟨_, hnofile.1.trans (hdumps.1.trans (hfiles.1.trans (hcaps.1.trans (hprivs.1.trans hseccomp.1)))), rfl⟩
  | off =>
    refine Holds.bindE (setup_done hI fun _ => trivial) fun _ past2 hI hcaps => ?_
    refine Holds.bindE (setup_done hI fun _ => trivial) fun _ past3 hI hprivs => ?_
    exact .pureE hI ⟨_, hnofile.1.trans (hcaps.1.trans hprivs.1), rfl⟩

theorem serveDataplane_holds (hI : Whenever (WorkerRule index sandbox config) past) (hfirst : deeds past = []) :
    Holds (Whenever (WorkerRule index sandbox config)) past (serveDataplane index sandbox config).run
      (IfOk fun _ _ => True) := by
  unfold serveDataplane
  refine Holds.bindE (setup_done hI fun _ => trivial) fun _ past1 hI hsignal => ?_
  refine Holds.bindE (expect_done hI fun _ => trivial) fun _ past2 hI hmaps => ?_
  obtain ⟨hmaps, message, hkind, -, hheard⟩ := hmaps
  refine Holds.bindE (Holds.inquire hI fun _ => trivial) fun answer past3 hI hpast => ?_
  subst hpast
  refine Holds.bindE (orFail_ok hI) fun bytes past4 hI hpast => ?_
  obtain ⟨rfl, rfl⟩ := hpast
  refine Holds.bindE (Holds.settled hI fun _ _ => trivial) fun transfer past5 hI hpast => ?_
  obtain ⟨htransfer, rfl⟩ := hpast
  split
  · exact .throwE hI trivial
  rename_i hready
  refine Holds.bindE (Holds.settled hI fun _ _ => trivial) fun limit past6 hI hpast => ?_
  obtain ⟨hlimit, rfl⟩ := hpast
  refine Holds.bindE (confineWorker_done hI) fun _ past7 hI hconfined => ?_
  obtain ⟨calls, hcalls, hsteps⟩ := hconfined
  have hdone := hsignal.1.trans (hmaps.trans ((Done.cons ⟨.recvFd index 128, .ok bytes⟩ past2).trans hcalls))
  have hdecode : Control.decode bytes = .ok transfer := by
    cases h : Control.decode bytes with
    | error e =>
      rw [h] at htransfer
      cases htransfer
    | ok message =>
      rw [h] at htransfer
      cases htransfer
      rfl
  have hconfined : Confined index sandbox config past7 := by
    refine ⟨⟨message, hkind, (hheard.later _).suffix hcalls.suffix⟩, ⟨bytes, transfer, ?_, hdecode, not_not.mp hready⟩,
      limit, hlimit, ?_⟩
    · exact hcalls.suffix.subset List.mem_cons_self
    · rw [hdone.deeds_eq, hfirst, ← hsteps]
      exact List.prefix_rfl
  refine Holds.bindE (send_done hI fun packet _ h => ⟨_, h, .inl rfl, fun _ => hconfined⟩) fun _ past8 hI hsent => ?_
  refine Holds.bindE (setup_done hI fun _ => trivial) fun _ past9 hI hblock => ?_
  have hstill := hconfined.later (hsent.suffix.trans hblock.1.suffix)
  refine Holds.bindE (Holds.inquire hI fun _ => hstill) fun answer past10 hI hpast => ?_
  refine (Holds.settled (E := fun _ _ => True) hI fun _ _ => trivial).post fun result past' _ _ => ?_
  cases result with
  | ok u => exact trivial
  | error e => exact trivial

theorem dataPlaneChild_holds (render : Failure → Bytes) :
    Holds (Whenever (WorkerRule index sandbox config)) [] (dataPlaneChild render index sandbox config)
      fun _ _ => True := by
  refine .call [] _ _ trivial fun errorControl => ?_
  refine Holds.bind (serveDataplane_holds ⟨trivial, trivial⟩ rfl) fun result past hI _ => ?_
  cases result with
  | ok u => exact .call past _ _ hI fun _ => .ret _ _ ⟨trivial, hI⟩ trivial
  | error failure =>
    cases errorControl with
    | error e => exact .call past _ _ hI fun _ => .ret _ _ ⟨trivial, hI⟩ trivial
    | ok u =>
      have hrule : ∀ packet (a : Answer (.sendPacket (.worker index) packet)),
          Control.decode packet = .ok ⟨.error, 0, render failure⟩ →
            WorkerRule index sandbox config ⟨.sendPacket (.worker index) packet, a⟩ past :=
        fun packet _ h => ⟨_, h, .inr rfl, fun hkind => by cases hkind⟩
      refine Holds.bind (send_done hI hrule) fun _ past hI _ => ?_
      exact .call past _ _ hI fun _ => .ret _ _ ⟨trivial, hI⟩ trivial

end Worker

def namespaceSetup (config : LaunchConfig) (resolvConf : Bool) : List Call :=
  [.setup (.setParentDeathSignal sigkill), .setup .mountPrivateProc] ++
    (if resolvConf then [.setup .bindResolvConf] else []) ++
    (List.range config.workers).map (fun _ =>
      .setup (.createTap config.network.tapOffload (1 < config.workers))) ++
    [.setup .configureNamespace]

def handovers (config : LaunchConfig) (packet : Bytes) : List Call :=
  (List.range config.workers).map fun index => .sendFd index packet

structure Configured (config : LaunchConfig) (resolvConf : Bool) (past : History) : Prop where
  maps : ∃ message, message.kind = .mapsReady ∧ Heard .namespaceInit message past
  steps : namespaceSetup config resolvConf <+: deeds past

/-- The namespace is set up, and the TAPs are with the workers. -/
structure Prepared (config : LaunchConfig) (resolvConf : Bool) (past : History) : Prop
    extends Configured config resolvConf past where
  handed : ∃ packet, Control.decode packet = .ok ⟨.ready, 1, []⟩ ∧
    namespaceSetup config resolvConf ++ handovers config packet <+: deeds past

/-- What the end of a target is reported as. -/
def WaitStatus.outcome : WaitStatus → Option ℕ
  | .exited code => some code
  | .signaled signal => some (128 + signal)
  | _ => none

/-- The target ended, with this outcome. -/
def Ended (target : BitVec 32) (code : ℕ) (past : History) : Prop :=
  ∃ status, ⟨.waitAny, .ok (some (target, status))⟩ ∈ past ∧ WaitStatus.outcome status = some code

/-- The last that was asked is whether there are children, and there are none. -/
def NoneLeft (past : History) : Prop :=
  ∃ answer earlier, past = ⟨.waitAny, .ok answer⟩ :: earlier ∧
    (answer = none ∨ ∃ pid, answer = some (pid, .noChildren))

/-- When the init sends a message. -/
def InitSays (config : LaunchConfig) (resolvConf : Bool) (message : Control.Message) (past : History) : Prop :=
  match message.kind with
  | .ready => Prepared config resolvConf past
  | .status => ∃ target, ⟨.forkExec config.command, .ok target⟩ ∈ past ∧
      message.payload = Wire.leBytes 4 target.toNat
  | .exit => ∃ target code, ⟨.forkExec config.command, .ok target⟩ ∈ past ∧ Ended target code past ∧ NoneLeft past ∧
      message.payload = Wire.leBytes 4 code
  | .error => True
  | _ => False

def InitRule (config : LaunchConfig) (resolvConf : Bool) : Exchange Call Answer → History → Prop
  | ⟨.forkExec command, _⟩, past => command = config.command ∧ Prepared config resolvConf past ∧
      (∃ message, message.kind = .exec ∧ Heard .namespaceInit message past) ∧ ∀ command, .forkExec command ∉ deeds past
  | ⟨.sendFd _ _, _⟩, past => Configured config resolvConf past
  | ⟨.sendPacket _ packet, _⟩, past => ∃ message, Control.decode packet = .ok message ∧
      InitSays config resolvConf message past
  | _, _ => True

/-- The calls the rule of the init does not speak of. -/
def InitPlain : Call → Prop
  | .sendPacket _ _ => False
  | .sendFd _ _ => False
  | .forkExec _ => False
  | _ => True

section Init

variable {config : LaunchConfig} {resolvConf : Bool} {sandbox : SandboxConfig} {past past' : History}
  {target : BitVec 32} {mainStatus : Option ℕ}

theorem Configured.later (h : Configured config resolvConf past) (hpast : past <:+ past') :
    Configured config resolvConf past' where
  maps := by
    obtain ⟨message, hkind, hheard⟩ := h.maps
    exact ⟨message, hkind, hheard.suffix hpast⟩
  steps := h.steps.trans (deeds_suffix hpast)

theorem Prepared.later (h : Prepared config resolvConf past) (hpast : past <:+ past') :
    Prepared config resolvConf past' where
  toConfigured := h.toConfigured.later hpast
  handed := by
    obtain ⟨packet, hpacket, hsteps⟩ := h.handed
    exact ⟨packet, hpacket, hsteps.trans (deeds_suffix hpast)⟩

theorem initRule_plain {c : Call} {a : Answer c} (h : InitPlain c) : InitRule config resolvConf ⟨c, a⟩ past := by
  cases c with
  | sendPacket role packet => exact h.elim
  | sendFd worker packet => exact h.elim
  | forkExec command => exact h.elim
  | _ => exact trivial

theorem optionally_done {flag : Bool} {s : Setup} {P : Exchange Call Answer → History → Prop}
    (hI : Whenever P past) (hP : ∀ a, P ⟨.setup s, a⟩ past) :
    Holds (Whenever P) past (optionally flag (setup s)).run
      (IfOk fun _ past' => Done past (if flag then [.setup s] else []) past') := by
  cases flag with
  | false => exact .pureE hI (Done.refl past)
  | true =>
    refine (setup_done hI hP).post fun result past' _ hresult => ?_
    cases result with
    | ok u => exact hresult.1
    | error e => exact trivial

theorem forM_done {P : Exchange Call Answer → History → Prop} {f : ℕ → Proc Failure Unit} {g : ℕ → Call}
    (xs : List ℕ) (hI : Whenever P past)
    (hstep : ∀ calls x past', Done past calls past' → Whenever P past' →
      Holds (Whenever P) past' (f x).run (IfOk fun _ past'' => Done past' [g x] past'')) :
    Holds (Whenever P) past (xs.forM f).run (IfOk fun _ past' => Done past (xs.map g) past') := by
  refine Holds.forM (J := fun done past' => Done past (done.map g) past') xs hI (Done.refl past)
    fun done x past' hI hJ => ?_
  refine (hstep _ x past' hJ hI).post fun result past'' _ hresult => ?_
  cases result with
  | error e => exact trivial
  | ok u =>
    change Done past ((done ++ [x]).map g) past''
    rw [List.map_append]
    exact hJ.trans hresult

theorem prepareNamespace_holds (hI : Whenever (InitRule config resolvConf) past) (hfirst : deeds past = []) :
    Holds (Whenever (InitRule config resolvConf)) past (prepareNamespace config resolvConf).run
      (IfOk fun _ past' => Prepared config resolvConf past' ∧ ∀ command, .forkExec command ∉ deeds past') := by
  unfold prepareNamespace
  refine Holds.bindE (setup_done hI fun _ => trivial) fun _ past1 hI hsignal => ?_
  refine Holds.bindE (expect_done hI fun _ => trivial) fun _ past2 hI hmaps => ?_
  obtain ⟨hmaps, message, hkind, -, hheard⟩ := hmaps
  refine Holds.bindE (setup_done hI fun _ => trivial) fun _ past3 hI hproc => ?_
  refine Holds.bindE (optionally_done hI fun _ => trivial) fun _ past4 hI hresolv => ?_
  have htap : ∀ (calls : List Call) (index : ℕ) past', Done past4 calls past' →
      Whenever (InitRule config resolvConf) past' →
        Holds (Whenever (InitRule config resolvConf)) past'
          (setup (.createTap config.network.tapOffload (1 < config.workers))).run
          (IfOk fun _ past'' =>
            Done past' [.setup (.createTap config.network.tapOffload (1 < config.workers))] past'') := by
    intro calls index past' _ hI
    refine (setup_done hI fun _ => trivial).post fun result past'' _ hresult => ?_
    cases result with
    | ok u => exact hresult.1
    | error e => exact trivial
  refine Holds.bindE (forM_done _ hI htap) fun _ past5 hI htaps => ?_
  refine Holds.bindE (setup_done hI fun _ => trivial) fun _ past6 hI hnamespace => ?_
  have hdone := hsignal.1.trans (hmaps.trans (hproc.1.trans (hresolv.trans (htaps.trans hnamespace.1))))
  have hsteps : deeds past6 = namespaceSetup config resolvConf := by
    rw [hdone.deeds_eq, hfirst]
    simp only [namespaceSetup, List.nil_append, List.append_assoc, List.cons_append]
  have hsuffix : past2 <:+ past6 :=
    hproc.1.suffix.trans (hresolv.suffix.trans (htaps.suffix.trans hnamespace.1.suffix))
  have hconfigured : Configured config resolvConf past6 :=
    ⟨⟨message, hkind, hheard.suffix hsuffix⟩, hsteps ▸ List.prefix_rfl⟩
  refine Holds.bindE (Holds.settled hI fun _ _ => trivial) fun packet past7 hI hpast => ?_
  obtain ⟨hpacket, rfl⟩ := hpast
  have hdecode : Control.decode packet = .ok ⟨.ready, 1, []⟩ := by
    cases h : Control.encode .ready 1 [] with
    | error e =>
      rw [h] at hpacket
      cases hpacket
    | ok bytes =>
      rw [h] at hpacket
      cases hpacket
      exact Control.decode_of_encode h
  have hhand : ∀ (calls : List Call) (index : ℕ) past', Done past7 calls past' →
      Whenever (InitRule config resolvConf) past' →
        Holds (Whenever (InitRule config resolvConf)) past' (do orFail (← call (.sendFd index packet))).run
          (IfOk fun _ past'' => Done past' [.sendFd index packet] past'') := by
    intro calls index past' hpast' hI
    refine Holds.bindE (Holds.inquire hI fun _ => hconfigured.later hpast'.suffix) fun answer past'' hI hpast => ?_
    subst hpast
    refine (orFail_ok hI).post fun result past'' _ hresult => ?_
    cases result with
    | error e => exact trivial
    | ok u =>
      obtain ⟨rfl, rfl⟩ := hresult
      exact Done.cons ⟨.sendFd index packet, .ok ()⟩ past'
  refine Holds.bindE (forM_done _ hI hhand) fun _ past8 hI hhanded => ?_
  have hsteps' : deeds past8 = namespaceSetup config resolvConf ++ handovers config packet := by
    rw [hhanded.deeds_eq, hsteps]
    rfl
  have hprepared : Prepared config resolvConf past8 :=
    ⟨hconfigured.later hhanded.suffix, packet, hdecode, hsteps' ▸ List.prefix_rfl⟩
  have hsay : InitSays config resolvConf ⟨.ready, 1, []⟩ past8 := hprepared
  refine (send_done hI fun packet _ h => ⟨_, h, hsay⟩).post fun result past9 _ hresult => ?_
  cases result with
  | error e => exact trivial
  | ok u =>
    have hsent : Done past8 [] past9 := hresult
    refine ⟨hprepared.later hsent.suffix, fun command hmem => ?_⟩
    rw [hsent.deeds_eq, List.append_nil, hsteps'] at hmem
    simp only [namespaceSetup, handovers] at hmem
    cases resolvConf <;> simp at hmem

theorem calls_relaySignals : Calls InitPlain (relaySignals target).run := by
  refine Calls.repeating () fun _ => ?_
  refine Calls.bindE (Calls.inquire trivial) fun answer => Calls.bindE (calls_orFail _) fun signal => ?_
  cases signal with
  | none => exact .pureE _
  | some signal =>
    dsimp only
    split
    · exact Calls.bindE (Calls.inquire trivial) fun _ => Calls.bindE (calls_orFail _) fun _ => .pureE _
    · exact .pureE _

theorem calls_readShutdown : Calls InitPlain (readShutdown target).run := by
  refine Calls.bindE (calls_attempt (calls_receive trivial)) fun result => ?_
  split
  · split
    · exact Calls.bindE (Calls.inquire trivial) fun _ => calls_orFail _
    · exact .pureE _
  · exact .pureE _
  · exact Calls.bindE (Calls.inquire trivial) fun _ => calls_orFail _
  · exact .throwE _

/-- The target runs, and its status is the one that was reported. -/
structure Watching (config : LaunchConfig) (target : BitVec 32) (mainStatus : Option ℕ) (past : History) : Prop where
  started : ⟨.forkExec config.command, .ok target⟩ ∈ past
  ended : ∀ code, mainStatus = some code → Ended target code past

theorem Watching.suffix (h : Watching config target mainStatus past) (hpast : past <:+ past') :
    Watching config target mainStatus past' where
  started := hpast.subset h.started
  ended := by
    intro code hcode
    obtain ⟨status, hmem, hstatus⟩ := h.ended code hcode
    exact ⟨status, hpast.subset hmem, hstatus⟩

/-- A child that ended gives its status if it is the target. -/
theorem Watching.reap {pid : BitVec 32} {status : WaitStatus} {code : ℕ}
    (h : Watching config target mainStatus past) (hmem : ⟨.waitAny, .ok (some (pid, status))⟩ ∈ past)
    (hstatus : WaitStatus.outcome status = some code) :
    Watching config target (if pid = target then some code else mainStatus) past where
  started := h.started
  ended := by
    intro code' hcode
    split at hcode
    · rename_i hpid
      cases hcode
      exact ⟨status, hpid ▸ hmem, hstatus⟩
    · exact h.ended code' hcode

theorem reapChildren_holds (hI : Whenever (InitRule config resolvConf) past)
    (h : Watching config target mainStatus past) :
    Holds (Whenever (InitRule config resolvConf)) past (reapChildren target mainStatus).run
      (IfOk fun result past' => Watching config target result.1 past' ∧ (result.2 = true → NoneLeft past')) := by
  refine Holds.repeating (J := fun status past' => Whenever (InitRule config resolvConf) past' ∧
    Watching config target status past') ⟨hI, h⟩ fun status past' hJ => ?_
  obtain ⟨hI, h⟩ := hJ
  refine Holds.bindE (Holds.inquire hI fun _ => trivial) fun answer past'' hI hpast => ?_
  subst hpast
  refine Holds.bindE (orFail_ok hI) fun result past'' hI hpast => ?_
  obtain ⟨rfl, rfl⟩ := hpast
  have h := h.suffix (List.suffix_cons ⟨.waitAny, .ok result⟩ past')
  have hmem : (⟨.waitAny, .ok result⟩ : Exchange Call Answer) ∈ ⟨.waitAny, .ok result⟩ :: past' := List.mem_cons_self
  split
  · split
    · exact .pureE hI ⟨h, fun hdone => by cases hdone⟩
    · exact .pureE hI ⟨hI, h⟩
  · exact .pureE hI ⟨hI, h.reap hmem rfl⟩
  · exact .pureE hI ⟨hI, h.reap hmem rfl⟩
  · exact .pureE hI ⟨h, fun _ => ⟨_, past', rfl, .inr ⟨_, rfl⟩⟩⟩
  · exact .pureE hI ⟨h, fun _ => ⟨_, past', rfl, .inl rfl⟩⟩

theorem superviseTarget_holds (hI : Whenever (InitRule config resolvConf) past)
    (h : ⟨.forkExec config.command, .ok target⟩ ∈ past) :
    Holds (Whenever (InitRule config resolvConf)) past (superviseTarget target).run
      (IfOk fun code past' => ⟨.forkExec config.command, .ok target⟩ ∈ past' ∧ Ended target code past' ∧
        NoneLeft past') := by
  refine Holds.repeating (J := fun status past' => Whenever (InitRule config resolvConf) past' ∧
    Watching config target status past') ⟨hI, h, fun _ hcode => by cases hcode⟩ fun status past' hJ => ?_
  obtain ⟨hI, h⟩ := hJ
  have hplain : ∀ c a past, InitPlain c → InitRule config resolvConf ⟨c, a⟩ past := fun _ _ _ => initRule_plain
  refine Holds.bindE (plain_ok calls_relaySignals hI hplain) fun _ past1 hI hrelay => ?_
  refine Holds.bindE (plain_ok calls_readShutdown hI hplain) fun _ past2 hI hread => ?_
  refine Holds.bindE (reapChildren_holds hI (h.suffix (hrelay.trans hread))) fun result past3 hI hresult => ?_
  obtain ⟨h, hnone⟩ := hresult
  split
  · exact .pureE hI ⟨h.started, h.ended _ rfl, hnone rfl⟩
  · refine Holds.bindE (Holds.inquire hI fun _ => trivial) fun _ past4 hI hpast => ?_
    subst hpast
    exact .pureE hI ⟨hI, h.suffix (List.suffix_cons _ _)⟩

theorem namespaceChildInner_holds (hI : Whenever (InitRule config resolvConf) past) (hfirst : deeds past = []) :
    Holds (Whenever (InitRule config resolvConf)) past (namespaceChildInner config sandbox resolvConf).run
      (IfOk fun code past' => ∃ target, ⟨.forkExec config.command, .ok target⟩ ∈ past' ∧ Ended target code past' ∧
        NoneLeft past') := by
  unfold namespaceChildInner
  refine Holds.bindE (prepareNamespace_holds hI hfirst) fun _ past1 hI hprepared => ?_
  obtain ⟨hprepared, hunstarted⟩ := hprepared
  refine Holds.bindE (expect_done hI fun _ => trivial) fun _ past2 hI hexec => ?_
  obtain ⟨hexec, message, hkind, -, hheard⟩ := hexec
  refine Holds.bindE (Holds.settled hI fun _ _ => trivial) fun command past2 hI hcommand => ?_
  obtain ⟨hcommand, rfl⟩ := hcommand
  have hsame : command = config.command := by
    unfold cStrings at hcommand
    split at hcommand <;> cases hcommand
    rfl
  subst hsame
  refine Holds.bindE (setup_done hI fun _ => trivial) fun _ past3 hI hsignals => ?_
  have hwaiting := hexec.trans hsignals.1
  have hstart : ∀ a, InitRule config resolvConf ⟨.forkExec config.command, a⟩ past3 := by
    refine fun a => ⟨rfl, hprepared.later hwaiting.suffix, ⟨message, hkind, hheard.suffix hsignals.1.suffix⟩, ?_⟩
    intro command hmem
    rw [hwaiting.deeds_eq, List.mem_append] at hmem
    cases hmem with
    | inl hmem => exact hunstarted command hmem
    | inr hmem => simp at hmem
  have hfork : Holds (Whenever (InitRule config resolvConf)) past3 (forkExec config.command).run
      (IfOk fun target past' => ⟨.forkExec config.command, .ok target⟩ ∈ past') := by
    unfold forkExec
    split
    · exact .throwE hI trivial
    refine Holds.bindE (Holds.inquire hI hstart) fun answer past' hI hpast => ?_
    subst hpast
    refine (orFail_ok hI).post fun result past' _ hresult => ?_
    cases result with
    | error e => exact trivial
    | ok target =>
      obtain ⟨rfl, rfl⟩ := hresult
      exact List.mem_cons_self
  refine Holds.bindE hfork fun target past4 hI hstarted => ?_
  refine Holds.bindE (setup_done hI fun _ => trivial) fun _ past5 hI hblock => ?_
  have hstarted := hblock.1.suffix.subset hstarted
  have hrest : ∀ past', Whenever (InitRule config resolvConf) past' →
      ⟨.forkExec config.command, .ok target⟩ ∈ past' →
        Holds (Whenever (InitRule config resolvConf)) past'
          (do
            send .namespaceInit .status 2 (Wire.leBytes 4 target.toNat)
            superviseTarget target : Proc Failure ℕ).run
          (IfOk fun code past'' => ∃ target, ⟨.forkExec config.command, .ok target⟩ ∈ past'' ∧
            Ended target code past'' ∧ NoneLeft past'') := by
    intro past' hI hstarted
    have hsay : InitSays config resolvConf ⟨.status, 2, Wire.leBytes 4 target.toNat⟩ past' := ⟨target, hstarted, rfl⟩
    refine Holds.bindE (send_done hI fun packet _ h => ⟨_, h, hsay⟩) fun _ past'' hI hsent => ?_
    refine (superviseTarget_holds hI (hsent.suffix.subset hstarted)).post fun result past' _ hresult => ?_
    cases result with
    | error e => exact trivial
    | ok code => exact ⟨target, hresult⟩
  cases sandbox with
  | off => exact hrest past5 hI hstarted
  | on =>
    refine Holds.bindE (setup_done hI fun _ => trivial) fun _ past6 hI hprivs => ?_
    refine Holds.bindE (setup_done hI fun _ => trivial) fun _ past7 hI hseccomp => ?_
    exact hrest past7 hI ((hprivs.1.suffix.trans hseccomp.1.suffix).subset hstarted)

theorem namespaceChild_holds (render : Failure → Bytes) :
    Holds (Whenever (InitRule config resolvConf)) [] (namespaceChild render config sandbox resolvConf)
      fun _ _ => True := by
  refine Holds.bind (namespaceChildInner_holds trivial rfl) fun result past hI hresult => ?_
  cases result with
  | ok code =>
    obtain ⟨target, hstarted, hended, hnone⟩ := hresult
    have hsay : InitSays config resolvConf ⟨.exit, 3, Wire.leBytes 4 code⟩ past :=
      ⟨target, code, hstarted, hended, hnone, rfl⟩
    refine Holds.bind (send_done hI fun packet _ h => ⟨_, h, hsay⟩) fun _ past hI _ => ?_
    exact .call past _ _ hI fun _ => .ret _ _ ⟨trivial, hI⟩ trivial
  | error failure =>
    have hsay : InitSays config resolvConf ⟨.error, 0, render failure⟩ past := trivial
    refine Holds.bind (send_done hI fun packet _ h => ⟨_, h, hsay⟩) fun _ past hI _ => ?_
    exact .call past _ _ hI fun _ => .ret _ _ ⟨trivial, hI⟩ trivial

theorem started_once {command command' : List Bytes} {answer answer' : Except IoError (BitVec 32)}
    (h : Whenever (InitRule config resolvConf) past) (hmem : ⟨.forkExec command, answer⟩ ∈ past)
    (hmem' : ⟨.forkExec command', answer'⟩ ∈ past) :
    (⟨.forkExec command, answer⟩ : Exchange Call Answer) = ⟨.forkExec command', answer'⟩ := by
  have hdeed : ∀ {command answer past}, (⟨.forkExec command, answer⟩ : Exchange Call Answer) ∈ past →
      .forkExec command ∈ deeds past := fun hmem =>
    List.mem_reverse.mpr (List.mem_filterMap.mpr ⟨_, hmem, rfl⟩)
  induction past with
  | nil => cases hmem
  | cons e past ih =>
    cases List.mem_cons.mp hmem with
    | inl hfirst =>
      subst hfirst
      cases List.mem_cons.mp hmem' with
      | inl hsame => exact hsame.symm
      | inr hbefore => exact absurd (hdeed hbefore) (h.1.2.2.2 _)
    | inr hbefore =>
      cases List.mem_cons.mp hmem' with
      | inl hsame =>
        subst hsame
        exact absurd (hdeed hbefore) (h.1.2.2.2 _)
      | inr hbefore' => exact ih h.2 hbefore hbefore'

end Init

end Yayatht.Launch
