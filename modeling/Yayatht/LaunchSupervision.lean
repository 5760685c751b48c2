import Yayatht.LaunchChildren

set_option autoImplicit false

namespace Yayatht.Launch
open Processes Processes.Program Supervisor

/-! ## The supervisor -/

def children (config : LaunchConfig) : List Role := (List.range config.workers).map .worker ++ [.namespaceInit]

def Mapped (config : LaunchConfig) (past : History) : Prop :=
  ∀ role ∈ children config, ⟨.setup (.writeIdentityMaps role), .ok ()⟩ ∈ past

/-- All children said that they are ready. -/
structure AllReady (config : LaunchConfig) (past : History) : Prop where
  mapped : Mapped config past
  ready : ∀ role ∈ children config, ∃ message, message.kind = .ready ∧ Heard role message past
  recorded : ⟨.setup .updateChildren, .ok ()⟩ ∈ past

/-- When the supervisor sends a message. -/
def SupervisorSays (config : LaunchConfig) (role : Role) (message : Control.Message) (past : History) : Prop :=
  match message.kind with
  | .mapsReady => Mapped config past
  | .exec => role = .namespaceInit ∧ AllReady config past
  | .shutdown => True
  | _ => False

/-- A message of the init whose payload is a number of four bytes. -/
def Reported (kind : Control.Kind) (number : BitVec 32) (past : History) : Prop :=
  ∃ message, message.kind = kind ∧ Heard .namespaceInit message past ∧ message.payload.length = 4 ∧
    number = BitVec.ofNat 32 (Wire.leValue message.payload)

def SupervisorRule (config : LaunchConfig) : Exchange Call Answer → History → Prop
  | ⟨.sendPacket role packet, _⟩, past => ∃ message, Control.decode packet = .ok message ∧
      SupervisorSays config role message past
  | ⟨.clone (.worker index), _⟩, _ => index < config.workers
  | ⟨.setup (.setTarget target), _⟩, past => Reported .status target past
  | _, _ => True

/-- The calls the rule of the supervisor allows at any time. -/
def SupervisorPlain : Call → Prop
  | .sendPacket _ packet => ∃ message, Control.decode packet = .ok message ∧ message.kind = .shutdown
  | .clone _ => False
  | .setup (.setTarget _) => False
  | _ => True

section Supervisor

variable {config : LaunchConfig} {sandbox : SandboxConfig} {past past' : History} {ε : Type}

theorem Reported.suffix {kind : Control.Kind} {number : BitVec 32} (h : Reported kind number past)
    (hpast : past <:+ past') : Reported kind number past' := by
  obtain ⟨message, hkind, hheard, hmessage⟩ := h
  exact ⟨message, hkind, hheard.suffix hpast, hmessage⟩

theorem supervisorRule_plain (c : Call) (a : Answer c) (past : History) (h : SupervisorPlain c) :
    SupervisorRule config ⟨c, a⟩ past := by
  cases c with
  | sendPacket role packet =>
    obtain ⟨message, hdecode, hkind⟩ := h
    refine ⟨message, hdecode, ?_⟩
    unfold SupervisorSays
    rw [hkind]
    exact trivial
  | clone role => exact h.elim
  | setup s =>
    cases s with
    | setTarget target => exact h.elim
    | _ => exact trivial
  | _ => exact trivial

theorem supervisor_plain {α : Type} {p : Proc ε α} (h : Calls SupervisorPlain p.run)
    (hI : Whenever (SupervisorRule config) past) :
    Holds (Whenever (SupervisorRule config)) past p.run (IfOk fun _ past' => past <:+ past') :=
  plain_ok h hI fun c a past hc => supervisorRule_plain c a past hc

theorem calls_killDataplanes (workers : List ℕ) : Calls SupervisorPlain (killDataplanes workers : Proc ε Unit).run :=
  Calls.bindE (Calls.forM _ fun _ => Calls.bindE (Calls.inquire trivial) fun _ => .pureE _) fun _ =>
    Calls.forM _ fun _ => Calls.bindE (Calls.inquire trivial) fun _ => .pureE _

theorem calls_killChildren (workers : List ℕ) : Calls SupervisorPlain (killChildren workers : Proc ε Unit).run := by
  refine Calls.bindE (Calls.forM _ fun _ => Calls.bindE (Calls.inquire trivial) fun _ => .pureE _) fun _ => ?_
  refine Calls.bindE (Calls.inquire trivial) fun _ => ?_
  refine Calls.bindE (Calls.forM _ fun _ => Calls.bindE (Calls.inquire trivial) fun _ => .pureE _) fun _ => ?_
  exact Calls.bindE (Calls.inquire trivial) fun _ => .pureE _

theorem calls_shutdownDataplanes (workers : List ℕ) :
    Calls SupervisorPlain (shutdownDataplanes workers : Proc ε Unit).run := by
  unfold shutdownDataplanes
  cases hshutdown : Control.encode .shutdown 3 [] with
  | error e => exact .pureE _
  | ok shutdown =>
    refine Calls.forM _ fun index => Calls.bindE (Calls.inquire ?_) fun _ => .pureE _
    exact ⟨_, Control.decode_of_encode hshutdown, rfl⟩

theorem calls_waitDataplanes (workers : List ℕ) : Calls SupervisorPlain (waitDataplanes workers : Proc ε Unit).run :=
  Calls.forM _ fun _ => Calls.bindE (Calls.inquire trivial) fun _ => .pureE _

theorem calls_prepare : Calls SupervisorPlain (prepare config).run := by
  unfold prepare
  refine Calls.bindE (Calls.settled _) fun _ => ?_
  refine Calls.bindE (calls_fromIo (Calls.settled _)) fun limit => ?_
  refine Calls.bindE (calls_fromIo (calls_setup trivial)) fun _ => ?_
  refine Calls.bindE (calls_fromIo (calls_setup trivial)) fun _ => ?_
  refine Calls.bindE (calls_fromIo (calls_setup trivial)) fun _ => ?_
  refine Calls.bindE (calls_fromIo (calls_setup trivial)) fun _ => ?_
  refine Calls.bindE (calls_fromIo (calls_setup trivial)) fun _ => ?_
  split
  · exact calls_fromIo (calls_setup trivial)
  · exact .pureE _

theorem calls_forwardSignals : Calls SupervisorPlain forwardSignals.run := by
  refine Calls.repeating () fun _ => ?_
  refine Calls.bindE (calls_fromIo (Calls.bindE (Calls.inquire trivial) fun _ => calls_orFail _)) fun signal => ?_
  cases signal with
  | none => exact .pureE _
  | some signal =>
    dsimp only
    split
    · refine Calls.bindE (calls_fromIo (Calls.bindE (Calls.inquire trivial) fun _ => calls_orFail _)) fun _ => ?_
      exact .pureE _
    · exact .pureE _

theorem calls_watchWorker (workers : List ℕ) (index : ℕ) : Calls SupervisorPlain (watchWorker workers index).run := by
  refine Calls.bindE (calls_fromIo (Calls.bindE (Calls.inquire trivial) fun _ => calls_orFail _)) fun status => ?_
  split
  · exact .pureE _
  · refine Calls.bindE (calls_shutdownDataplanes workers) fun _ => ?_
    refine Calls.bindE (Calls.inquire trivial) fun _ => Calls.bindE (Calls.inquire trivial) fun _ => ?_
    exact Calls.bindE (calls_waitDataplanes workers) fun _ => .throwE _

theorem calls_watchNamespace (workers : List ℕ) : Calls SupervisorPlain (watchNamespace workers).run := by
  refine Calls.bindE (calls_fromIo (Calls.bindE (Calls.inquire trivial) fun _ => calls_orFail _)) fun status => ?_
  split
  · exact .pureE _
  · refine Calls.bindE (calls_shutdownDataplanes workers) fun _ => ?_
    exact Calls.bindE (calls_waitDataplanes workers) fun _ => .throwE _

theorem cloneWorkers_holds (hI : Whenever (SupervisorRule config) past) (xs workers : List ℕ)
    (hxs : ∀ index ∈ xs, index < config.workers) :
    Holds (Whenever (SupervisorRule config)) past (cloneWorkers xs workers).run
      (IfOk fun _ past' => past <:+ past') := by
  induction xs generalizing past workers with
  | nil => exact .pureE hI List.suffix_rfl
  | cons index rest ih =>
    have hstop : ∀ {past' : History} {e : Error}, Whenever (SupervisorRule config) past' →
        Holds (Whenever (SupervisorRule config)) past'
          (do
            killDataplanes workers
            throw e : Proc Error Unit).run (IfOk fun _ past'' => past <:+ past'') := fun hI =>
      Holds.bindE (supervisor_plain (calls_killDataplanes workers) hI) fun _ _ hI _ => .throwE hI trivial
    refine Holds.bindE (Holds.inquire hI fun _ => trivial) fun answer past1 hI hpast => ?_
    subst hpast
    cases answer with
    | error e => exact hstop hI
    | ok u =>
      refine Holds.bindE (Holds.inquire hI fun _ => trivial) fun answer past2 hI hpast => ?_
      subst hpast
      cases answer with
      | error e => exact hstop hI
      | ok u' =>
        refine Holds.bindE (Holds.inquire hI fun _ => hxs index List.mem_cons_self) fun answer past3 hI hpast => ?_
        subst hpast
        cases answer with
        | error e => exact hstop hI
        | ok u'' =>
          refine (ih hI _ fun index hmem => hxs index (List.mem_cons_of_mem _ hmem)).post
            fun result past' _ hresult => ?_
          cases result with
          | error e => exact trivial
          | ok _ =>
            change _ <:+ past' at hresult
            exact ((List.suffix_cons _ past).trans ((List.suffix_cons _ _).trans (List.suffix_cons _ _))).trans hresult

theorem setupOrKill_holds {s : Setup} (hI : Whenever (SupervisorRule config) past) (workers : List ℕ)
    (hs : SupervisorPlain (.setup s)) :
    Holds (Whenever (SupervisorRule config)) past (setupOrKill workers s).run
      (IfOk fun _ past' => past <:+ past' ∧ ⟨.setup s, .ok ()⟩ ∈ past') := by
  refine Holds.bindE (Holds.inquire hI fun a => supervisorRule_plain _ a past hs) fun answer past1 hI hpast => ?_
  subst hpast
  cases answer with
  | ok u => exact .pureE hI ⟨List.suffix_cons _ past, List.mem_cons_self⟩
  | error e => exact Holds.bindE (supervisor_plain (calls_killChildren workers) hI) fun _ _ hI _ => .throwE hI trivial

theorem expectReady_holds {role : Role} (hI : Whenever (SupervisorRule config) past) :
    Holds (Whenever (SupervisorRule config)) past (expectReady role).run
      (IfOk fun _ past' => past <:+ past' ∧ ∃ message, message.kind = .ready ∧ Heard role message past') := by
  refine Holds.bindE (fromIo_ok (receive_done hI fun _ => trivial)) fun message past1 hI hheard => ?_
  split
  · rename_i hkind
    exact .pureE hI ⟨hheard.1.suffix, message, hkind, hheard.2⟩
  · exact .throwE hI trivial
  · exact .throwE hI trivial
  · exact .throwE hI trivial

theorem readyOrKill_holds {role : Role} (hI : Whenever (SupervisorRule config) past) (workers : List ℕ) :
    Holds (Whenever (SupervisorRule config)) past (readyOrKill workers role).run
      (IfOk fun _ past' => past <:+ past' ∧ ∃ message, message.kind = .ready ∧ Heard role message past') := by
  refine Holds.bindE (attempt_holds (expectReady_holds hI)) fun result past1 hI hready => ?_
  cases result with
  | ok u => exact .pureE hI hready
  | error e => exact Holds.bindE (supervisor_plain (calls_killChildren workers) hI) fun _ _ hI _ => .throwE hI trivial

theorem forM_each {f : ℕ → Proc Error Unit} {F : ℕ → History → Prop} (xs : List ℕ)
    (hlater : ∀ {x past past'}, F x past → past <:+ past' → F x past') (hI : Whenever (SupervisorRule config) past)
    (hstep : ∀ x past', past <:+ past' → Whenever (SupervisorRule config) past' →
      Holds (Whenever (SupervisorRule config)) past' (f x).run (IfOk fun _ past'' => past' <:+ past'' ∧ F x past'')) :
    Holds (Whenever (SupervisorRule config)) past (xs.forM f).run
      (IfOk fun _ past' => past <:+ past' ∧ ∀ x ∈ xs, F x past') := by
  refine Holds.forM (J := fun done past' => past <:+ past' ∧ ∀ x ∈ done, F x past') xs hI
    ⟨List.suffix_rfl, fun _ hmem => by cases hmem⟩ fun done x past' hI hJ => ?_
  refine (hstep x past' hJ.1 hI).post fun result past'' _ hresult => ?_
  cases result with
  | error e => exact trivial
  | ok u =>
    refine ⟨hJ.1.trans hresult.1, fun y hmem => ?_⟩
    cases List.mem_append.mp hmem with
    | inl hdone => exact hlater (hJ.2 y hdone) hresult.1
    | inr hnew =>
      rw [List.mem_singleton] at hnew
      subst hnew
      exact hresult.2

theorem bringUp_holds (hI : Whenever (SupervisorRule config) past) :
    Holds (Whenever (SupervisorRule config)) past (bringUp (List.range config.workers)).run
      (IfOk fun _ past' => past <:+ past') := by
  unfold bringUp
  refine Holds.bindE (forM_each (F := fun index past => ⟨.setup (.writeIdentityMaps (.worker index)), .ok ()⟩ ∈ past) _
    (fun hmem hpast => hpast.subset hmem) hI
    fun index past' _ hI => setupOrKill_holds (s := .writeIdentityMaps (.worker index)) hI _ trivial)
    fun _ past1 hI hworkers => ?_
  refine Holds.bindE (setupOrKill_holds (s := .writeIdentityMaps .namespaceInit) hI _ trivial)
    fun _ past2 hI hinit => ?_
  have hmapped : Mapped config past2 := by
    intro role hrole
    cases List.mem_append.mp hrole with
    | inl hworker =>
      obtain ⟨index, hindex, rfl⟩ := List.mem_map.mp hworker
      exact hinit.1.subset (hworkers.2 index hindex)
    | inr hnamespace =>
      rw [List.mem_singleton] at hnamespace
      subst hnamespace
      exact hinit.2
  have htell : ∀ {role : Role} {past'}, past2 <:+ past' → Whenever (SupervisorRule config) past' →
      Holds (Whenever (SupervisorRule config)) past' (fromIo (send role .mapsReady 1 [])).run
        (IfOk fun _ past'' => past' <:+ past'') := by
    intro role past' hpast hI
    have hsay : SupervisorSays config role ⟨.mapsReady, 1, []⟩ past' :=
      fun role hrole => hpast.subset (hmapped role hrole)
    refine (fromIo_ok (send_done hI fun packet _ h => ⟨_, h, hsay⟩)).post fun result past'' _ hresult => ?_
    cases result with
    | ok u =>
      have hdone : Done past' [] past'' := hresult
      exact hdone.suffix
    | error e => exact trivial
  refine Holds.bindE (forM_each (F := fun _ _ => True) _ (fun _ _ => trivial) hI fun index past' hpast hI =>
    (htell hpast hI).post fun result _ _ hresult => ?_) fun _ past3 hI htold => ?_
  · exact (by cases result with | ok u => exact ⟨hresult, trivial⟩ | error e => exact trivial)
  refine Holds.bindE (htell htold.1 hI) fun _ past4 hI htold' => ?_
  refine Holds.bindE (readyOrKill_holds hI _) fun _ past5 hI hinitReady => ?_
  have hkeep : ∀ {index past past'}, (∃ message, message.kind = .ready ∧ Heard (.worker index) message past) →
      past <:+ past' → ∃ message, message.kind = .ready ∧ Heard (.worker index) message past' := by
    rintro index past past' ⟨message, hkind, hheard⟩ hpast
    exact ⟨message, hkind, hheard.suffix hpast⟩
  refine Holds.bindE (forM_each
    (F := fun index past => ∃ message, message.kind = .ready ∧ Heard (.worker index) message past) _ hkeep hI
    fun index past' _ hI => readyOrKill_holds hI _) fun _ past6 hI hready => ?_
  refine Holds.bindE (fromIo_ok (setup_done hI fun _ => trivial)) fun _ past7 hI hrecorded => ?_
  have hall : AllReady config past7 := by
    refine ⟨fun role hrole => ?_, fun role hrole => ?_, hrecorded.2⟩
    · have hmem := hmapped role hrole
      exact (htold.1.trans (htold'.trans (hinitReady.1.trans (hready.1.trans hrecorded.1.suffix)))).subset hmem
    · cases List.mem_append.mp hrole with
      | inl hworker =>
        obtain ⟨index, hindex, rfl⟩ := List.mem_map.mp hworker
        obtain ⟨message, hkind, hheard⟩ := hready.2 index hindex
        exact ⟨message, hkind, hheard.suffix hrecorded.1.suffix⟩
      | inr hnamespace =>
        rw [List.mem_singleton] at hnamespace
        subst hnamespace
        obtain ⟨message, hkind, hheard⟩ := hinitReady.2
        have hheard := hheard.suffix (hready.1.trans hrecorded.1.suffix)
        exact ⟨message, hkind, hheard⟩
  have hsay : SupervisorSays config .namespaceInit ⟨.exec, 2, []⟩ past7 := ⟨rfl, hall⟩
  refine (fromIo_ok (send_done hI fun packet _ h => ⟨_, h, hsay⟩)).post fun result past8 _ hresult => ?_
  cases result with
  | error e => exact trivial
  | ok u =>
    have hdone : Done past7 [] past8 := hresult
    refine hworkers.1.trans (hinit.1.trans (htold.1.trans (htold'.trans ?_)))
    exact hinitReady.1.trans (hready.1.trans (hrecorded.1.suffix.trans hdone.suffix))

theorem recordTarget_holds (hI : Whenever (SupervisorRule config) past) (workers : List ℕ) :
    Holds (Whenever (SupervisorRule config)) past (recordTarget workers).run
      (IfOk fun _ past' => ∃ target, ⟨.setup (.setTarget target), .ok ()⟩ ∈ past' ∧ Reported .status target past') := by
  refine Holds.bindE (fromIo_ok (expect_done hI fun _ => trivial)) fun payload past1 hI hstatus => ?_
  obtain ⟨-, message, hkind, rfl, hheard⟩ := hstatus
  split
  · exact Holds.bindE (supervisor_plain (calls_killChildren workers) hI) fun _ _ hI _ => .throwE hI trivial
  rename_i hlength
  have hreported : Reported .status (BitVec.ofNat 32 (Wire.leValue message.payload)) past1 :=
    ⟨message, hkind, hheard, not_not.mp hlength, rfl⟩
  have hrule : ∀ a, SupervisorRule config
      ⟨.setup (.setTarget (BitVec.ofNat 32 (Wire.leValue message.payload))), a⟩ past1 := fun _ => hreported
  refine (fromIo_ok (setup_done hI hrule)).post fun result past2 _ hresult => ?_
  cases result with
  | error e => exact trivial
  | ok u => exact ⟨_, hresult.2, hreported.suffix hresult.1.suffix⟩

theorem readExit_holds (hI : Whenever (SupervisorRule config) past) (workers : List ℕ) :
    Holds (Whenever (SupervisorRule config)) past (readExit workers).run
      (IfOk fun exit past' => past <:+ past' ∧
        ∀ code, exit = some code → ∃ number : BitVec 32, code = number.toInt ∧ Reported .exit number past') := by
  refine Holds.bindE (attempt_holds (receive_any hI fun _ => trivial)) fun result past1 hI hmessage => ?_
  obtain ⟨hpast, hheard⟩ := hmessage
  split
  · rename_i message
    split
    · rename_i hkind
      split
      · exact .throwE hI trivial
      rename_i hlength
      have hreported : Reported .exit (BitVec.ofNat 32 (Wire.leValue message.payload)) past1 :=
        ⟨message, hkind, hheard message rfl, not_not.mp hlength, rfl⟩
      refine Holds.bindE (supervisor_plain (calls_shutdownDataplanes workers) hI) fun _ past2 hI hshutdown => ?_
      refine Holds.bindE (supervisor_plain (Calls.inquire trivial) hI) fun _ past3 hI hwait => ?_
      refine Holds.bindE (supervisor_plain (calls_waitDataplanes workers) hI) fun _ past4 hI hwaits => ?_
      have hlater := hshutdown.trans (hwait.trans hwaits)
      refine .pureE hI ⟨hpast.trans hlater, fun code hcode => ?_⟩
      cases hcode
      exact ⟨_, rfl, hreported.suffix hlater⟩
    · split
      · exact .throwE hI trivial
      · exact .pureE hI ⟨hpast, fun code hcode => by cases hcode⟩
  · exact .pureE hI ⟨hpast, fun code hcode => by cases hcode⟩
  · exact .throwE hI trivial
  · exact .throwE hI trivial

theorem superviseRunning_holds (hI : Whenever (SupervisorRule config) past) (workers : List ℕ) :
    Holds (Whenever (SupervisorRule config)) past (superviseRunning workers).run
      (IfOk fun code past' => past <:+ past' ∧ ∃ number : BitVec 32, code = number.toInt ∧
        Reported .exit number past') := by
  refine Holds.repeating (J := fun _ past' => Whenever (SupervisorRule config) past' ∧ past <:+ past')
    ⟨hI, List.suffix_rfl⟩ fun _ past' hJ => ?_
  obtain ⟨hI, hpast⟩ := hJ
  refine Holds.bindE (supervisor_plain calls_forwardSignals hI) fun _ past1 hI hsignals => ?_
  refine Holds.bindE (supervisor_plain (calls_fromIo (Calls.bindE (Calls.inquire trivial) fun _ => Calls.settled _)) hI)
    fun _ past2 hI hstatus => ?_
  refine Holds.bindE (readExit_holds hI workers) fun exit past3 hI hexit => ?_
  have hpast := hpast.trans (hsignals.trans (hstatus.trans hexit.1))
  cases exit with
  | some code => exact .pureE hI ⟨hpast, hexit.2 code rfl⟩
  | none =>
    refine Holds.bindE (supervisor_plain (Calls.forM _ (calls_watchWorker workers)) hI) fun _ past4 hI hworkers => ?_
    refine Holds.bindE (supervisor_plain (calls_watchNamespace workers) hI) fun _ past5 hI hnamespace => ?_
    refine Holds.bindE (supervisor_plain (Calls.inquire trivial) hI) fun _ past6 hI hsleep => ?_
    exact .pureE hI ⟨hI, hpast.trans (hworkers.trans (hnamespace.trans hsleep))⟩

/-- What the supervisor knows when the target has ended. -/
structure Finished (code : ℤ) (past : History) : Prop where
  target : ∃ target, ⟨.setup (.setTarget target), .ok ()⟩ ∈ past ∧ Reported .status target past
  exit : ∃ number : BitVec 32, code = number.toInt ∧ Reported .exit number past

theorem Finished.suffix {code : ℤ} (h : Finished code past) (hpast : past <:+ past') : Finished code past' where
  target := by
    obtain ⟨target, hmem, hreported⟩ := h.target
    exact ⟨target, hpast.subset hmem, hreported.suffix hpast⟩
  exit := by
    obtain ⟨number, hcode, hreported⟩ := h.exit
    exact ⟨number, hcode, hreported.suffix hpast⟩

theorem guardedRun_holds (hI : Whenever (SupervisorRule config) past) :
    Holds (Whenever (SupervisorRule config)) past (guardedRun sandbox (List.range config.workers)).run
      (IfOk Finished) := by
  unfold guardedRun
  refine Holds.bindE (bringUp_holds hI) fun _ past1 hI _ => ?_
  refine Holds.bindE (recordTarget_holds hI _) fun _ past2 hI htarget => ?_
  obtain ⟨target, hmem, hreported⟩ := htarget
  refine Holds.bindE (supervisor_plain (calls_fromIo (calls_setup trivial)) hI) fun _ past3 hI hinit => ?_
  refine Holds.bindE (supervisor_plain (Calls.forM _ fun _ => calls_fromIo (calls_setup trivial)) hI)
    fun _ past4 hI hworkers => ?_
  have hwatch : ∀ past', past2 <:+ past' → Whenever (SupervisorRule config) past' →
      Holds (Whenever (SupervisorRule config)) past' (superviseRunning (List.range config.workers)).run
        (IfOk Finished) := by
    intro past' hpast hI
    refine (superviseRunning_holds hI _).post fun result past'' _ hresult => ?_
    cases result with
    | error e => exact trivial
    | ok code =>
      obtain ⟨hlater, number, hcode, hexit⟩ := hresult
      have hpast := hpast.trans hlater
      exact ⟨⟨target, hpast.subset hmem, hreported.suffix hpast⟩, number, hcode, hexit⟩
  have hpast := hinit.trans hworkers
  cases sandbox with
  | off => exact hwatch past4 hpast hI
  | on =>
    refine Holds.bindE (supervisor_plain (calls_fromIo (calls_setup trivial)) hI) fun _ past5 hI hprivs => ?_
    refine Holds.bindE (supervisor_plain (calls_fromIo (calls_setup trivial)) hI) fun _ past6 hI hseccomp => ?_
    exact hwatch past6 (hpast.trans (hprivs.trans hseccomp)) hI

theorem run_holds : Holds (Whenever (SupervisorRule config)) [] (run config sandbox).run (IfOk Finished) := by
  unfold run
  refine Holds.bindE (supervisor_plain calls_prepare trivial) fun _ past1 hI _ => ?_
  refine Holds.bindE (cloneWorkers_holds hI _ [] fun index hmem => List.mem_range.mp hmem) fun _ past2 hI _ => ?_
  refine Holds.bindE (Holds.inquire hI fun _ => trivial) fun answer past3 hI hpast => ?_
  subst hpast
  cases answer with
  | error e => exact Holds.bindE (supervisor_plain (calls_killDataplanes _) hI) fun _ _ hI _ => .throwE hI trivial
  | ok u =>
    have hguard : Holds (Whenever (SupervisorRule config)) (⟨.clone .namespaceInit, .ok u⟩ :: past2)
        (underGuard (List.range config.workers) (guardedRun sandbox (List.range config.workers))).run
        (IfOk Finished) := by
      refine Holds.bindE (attempt_holds (guardedRun_holds hI)) fun result past4 hI hresult => ?_
      cases result with
      | ok code => exact .pureE hI hresult
      | error e => exact Holds.bindE (supervisor_plain (calls_killChildren _) hI) fun _ _ hI _ => .throwE hI trivial
    refine Holds.bindE hguard fun code past4 hI hfinished => ?_
    refine Holds.bindE (supervisor_plain (calls_fromIo (calls_setup trivial)) hI) fun _ past5 hI hstate => ?_
    exact .pureE hI (hfinished.suffix hstate)

end Supervisor

end Yayatht.Launch
