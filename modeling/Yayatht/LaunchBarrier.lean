import Yayatht.LaunchSupervision

set_option autoImplicit false

namespace Yayatht.Launch
open Processes Processes.Program Supervisor

/-- Whether the file with the name servers is bound into the namespace. -/
abbrev bindsResolvConf (config : LaunchConfig) : Bool := decide (config.dns.mode ≠ .off)

section Runs

variable {render : Failure → Bytes} {config : LaunchConfig} {sandbox : SandboxConfig} {journal earlier : Journal}
  {now : (party : Party) → Program Call Answer (Returns party)}

theorem worker_rule (h : Runs render config sandbox journal now) (index : ℕ) :
    Whenever (WorkerRule index sandbox (config.dataplane index)) (mine (.child (.worker index)) journal) :=
  (Run.holds (i := Party.child (.worker index)) (dataPlaneChild_holds render) h).here

theorem init_rule (h : Runs render config sandbox journal now) :
    Whenever (InitRule config (bindsResolvConf config)) (mine (.child .namespaceInit) journal) :=
  (Run.holds (i := Party.child .namespaceInit) (namespaceChild_holds render) h).here

theorem supervisor_rule (h : Runs render config sandbox journal now) :
    Whenever (SupervisorRule config) (mine .supervisor journal) :=
  (Run.holds (i := Party.supervisor) run_holds h).here

theorem heard_supervisor (h : Runs render config sandbox journal now) (hearlier : earlier <:+ journal) {role : Role}
    {message : Control.Message} (hheard : Heard role message (mine (.child role) earlier)) :
    ∃ packet before, Sent role .supervisor message packet before earlier ∧
      SupervisorSays config role message (mine .supervisor before) :=
  heard_said h hearlier hheard (supervisor_rule h) fun _ _ _ hsaid => hsaid

theorem heard_init (h : Runs render config sandbox journal now) (hearlier : earlier <:+ journal)
    {message : Control.Message} (hheard : Heard .namespaceInit message (mine .supervisor earlier)) :
    ∃ packet before, Sent .namespaceInit (.child .namespaceInit) message packet before earlier ∧
      InitSays config (bindsResolvConf config) message (mine (.child .namespaceInit) before) :=
  heard_said h hearlier hheard (init_rule h) fun _ _ _ hsaid => hsaid

theorem heard_worker (h : Runs render config sandbox journal now) (hearlier : earlier <:+ journal) {index : ℕ}
    {message : Control.Message} (hkind : message.kind = .ready)
    (hheard : Heard (.worker index) message (mine .supervisor earlier)) :
    Confined index sandbox (config.dataplane index) (mine (.child (.worker index)) earlier) := by
  have hrule : ∀ packet a past, WorkerRule index sandbox (config.dataplane index)
      ⟨.sendPacket (.worker index) packet, a⟩ past → ∃ whole, Control.decode packet = .ok whole ∧
        (whole.kind = .ready → Confined index sandbox (config.dataplane index) past) := by
    rintro packet a past ⟨whole, hdecode, -, hready⟩
    exact ⟨whole, hdecode, hready⟩
  obtain ⟨packet, before, hsent, hsaid⟩ := heard_said h hearlier hheard (worker_rule h index) hrule
  exact (hsaid hkind).later (mine_suffix _ hsent.suffix)

/-- In every interleaving and whatever fails, the target is started once, by the command of the
configuration, and only when the maps of all children are written, the namespace is set up in order,
every worker has its TAP and has confined itself in order, and the supervisor recorded its children. -/
theorem target_starts_confined {later : Journal} {command : List Bytes} {answer : Except IoError (BitVec 32)}
    (h : Runs render config sandbox journal now)
    (hsplit : journal = later ++ ⟨.child .namespaceInit, .forkExec command, answer⟩ :: earlier) :
    command = config.command ∧
      (∀ command, .forkExec command ∉ deeds (mine (.child .namespaceInit) earlier)) ∧
      Prepared config (bindsResolvConf config) (mine (.child .namespaceInit) earlier) ∧
      (∀ index, index < config.workers →
        Confined index sandbox (config.dataplane index) (mine (.child (.worker index)) earlier)) ∧
      (∀ role ∈ children config,
        (⟨.supervisor, .setup (.writeIdentityMaps role), .ok ()⟩ : Occurrence Party Call Answer) ∈ earlier) ∧
      (⟨.supervisor, .setup .updateChildren, .ok ()⟩ : Occurrence Party Call Answer) ∈ earlier := by
  have hearlier : earlier <:+ journal := suffix_of_split hsplit
  obtain ⟨hcommand, hprepared, ⟨message, hkind, hheard⟩, honce⟩ := (init_rule h).at_split (mine_split hsplit)
  obtain ⟨packet, before, hsent, hsaid⟩ := heard_supervisor h hearlier hheard
  have hbefore := hsent.suffix
  unfold SupervisorSays at hsaid
  rw [hkind] at hsaid
  obtain ⟨-, hall⟩ := hsaid
  have hsubset : ∀ {c : Call} {a : Answer c}, ⟨c, a⟩ ∈ mine .supervisor before →
      (⟨.supervisor, c, a⟩ : Occurrence Party Call Answer) ∈ earlier := fun hmem => hbefore.subset (mem_mine.mp hmem)
  refine ⟨hcommand, honce, hprepared, fun index hindex => ?_, fun role hrole => hsubset (hall.mapped role hrole),
    hsubset hall.recorded⟩
  have hrole : .worker index ∈ children config :=
    List.mem_append_left _ (List.mem_map.mpr ⟨index, List.mem_range.mpr hindex, rfl⟩)
  obtain ⟨message, hkind, hheard⟩ := hall.ready (.worker index) hrole
  exact (heard_worker h (hbefore.trans hearlier) hkind hheard).later (mine_suffix _ hbefore)

/-- In every interleaving and whatever fails, the data plane of a worker runs only after the worker
confined itself in order, on a TAP that the init handed it, when the namespace was set up in order
and the maps of all children were written. -/
theorem dataplane_runs_confined {later : Journal} {index : ℕ} {answer : Except Failure Unit}
    (h : Runs render config sandbox journal now)
    (hsplit : journal = later ++ ⟨.child (.worker index), .runDataplane, answer⟩ :: earlier) :
    index < config.workers ∧
      Confined index sandbox (config.dataplane index) (mine (.child (.worker index)) earlier) ∧
      (∃ packet, (⟨.child .namespaceInit, .sendFd index packet, .ok ()⟩ : Occurrence Party Call Answer) ∈ earlier) ∧
      Configured config (bindsResolvConf config) (mine (.child .namespaceInit) earlier) ∧
      ∀ role ∈ children config,
        (⟨.supervisor, .setup (.writeIdentityMaps role), .ok ()⟩ : Occurrence Party Call Answer) ∈ earlier := by
  have hearlier : earlier <:+ journal := suffix_of_split hsplit
  have hconfined : Confined index sandbox (config.dataplane index) (mine (.child (.worker index)) earlier) :=
    (worker_rule h index).at_split (mine_split hsplit)
  have hindex : index < config.workers := by
    have hallowed := h.allowed hsplit
    unfold allows at hallowed
    obtain ⟨hrunning, _⟩ := Bool.and_eq_true_iff.mp hallowed
    obtain ⟨hchild, _⟩ := Bool.and_eq_true_iff.mp hrunning
    obtain ⟨hcloned, _⟩ := Bool.and_eq_true_iff.mp hchild
    obtain ⟨e, hmem, he⟩ := List.any_eq_true.mp hcloned
    unfold Occurrence.cloned at he
    split at he
    · rename_i made
      have hmade := of_decide_eq_true he
      subst hmade
      obtain ⟨after, before, hsplit'⟩ := List.append_of_mem hmem
      obtain ⟨later', hjournal⟩ := hearlier
      rw [hsplit', ← List.append_assoc] at hjournal
      exact (supervisor_rule h).at_split (mine_split hjournal.symm)
    · cases he
  obtain ⟨bytes, message, hmem, -⟩ := hconfined.tap
  obtain ⟨after, before, hsplit'⟩ := List.append_of_mem (mem_mine.mp hmem)
  have hbefore : before <:+ earlier := suffix_of_split hsplit'
  obtain ⟨later', hjournal⟩ := hearlier
  rw [hsplit', ← List.append_assoc] at hjournal
  obtain ⟨packet, hpassed⟩ := passed_of_received (h.allowed hjournal.symm)
  refine ⟨hindex, hconfined, ⟨packet, hbefore.subset hpassed⟩, ?_, ?_⟩
  · obtain ⟨after', before', hsplit''⟩ := List.append_of_mem hpassed
    rw [hsplit'', ← List.cons_append, ← List.append_assoc] at hjournal
    have hconfigured : Configured config (bindsResolvConf config) (mine (.child .namespaceInit) before') :=
      (init_rule h).at_split (mine_split hjournal.symm)
    exact hconfigured.later (mine_suffix _ ((suffix_of_split hsplit'').trans hbefore))
  · obtain ⟨message, hkind, hheard⟩ := hconfined.maps
    obtain ⟨packet, before, hsent, hsaid⟩ := heard_supervisor h (suffix_of_split hsplit) hheard
    unfold SupervisorSays at hsaid
    rw [hkind] at hsaid
    exact fun role hrole => hsent.suffix.subset (mem_mine.mp (hsaid role hrole))

end Runs

def twoWorkers : LaunchConfig := { LaunchConfig.fourWorkers with workers := 2 }

def packetOf (kind : Control.Kind) (requestId : UInt64) (payload : Bytes) : Bytes :=
  match Control.encode kind requestId payload with
  | .ok packet => packet
  | .error _ => []

/-- Every call succeeds; `packet` is what arrives, if anything does, and `reaped` the child that ended. -/
def answering (packet : Bytes) (reaped : Option (BitVec 32 × WaitStatus)) : (c : Call) → Answer c
  | .setup _ => .ok ()
  | .dupControl => .ok ()
  | .clone _ => .ok ()
  | .sendPacket _ _ => .ok ()
  | .recvPacket _ _ => if packet = [] then .error .wouldBlock else .ok packet
  | .sendFd _ _ => .ok ()
  | .recvFd _ _ => .ok packet
  | .kill _ _ => .ok ()
  | .wait _ nohang => .ok (if nohang then .stillRunning else .exited 0)
  | .waitAny => .ok reaped
  | .forkExec _ => .ok 7
  | .signalGroup _ _ => .ok ()
  | .readSignal => .ok none
  | .serveStatus => .ok ()
  | .runDataplane => .ok ()
  | .sleep => ()
  | .exit _ => ()

abbrev Schedule := List (Party × ((c : Call) → Answer c))

def Party.times (party : Party) (count : ℕ) : Schedule := List.replicate count (party, answering [] none)

def Party.takes (party : Party) (packet : Bytes) : Schedule := [(party, answering packet none)]

def handingOver : Schedule :=
  let init := Party.child .namespaceInit
  let worker := fun index => Party.child (.worker index)
  Party.supervisor.times 18 ++ init.times 1 ++ init.takes (packetOf .mapsReady 1 []) ++ init.times 7 ++
    (worker 0).times 2 ++ (worker 0).takes (packetOf .mapsReady 1 []) ++ (worker 0).takes (packetOf .ready 1 []) ++
    (worker 1).times 2 ++ (worker 1).takes (packetOf .mapsReady 1 []) ++ (worker 1).takes (packetOf .ready 1 [])

def releasing : Schedule :=
  handingOver ++ (Party.child (.worker 1)).times 8 ++ (Party.child (.worker 0)).times 7 ++
    Party.supervisor.takes (packetOf .ready 1 []) ++ Party.supervisor.takes (packetOf .ready 1 []) ++
    Party.supervisor.takes (packetOf .ready 1 []) ++ Party.supervisor.times 2

def starting : Schedule :=
  releasing ++ (Party.child .namespaceInit).takes (packetOf .exec 2 []) ++ (Party.child .namespaceInit).times 2

def lastIs (party : Party) (c : Call) {β : Type 1} (run : Journal × β) : Bool :=
  (run.1.head?.map fun e => (e.who, e.call)) = some (party, c)

theorem last_split {party : Party} {c : Call} {journal : Journal} {β : Type 1} {now : β}
    (h : lastIs party c (journal, now) = true) : ∃ answer earlier, journal = [] ++ ⟨party, c, answer⟩ :: earlier := by
  have hlast := of_decide_eq_true h
  cases journal with
  | nil => cases hlast
  | cons e earlier =>
    obtain ⟨who, call, answer⟩ := e
    cases hlast
    exact ⟨answer, earlier, rfl⟩

/-- The word was given, and the first call of the target is next. -/
theorem target_starts_confined_two : ∃ answer earlier now,
    Runs (fun _ => []) twoWorkers .on (⟨.child .namespaceInit, .forkExec [[115, 104]], answer⟩ :: earlier) now ∧
      ∀ index, index < 2 →
        Confined index .on (twoWorkers.dataplane index) (mine (.child (.worker index)) earlier) := by
  have hreplay : (replayed allows starting [] (programs (fun _ => []) twoWorkers .on)).any
      (lastIs (.child .namespaceInit) (.forkExec [[115, 104]])) = true := by decide +kernel
  obtain ⟨journal, now, hrun, hlast⟩ := Run.exists_replayed starting _ hreplay
  obtain ⟨answer, earlier, hsplit⟩ := last_split hlast
  have hstart := target_starts_confined hrun hsplit
  rw [hsplit] at hrun
  exact ⟨answer, earlier, now, hrun, hstart.2.2.2.1⟩

/-- The second worker is ready before the first. -/
theorem dataplane_runs_confined_two : ∃ answer earlier now,
    Runs (fun _ => []) twoWorkers .on (⟨.child (.worker 1), .runDataplane, answer⟩ :: earlier) now ∧
      Confined 1 .on (twoWorkers.dataplane 1) (mine (.child (.worker 1)) earlier) ∧
      Configured twoWorkers false (mine (.child .namespaceInit) earlier) := by
  have hreplay : (replayed allows (handingOver ++ (Party.child (.worker 1)).times 9) []
      (programs (fun _ => []) twoWorkers .on)).any (lastIs (.child (.worker 1)) .runDataplane) = true := by
    decide +kernel
  obtain ⟨journal, now, hrun, hlast⟩ := Run.exists_replayed _ _ hreplay
  obtain ⟨answer, earlier, hsplit⟩ := last_split hlast
  have hdataplane := dataplane_runs_confined hrun hsplit
  rw [hsplit] at hrun
  exact ⟨answer, earlier, now, hrun, hdataplane.2.1, hdataplane.2.2.2.1⟩

end Yayatht.Launch
