import Yayatht.LaunchBarrier

set_option autoImplicit false

namespace Yayatht.Launch
open Processes Processes.Program Supervisor

section Code

variable {render : Failure → Bytes} {config : LaunchConfig} {sandbox : SandboxConfig} {journal earlier : Journal}
  {now : (party : Party) → Program Call Answer (Returns party)}

theorem reported_number {number : BitVec 32} {payload : Bytes} {sent : ℕ} (hsent : sent < 2 ^ 32)
    (hpayload : payload = Wire.leBytes 4 sent) (h : number = BitVec.ofNat 32 (Wire.leValue payload)) :
    number.toNat = sent := by
  rw [hpayload, Wire.leValue_leBytes (by omega)] at h
  rw [h, BitVec.toNat_ofNat, Nat.mod_eq_of_lt hsent]

theorem outcome_lt {status : WaitStatus} {code : ℕ} (hreal : WaitStatus.real status = true)
    (hcode : WaitStatus.outcome status = some code) : code < 256 := by
  cases status with
  | exited c =>
    cases hcode
    exact of_decide_eq_true hreal
  | signaled signal =>
    cases hcode
    have hsignal : signal < 128 := of_decide_eq_true hreal
    omega
  | stillRunning => cases hcode
  | noChildren => cases hcode

/-- In every interleaving, an instance that exits with a code had one target, recorded under the pid
it was started with; the code is the outcome reported for that pid, and when the init sent it, it had
just been told that no child is left. -/
theorem exit_code_reported {code : ℤ} (h : Runs render config sandbox journal now)
    (hnow : now .supervisor = .ret (.ok code)) :
    ∃ target status outcome,
      (⟨.child .namespaceInit, .forkExec config.command, .ok target⟩ : Occurrence Party Call Answer) ∈ journal ∧
      (⟨.supervisor, .setup (.setTarget target), .ok ()⟩ : Occurrence Party Call Answer) ∈ journal ∧
      (⟨.child .namespaceInit, .waitAny, .ok (some (target, status))⟩ : Occurrence Party Call Answer) ∈ journal ∧
      WaitStatus.outcome status = some outcome ∧ code = outcome ∧ outcome < 256 ∧
      ∃ message packet before, message.kind = .exit ∧ message.payload = Wire.leBytes 4 outcome ∧
        Sent .namespaceInit (.child .namespaceInit) message packet before journal ∧
        NoneLeft (mine (.child .namespaceInit) before) := by
  have hfinished : Finished code (mine .supervisor journal) := by
    have hlocal := Run.holds (i := Party.supervisor) run_holds h
    rw [hnow] at hlocal
    exact hlocal.returned
  obtain ⟨recorded, hrecorded, message, hkind, hheard, -, hnumber⟩ := hfinished.target
  obtain ⟨_, before, hsent, hsaid⟩ := heard_init h List.suffix_rfl hheard
  unfold InitSays at hsaid
  rw [hkind] at hsaid
  obtain ⟨started, hstarted, hpayload⟩ := hsaid
  have hsame : recorded = started := BitVec.eq_of_toNat_eq (reported_number started.isLt hpayload hnumber)
  obtain ⟨number, hcode, message', hkind', hheard', -, hnumber'⟩ := hfinished.exit
  obtain ⟨packet, before', hsent', hsaid'⟩ := heard_init h List.suffix_rfl hheard'
  unfold InitSays at hsaid'
  rw [hkind'] at hsaid'
  obtain ⟨target, outcome, hstarted', ⟨status, hreaped, hstatus⟩, hnone, hpayload'⟩ := hsaid'
  have hmem := (mine_suffix (.child .namespaceInit) hsent.suffix).subset hstarted
  have hmem' := (mine_suffix (.child .namespaceInit) hsent'.suffix).subset hstarted'
  have hone : started = target := by
    have heq := started_once (init_rule h) hmem hmem'
    cases heq
    rfl
  have hreaped' := hsent'.suffix.subset (mem_mine.mp hreaped)
  have hlt : outcome < 256 := by
    obtain ⟨later, earlier, hsplit⟩ := List.append_of_mem hreaped'
    have hallowed := h.allowed hsplit
    unfold allows at hallowed
    exact outcome_lt (Bool.and_eq_true_iff.mp hallowed).2 hstatus
  have hvalue : number.toNat = outcome := reported_number (by omega) hpayload' hnumber'
  have hint : number.toInt = outcome := by
    rw [BitVec.toInt_eq_toNat_of_lt (by omega), hvalue]
  refine ⟨target, status, outcome, mem_mine.mp hmem', ?_, hreaped', hstatus, hcode.trans hint, hlt, message', packet,
    before', hkind', hpayload', hsent', hnone⟩
  rw [← hone, ← hsame]
  exact mem_mine.mp hrecorded

end Code

def Party.reaps (party : Party) (pid : BitVec 32) (status : WaitStatus) : Schedule :=
  [(party, answering [] (some (pid, status)))]

def exiting : Schedule :=
  starting ++ (Party.child .namespaceInit).times 4 ++
    Party.supervisor.takes (packetOf .status 2 (Wire.leBytes 4 7)) ++ Party.supervisor.times 6 ++
    (Party.child .namespaceInit).times 2 ++ (Party.child .namespaceInit).reaps 7 (.exited 3) ++
    (Party.child .namespaceInit).times 2 ++ Party.supervisor.times 2 ++
    Party.supervisor.takes (packetOf .exit 3 (Wire.leBytes 4 3)) ++ Party.supervisor.times 6

def exitedWith (code : ℤ) (run : Journal × ((party : Party) → Program Call Answer (Returns party))) : Bool :=
  match run.2 .supervisor with
  | .ret (.ok exit) => exit = code
  | _ => false

theorem exitedWith_returned {code : ℤ} {journal : Journal}
    {now : (party : Party) → Program Call Answer (Returns party)} (h : exitedWith code (journal, now) = true) :
    now .supervisor = .ret (.ok code) := by
  unfold exitedWith at h
  split at h
  · rename_i exit hnow
    rw [← of_decide_eq_true h]
    exact hnow
  · cases h

theorem exit_code_reported_three : ∃ journal now, Runs (fun _ => []) twoWorkers .on journal now ∧
    now .supervisor = .ret (.ok 3) ∧
    ∃ target outcome, (⟨.supervisor, .setup (.setTarget target), .ok ()⟩ : Occurrence Party Call Answer) ∈ journal ∧
      (3 : ℤ) = (outcome : ℕ) ∧ ∃ message packet before, message.payload = Wire.leBytes 4 outcome ∧
        Sent .namespaceInit (.child .namespaceInit) message packet before journal ∧
        NoneLeft (mine (.child .namespaceInit) before) := by
  have hreplay : (replayed allows exiting [] (programs (fun _ => []) twoWorkers .on)).any (exitedWith 3) = true := by
    decide +kernel
  obtain ⟨journal, now, hrun, hexit⟩ := Run.exists_replayed exiting _ hreplay
  have hnow := exitedWith_returned hexit
  obtain ⟨target, _, outcome, _, hrecorded, _, _, hcode, _, message, packet, before, _, hpayload, hsent, hnone⟩ :=
    exit_code_reported hrun hnow
  exact ⟨journal, now, hrun, hnow, target, outcome, hrecorded, hcode, message, packet, before, hpayload, hsent, hnone⟩

end Yayatht.Launch
