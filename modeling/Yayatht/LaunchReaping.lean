import Yayatht.LaunchExit

set_option autoImplicit false

namespace Yayatht.Launch
open Processes Processes.Program Supervisor

abbrev Anything : Exchange Call Answer → History → Prop := fun _ _ => True

theorem anything (past : History) : Whenever Anything past := by
  induction past with
  | nil => exact trivial
  | cons e past ih => exact ⟨trivial, ih⟩

def Made (role : Role) (past : History) : Prop := (⟨.clone role, .ok ()⟩ : Exchange Call Answer) ∈ past

/-- Only these children were made. -/
def Brood (roles : List Role) (past : History) : Prop := ∀ role, Made role past → role ∈ roles

/-- The supervisor waited for the child after it had made it. -/
def Awaited (role : Role) (past : History) : Prop :=
  ∃ later earlier answer, past = later ++ ⟨.wait role false, answer⟩ :: earlier ∧ Made role earlier

def AllAwaited (past : History) : Prop := ∀ role, Made role past → Awaited role past

def NoClone : Call → Prop
  | .clone _ => False
  | _ => True

section Brood

variable {config : LaunchConfig} {sandbox : SandboxConfig} {past past' : History} {roles : List Role} {role : Role}
  {ε α : Type}

theorem Awaited.suffix (h : Awaited role past) (hpast : past <:+ past') : Awaited role past' := by
  obtain ⟨later, earlier, answer, hsplit, hmade⟩ := h
  obtain ⟨more, rfl⟩ := hpast
  exact ⟨more ++ later, earlier, answer, by rw [hsplit, List.append_assoc], hmade⟩

theorem made_cons {e : Exchange Call Answer} (hclone : NoClone e.call) (h : Made role (e :: past)) :
    Made role past := by
  cases List.mem_cons.mp h with
  | inl hfirst =>
    subst hfirst
    exact hclone.elim
  | inr hmem => exact hmem

/-- The children made so far, and the past it started from. -/
structure Tended (roles : List Role) (past past' : History) : Prop where
  brood : Brood roles past'
  suffix : past <:+ past'
  made : ∀ role, Made role past' → Made role past

theorem Tended.refl (h : Brood roles past) : Tended roles past past := ⟨h, List.suffix_rfl, fun _ hmade => hmade⟩

theorem Tended.cons {c : Call} (a : Answer c) (hclone : NoClone c) (h : Tended roles past past') :
    Tended roles past (⟨c, a⟩ :: past') where
  brood := fun role hmade => h.brood role (made_cons hclone hmade)
  suffix := h.suffix.trans (List.suffix_cons _ _)
  made := fun role hmade => h.made role (made_cons hclone hmade)

theorem Tended.trans {past'' : History} (h : Tended roles past past') (h' : Tended roles past' past'') :
    Tended roles past past'' := ⟨h'.brood, h.suffix.trans h'.suffix, fun role hmade => h.made role (h'.made role hmade)⟩

theorem tended {p : Proc ε α} (h : Calls NoClone p.run) (hbrood : Brood roles past) :
    Holds (Whenever Anything) past p.run (Outcome (fun _ => Tended roles past) fun _ => Tended roles past) := by
  refine (h.holds (anything past) (Tended.refl hbrood) fun c a past' hc hI htended => ?_).post
    fun result past' _ htended => ?_
  · exact ⟨⟨trivial, hI⟩, htended.cons a hc⟩
  · cases result with
    | ok a => exact htended
    | error e => exact htended

theorem kept {p : Proc ε α} (h : Calls NoClone p.run) (hbrood : Brood roles past) :
    Holds (Whenever Anything) past p.run (Outcome (fun _ => Brood roles) fun _ => Brood roles) := by
  refine (tended h hbrood).post fun result past' _ htended => ?_
  cases result with
  | ok a => exact htended.brood
  | error e => exact htended.brood

theorem awaited_kept {p : Proc ε α} (h : Calls NoClone p.run) (hawaited : AllAwaited past) :
    Holds (Whenever Anything) past p.run (Outcome (fun _ => AllAwaited) fun _ => AllAwaited) := by
  refine (h.holds (anything past) hawaited fun c a past' hc hI hawaited => ⟨⟨trivial, hI⟩, fun role hmade => ?_⟩).post
    fun result past' _ hresult => ?_
  · exact (hawaited role (made_cons hc hmade)).suffix (List.suffix_cons _ _)
  · cases result with
    | ok a => exact hresult
    | error e => exact hresult

theorem tended_call {E : ε → History → Prop} {c : Call} (hclone : NoClone c) (hbrood : Brood roles past) :
    Holds (Whenever Anything) past (call c : Proc ε (Answer c)).run
      (Outcome (fun a past' => past' = ⟨c, a⟩ :: past ∧ Tended roles past past') E) :=
  .call past c _ (anything past) fun a => .ret _ _ (anything _) ⟨rfl, (Tended.refl hbrood).cons a hclone⟩

theorem awaited_call {answer : Answer (.wait role false)} (h : Made role past) :
    Awaited role (⟨.wait role false, answer⟩ :: past) := ⟨[], past, answer, rfl, h⟩

theorem waitDataplanes_holds {E : ε → History → Prop} (workers : List ℕ) (hbrood : Brood roles past) :
    Holds (Whenever Anything) past (waitDataplanes workers : Proc ε Unit).run
      (Outcome (fun _ past' => Tended roles past past' ∧
        ∀ index ∈ workers, Made (.worker index) past → Awaited (.worker index) past') E) := by
  refine Holds.forM (J := fun done past' => Tended roles past past' ∧
    ∀ index ∈ done, Made (.worker index) past → Awaited (.worker index) past') workers (anything past)
    ⟨Tended.refl hbrood, fun _ hmem => by cases hmem⟩ fun done index past' _ hJ => ?_
  refine Holds.bindE (tended_call trivial hJ.1.brood) fun answer past'' _ hpast => ?_
  obtain ⟨rfl, htended⟩ := hpast
  refine .pureE (anything _) ⟨hJ.1.trans htended, fun other hmem hmade => ?_⟩
  cases List.mem_append.mp hmem with
  | inl hdone => exact (hJ.2 other hdone hmade).suffix (List.suffix_cons _ _)
  | inr hnew =>
    rw [List.mem_singleton] at hnew
    subst hnew
    exact awaited_call (hJ.1.suffix.subset hmade)

theorem killAll_holds {E : ε → History → Prop} (workers : List ℕ) (hbrood : Brood roles past) :
    Holds (Whenever Anything) past
      (workers.forM fun index => do let _ ← call (.kill (.worker index) sigkill) : Proc ε Unit).run
      (Outcome (fun _ => Tended roles past) E) := by
  refine Holds.forM (J := fun _ => Tended roles past) workers (anything past) (Tended.refl hbrood)
    fun done index past' _ hJ => ?_
  refine Holds.bindE (tended_call trivial hJ.brood) fun answer past'' _ hpast => ?_
  exact .pureE (anything _) (hJ.trans hpast.2)

theorem allAwaited_of {workers : List ℕ} (hbrood : Brood (workers.map .worker) past)
    (h : ∀ index ∈ workers, Made (.worker index) past → Awaited (.worker index) past) : AllAwaited past := by
  intro role hmade
  obtain ⟨index, hindex, rfl⟩ := List.mem_map.mp (hbrood role hmade)
  exact h index hindex hmade

theorem killDataplanes_holds {E : ε → History → Prop} (workers : List ℕ) (hbrood : Brood (workers.map .worker) past) :
    Holds (Whenever Anything) past (killDataplanes workers : Proc ε Unit).run
      (Outcome (fun _ => AllAwaited) E) := by
  refine Holds.bindE (killAll_holds workers hbrood) fun _ past1 _ hkilled => ?_
  refine (waitDataplanes_holds (E := E) workers hkilled.brood).post fun result past2 _ hresult => ?_
  cases result with
  | error e => exact hresult
  | ok u =>
    exact allAwaited_of hresult.1.brood fun index hindex hmade => hresult.2 index hindex (hresult.1.made _ hmade)

def brood (workers : List ℕ) : List Role := workers.map .worker ++ [.namespaceInit]

theorem allAwaited_brood {workers : List ℕ} (hbrood : Brood (brood workers) past)
    (h : ∀ index ∈ workers, Made (.worker index) past → Awaited (.worker index) past)
    (hinit : Made .namespaceInit past → Awaited .namespaceInit past) : AllAwaited past := by
  intro role hmade
  cases List.mem_append.mp (hbrood role hmade) with
  | inl hworker =>
    obtain ⟨index, hindex, rfl⟩ := List.mem_map.mp hworker
    exact h index hindex hmade
  | inr hnamespace =>
    rw [List.mem_singleton] at hnamespace
    subst hnamespace
    exact hinit hmade

theorem killChildren_holds {E : ε → History → Prop} (workers : List ℕ) (hbrood : Brood (brood workers) past) :
    Holds (Whenever Anything) past (killChildren workers : Proc ε Unit).run (Outcome (fun _ => AllAwaited) E) := by
  refine Holds.bindE (killAll_holds workers hbrood) fun _ past1 _ hkilled => ?_
  refine Holds.bindE (tended_call trivial hkilled.brood) fun _ past2 _ hinit => ?_
  refine Holds.bindE (waitDataplanes_holds workers hinit.2.brood) fun _ past3 _ hwaited => ?_
  refine Holds.bindE (tended_call trivial hwaited.1.brood) fun answer past4 _ hlast => ?_
  obtain ⟨rfl, hlast⟩ := hlast
  refine .pureE (anything _) (allAwaited_brood hlast.brood (fun index hindex hmade => ?_) fun hmade => ?_)
  · exact (hwaited.2 index hindex (hwaited.1.made _ (hlast.made _ hmade))).suffix hlast.suffix
  · exact awaited_call (hlast.made _ hmade)

theorem noClone_of_plain (c : Call) (h : SupervisorPlain c) : NoClone c := by
  cases c with
  | clone role => exact h
  | _ => exact trivial

theorem calls_setupOrKill (workers : List ℕ) (s : Setup) : Calls NoClone (setupOrKill workers s).run := by
  refine Calls.bindE (Calls.inquire trivial) fun answer => ?_
  cases answer with
  | ok u => exact .pureE _
  | error e => exact Calls.bindE ((calls_killChildren workers).mono noClone_of_plain) fun _ => .throwE _

theorem calls_readyOrKill (workers : List ℕ) (role : Role) : Calls NoClone (readyOrKill workers role).run := by
  refine Calls.bindE (calls_attempt (Calls.bindE (calls_fromIo (calls_receive trivial)) fun message => ?_))
    fun result => ?_
  · split
    · exact .pureE _
    · exact .throwE _
    · exact .throwE _
    · exact .throwE _
  · cases result with
    | ok u => exact .pureE _
    | error e => exact Calls.bindE ((calls_killChildren workers).mono noClone_of_plain) fun _ => .throwE _

theorem calls_bringUp (workers : List ℕ) : Calls NoClone (bringUp workers).run := by
  unfold bringUp
  refine Calls.bindE (Calls.forM _ fun _ => calls_setupOrKill _ _) fun _ => ?_
  refine Calls.bindE (calls_setupOrKill _ _) fun _ => ?_
  refine Calls.bindE (Calls.forM _ fun _ => calls_fromIo (calls_send fun _ _ => trivial)) fun _ => ?_
  refine Calls.bindE (calls_fromIo (calls_send fun _ _ => trivial)) fun _ => ?_
  refine Calls.bindE (calls_readyOrKill _ _) fun _ => ?_
  refine Calls.bindE (Calls.forM _ fun _ => calls_readyOrKill _ _) fun _ => ?_
  refine Calls.bindE (calls_fromIo (calls_setup trivial)) fun _ => ?_
  exact calls_fromIo (calls_send fun _ _ => trivial)

theorem calls_recordTarget (workers : List ℕ) : Calls NoClone (recordTarget workers).run := by
  refine Calls.bindE (calls_fromIo (Calls.bindE (calls_receive trivial) fun message => ?_)) fun payload => ?_
  · split
    · exact .throwE _
    split
    · exact .throwE _
    · exact .pureE _
  · split
    · refine Calls.bindE ((calls_killChildren workers).mono noClone_of_plain) fun _ => ?_
      exact Calls.bindE (.throwE _) fun _ => calls_fromIo (calls_setup trivial)
    · exact calls_fromIo (calls_setup trivial)

theorem readExit_awaits {workers : List ℕ} (hbrood : Brood (brood workers) past) :
    Holds (Whenever Anything) past (readExit workers).run
      (Outcome (fun exit past' => Brood (brood workers) past' ∧ (exit ≠ none → AllAwaited past'))
        fun _ => Brood (brood workers)) := by
  refine Holds.bindE (kept (calls_attempt (calls_receive trivial)) hbrood) fun result past1 hI hbrood => ?_
  split
  · split
    · split
      · exact .throwE hI hbrood
      refine Holds.bindE (kept ((calls_shutdownDataplanes workers).mono noClone_of_plain) hbrood)
        fun _ past2 _ hbrood => ?_
      refine Holds.bindE (tended_call trivial hbrood) fun answer past3 _ hwait => ?_
      obtain ⟨rfl, hwait⟩ := hwait
      refine Holds.bindE (waitDataplanes_holds workers hwait.brood) fun _ past4 _ hwaited => ?_
      refine .pureE (anything _) ⟨hwaited.1.brood, fun _ => ?_⟩
      refine allAwaited_brood hwaited.1.brood (fun index hindex hmade => ?_) fun hmade => ?_
      · exact hwaited.2 index hindex (hwaited.1.made _ hmade)
      · exact (awaited_call (hwait.made _ (hwaited.1.made _ hmade))).suffix hwaited.1.suffix
    · split
      · exact .throwE hI hbrood
      · exact .pureE hI ⟨hbrood, fun h => absurd rfl h⟩
  · exact .pureE hI ⟨hbrood, fun h => absurd rfl h⟩
  · exact .throwE hI hbrood
  · exact .throwE hI hbrood

theorem superviseRunning_awaits {workers : List ℕ} (hbrood : Brood (brood workers) past) :
    Holds (Whenever Anything) past (superviseRunning workers).run
      (Outcome (fun _ => AllAwaited) fun _ => Brood (brood workers)) := by
  refine Holds.repeating (J := fun _ => Brood (brood workers)) hbrood fun _ past' hbrood => ?_
  refine Holds.bindE (kept (calls_forwardSignals.mono noClone_of_plain) hbrood) fun _ past1 _ hbrood => ?_
  refine Holds.bindE (kept (calls_fromIo (Calls.bindE (Calls.inquire trivial) fun _ => Calls.settled _)) hbrood)
    fun _ past2 _ hbrood => ?_
  refine Holds.bindE (readExit_awaits hbrood) fun exit past3 hI hexit => ?_
  cases exit with
  | some code => exact .pureE hI (hexit.2 (Option.some_ne_none code))
  | none =>
    refine Holds.bindE (kept ((Calls.forM _ (calls_watchWorker workers)).mono noClone_of_plain) hexit.1)
      fun _ past4 _ hbrood => ?_
    refine Holds.bindE (kept ((calls_watchNamespace workers).mono noClone_of_plain) hbrood) fun _ past5 _ hbrood => ?_
    exact Holds.bindE (kept (Calls.inquire trivial) hbrood) fun _ past6 hI hbrood => .pureE hI hbrood

theorem guardedRun_awaits {workers : List ℕ} (hbrood : Brood (brood workers) past) :
    Holds (Whenever Anything) past (guardedRun sandbox workers).run
      (Outcome (fun _ => AllAwaited) fun _ => Brood (brood workers)) := by
  unfold guardedRun
  refine Holds.bindE (kept (calls_bringUp workers) hbrood) fun _ past1 _ hbrood => ?_
  refine Holds.bindE (kept (calls_recordTarget workers) hbrood) fun _ past2 _ hbrood => ?_
  refine Holds.bindE (kept (calls_fromIo (calls_setup trivial)) hbrood) fun _ past3 _ hbrood => ?_
  refine Holds.bindE (kept (Calls.forM _ fun _ => calls_fromIo (calls_setup trivial)) hbrood)
    fun _ past4 _ hbrood => ?_
  cases sandbox with
  | off => exact superviseRunning_awaits hbrood
  | on =>
    refine Holds.bindE (kept (calls_fromIo (calls_setup trivial)) hbrood) fun _ past5 _ hbrood => ?_
    refine Holds.bindE (kept (calls_fromIo (calls_setup trivial)) hbrood) fun _ past6 _ hbrood => ?_
    exact superviseRunning_awaits hbrood

theorem cloneWorkers_awaits (xs workers : List ℕ) (hbrood : Brood (workers.map .worker) past) :
    Holds (Whenever Anything) past (cloneWorkers xs workers).run
      (Outcome (fun _ => Brood ((workers ++ xs).map .worker)) fun _ => AllAwaited) := by
  induction xs generalizing past workers with
  | nil =>
    rw [List.append_nil]
    exact .pureE (anything past) hbrood
  | cons index rest ih =>
    have hstop : ∀ {past' : History} {e : Error}, Brood (workers.map .worker) past' →
        Holds (Whenever Anything) past'
          (do
            killDataplanes workers
            throw e : Proc Error Unit).run
          (Outcome (fun _ => Brood ((workers ++ index :: rest).map .worker)) fun _ => AllAwaited) := fun hbrood =>
      Holds.bindE (killDataplanes_holds workers hbrood) fun _ _ hI hawaited => .throwE hI hawaited
    refine Holds.bindE (tended_call trivial hbrood) fun answer past1 _ hpair => ?_
    cases answer with
    | error e => exact hstop hpair.2.brood
    | ok u =>
      refine Holds.bindE (tended_call trivial hpair.2.brood) fun answer past2 _ hpair' => ?_
      cases answer with
      | error e => exact hstop hpair'.2.brood
      | ok u' =>
        refine Holds.bindE (Holds.inquire (anything past2) fun _ => trivial) fun answer past3 _ hpast => ?_
        subst hpast
        cases answer with
        | error e =>
          refine hstop fun role hmade => hpair'.2.brood role ?_
          cases List.mem_cons.mp hmade with
          | inl hfirst => cases hfirst
          | inr hmem => exact hmem
        | ok u'' =>
          have hnext : Brood ((workers ++ [index]).map .worker) (⟨.clone (.worker index), .ok u''⟩ :: past2) := by
            intro role hmade
            rw [List.map_append]
            cases List.mem_cons.mp hmade with
            | inl hfirst =>
              cases hfirst
              exact List.mem_append_right _ (List.mem_singleton.mpr rfl)
            | inr hmem => exact List.mem_append_left _ (hpair'.2.brood role hmem)
          have hrest := ih (workers ++ [index]) hnext
          rw [List.append_assoc, List.singleton_append] at hrest
          exact hrest

theorem run_awaits : Holds (Whenever Anything) [] (run config sandbox).run
    (Outcome (fun _ => AllAwaited) fun _ => AllAwaited) := by
  have hprepare : Holds (Whenever Anything) [] (prepare config).run
      (Outcome (fun _ => Brood (([] : List ℕ).map .worker)) fun _ => AllAwaited) := by
    have hnone : Brood (([] : List ℕ).map .worker) [] := fun _ hmade => by cases hmade
    refine (kept (calls_prepare.mono noClone_of_plain) hnone).post fun result past' _ hresult => ?_
    cases result with
    | ok u => exact hresult
    | error e => exact fun role hmade => absurd (hresult role hmade) (List.not_mem_nil)
  unfold run
  refine Holds.bindE hprepare fun _ past1 _ hbrood => ?_
  refine Holds.bindE (cloneWorkers_awaits _ [] hbrood) fun _ past2 hI hbrood => ?_
  rw [List.nil_append] at hbrood
  refine Holds.bindE (Holds.inquire hI fun _ => trivial) fun answer past3 _ hpast => ?_
  subst hpast
  cases answer with
  | error e =>
    have hworkers : Brood ((List.range config.workers).map .worker) (⟨.clone .namespaceInit, .error e⟩ :: past2) := by
      intro role hmade
      cases List.mem_cons.mp hmade with
      | inl hfirst => cases hfirst
      | inr hmem => exact hbrood role hmem
    exact Holds.bindE (killDataplanes_holds _ hworkers) fun _ _ hI hawaited => .throwE hI hawaited
  | ok u =>
    have hall : Brood (brood (List.range config.workers)) (⟨.clone .namespaceInit, .ok u⟩ :: past2) := by
      intro role hmade
      cases List.mem_cons.mp hmade with
      | inl hfirst =>
        cases hfirst
        exact List.mem_append_right _ (List.mem_singleton.mpr rfl)
      | inr hmem => exact List.mem_append_left _ (hbrood role hmem)
    have hguard : Holds (Whenever Anything) (⟨.clone .namespaceInit, .ok u⟩ :: past2)
        (underGuard (List.range config.workers) (guardedRun sandbox (List.range config.workers))).run
        (Outcome (fun _ => AllAwaited) fun _ => AllAwaited) := by
      refine Holds.bindE (attempt_holds (guardedRun_awaits hall)) fun result past4 hI hresult => ?_
      cases result with
      | ok code => exact .pureE hI hresult
      | error e =>
        exact Holds.bindE (killChildren_holds _ hresult) fun _ _ hI hawaited => .throwE hI hawaited
    refine Holds.bindE hguard fun code past4 _ hawaited => ?_
    refine Holds.bindE (awaited_kept (calls_fromIo (calls_setup trivial)) hawaited) fun _ past5 hI hawaited => ?_
    exact .pureE hI hawaited

end Brood

/-- However the supervisor of an instance ends, in every interleaving, every child it made was reaped,
unless waiting for it failed. -/
theorem children_reaped {render : Failure → Bytes} {config : LaunchConfig} {sandbox : SandboxConfig}
    {journal : Journal} {now : (party : Party) → Program Call Answer (Returns party)} {result : Except Error ℤ}
    (h : Runs render config sandbox journal now) (hnow : now .supervisor = .ret result) (role : Role)
    (hmade : (⟨.supervisor, .clone role, .ok ()⟩ : Occurrence Party Call Answer) ∈ journal) :
    (∃ e ∈ journal, Occurrence.reaped role e = true) ∨
      ∃ error, (⟨.supervisor, .wait role false, .error error⟩ : Occurrence Party Call Answer) ∈ journal := by
  have hawaited : AllAwaited (mine .supervisor journal) := by
    have hlocal := Run.holds (i := Party.supervisor) run_awaits h
    rw [hnow] at hlocal
    have hreturned := hlocal.returned
    cases result with
    | ok code => exact hreturned
    | error e => exact hreturned
  obtain ⟨later, earlier, answer, hsplit, hmade⟩ := hawaited role (mem_mine.mpr hmade)
  obtain ⟨after, before, hjournal, hbefore⟩ := split_of_mine hsplit
  have hallowed := h.allowed hjournal
  have hmem : (⟨.supervisor, .wait role false, answer⟩ : Occurrence Party Call Answer) ∈ journal := by
    rw [hjournal]
    exact List.mem_append_right _ List.mem_cons_self
  unfold allows at hallowed
  obtain ⟨_, hanswer⟩ := Bool.and_eq_true_iff.mp hallowed
  cases answer with
  | error error => exact .inr ⟨error, hmem⟩
  | ok status =>
    left
    cases status with
    | exited code => exact ⟨_, hmem, decide_eq_true rfl⟩
    | signaled signal => exact ⟨_, hmem, decide_eq_true rfl⟩
    | stillRunning => cases hanswer
    | noChildren =>
      -- The kernel knows of no such child, so its end was reported before.
      have hcloned : before.any (Occurrence.cloned role) = true := by
        rw [← hbefore] at hmade
        exact List.any_eq_true.mpr ⟨_, mem_mine.mp hmade, decide_eq_true rfl⟩
      have hchild : child before role = false := by simpa using hanswer
      unfold child at hchild
      rw [hcloned, Bool.true_and, Bool.not_eq_false'] at hchild
      obtain ⟨e, he, hreaped⟩ := List.any_eq_true.mp hchild
      exact ⟨e, hjournal ▸ List.mem_append_right _ (List.mem_cons_of_mem _ he), hreaped⟩

def refused : (c : Call) → Answer c
  | .clone _ => .error (.os 11)
  | c => answering [] none c

def endedAfter (role : Role) (run : Journal × ((party : Party) → Program Call Answer (Returns party))) : Bool :=
  run.1.any (Occurrence.cloned role) &&
    match run.2 .supervisor with
    | .ret _ => true
    | _ => false

theorem children_reaped_refused : ∃ journal now, Runs (fun _ => []) twoWorkers .on journal now ∧
    (⟨.supervisor, .clone (.worker 0), .ok ()⟩ : Occurrence Party Call Answer) ∈ journal ∧
    ((∃ e ∈ journal, Occurrence.reaped (.worker 0) e = true) ∨
      ∃ error, (⟨.supervisor, .wait (.worker 0) false, .error error⟩ : Occurrence Party Call Answer) ∈ journal) := by
  have hreplay : (replayed allows (Party.supervisor.times 10 ++ [(.supervisor, refused)] ++ Party.supervisor.times 2) []
      (programs (fun _ => []) twoWorkers .on)).any (endedAfter (.worker 0)) = true := by decide +kernel
  obtain ⟨journal, now, hrun, hended⟩ := Run.exists_replayed _ _ hreplay
  obtain ⟨hcloned, hreturned⟩ := Bool.and_eq_true_iff.mp hended
  obtain ⟨e, hmem, he⟩ := List.any_eq_true.mp hcloned
  have hmade : (⟨.supervisor, .clone (.worker 0), .ok ()⟩ : Occurrence Party Call Answer) ∈ journal := by
    unfold Occurrence.cloned at he
    split at he
    · rename_i made
      rw [← of_decide_eq_true he]
      exact hmem
    · cases he
  dsimp only at hreturned
  cases hnow : now .supervisor with
  | ret result => exact ⟨journal, now, hrun, hmade, children_reaped hrun hnow (.worker 0) hmade⟩
  | call c next =>
    rw [hnow] at hreturned
    cases hreturned
  | loop body s next =>
    rw [hnow] at hreturned
    cases hreturned

end Yayatht.Launch
