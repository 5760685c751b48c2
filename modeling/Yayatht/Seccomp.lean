import Mathlib.Algebra.Group.Int.Defs
import Mathlib.Tactic.Common
import Yayatht.ClassicBpf

set_option autoImplicit false

namespace Yayatht.Seccomp
open ClassicBpf

inductive Error where
  | invalidInput (text : String)
  deriving DecidableEq, Repr

/-- The architectures the crate builds for. -/
inductive Target where
  | x8664
  | aarch64
  deriving DecidableEq, Repr

def dataArchOffset : UInt32 := 4
def dataNrOffset : UInt32 := 0
def bpfLoadWordAbsolute : UInt16 := 0x20
def bpfJumpEqual : UInt16 := 0x15
def bpfReturn : UInt16 := 0x06
def retKillProcess : UInt32 := 0x80000000
def retAllow : UInt32 := 0x7fff0000

def auditArch : Target → UInt32
  | .x8664 => 0xc000003e
  | .aarch64 => 0xc00000b7

def statement (code : UInt16) (value : UInt32) : Insn := ⟨code, 0, 0, value⟩

def jump (code : UInt16) (value : UInt32) (jt jf : UInt8) : Insn := ⟨code, jt, jf, value⟩

/-- `u32::try_from` on a `c_long`. -/
def syscallNumber (syscall : Int64) : Except Error UInt32 :=
  if 0 ≤ syscall.toInt ∧ syscall.toInt < 2 ^ 32 then .ok (UInt32.ofNat syscall.toInt.toNat)
  else .error (.invalidInput "negative syscall in seccomp profile")

def pushSyscall (filter : List Insn) (syscall : Int64) : Except Error (List Insn) := do
  let syscall ← syscallNumber syscall
  let filter := filter ++ [jump bpfJumpEqual syscall 0 1]
  pure (filter ++ [statement bpfReturn retAllow])

def buildFilter (target : Target) (syscalls : List Int64) (defaultAction : UInt32) : Except Error (List Insn) := do
  let filter := [statement bpfLoadWordAbsolute dataArchOffset]
  let filter := filter ++ [jump bpfJumpEqual (auditArch target) 1 0]
  let filter := filter ++ [statement bpfReturn retKillProcess]
  let filter := filter ++ [statement bpfLoadWordAbsolute dataNrOffset]
  let filter ← syscalls.foldlM pushSyscall filter
  pure (filter ++ [statement bpfReturn defaultAction])

/-- `struct seccomp_data`; the instruction pointer and the arguments are the other words. -/
structure SeccompData where
  nr : UInt32
  arch : UInt32
  others : Fin 14 → UInt32

/-- The kernel lets a filter load the aligned words of the data. -/
def readable (offset : UInt32) : Bool := decide (offset < 64) && offset &&& 3 == 0

def SeccompData.fetch (data : SeccompData) (offset : UInt32) : Option UInt32 :=
  if readable offset then
    match offset.toNat / 4 with
    | 0 => some data.nr
    | 1 => some data.arch
    | i + 2 => if h : i < 14 then some (data.others ⟨i, h⟩) else none
  else none

def preamble (target : Target) : List Insn :=
  [statement bpfLoadWordAbsolute dataArchOffset, jump bpfJumpEqual (auditArch target) 1 0,
    statement bpfReturn retKillProcess, statement bpfLoadWordAbsolute dataNrOffset]

def entry (number : UInt32) : List Insn := [jump bpfJumpEqual number 0 1, statement bpfReturn retAllow]

variable {target : Target} {syscalls : List Int64} {numbers : List UInt32} {defaultAction number : UInt32}
  {filter front : List Insn} {data : SeccompData} {fetch : UInt32 → Option UInt32}

@[simp] theorem op_load (offset : UInt32) : (statement bpfLoadWordAbsolute offset).op = some (.load offset) := rfl

@[simp] theorem op_return (action : UInt32) : (statement bpfReturn action).op = some (.ret action) := rfl

@[simp] theorem op_jump (value : UInt32) (jt jf : UInt8) :
    (jump bpfJumpEqual value jt jf).op = some (.branch .eq value jt jf) := rfl

@[simp] theorem length_preamble : (preamble target).length = 4 := rfl

@[simp] theorem length_entry : (entry number).length = 2 := rfl

theorem toInt_of_syscallNumber {syscall : Int64} (h : syscallNumber syscall = .ok number) :
    syscall.toInt = number.toNat := by
  unfold syscallNumber at h
  split at h
  · cases h
    rename_i hrange
    rw [UInt32.toNat_ofNat']
    omega
  · cases h

theorem exists_numbers (h : syscalls.foldlM pushSyscall front = .ok filter) :
    ∃ numbers : List UInt32, filter = front ++ numbers.flatMap entry ∧
      syscalls.map Int64.toInt = numbers.map fun number => (number.toNat : ℤ) := by
  induction syscalls generalizing front with
  | nil =>
    cases h
    exact ⟨[], by simp, rfl⟩
  | cons syscall syscalls ih =>
    rw [List.foldlM_cons] at h
    cases hnumber : syscallNumber syscall with
    | error error => simp [pushSyscall, hnumber, bind, Except.bind] at h
    | ok number =>
      have hrest : syscalls.foldlM pushSyscall (front ++ entry number) = .ok filter := by
        simpa [pushSyscall, hnumber, bind, Except.bind, pure, Except.pure, entry] using h
      obtain ⟨numbers, hfilter, hnumbers⟩ := ih hrest
      refine ⟨number :: numbers, ?_, ?_⟩
      · rw [hfilter]
        simp
      · rw [List.map_cons, List.map_cons, hnumbers, toInt_of_syscallNumber hnumber]

theorem buildFilter_eq : buildFilter target syscalls defaultAction = (do
    let body ← syscalls.foldlM pushSyscall (preamble target)
    pure (body ++ [statement bpfReturn defaultAction])) := rfl

theorem exists_of_buildFilter (h : buildFilter target syscalls defaultAction = .ok filter) :
    ∃ numbers : List UInt32,
      filter = preamble target ++ numbers.flatMap entry ++ [statement bpfReturn defaultAction] ∧
      syscalls.map Int64.toInt = numbers.map fun number => (number.toNat : ℤ) := by
  rw [buildFilter_eq] at h
  cases hfold : syscalls.foldlM pushSyscall (preamble target) with
  | error error =>
    rw [hfold] at h
    cases h
  | ok body =>
    rw [hfold] at h
    cases h
    obtain ⟨numbers, rfl, hnumbers⟩ := exists_numbers hfold
    exact ⟨numbers, rfl, hnumbers⟩

theorem mem_numbers (h : syscalls.map Int64.toInt = numbers.map fun number => (number.toNat : ℤ)) (nr : UInt32) :
    nr ∈ numbers ↔ ∃ syscall ∈ syscalls, syscall.toInt = nr.toNat := by
  have hmem : (nr.toNat : ℤ) ∈ numbers.map (fun number => (number.toNat : ℤ)) ↔ nr ∈ numbers := by
    rw [List.mem_map]
    constructor
    · rintro ⟨number, hnumber, heq⟩
      have : number = nr := UInt32.toNat_inj.mp (by omega)
      exact this ▸ hnumber
    · exact fun hnr => ⟨nr, hnr, rfl⟩
  rw [← hmem, ← h, List.mem_map]

/-- The compare that finds the number goes to its return, the others skip one. -/
theorem yields_entries (action : UInt32) (numbers : List UInt32) (front : List Insn) (nr : UInt32) :
    Yields (front ++ (numbers.flatMap entry ++ [statement bpfReturn action])) fetch front.length nr
      (if nr ∈ numbers then retAllow else action) := by
  induction numbers generalizing front with
  | nil =>
    have hat : (front ++ ([].flatMap entry ++ [statement bpfReturn action]))[front.length]? =
        some (statement bpfReturn action) := by simp
    exact .ret hat (op_return action)
  | cons number numbers ih =>
    have hat : (front ++ ((number :: numbers).flatMap entry ++ [statement bpfReturn action]))[front.length]? =
        some (jump bpfJumpEqual number 0 1) := by simp [entry]
    apply Yields.branch hat (op_jump number 0 1)
    by_cases heq : nr = number
    · subst heq
      have hallow : (front ++ ((nr :: numbers).flatMap entry ++ [statement bpfReturn action]))[front.length + 1]? =
          some (statement bpfReturn retAllow) := by simp [entry]
      simpa [Test.holds] using Yields.ret hallow (op_return retAllow)
    · have hnext := ih (front ++ entry number)
      simp only [List.length_append, length_entry] at hnext
      simpa [Test.holds, heq, List.append_assoc] using hnext

theorem fitsFrom_entries (size pc : ℕ) (numbers : List UInt32)
    (hsize : pc + (numbers.flatMap entry).length < size) :
    fitsFrom readable size pc (numbers.flatMap entry) = true := by
  induction numbers generalizing pc with
  | nil => rfl
  | cons number numbers ih =>
    simp only [List.flatMap_cons, List.length_append, length_entry] at hsize
    refine fitsFrom_append ?_ (ih _ ?_)
    · have hjump : pc + 1 < size ∧ pc + 1 + 1 < size := by omega
      simp [entry, fitsFrom, Insn.fits, Op.reads, Op.successors, hjump]
    · rw [length_entry]
      omega

theorem fitsFrom_filter (target : Target) (numbers : List UInt32) (action : UInt32) (size : ℕ)
    (hsize : size = (preamble target ++ numbers.flatMap entry ++ [statement bpfReturn action]).length) :
    fitsFrom readable size 0 (preamble target ++ numbers.flatMap entry ++ [statement bpfReturn action]) = true := by
  simp only [List.length_append, length_preamble, List.length_singleton] at hsize
  refine fitsFrom_append (fitsFrom_append ?_ (fitsFrom_entries _ _ _ ?_)) ?_
  · have hjump : 1 < size ∧ 2 < size ∧ 3 < size ∧ 4 < size := by omega
    have harch : readable dataArchOffset = true := rfl
    have hnr : readable dataNrOffset = true := rfl
    simp [preamble, fitsFrom, Insn.fits, Op.reads, Op.successors, hjump, harch, hnr]
  · rw [length_preamble]
    omega
  · simp [fitsFrom, Insn.fits, Op.reads, Op.successors]

theorem yields_filter (target : Target) (numbers : List UInt32) (action : UInt32) (data : SeccompData) :
    Yields (preamble target ++ numbers.flatMap entry ++ [statement bpfReturn action]) data.fetch 0 0
      (if data.arch = auditArch target then if data.nr ∈ numbers then retAllow else action else retKillProcess) := by
  have harch : data.fetch dataArchOffset = some data.arch := rfl
  have hnr : data.fetch dataNrOffset = some data.nr := rfl
  apply Yields.load rfl (op_load dataArchOffset) harch
  apply Yields.branch rfl (op_jump (auditArch target) 1 0)
  by_cases hsame : data.arch = auditArch target
  · simp only [Test.holds, hsame, beq_self_eq_true, if_true]
    apply Yields.load rfl (op_load dataNrOffset) hnr
    rw [List.append_assoc]
    exact yields_entries action numbers (preamble target) data.nr
  · simp only [Test.holds, hsame, beq_eq_false_iff_ne.mpr hsame, if_false, Bool.false_eq_true]
    exact Yields.ret rfl (op_return retKillProcess)

/-- The program answers as its list of system calls says, whatever the call. A program of at
most 4096 instructions passes the loader's check. -/
theorem filter_exact (hbuilt : buildFilter target syscalls defaultAction = .ok filter)
    (hdefault : defaultAction ≠ retAllow) :
    (∀ data : SeccompData, ∃ action, eval filter data.fetch = some action ∧
      (action = retAllow ↔ data.arch = auditArch target ∧ ∃ syscall ∈ syscalls, syscall.toInt = data.nr.toNat) ∧
      (data.arch ≠ auditArch target → action = retKillProcess) ∧
      (data.arch = auditArch target → (¬ ∃ syscall ∈ syscalls, syscall.toInt = data.nr.toNat) →
        action = defaultAction)) ∧
    (∀ (pc : ℕ) (insn : Insn), filter[pc]? = some insn →
      ∃ op, insn.op = some op ∧ ∀ next ∈ Op.successors op pc, next < filter.length) ∧
    Returns filter 0 ∧ (loads filter readable = true ↔ filter.length ≤ maxInsns) := by
  obtain ⟨numbers, hfilter, hnumbers⟩ := exists_of_buildFilter hbuilt
  have hfits : fitsFrom readable filter.length 0 filter = true :=
    hfilter ▸ fitsFrom_filter target numbers defaultAction _ rfl
  have hlength : 0 < filter.length := by
    rw [hfilter, List.length_append, List.length_append, length_preamble]
    omega
  refine ⟨fun data => ?_, fun pc insn hat => ?_, returns_of_fitsFrom hfits hlength, ?_⟩
  · refine ⟨_, (hfilter ▸ yields_filter target numbers defaultAction data).eval, ?_⟩
    rw [← mem_numbers hnumbers]
    have hkill : retKillProcess ≠ retAllow := by decide
    refine ⟨?_, fun harch => if_neg harch, fun harch hnr => ?_⟩
    · split <;> rename_i harch
      · split <;> rename_i hnr
        · exact iff_of_true rfl ⟨harch, hnr⟩
        · exact iff_of_false hdefault fun h => hnr h.2
      · exact iff_of_false hkill fun h => harch h.1
    · rw [if_pos harch, if_neg hnr]
  · have hinside := inside_of_fits (fits_of_fitsFrom hfits hat)
    rwa [Nat.zero_add] at hinside
  · simp [loads, hfits, hlength]

/-- Reading and writing, on the other architecture and with a call that is not listed. -/
theorem filter_exact_two :
    ∃ filter, buildFilter .x8664 [0, 1] retKillProcess = .ok filter ∧ loads filter readable = true ∧
      eval filter (SeccompData.fetch ⟨1, 0xc000003e, fun _ => 0⟩) = some retAllow ∧
      eval filter (SeccompData.fetch ⟨2, 0xc000003e, fun _ => 0⟩) = some retKillProcess ∧
      eval filter (SeccompData.fetch ⟨1, 0xc00000b7, fun _ => 0⟩) = some retKillProcess ∧ Returns filter 0 := by
  have hbuilt : buildFilter .x8664 [0, 1] retKillProcess =
      .ok (preamble .x8664 ++ [0, 1].flatMap entry ++ [statement bpfReturn retKillProcess]) := rfl
  exact ⟨_, hbuilt, by decide, by decide, by decide, by decide, (filter_exact hbuilt (by decide)).2.2.1⟩

end Yayatht.Seccomp
