import Mathlib.Data.List.Basic
import Mathlib.Tactic.Common

set_option autoImplicit false

/-!
# Classic filter programs

The accumulator fragment of the classic packet filter machine. An instruction carries
two relative distances and a constant. Jumps only go forward, counted from the next
instruction. A program is checked before it is loaded: every instruction is known,
every load is in the data and every instruction that may follow is in the program.
-/
namespace ClassicBpf

structure Insn where
  code : UInt16
  jt : UInt8
  jf : UInt8
  k : UInt32
  deriving DecidableEq, Repr

inductive Test where
  | eq
  | gt
  | ge
  | set
  deriving DecidableEq, Repr

def Test.holds (test : Test) (acc value : UInt32) : Bool :=
  match test with
  | .eq => acc == value
  | .gt => decide (value < acc)
  | .ge => decide (value ≤ acc)
  | .set => acc &&& value != 0

inductive Op where
  | load (offset : UInt32)
  | immediate (value : UInt32)
  | mask (value : UInt32)
  | jump (distance : UInt32)
  | branch (test : Test) (value : UInt32) (jt jf : UInt8)
  | ret (action : UInt32)
  | retAcc
  deriving DecidableEq, Repr

def Insn.op (insn : Insn) : Option Op :=
  match insn.code with
  | 0x20 => some (.load insn.k)
  | 0x00 => some (.immediate insn.k)
  | 0x54 => some (.mask insn.k)
  | 0x05 => some (.jump insn.k)
  | 0x15 => some (.branch .eq insn.k insn.jt insn.jf)
  | 0x25 => some (.branch .gt insn.k insn.jt insn.jf)
  | 0x35 => some (.branch .ge insn.k insn.jt insn.jf)
  | 0x45 => some (.branch .set insn.k insn.jt insn.jf)
  | 0x06 => some (.ret insn.k)
  | 0x16 => some .retAcc
  | _ => none

inductive Outcome where
  | running (pc : ℕ) (acc : UInt32)
  | returned (action : UInt32)
  | faulted
  deriving DecidableEq, Repr

variable (program : List Insn) (fetch : UInt32 → Option UInt32)

def Op.step (op : Op) (pc : ℕ) (acc : UInt32) : Outcome :=
  match op with
  | .load offset => match fetch offset with
    | some word => .running (pc + 1) word
    | none => .faulted
  | .immediate value => .running (pc + 1) value
  | .mask value => .running (pc + 1) (acc &&& value)
  | .jump distance => .running (pc + 1 + distance.toNat) acc
  | .branch test value jt jf => .running (pc + 1 + (if test.holds acc value then jt else jf).toNat) acc
  | .ret action => .returned action
  | .retAcc => .returned acc

def step (pc : ℕ) (acc : UInt32) : Outcome :=
  match program[pc]?.bind Insn.op with
  | some op => op.step fetch pc acc
  | none => .faulted

def run : ℕ → ℕ → UInt32 → Option UInt32
  | 0, _, _ => none
  | fuel + 1, pc, acc => match step program fetch pc acc with
    | .running pc' acc' => run fuel pc' acc'
    | .returned action => some action
    | .faulted => none

/-- No instruction runs twice, so the length of the program is enough fuel. -/
def eval : Option UInt32 := run program fetch program.length 0 0

/-- What the machine answers from `pc` on. -/
def Yields (pc : ℕ) (acc action : UInt32) : Prop := ∃ fuel, run program fetch fuel pc acc = some action

def Op.successors (op : Op) (pc : ℕ) : List ℕ :=
  match op with
  | .load _ | .immediate _ | .mask _ => [pc + 1]
  | .jump distance => [pc + 1 + distance.toNat]
  | .branch _ _ jt jf => [pc + 1 + jt.toNat, pc + 1 + jf.toNat]
  | .ret _ | .retAcc => []

def Op.reads (readable : UInt32 → Bool) (op : Op) : Bool :=
  match op with
  | .load offset => readable offset
  | _ => true

/-- The last instruction has nothing to fall through to, so it can only return. -/
def Insn.fits (readable : UInt32 → Bool) (size pc : ℕ) (insn : Insn) : Bool :=
  match insn.op with
  | some op => op.reads readable && (op.successors pc).all fun next => next < size
  | none => false

def fitsFrom (readable : UInt32 → Bool) (size : ℕ) : ℕ → List Insn → Bool
  | _, [] => true
  | pc, insn :: rest => insn.fits readable size pc && fitsFrom readable size (pc + 1) rest

def maxInsns : ℕ := 4096

/-- What the loader accepts. -/
def loads (readable : UInt32 → Bool) : Bool :=
  decide (0 < program.length) && decide (program.length ≤ maxInsns) &&
    fitsFrom readable program.length 0 program

/-- Every path from `pc` on stays in the program and ends in a return. -/
inductive Returns : ℕ → Prop
  | intro {pc : ℕ} {insn : Insn} {op : Op} (hat : program[pc]? = some insn) (hop : insn.op = some op)
      (hnext : ∀ next ∈ op.successors pc, Returns next) : Returns pc

variable {program fetch} {readable : UInt32 → Bool} {pc pc' size fuel : ℕ} {acc acc' action k v w : UInt32}
  {insn : Insn} {op : Op} {test : Test} {jt jf : UInt8}

theorem Op.lt_of_mem_successors (h : pc' ∈ op.successors pc) : pc < pc' := by
  cases op <;> simp only [Op.successors, List.mem_cons, List.not_mem_nil, or_false] at h <;> omega

theorem Op.mem_successors (h : op.step fetch pc acc = .running pc' acc') : pc' ∈ op.successors pc := by
  cases op with
  | load offset =>
    simp only [Op.step] at h
    split at h <;> grind [Op.successors]
  | _ => grind [Op.step, Op.successors]

theorem exists_of_step_running (h : step program fetch pc acc = .running pc' acc') :
    pc < program.length ∧ pc < pc' := by
  unfold step at h
  split at h
  · rename_i op hop
    obtain ⟨insn, hat, -⟩ := Option.bind_eq_some_iff.mp hop
    exact ⟨(List.getElem?_eq_some_iff.mp hat).1, Op.lt_of_mem_successors (Op.mem_successors h)⟩
  · cases h

theorem run_succ (h : run program fetch fuel pc acc = some action) :
    run program fetch (fuel + 1) pc acc = some action := by
  induction fuel generalizing pc acc with
  | zero => cases h
  | succ fuel ih =>
    unfold run at h ⊢
    cases hstep : step program fetch pc acc with
    | running pc' acc' => exact ih (by simpa only [hstep] using h)
    | returned a => simpa only [hstep] using h
    | faulted => simp only [hstep, reduceCtorEq] at h

theorem run_mono {fuel' : ℕ} (hle : fuel ≤ fuel') (h : run program fetch fuel pc acc = some action) :
    run program fetch fuel' pc acc = some action := by
  induction hle with
  | refl => exact h
  | step _ ih => exact run_succ ih

theorem Yields.run (h : Yields program fetch pc acc action) :
    run program fetch (program.length - pc) pc acc = some action := by
  obtain ⟨fuel, h⟩ := h
  induction fuel generalizing pc acc with
  | zero => cases h
  | succ fuel ih =>
    have hin : pc < program.length := by
      by_contra hout
      have hnone : program[pc]? = none := List.getElem?_eq_none (by omega)
      simp [ClassicBpf.run, step, hnone] at h
    obtain ⟨n, hn⟩ : ∃ n, program.length - pc = n + 1 := ⟨program.length - pc - 1, by omega⟩
    rw [hn]
    unfold ClassicBpf.run at h ⊢
    cases hstep : step program fetch pc acc with
    | running pc' acc' =>
      have hlt : pc < pc' := (exists_of_step_running hstep).2
      exact run_mono (by omega) (ih (by simpa only [hstep] using h))
    | returned a => simpa only [hstep] using h
    | faulted => simp only [hstep, reduceCtorEq] at h

theorem Yields.eval (h : Yields program fetch 0 0 action) : eval program fetch = some action := h.run

theorem Yields.ret (hat : program[pc]? = some insn) (hop : insn.op = some (.ret action)) :
    Yields program fetch pc acc action :=
  ⟨1, by simp [ClassicBpf.run, step, hat, hop, Op.step]⟩

theorem Yields.load (hat : program[pc]? = some insn) (hop : insn.op = some (.load k)) (hk : fetch k = some w)
    (h : Yields program fetch (pc + 1) w action) : Yields program fetch pc acc action := by
  obtain ⟨fuel, h⟩ := h
  exact ⟨fuel + 1, by simp [ClassicBpf.run, step, hat, hop, Op.step, hk, h]⟩

theorem Yields.branch (hat : program[pc]? = some insn) (hop : insn.op = some (.branch test v jt jf))
    (h : Yields program fetch (pc + 1 + (if test.holds acc v then jt else jf).toNat) acc action) :
    Yields program fetch pc acc action := by
  obtain ⟨fuel, h⟩ := h
  exact ⟨fuel + 1, by simp only [ClassicBpf.run, step, hat, hop, Op.step, Option.bind_some, h]⟩

theorem fits_of_fitsFrom {rest : List Insn} {i : ℕ} (h : fitsFrom readable size pc rest = true)
    (hat : rest[i]? = some insn) : insn.fits readable size (pc + i) = true := by
  induction rest generalizing pc i with
  | nil => cases hat
  | cons head rest ih =>
    rw [fitsFrom, Bool.and_eq_true] at h
    cases i with
    | zero =>
      cases hat
      exact h.1
    | succ i =>
      have hlater := ih h.2 hat
      rwa [Nat.add_right_comm] at hlater

theorem fitsFrom_append {first rest : List Insn} (hfirst : fitsFrom readable size pc first = true)
    (hrest : fitsFrom readable size (pc + first.length) rest = true) :
    fitsFrom readable size pc (first ++ rest) = true := by
  induction first generalizing pc with
  | nil => exact hrest
  | cons head first ih =>
    simp only [fitsFrom, List.cons_append, Bool.and_eq_true] at hfirst ⊢
    refine ⟨hfirst.1, ih hfirst.2 ?_⟩
    rwa [List.length_cons, ← Nat.add_assoc, Nat.add_right_comm] at hrest

theorem inside_of_fits (h : insn.fits readable size pc = true) :
    ∃ op, insn.op = some op ∧ ∀ next ∈ op.successors pc, next < size := by
  unfold Insn.fits at h
  split at h
  · rename_i op hop
    rw [Bool.and_eq_true, List.all_eq_true] at h
    exact ⟨op, hop, fun next hnext => of_decide_eq_true (h.2 next hnext)⟩
  · cases h

/-- The distance to the end of the program falls along every path. -/
theorem returns_of_fitsFrom (h : fitsFrom readable program.length 0 program = true) (hpc : pc < program.length) :
    Returns program pc := by
  induction hn : program.length - pc using Nat.strongRecOn generalizing pc with
  | _ n ih =>
    have hat : program[pc]? = some program[pc] := List.getElem?_eq_getElem hpc
    obtain ⟨op, hop, hinside⟩ := inside_of_fits (fits_of_fitsFrom h hat)
    rw [Nat.zero_add] at hinside
    refine .intro hat hop fun next hnext => ?_
    have hlt := Op.lt_of_mem_successors hnext
    have hin := hinside next hnext
    exact ih (program.length - next) (by omega) hin rfl

end ClassicBpf
