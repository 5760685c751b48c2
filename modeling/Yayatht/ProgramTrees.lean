import Mathlib.Data.List.Basic
import Mathlib.Logic.Function.Basic

set_option autoImplicit false

/-!
# Programs that call their surroundings

A program is a tree of calls; repeating a body is a node of its own, so that a service that
runs for ever is a finite tree. Several programs run side by side over one journal of
calls and answers. What holds of the calls of one program alone carries over to every
interleaving of all of them.
-/
namespace Yayatht.Processes

/-- A program over the calls `C` with answers in `A`: it returns, makes a call, or repeats a body
that goes on from a new value or leaves with a result. -/
inductive Program (C : Type) (A : C → Type) : Type → Type 1 where
  | ret {α : Type} (a : α) : Program C A α
  | call {α : Type} (c : C) (next : A c → Program C A α) : Program C A α
  | loop {σ β α : Type} (body : σ → Program C A (σ ⊕ β)) (s : σ) (next : β → Program C A α) : Program C A α

/-- A call that was made, with its answer. -/
structure Exchange (C : Type) (A : C → Type) where
  call : C
  answer : A call

variable {C : Type} {A : C → Type} {α β σ ε : Type}

namespace Program

def bind {α β : Type} (p : Program C A α) (f : α → Program C A β) : Program C A β :=
  match p with
  | .ret a => f a
  | .call c next => .call c fun a => (next a).bind f
  | .loop body s next => .loop body s fun b => (next b).bind f

instance : Monad (Program C A) where
  pure := .ret
  bind := bind

def inquire (c : C) : ExceptT ε (Program C A) (A c) := ExceptT.mk (.call c fun a => .ret (.ok a))

def settled (r : Except ε α) : ExceptT ε (Program C A) α := ExceptT.mk (.ret r)

def turn (body : σ → Program C A (σ ⊕ β)) (next : β → Program C A α) : σ ⊕ β → Program C A α
  | .inl s => .loop body s next
  | .inr b => next b

def pass (body : σ → ExceptT ε (Program C A) (σ ⊕ β)) (s : σ) : Program C A (σ ⊕ Except ε β) :=
  bind (body s).run fun
    | .ok (.inl s) => .ret (.inl s)
    | .ok (.inr b) => .ret (.inr (.ok b))
    | .error e => .ret (.inr (.error e))

/-- Repeats a body that may fail. -/
def repeating (body : σ → ExceptT ε (Program C A) (σ ⊕ β)) (s : σ) : ExceptT ε (Program C A) β :=
  ExceptT.mk (.loop (pass body) s .ret)

end Program

open Program

/-- From these calls on, newest first, the program keeps `I` true of its calls, and `Q` of what it
returns with. -/
inductive Holds (I : List (Exchange C A) → Prop) :
    {α : Type} → List (Exchange C A) → Program C A α → (α → List (Exchange C A) → Prop) → Prop where
  | ret {α : Type} {Q : α → List (Exchange C A) → Prop} (past : List (Exchange C A)) (a : α) (hI : I past)
      (hQ : Q a past) : Holds I past (.ret a) Q
  | call {α : Type} {Q : α → List (Exchange C A) → Prop} (past : List (Exchange C A)) (c : C)
      (next : A c → Program C A α) (hI : I past) (hnext : ∀ a, Holds I (⟨c, a⟩ :: past) (next a) Q) :
      Holds I past (.call c next) Q
  | loop {σ β α : Type} {Q : α → List (Exchange C A) → Prop} (past : List (Exchange C A))
      (body : σ → Program C A (σ ⊕ β)) (s : σ) (next : β → Program C A α) (J : σ → List (Exchange C A) → Prop)
      (L : β → List (Exchange C A) → Prop) (hJ : J s past)
      (hbody : ∀ s past, J s past → Holds I past (body s) (Sum.elim J L))
      (hnext : ∀ b past, I past → L b past → Holds I past (next b) Q) :
      Holds I past (.loop body s next) Q

/-- What a program that may fail returns with. -/
def Outcome (Q : α → List (Exchange C A) → Prop) (E : ε → List (Exchange C A) → Prop) :
    Except ε α → List (Exchange C A) → Prop
  | .ok a => Q a
  | .error e => E e

namespace Holds

variable {I : List (Exchange C A) → Prop} {past : List (Exchange C A)}

theorem here {p : Program C A α} {Q : α → List (Exchange C A) → Prop} (h : Holds I past p Q) : I past := by
  induction h with
  | ret past a hI hQ => exact hI
  | call past c next hI hnext ih => exact hI
  | loop past body s next J L hJ hbody hnext ihbody ihnext => exact ihbody s past hJ

theorem post {p : Program C A α} {Q R : α → List (Exchange C A) → Prop} (h : Holds I past p Q)
    (hpost : ∀ a past, I past → Q a past → R a past) : Holds I past p R := by
  induction h with
  | ret past a hI hQ => exact .ret past a hI (hpost a past hI hQ)
  | call past c next hI hnext ih => exact .call past c next hI fun a => ih a hpost
  | loop past body s next J L hJ hbody hnext ihbody ihnext =>
    exact .loop past body s next J L hJ hbody fun b past hI hL => ihnext b past hI hL hpost

theorem bind {p : Program C A α} {f : α → Program C A β} {Q : α → List (Exchange C A) → Prop}
    {R : β → List (Exchange C A) → Prop} (h : Holds I past p Q)
    (hf : ∀ a past, I past → Q a past → Holds I past (f a) R) : Holds I past (p.bind f) R := by
  induction h with
  | ret past a hI hQ => exact hf a past hI hQ
  | call past c next hI hnext ih => exact .call past c _ hI fun a => ih a hf
  | loop past body s next J L hJ hbody hnext ihbody ihnext =>
    exact .loop past body s _ J L hJ hbody fun b past hI hL => ihnext b past hI hL hf

/-- A program that may fail goes on only when it did not. -/
theorem bindE {p : ExceptT ε (Program C A) α} {f : α → ExceptT ε (Program C A) β}
    {Q : α → List (Exchange C A) → Prop} {R : β → List (Exchange C A) → Prop}
    {E : ε → List (Exchange C A) → Prop} (h : Holds I past p.run (Outcome Q E))
    (hf : ∀ a past, I past → Q a past → Holds I past (f a).run (Outcome R E)) :
    Holds I past (p >>= f).run (Outcome R E) := by
  refine Holds.bind h fun result past hI hQ => ?_
  cases result with
  | ok a => exact hf a past hI hQ
  | error e => exact .ret past _ hI hQ

theorem pureE {a : α} {Q : α → List (Exchange C A) → Prop} {E : ε → List (Exchange C A) → Prop} (hI : I past)
    (hQ : Q a past) : Holds I past (pure a : ExceptT ε (Program C A) α).run (Outcome Q E) := .ret past _ hI hQ

theorem throwE {e : ε} {Q : α → List (Exchange C A) → Prop} {E : ε → List (Exchange C A) → Prop} (hI : I past)
    (hE : E e past) : Holds I past (throw e : ExceptT ε (Program C A) α).run (Outcome Q E) := .ret past _ hI hE

theorem repeating {body : σ → ExceptT ε (Program C A) (σ ⊕ β)} {s : σ} {J : σ → List (Exchange C A) → Prop}
    {Q : β → List (Exchange C A) → Prop} {E : ε → List (Exchange C A) → Prop} (hJ : J s past)
    (hbody : ∀ s past, J s past → Holds I past (body s).run (Outcome (Sum.elim J Q) E)) :
    Holds I past (Program.repeating body s).run (Outcome Q E) := by
  refine .loop past _ s _ J (Outcome Q E) hJ (fun s past hJ => ?_) fun b past hI hL => .ret past b hI hL
  refine Holds.bind (hbody s past hJ) fun result past hI hQ => ?_
  cases result with
  | ok step =>
    cases step with
    | inl s => exact .ret past _ hI hQ
    | inr b => exact .ret past _ hI hQ
  | error e => exact .ret past _ hI hQ

theorem forM {γ : Type} {f : γ → ExceptT ε (Program C A) Unit} {J : List γ → List (Exchange C A) → Prop}
    {E : ε → List (Exchange C A) → Prop} (xs : List γ) (hI : I past) (hJ : J [] past)
    (hstep : ∀ done x past, I past → J done past → Holds I past (f x).run (Outcome (fun _ => J (done ++ [x])) E)) :
    Holds I past (xs.forM f).run (Outcome (fun _ => J xs) E) := by
  induction xs generalizing past J with
  | nil => exact pureE hI hJ
  | cons x xs ih =>
    refine bindE (hstep [] x past hI hJ) fun _ past hI hJ => ?_
    exact ih (J := fun done => J (x :: done)) hI hJ fun done y past hI hJ => hstep (x :: done) y past hI hJ

/-! ### One step -/

theorem step_call {c : C} {next : A c → Program C A α} {Q : α → List (Exchange C A) → Prop}
    (h : Holds I past (.call c next) Q) (a : A c) : Holds I (⟨c, a⟩ :: past) (next a) Q := by
  cases h with
  | call _ _ _ hI hnext => exact hnext a

theorem step_loop {body : σ → Program C A (σ ⊕ β)} {s : σ} {next : β → Program C A α}
    {Q : α → List (Exchange C A) → Prop} (h : Holds I past (.loop body s next) Q) :
    Holds I past ((body s).bind (turn body next)) Q := by
  cases h with
  | loop _ _ _ _ J L hJ hbody hnext =>
    refine (hbody s past hJ).bind fun result past hI hresult => ?_
    cases result with
    | inl s => exact .loop past body s next J L hresult hbody hnext
    | inr b => exact hnext b past hI hresult

theorem returned {a : α} {Q : α → List (Exchange C A) → Prop} (h : Holds I past (.ret a) Q) : Q a past := by
  cases h with
  | ret _ _ hI hQ => exact hQ

end Holds

/-! ## The calls a program can make -/

/-- Whatever it is answered, the program makes no other calls than these. -/
inductive Calls (ok : C → Prop) : {α : Type} → Program C A α → Prop where
  | ret {α : Type} (a : α) : Calls ok (.ret a)
  | call {α : Type} (c : C) (next : A c → Program C A α) (hc : ok c) (hnext : ∀ a, Calls ok (next a)) :
      Calls ok (.call c next)
  | loop {σ β α : Type} (body : σ → Program C A (σ ⊕ β)) (s : σ) (next : β → Program C A α)
      (hbody : ∀ s, Calls ok (body s)) (hnext : ∀ b, Calls ok (next b)) : Calls ok (.loop body s next)

namespace Calls

variable {ok : C → Prop}

theorem bind {p : Program C A α} {f : α → Program C A β} (h : Calls ok p) (hf : ∀ a, Calls ok (f a)) :
    Calls ok (p.bind f) := by
  induction h with
  | ret a => exact hf a
  | call c next hc hnext ih => exact .call c _ hc fun a => ih a hf
  | loop body s next hbody hnext ihbody ihnext => exact .loop body s _ hbody fun b => ihnext b hf

theorem bindE {p : ExceptT ε (Program C A) α} {f : α → ExceptT ε (Program C A) β} (h : Calls ok p.run)
    (hf : ∀ a, Calls ok (f a).run) : Calls ok (p >>= f).run := by
  refine Calls.bind h fun result => ?_
  cases result with
  | ok a => exact hf a
  | error e => exact .ret _

theorem inquire {c : C} (h : ok c) : Calls ok (Program.inquire c : ExceptT ε (Program C A) (A c)).run :=
  .call c _ h fun _ => .ret _

theorem settled (r : Except ε α) : Calls ok (Program.settled r : ExceptT ε (Program C A) α).run := .ret _

theorem pureE (a : α) : Calls ok (pure a : ExceptT ε (Program C A) α).run := .ret _

theorem throwE (e : ε) : Calls ok (throw e : ExceptT ε (Program C A) α).run := .ret _

theorem repeating {body : σ → ExceptT ε (Program C A) (σ ⊕ β)} (s : σ) (hbody : ∀ s, Calls ok (body s).run) :
    Calls ok (Program.repeating body s).run := by
  refine .loop _ s _ (fun s => Calls.bind (hbody s) fun result => ?_) fun b => .ret b
  cases result with
  | ok step =>
    cases step with
    | inl s => exact .ret _
    | inr b => exact .ret _
  | error e => exact .ret _

theorem forM {γ : Type} {f : γ → ExceptT ε (Program C A) Unit} (xs : List γ) (hf : ∀ x, Calls ok (f x).run) :
    Calls ok (xs.forM f).run := by
  induction xs with
  | nil => exact pureE _
  | cons x xs ih => exact bindE (hf x) fun _ => ih

theorem mono {ok' : C → Prop} {p : Program C A α} (h : Calls ok p) (hok : ∀ c, ok c → ok' c) : Calls ok' p := by
  induction h with
  | ret a => exact .ret a
  | call c next hc hnext ih => exact .call c next (hok c hc) ih
  | loop body s next hbody hnext ihbody ihnext => exact .loop body s next ihbody ihnext

theorem holds {I M : List (Exchange C A) → Prop} {p : Program C A α} {past : List (Exchange C A)} (h : Calls ok p)
    (hI : I past) (hM : M past)
    (hkeep : ∀ c a past, ok c → I past → M past → I (⟨c, a⟩ :: past) ∧ M (⟨c, a⟩ :: past)) :
    Holds I past p fun _ => M := by
  induction h generalizing past with
  | ret a => exact .ret past a hI hM
  | call c next hc hnext ih =>
    refine .call past c next hI fun a => ?_
    obtain ⟨hI, hM⟩ := hkeep c a past hc hI hM
    exact ih a hI hM
  | loop body s next hbody hnext ihbody ihnext =>
    refine .loop past body s next (fun _ past => I past ∧ M past) (fun _ past => I past ∧ M past) ⟨hI, hM⟩
      (fun s past hpast => ?_) fun b past _ hpast => ihnext b hpast.1 hpast.2
    refine (ihbody s hpast.1 hpast.2).post fun result past hI hM => ?_
    cases result with
    | inl s => exact ⟨hI, hM⟩
    | inr b => exact ⟨hI, hM⟩

end Calls

/-! ## A rule for each call -/

/-- `P` held of each element and the ones before it when it was added. -/
def Whenever {γ : Type} (P : γ → List γ → Prop) : List γ → Prop
  | [] => True
  | e :: earlier => P e earlier ∧ Whenever P earlier

namespace Whenever

variable {γ : Type} {P : γ → List γ → Prop}

theorem at_split {history later earlier : List γ} {e : γ} (h : Whenever P history)
    (hsplit : history = later ++ e :: earlier) : P e earlier := by
  induction later generalizing history with
  | nil =>
    subst hsplit
    exact h.1
  | cons first later ih =>
    subst hsplit
    exact ih h.2 rfl

end Whenever

namespace Holds

variable {P : Exchange C A → List (Exchange C A) → Prop} {past : List (Exchange C A)}

theorem inquire {E : ε → List (Exchange C A) → Prop} {c : C} (hI : Whenever P past) (hP : ∀ a, P ⟨c, a⟩ past) :
    Holds (Whenever P) past (Program.inquire c : ExceptT ε (Program C A) (A c)).run
      (Outcome (fun a past' => past' = ⟨c, a⟩ :: past) E) :=
  .call past c _ hI fun a => .ret _ _ ⟨hP a, hI⟩ rfl

theorem settled {E : ε → List (Exchange C A) → Prop} {r : Except ε α} (hI : Whenever P past)
    (hE : ∀ e, r = .error e → E e past) :
    Holds (Whenever P) past (Program.settled r : ExceptT ε (Program C A) α).run
      (Outcome (fun a past' => r = .ok a ∧ past' = past) E) := by
  refine .ret _ _ hI ?_
  cases r with
  | ok a => exact ⟨rfl, rfl⟩
  | error e => exact hE e rfl

theorem freely {ok : C → Prop} {p : Program C A α} (h : Calls ok p) (hI : Whenever P past)
    (hP : ∀ c a past, ok c → P ⟨c, a⟩ past) : Holds (Whenever P) past p fun _ past' => past <:+ past' := by
  refine h.holds hI List.suffix_rfl fun c a past' hok hI hpast => ?_
  exact ⟨⟨hP c a past' hok, hI⟩, hpast.trans (List.suffix_cons _ _)⟩

end Holds

/-! ## Side by side -/

section Runs

variable {ι : Type} [DecidableEq ι] {R : ι → Type}

/-- A call of one of the programs. -/
structure Occurrence (ι : Type) (C : Type) (A : C → Type) where
  who : ι
  call : C
  answer : A call

/-- The calls of one program, newest first. -/
def mine (i : ι) (journal : List (Occurrence ι C A)) : List (Exchange C A) :=
  journal.filterMap fun e => if e.who = i then some ⟨e.call, e.answer⟩ else none

/-- The programs run in any order; `allows` says how the surroundings answer. -/
inductive Run (allows : List (Occurrence ι C A) → Occurrence ι C A → Prop) (programs : (i : ι) → Program C A (R i)) :
    List (Occurrence ι C A) → ((i : ι) → Program C A (R i)) → Prop where
  | start : Run allows programs [] programs
  | call (journal : List (Occurrence ι C A)) (now : (i : ι) → Program C A (R i)) (i : ι) (c : C)
      (next : A c → Program C A (R i)) (a : A c) (h : Run allows programs journal now)
      (hnow : now i = .call c next) (hallowed : allows journal ⟨i, c, a⟩) :
      Run allows programs (⟨i, c, a⟩ :: journal) (Function.update now i (next a))
  | loop {σ β : Type} (journal : List (Occurrence ι C A)) (now : (i : ι) → Program C A (R i)) (i : ι)
      (body : σ → Program C A (σ ⊕ β)) (s : σ) (next : β → Program C A (R i))
      (h : Run allows programs journal now) (hnow : now i = .loop body s next) :
      Run allows programs journal (Function.update now i ((body s).bind (turn body next)))

theorem mine_own (i : ι) (c : C) (a : A c) (journal : List (Occurrence ι C A)) :
    mine i (⟨i, c, a⟩ :: journal) = ⟨c, a⟩ :: mine i journal := by
  unfold mine
  rw [List.filterMap_cons, if_pos rfl]

theorem mine_other {i j : ι} (h : j ≠ i) (c : C) (a : A c) (journal : List (Occurrence ι C A)) :
    mine i (⟨j, c, a⟩ :: journal) = mine i journal := by
  unfold mine
  rw [List.filterMap_cons, if_neg h]

theorem mine_append (i : ι) (later earlier : List (Occurrence ι C A)) :
    mine i (later ++ earlier) = mine i later ++ mine i earlier := List.filterMap_append

theorem mem_mine {i : ι} {c : C} {a : A c} {journal : List (Occurrence ι C A)} :
    (⟨c, a⟩ : Exchange C A) ∈ mine i journal ↔ (⟨i, c, a⟩ : Occurrence ι C A) ∈ journal := by
  unfold mine
  rw [List.mem_filterMap]
  constructor
  · rintro ⟨⟨who, call, answer⟩, hmem, heq⟩
    split at heq
    · rename_i hwho
      change who = i at hwho
      cases heq
      rw [← hwho]
      exact hmem
    · cases heq
  · intro hmem
    exact ⟨_, hmem, if_pos rfl⟩

/-- A call in the history of a program has its place in the journal. -/
theorem split_of_mine {i : ι} {journal : List (Occurrence ι C A)} {later earlier : List (Exchange C A)}
    {e : Exchange C A} (h : mine i journal = later ++ e :: earlier) :
    ∃ after before, journal = after ++ ⟨i, e.call, e.answer⟩ :: before ∧ mine i before = earlier := by
  induction journal generalizing later with
  | nil => simp [mine] at h
  | cons first journal ih =>
    obtain ⟨who, call, answer⟩ := first
    by_cases hwho : who = i
    · subst hwho
      rw [mine_own] at h
      cases later with
      | nil =>
        rw [List.nil_append] at h
        injection h with he hrest
        subst he
        exact ⟨[], journal, rfl, hrest⟩
      | cons other later =>
        rw [List.cons_append] at h
        injection h with _ hrest
        obtain ⟨after, before, hsplit, hbefore⟩ := ih hrest
        exact ⟨_ :: after, before, congrArg (List.cons _) hsplit, hbefore⟩
    · rw [mine_other hwho] at h
      obtain ⟨after, before, hsplit, hbefore⟩ := ih h
      exact ⟨_ :: after, before, congrArg (List.cons _) hsplit, hbefore⟩

namespace Run

variable {allows : List (Occurrence ι C A) → Occurrence ι C A → Prop} {programs now : (i : ι) → Program C A (R i)}
  {journal : List (Occurrence ι C A)}

/-- What each program keeps by itself it keeps in every interleaving. -/
theorem holds {i : ι} {I : List (Exchange C A) → Prop} {Q : R i → List (Exchange C A) → Prop}
    (hlocal : Holds I [] (programs i) Q) (h : Run allows programs journal now) :
    Holds I (mine i journal) (now i) Q := by
  induction h with
  | start => exact hlocal
  | call journal now j c next a h hnow hallowed ih =>
    by_cases hij : j = i
    · subst hij
      rw [mine_own, Function.update_self]
      rw [hnow] at ih
      exact ih.step_call a
    · rw [mine_other hij, Function.update_of_ne (Ne.symm hij)]
      exact ih
  | loop journal now j body s next h hnow ih =>
    by_cases hij : j = i
    · subst hij
      rw [Function.update_self]
      rw [hnow] at ih
      exact ih.step_loop
    · rw [Function.update_of_ne (Ne.symm hij)]
      exact ih

theorem allowed {later earlier : List (Occurrence ι C A)} {e : Occurrence ι C A}
    (h : Run allows programs journal now) (hsplit : journal = later ++ e :: earlier) : allows earlier e := by
  induction h generalizing later with
  | start => simp at hsplit
  | call journal now i c next a h hnow hallowed ih =>
    cases later with
    | nil =>
      rw [List.nil_append] at hsplit
      injection hsplit with he hrest
      rw [← he, ← hrest]
      exact hallowed
    | cons first later =>
      rw [List.cons_append] at hsplit
      injection hsplit with he hrest
      exact ih hrest
  | loop journal now i body s next h hnow ih => exact ih hsplit

end Run

theorem mine_split {journal later earlier : List (Occurrence ι C A)} {i : ι} {c : C} {a : A c}
    (hsplit : journal = later ++ ⟨i, c, a⟩ :: earlier) :
    mine i journal = mine i later ++ ⟨c, a⟩ :: mine i earlier := by
  rw [hsplit, mine_append, mine_own]

/-! ### Replaying a schedule -/

/-- Unrolls the loops at the head of a program. -/
def settle {α : Type} : ℕ → Program C A α → Program C A α
  | fuel + 1, .loop body s next => settle fuel ((body s).bind (turn body next))
  | _, p => p

/-- Runs the programs in a given order with given answers, as far as these are allowed. -/
def replayed (allows : List (Occurrence ι C A) → Occurrence ι C A → Bool) :
    List (ι × ((c : C) → A c)) → List (Occurrence ι C A) → ((i : ι) → Program C A (R i)) →
      Option (List (Occurrence ι C A) × ((i : ι) → Program C A (R i)))
  | [], journal, now => some (journal, now)
  | (i, answers) :: schedule, journal, now =>
    match settle 4 (now i) with
    | .call c next =>
      if allows journal ⟨i, c, answers c⟩ then
        replayed allows schedule (⟨i, c, answers c⟩ :: journal) (Function.update now i (next (answers c)))
      else none
    | _ => none

theorem Run.settled {allows : List (Occurrence ι C A) → Occurrence ι C A → Prop}
    {programs now : (i : ι) → Program C A (R i)} {journal : List (Occurrence ι C A)}
    (h : Run allows programs journal now) (i : ι) (fuel : ℕ) :
    Run allows programs journal (Function.update now i (settle fuel (now i))) := by
  induction fuel generalizing now with
  | zero =>
    unfold settle
    rw [Function.update_eq_self]
    exact h
  | succ fuel ih =>
    cases hnow : now i with
    | ret a =>
      unfold settle
      rw [← hnow, Function.update_eq_self]
      exact h
    | call c next =>
      unfold settle
      rw [← hnow, Function.update_eq_self]
      exact h
    | loop body s next =>
      have hstep := ih (.loop journal now i body s next h hnow)
      rw [Function.update_self, Function.update_idem] at hstep
      exact hstep

theorem Run.of_replayed {allows : List (Occurrence ι C A) → Occurrence ι C A → Bool}
    {programs now last : (i : ι) → Program C A (R i)} {journal final : List (Occurrence ι C A)}
    (h : Run (fun journal e => allows journal e = true) programs journal now)
    (schedule : List (ι × ((c : C) → A c))) (hreplay : replayed allows schedule journal now = some (final, last)) :
    Run (fun journal e => allows journal e = true) programs final last := by
  induction schedule generalizing journal now with
  | nil =>
    cases hreplay
    exact h
  | cons first schedule ih =>
    obtain ⟨i, answers⟩ := first
    have hsettled := h.settled i 4
    unfold replayed at hreplay
    cases hnow : settle 4 (now i) with
    | ret a =>
      rw [hnow] at hreplay
      cases hreplay
    | call c next =>
      rw [hnow] at hreplay hsettled
      dsimp only at hreplay
      split at hreplay
      · rename_i hallowed
        have hstep := Run.call _ _ i c next (answers c) hsettled (Function.update_self ..) hallowed
        rw [Function.update_idem] at hstep
        exact ih hstep hreplay
      · cases hreplay
    | loop body s next =>
      rw [hnow] at hreplay
      cases hreplay

/-- A replay that passes a check is a run that does. -/
theorem Run.exists_replayed {allows : List (Occurrence ι C A) → Occurrence ι C A → Bool}
    {programs : (i : ι) → Program C A (R i)}
    (schedule : List (ι × ((c : C) → A c))) (check : List (Occurrence ι C A) × ((i : ι) → Program C A (R i)) → Bool)
    (h : (replayed allows schedule [] programs).any check = true) :
    ∃ journal now, Run (fun journal e => allows journal e = true) programs journal now ∧
      check (journal, now) = true := by
  obtain ⟨⟨journal, now⟩, hreplay, hcheck⟩ := (Option.any_eq_true _ _).mp h
  exact ⟨journal, now, Run.of_replayed .start schedule hreplay, hcheck⟩

end Runs

end Yayatht.Processes
