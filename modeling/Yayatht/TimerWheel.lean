import Yayatht.Flow

set_option autoImplicit false

/-!
# The timer wheel

An entry waits in the bucket of the tick of its deadline. A call of `expire` sweeps the
buckets from the cursor to the tick of its time and leaves the cursor behind that tick.
`waiting` says what an ideal list of timers would still hold after the same calls.
-/
namespace Yayatht

inductive TimerKind where
  | retransmit
  | connect
  | idle
  | timeWait
  | zeroWindowProbe
  deriving DecidableEq, Repr

/-- Instants count nanoseconds. -/
structure TimerEntry (T : Type) where
  key : T
  kind : TimerKind
  deadline : ℕ
  sequence : UInt32
  deriving DecidableEq, Repr

structure TimerWheel (T : Type) where
  epoch : ℕ
  tick : ℕ
  cursor : ℕ
  buckets : List (List (TimerEntry T))
  cursor_le : cursor ≤ u64Max
  buckets_pos : 0 < buckets.length

namespace TimerWheel

variable {T : Type}

def new (epoch tick buckets : ℕ) (h : 0 < buckets) : TimerWheel T where
  epoch := epoch
  tick := tick
  cursor := 0
  buckets := List.replicate buckets []
  cursor_le := Nat.zero_le _
  buckets_pos := by rwa [List.length_replicate]

/-- The tick of an instant, cut to 64 bits. -/
def ticks (epoch tick instant : ℕ) : ℕ := (instant - epoch) / max tick 1 % 2 ^ 64

def slot (w : TimerWheel T) (instant : ℕ) : ℕ := ticks w.epoch w.tick instant % w.buckets.length

def setBucket (w : TimerWheel T) (slot : ℕ) (bucket : List (TimerEntry T)) : TimerWheel T :=
  { w with
    buckets := w.buckets.set slot bucket
    buckets_pos := by rw [List.length_set]; exact w.buckets_pos }

def bucket (w : TimerWheel T) (slot : ℕ) : List (TimerEntry T) := w.buckets[slot]?.getD []

def schedule (w : TimerWheel T) (entry : TimerEntry T) : TimerWheel T :=
  w.setBucket (w.slot entry.deadline) (w.bucket (w.slot entry.deadline) ++ [entry])

/-- Looks at the first `count` entries of a bucket; `none` if there are fewer. -/
def drain (now slot : ℕ) : ℕ → TimerWheel T → List (TimerEntry T) → Option (TimerWheel T × List (TimerEntry T))
  | 0, w, out => some (w, out)
  | count + 1, w, out =>
    match w.bucket slot with
    | [] => none
    | entry :: rest =>
      if entry.deadline ≤ now then drain now slot count (w.setBucket slot rest) (out ++ [entry])
      else drain now slot count ((w.setBucket slot rest).schedule entry) out

def advance (w : TimerWheel T) : TimerWheel T :=
  { w with
    cursor := min (w.cursor + 1) u64Max
    cursor_le := Nat.min_le_right _ _ }

/-- The loop, for as many rounds as given; `none` when it does not end in them. -/
def sweep (now target : ℕ) : ℕ → TimerWheel T → List (TimerEntry T) → Option (TimerWheel T × List (TimerEntry T))
  | 0, _, _ => none
  | rounds + 1, w, out =>
    if w.cursor ≤ target then do
      let slot := w.cursor % w.buckets.length
      let (w, out) ← drain now slot (w.bucket slot).length w out
      sweep now target rounds w.advance out
    else some (w, out)

/-- The wheel and the output of a call. The cursor stops at its maximum: a loop of more
rounds than there are ticks does not end, and the call does not return. -/
def expire (w : TimerWheel T) (now : ℕ) : Option (TimerWheel T × List (TimerEntry T)) :=
  sweep now (ticks w.epoch w.tick now) (u64Max + 2) w []

/-! ## One bucket -/

def pending (w : TimerWheel T) : List (TimerEntry T) := w.buckets.flatten

/-- Every entry is in the bucket of its deadline. -/
def Placed (w : TimerWheel T) : Prop := ∀ i, ∀ entry ∈ w.bucket i, w.slot entry.deadline = i

theorem slot_lt (w : TimerWheel T) (instant : ℕ) : w.slot instant < w.buckets.length := Nat.mod_lt _ w.buckets_pos

@[simp] theorem slot_setBucket (w : TimerWheel T) (i : ℕ) (bucket : List (TimerEntry T)) (instant : ℕ) :
    (w.setBucket i bucket).slot instant = w.slot instant := by
  simp [slot, setBucket]

theorem bucket_setBucket (w : TimerWheel T) {i : ℕ} (hi : i < w.buckets.length) (bucket : List (TimerEntry T)) (j : ℕ) :
    (w.setBucket i bucket).bucket j = if j = i then bucket else w.bucket j := by
  unfold TimerWheel.bucket setBucket
  rw [List.getElem?_set]
  by_cases hj : j = i
  · subst hj
    rw [if_pos rfl, if_pos rfl, if_pos hi]
    rfl
  · rw [if_neg (Ne.symm hj), if_neg hj]

theorem setBucket_setBucket (w : TimerWheel T) (i : ℕ) (first second : List (TimerEntry T)) :
    (w.setBucket i first).setBucket i second = w.setBucket i second := by
  simp [setBucket]

theorem setBucket_bucket (w : TimerWheel T) {i : ℕ} (hi : i < w.buckets.length) : w.setBucket i (w.bucket i) = w := by
  obtain ⟨epoch, tick, cursor, buckets, hcursor, hpos⟩ := w
  have hget : buckets[i]? = some buckets[i] := List.getElem?_eq_getElem hi
  simp [setBucket, TimerWheel.bucket, hget]

theorem mem_pending (w : TimerWheel T) (entry : TimerEntry T) :
    entry ∈ w.pending ↔ ∃ i, i < w.buckets.length ∧ entry ∈ w.bucket i := by
  unfold pending TimerWheel.bucket
  rw [List.mem_flatten]
  constructor
  · rintro ⟨bucket, hbucket, hentry⟩
    obtain ⟨i, hi, rfl⟩ := List.getElem_of_mem hbucket
    refine ⟨i, hi, ?_⟩
    rw [List.getElem?_eq_getElem hi]
    exact hentry
  · rintro ⟨i, hi, hentry⟩
    rw [List.getElem?_eq_getElem hi] at hentry
    exact ⟨buckets w |>.get ⟨i, hi⟩, List.get_mem _ _, hentry⟩

theorem flatten_set {buckets : List (List (TimerEntry T))} {i : ℕ} {bucket left out : List (TimerEntry T)}
    (hi : buckets[i]? = some bucket) (hperm : bucket.Perm (out ++ left)) :
    buckets.flatten.Perm (out ++ (buckets.set i left).flatten) := by
  induction buckets generalizing i with
  | nil => cases hi
  | cons first rest ih =>
    cases i with
    | zero =>
      cases hi
      rw [List.set_cons_zero, List.flatten_cons, List.flatten_cons, ← List.append_assoc]
      exact hperm.append_right _
    | succ i =>
      have hrest := ih (i := i) hi
      rw [List.set_cons_succ, List.flatten_cons, List.flatten_cons]
      refine (hrest.append_left first).trans ?_
      rw [← List.append_assoc, ← List.append_assoc]
      exact List.perm_append_comm.append_right _

theorem drain_eq {w : TimerWheel T} {i : ℕ} (now : ℕ) (hi : i < w.buckets.length) {front back : List (TimerEntry T)}
    (out : List (TimerEntry T)) (hbucket : w.bucket i = front ++ back)
    (hplaced : ∀ entry ∈ front, w.slot entry.deadline = i) :
    drain now i front.length w out =
      some (w.setBucket i (back ++ front.filter fun entry => now < entry.deadline),
        out ++ front.filter fun entry => entry.deadline ≤ now) := by
  induction front generalizing w back out with
  | nil =>
    rw [List.nil_append] at hbucket
    simp only [List.length_nil, drain, List.filter_nil, List.append_nil]
    rw [← hbucket, setBucket_bucket w hi]
  | cons entry front ih =>
    have hrest : ∀ other ∈ front, w.slot other.deadline = i := fun other hm =>
      hplaced other (List.mem_cons_of_mem entry hm)
    have hlength : ∀ bucket, i < (w.setBucket i bucket).buckets.length := by
      intro bucket
      simpa [setBucket] using hi
    simp only [List.length_cons, drain, hbucket, List.cons_append]
    split
    · rename_i hdue
      rw [ih (hlength _) (out ++ [entry]) (by rw [bucket_setBucket w hi, if_pos rfl])
        (fun other hm => by rw [slot_setBucket]; exact hrest other hm), setBucket_setBucket]
      simp [hdue]
    · rename_i hdue
      have hself := hplaced entry List.mem_cons_self
      have hback : (w.setBucket i (front ++ back)).schedule entry = w.setBucket i (front ++ (back ++ [entry])) := by
        unfold schedule
        rw [slot_setBucket, hself, bucket_setBucket w hi, if_pos rfl, setBucket_setBucket, List.append_assoc]
      rw [hback, ih (hlength _) out (by rw [bucket_setBucket w hi, if_pos rfl])
        (fun other hm => by rw [slot_setBucket]; exact hrest other hm), setBucket_setBucket]
      have hlater : now < entry.deadline := Nat.not_le.mp hdue
      simp [hdue, hlater]

/-! ## Sweeping the buckets -/

/-- What the wheel loses when the buckets in `visited` are looked at. -/
structure Swept (now : ℕ) (visited : ℕ → Prop) (w u : TimerWheel T) (out : List (TimerEntry T)) : Prop where
  epoch : u.epoch = w.epoch
  tick : u.tick = w.tick
  length : u.buckets.length = w.buckets.length
  placed : u.Placed
  perm : w.pending.Perm (out ++ u.pending)
  due : ∀ entry ∈ out, entry.deadline ≤ now
  cleared : ∀ i, visited i → ∀ entry ∈ u.bucket i, now < entry.deadline
  kept : ∀ i, ¬visited i → u.bucket i = w.bucket i

variable {w u v : TimerWheel T} {now : ℕ} {first second : ℕ → Prop} {out later : List (TimerEntry T)}

theorem Swept.trans (h : Swept now first w u out) (h' : Swept now second u v later) :
    Swept now (fun i => first i ∨ second i) w v (out ++ later) where
  epoch := h'.epoch.trans h.epoch
  tick := h'.tick.trans h.tick
  length := h'.length.trans h.length
  placed := h'.placed
  perm := by
    rw [List.append_assoc]
    exact h.perm.trans (h'.perm.append_left out)
  due entry hm := (List.mem_append.mp hm).elim (h.due entry) (h'.due entry)
  cleared i hi entry hm := by
    by_cases hsecond : second i
    · exact h'.cleared i hsecond entry hm
    · rw [h'.kept i hsecond] at hm
      exact h.cleared i (hi.resolve_right hsecond) entry hm
  kept i hi := by
    rw [h'.kept i fun hc => hi (.inr hc), h.kept i fun hc => hi (.inl hc)]

theorem Swept.of_iff (h : Swept now first w u out) (hiff : ∀ i, first i ↔ second i) : Swept now second w u out :=
  ⟨h.epoch, h.tick, h.length, h.placed, h.perm, h.due, fun i hi => h.cleared i ((hiff i).mpr hi),
    fun i hi => h.kept i fun hc => hi ((hiff i).mp hc)⟩

theorem swept_drain {i : ℕ} (now : ℕ) (hi : i < w.buckets.length) (hplaced : w.Placed) (out : List (TimerEntry T)) :
    ∃ u due, drain now i (w.bucket i).length w out = some (u, out ++ due) ∧ u.cursor = w.cursor ∧
      Swept now (· = i) w u due := by
  have hdrain := drain_eq now hi out (List.append_nil (w.bucket i)).symm (hplaced i)
  rw [List.nil_append] at hdrain
  refine ⟨_, _, hdrain, rfl, rfl, rfl, ?_, ?_, ?_, ?_, ?_, ?_⟩
  · simp [setBucket]
  · intro j entry hm
    rw [bucket_setBucket w hi] at hm
    rw [slot_setBucket]
    split at hm
    · rename_i hj
      rw [hj]
      exact hplaced i entry (List.mem_filter.mp hm).1
    · exact hplaced j entry hm
  · have hget : w.buckets[i]? = some (w.bucket i) := by
      unfold TimerWheel.bucket
      rw [List.getElem?_eq_getElem hi]
      rfl
    refine flatten_set hget ?_
    have hsplit := List.filter_append_perm (fun entry : TimerEntry T => decide (entry.deadline ≤ now)) (w.bucket i)
    simpa only [← decide_not, Nat.not_le] using hsplit.symm
  · intro entry hm
    simpa using (List.mem_filter.mp hm).2
  · rintro j rfl entry hm
    rw [bucket_setBucket w hi, if_pos rfl] at hm
    simpa using (List.mem_filter.mp hm).2
  · intro j hj
    rw [bucket_setBucket w hi, if_neg hj]

/-- The ticks from the cursor to the target, as buckets. -/
def Visits (cursor target buckets i : ℕ) : Prop := ∃ k, cursor ≤ k ∧ k ≤ target ∧ k % buckets = i

theorem swept_sweep {target : ℕ} (rounds : ℕ) (now : ℕ) (htarget : target < u64Max) (hplaced : w.Placed)
    (hrounds : target + 1 - w.cursor < rounds) (out : List (TimerEntry T)) :
    ∃ u due, sweep now target rounds w out = some (u, out ++ due) ∧ u.cursor = max w.cursor (target + 1) ∧
      Swept now (Visits w.cursor target w.buckets.length) w u due := by
  induction rounds generalizing w out with
  | zero => omega
  | succ rounds ih =>
    unfold sweep
    split
    · rename_i hcursor
      obtain ⟨u, due, hdrain, hsame, hswept⟩ := swept_drain now (Nat.mod_lt w.cursor w.buckets_pos) hplaced out
      have hadvance : u.advance.cursor = w.cursor + 1 := by
        simp only [advance, hsame]
        omega
      obtain ⟨v, rest, hsweep, hend, hlater⟩ := ih (w := u.advance) hswept.placed (by rw [hadvance]; omega) (out ++ due)
      refine ⟨v, due ++ rest, ?_, ?_, ?_⟩
      · dsimp only
        rw [hdrain]
        change sweep now target rounds u.advance (out ++ due) = _
        rw [hsweep, List.append_assoc]
      · rw [hend, hadvance]
        omega
      · have hlater' : Swept now (Visits (w.cursor + 1) target w.buckets.length) u v rest := by
          rw [hadvance] at hlater
          have hbuckets : u.advance.buckets.length = w.buckets.length := hswept.length
          rw [hbuckets] at hlater
          exact ⟨hlater.epoch, hlater.tick, hlater.length, hlater.placed, hlater.perm, hlater.due, hlater.cleared,
            hlater.kept⟩
        refine (hswept.trans hlater').of_iff fun i => ?_
        constructor
        · rintro (rfl | ⟨k, hk, hle, hmod⟩)
          · exact ⟨w.cursor, Nat.le_refl _, hcursor, rfl⟩
          · exact ⟨k, by omega, hle, hmod⟩
        · rintro ⟨k, hk, hle, hmod⟩
          rcases Nat.eq_or_lt_of_le hk with heq | hlt
          · exact .inl (heq ▸ hmod.symm)
          · exact .inr ⟨k, hlt, hle, hmod⟩
    · rename_i hcursor
      refine ⟨w, [], by rw [List.append_nil], by omega, rfl, rfl, rfl, hplaced, ?_, nofun, ?_, fun _ _ => rfl⟩
      · rw [List.nil_append]
      · rintro i ⟨k, hk, hle, -⟩
        omega

/-- At the last tick the cursor never gets behind the target. -/
theorem sweep_endless {target : ℕ} (rounds : ℕ) (now : ℕ) (htarget : u64Max ≤ target) (w : TimerWheel T)
    (out : List (TimerEntry T)) : sweep now target rounds w out = none := by
  induction rounds generalizing w out with
  | zero => rfl
  | succ rounds ih =>
    unfold sweep
    rw [if_pos (Nat.le_trans w.cursor_le htarget)]
    dsimp only
    cases drain now (w.cursor % w.buckets.length) (w.bucket (w.cursor % w.buckets.length)).length w out with
    | none => rfl
    | some result => exact ih result.1.advance result.2

theorem ticks_le (epoch tick instant : ℕ) : ticks epoch tick instant ≤ u64Max :=
  Nat.le_of_lt_succ (Nat.mod_lt _ (by decide : 0 < 2 ^ 64))

/-- A call returns what is due in the buckets it visits, unless it is made at the last tick. -/
theorem expire_cases (hplaced : w.Placed) (now : ℕ) :
    (ticks w.epoch w.tick now = u64Max ∧ w.expire now = none) ∨
      ticks w.epoch w.tick now < u64Max ∧ ∃ u due, w.expire now = some (u, due) ∧
        u.cursor = max w.cursor (ticks w.epoch w.tick now + 1) ∧
        Swept now (Visits w.cursor (ticks w.epoch w.tick now) w.buckets.length) w u due := by
  rcases Nat.eq_or_lt_of_le (ticks_le w.epoch w.tick now) with hlast | hlt
  · exact .inl ⟨hlast, sweep_endless _ now (Nat.le_of_eq hlast.symm) w []⟩
  · obtain ⟨u, due, hsweep, hrest⟩ := swept_sweep (u64Max + 2) now hlt hplaced (by omega) []
    exact .inr ⟨hlt, u, due, hsweep, hrest⟩

/-! ## Sequences of calls -/

inductive Call (T : Type) where
  | schedule (entry : TimerEntry T)
  | expire (now : ℕ)

/-- The wheel after some calls, newest first, and everything it has output. -/
def run (w : TimerWheel T) : List (Call T) → Option (TimerWheel T × List (TimerEntry T))
  | [] => some (w, [])
  | .schedule entry :: calls => do
    let (u, out) ← run w calls
    some (u.schedule entry, out)
  | .expire now :: calls => do
    let (u, out) ← run w calls
    let (u, due) ← u.expire now
    some (u, out ++ due)

def scheduled : List (Call T) → List (TimerEntry T)
  | [] => []
  | .schedule entry :: calls => entry :: scheduled calls
  | .expire _ :: calls => scheduled calls

/-- Each call of `expire` returns and outputs the entries that are scheduled, not output yet
and due, each once. -/
def Punctual (w : TimerWheel T) : List (Call T) → Prop
  | [] => True
  | .schedule _ :: calls => Punctual w calls
  | .expire now :: calls =>
    Punctual w calls ∧ ∃ u out left v due, run w calls = some (u, out) ∧ (scheduled calls).Perm (out ++ left) ∧
      u.expire now = some (v, due) ∧ due.Perm (left.filter fun entry => entry.deadline ≤ now)

/-- What an ideal list of timers holds after the calls. -/
def waiting : List (Call T) → List (TimerEntry T)
  | [] => []
  | .schedule entry :: calls => entry :: waiting calls
  | .expire now :: calls => (waiting calls).filter fun entry => now < entry.deadline

section OnTime

variable (epoch tick buckets : ℕ)

/-- One more than the last tick that a call has swept. -/
def reached : List (Call T) → ℕ
  | [] => 0
  | .schedule _ :: calls => reached calls
  | .expire now :: calls => max (reached calls) (ticks epoch tick now + 1)

/-- No call is made at the last tick of all, and the bucket of an entry that is due is one of
those between the cursor and the tick of the call. -/
def OnTime : List (Call T) → Prop
  | [] => True
  | .schedule _ :: calls => OnTime calls
  | .expire now :: calls =>
    OnTime calls ∧ ticks epoch tick now < u64Max ∧ ∀ entry ∈ waiting calls, entry.deadline ≤ now →
      Visits (reached epoch tick calls) (ticks epoch tick now) buckets (ticks epoch tick entry.deadline % buckets)

/-- The wheel holds what the ideal list holds. -/
structure Exact (calls : List (Call T)) (u : TimerWheel T) (out : List (TimerEntry T)) : Prop where
  sameEpoch : u.epoch = epoch
  sameTick : u.tick = tick
  length : u.buckets.length = buckets
  cursor : u.cursor = reached epoch tick calls
  placed : u.Placed
  pending : u.pending.Perm (waiting calls)
  ledger : (scheduled calls).Perm (out ++ waiting calls)

end OnTime

variable {epoch tick buckets : ℕ} {calls : List (Call T)}

theorem Exact.schedule (h : Exact epoch tick buckets calls u out) (entry : TimerEntry T) :
    Exact epoch tick buckets (.schedule entry :: calls) (u.schedule entry) out := by
  have hlt := u.slot_lt entry.deadline
  refine ⟨h.sameEpoch, h.sameTick, ?_, h.cursor, ?_, ?_, ?_⟩
  · rw [← h.length]
    exact List.length_set
  · intro i other hm
    unfold TimerWheel.schedule at hm ⊢
    rw [bucket_setBucket u hlt] at hm
    rw [slot_setBucket]
    split at hm
    · rename_i hi
      rcases List.mem_append.mp hm with hm | hm
      · exact hi ▸ h.placed _ other hm
      · rw [List.mem_singleton.mp hm, hi]
    · exact h.placed i other hm
  · have hset : (u.schedule entry).buckets[u.slot entry.deadline]? =
        some (u.bucket (u.slot entry.deadline) ++ [entry]) := List.getElem?_set_self hlt
    have hback : (u.schedule entry).pending.Perm ([entry] ++ u.pending) := by
      refine (flatten_set hset List.perm_append_comm).trans ?_
      have hsame : (u.schedule entry).buckets.set (u.slot entry.deadline) (u.bucket (u.slot entry.deadline)) =
          u.buckets := by
        refine (List.set_set ..).trans ?_
        exact congrArg TimerWheel.buckets (setBucket_bucket u hlt)
      rw [hsame]
      exact List.Perm.refl _
    exact hback.trans (h.pending.cons entry)
  · exact (h.ledger.cons entry).trans List.perm_middle.symm

/-- One call, from a wheel that holds what it should: it is punctual if and only if it visits
the bucket of everything due. -/
theorem Exact.expire (h : Exact epoch tick buckets calls u out) (now : ℕ) :
    (∃ left v due, (scheduled calls).Perm (out ++ left) ∧ u.expire now = some (v, due) ∧
        due.Perm (left.filter fun entry => entry.deadline ≤ now)) ↔
      ticks epoch tick now < u64Max ∧ ∀ entry ∈ waiting calls, entry.deadline ≤ now →
        Visits (reached epoch tick calls) (ticks epoch tick now) buckets (ticks epoch tick entry.deadline % buckets) := by
  have hcases := expire_cases h.placed now
  rw [h.sameEpoch, h.sameTick, h.length, h.cursor] at hcases
  rcases hcases with ⟨hlast, hnone⟩ | ⟨hlt, v, due, hexpire, -, hswept⟩
  · constructor
    · rintro ⟨left, v, due, -, hsome, -⟩
      rw [hnone] at hsome
      cases hsome
    · rintro ⟨hlt, -⟩
      omega
  -- what is output and what is left, among the entries that are due
  have hdue : ((waiting calls).filter fun entry => entry.deadline ≤ now).Perm
      (due ++ v.pending.filter fun entry => entry.deadline ≤ now) := by
    refine (h.pending.symm.filter _).trans ((hswept.perm.filter _).trans ?_)
    rw [List.filter_append, List.filter_eq_self.mpr fun entry hm => decide_eq_true (hswept.due entry hm)]
  have hslot : ∀ entry : TimerEntry T, v.slot entry.deadline = ticks epoch tick entry.deadline % buckets := by
    intro entry
    unfold slot
    rw [hswept.epoch, hswept.tick, hswept.length, h.sameEpoch, h.sameTick, h.length]
  have hnothing : (v.pending.filter fun entry => decide (entry.deadline ≤ now)) = [] ↔
      ∀ entry ∈ waiting calls, entry.deadline ≤ now →
        Visits (reached epoch tick calls) (ticks epoch tick now) buckets
          (ticks epoch tick entry.deadline % buckets) := by
    rw [List.filter_eq_nil_iff]
    constructor
    · intro hnone entry hm hle
      by_contra hmissed
      -- the bucket was not looked at: the entry is still in it
      obtain ⟨i, hi, hbucket⟩ := (mem_pending u entry).mp (h.pending.symm.subset hm)
      have hplace : i = ticks epoch tick entry.deadline % buckets := by
        rw [← h.placed i entry hbucket, slot, h.sameEpoch, h.sameTick, h.length]
      rw [← hplace] at hmissed
      rw [← hswept.kept i hmissed] at hbucket
      have hstill := (mem_pending v entry).mpr ⟨i, by rw [hswept.length]; exact hi, hbucket⟩
      exact hnone entry hstill (by simpa using hle)
    · intro hvisits entry hm hle
      obtain ⟨i, hi, hbucket⟩ := (mem_pending v entry).mp hm
      have hsome : entry ∈ waiting calls :=
        h.pending.subset (hswept.perm.symm.subset (List.mem_append_right due hm))
      have hvisited := hvisits entry hsome (by simpa using hle)
      rw [← hslot, hswept.placed i entry hbucket] at hvisited
      have hlater := hswept.cleared i hvisited entry hbucket
      simp only [decide_eq_true_eq] at hle
      omega
  rw [← hnothing]
  constructor
  · rintro ⟨left, v', due', hledger, hsome, hperm⟩
    rw [hexpire] at hsome
    cases hsome
    have hleft : left.Perm (waiting calls) := (List.perm_append_left_iff out).mp (hledger.symm.trans h.ledger)
    have hlength := (hperm.trans ((hleft.filter _).trans hdue)).length_eq
    rw [List.length_append] at hlength
    exact ⟨hlt, List.eq_nil_of_length_eq_zero (by omega)⟩
  · rintro ⟨-, hnil⟩
    rw [hnil, List.append_nil] at hdue
    exact ⟨waiting calls, v, due, h.ledger, hexpire, hdue.symm⟩

theorem Exact.expired (h : Exact epoch tick buckets calls u out) {now : ℕ}
    (hvisits : ticks epoch tick now < u64Max ∧ ∀ entry ∈ waiting calls, entry.deadline ≤ now →
      Visits (reached epoch tick calls) (ticks epoch tick now) buckets (ticks epoch tick entry.deadline % buckets)) :
    ∃ v due, u.expire now = some (v, due) ∧ Exact epoch tick buckets (.expire now :: calls) v (out ++ due) := by
  obtain ⟨left, v, due, hledger, hexpire, hperm⟩ := (h.expire now).mpr hvisits
  have hcases := expire_cases h.placed now
  rw [h.sameEpoch, h.sameTick, h.length, h.cursor] at hcases
  rcases hcases with ⟨hlast, -⟩ | ⟨-, v', due', hsame, hcursor, hswept⟩
  · omega
  rw [hexpire] at hsame
  cases hsame
  have hleft : left.Perm (waiting calls) := (List.perm_append_left_iff out).mp (hledger.symm.trans h.ledger)
  have hdue := hperm.trans (hleft.filter _)
  have hsplit : (waiting calls).Perm (due ++ (waiting calls).filter fun entry => now < entry.deadline) := by
    have hparts := List.filter_append_perm (fun entry : TimerEntry T => decide (entry.deadline ≤ now)) (waiting calls)
    simp only [← decide_not, Nat.not_le] at hparts
    exact hparts.symm.trans (hdue.symm.append_right _)
  refine ⟨v, due, hexpire, hswept.epoch.trans h.sameEpoch, hswept.tick.trans h.sameTick,
    hswept.length.trans h.length, hcursor, hswept.placed, ?_, ?_⟩
  · exact (List.perm_append_left_iff due).mp (hswept.perm.symm.trans (h.pending.trans hsplit))
  · rw [List.append_assoc]
    exact h.ledger.trans (hsplit.append_left out)

theorem exact_new (epoch tick buckets : ℕ) (h : 0 < buckets) :
    Exact epoch tick buckets [] (new epoch tick buckets h : TimerWheel T) [] := by
  have hbucket : ∀ i, (new epoch tick buckets h : TimerWheel T).bucket i = [] := by
    intro i
    simp only [TimerWheel.bucket, new, List.getElem?_replicate]
    split <;> rfl
  refine ⟨rfl, rfl, List.length_replicate, rfl, ?_, ?_, List.Perm.refl _⟩
  · intro i entry hm
    rw [hbucket] at hm
    cases hm
  · simp [pending, new, waiting]

/-- The wheel is punctual exactly as long as no call leaves behind a bucket with an entry that
is due. -/
theorem punctual_iff_onTime (epoch tick buckets : ℕ) (h : 0 < buckets) (calls : List (Call T)) :
    Punctual (new epoch tick buckets h) calls ↔ OnTime epoch tick buckets calls := by
  have hboth : (Punctual (new epoch tick buckets h) calls ↔ OnTime epoch tick buckets calls) ∧
      (OnTime epoch tick buckets calls → ∃ u out, run (new epoch tick buckets h) calls = some (u, out) ∧
        Exact epoch tick buckets calls u out) := by
    induction calls with
    | nil => exact ⟨Iff.rfl, fun _ => ⟨_, _, rfl, exact_new epoch tick buckets h⟩⟩
    | cons call calls ih =>
      obtain ⟨hiff, hexact⟩ := ih
      cases call with
      | schedule entry =>
        refine ⟨hiff, fun hon => ?_⟩
        obtain ⟨u, out, hrun, hu⟩ := hexact hon
        exact ⟨_, _, by rw [run, hrun]; rfl, hu.schedule entry⟩
      | expire now =>
        constructor
        · constructor
          · rintro ⟨hpunctual, u, out, left, v, due, hrun, hstep⟩
            have hon := hiff.mp hpunctual
            obtain ⟨u', out', hrun', hu⟩ := hexact hon
            rw [hrun] at hrun'
            cases hrun'
            exact ⟨hon, (hu.expire now).mp ⟨left, v, due, hstep⟩⟩
          · rintro ⟨hon, hvisits⟩
            obtain ⟨u, out, hrun, hu⟩ := hexact hon
            obtain ⟨left, v, due, hstep⟩ := (hu.expire now).mpr hvisits
            exact ⟨hiff.mpr hon, u, out, left, v, due, hrun, hstep⟩
        · rintro ⟨hon, hvisits⟩
          obtain ⟨u, out, hrun, hu⟩ := hexact hon
          obtain ⟨v, due, hexpire, hv⟩ := hu.expired hvisits
          refine ⟨v, out ++ due, ?_, hv⟩
          rw [run, hrun]
          change (u.expire now >>= _) = _
          rw [hexpire]
          rfl
  exact hboth.1

def sampleEntry (deadline : ℕ) : TimerEntry Unit := ⟨(), .idle, deadline, 0⟩

theorem punctual_sample :
    Punctual (new 0 10 4 (by decide)) [.expire 25, .schedule (sampleEntry 20), .expire 9] := by
  refine (punctual_iff_onTime 0 10 4 (by decide) _).mpr ⟨⟨trivial, by decide, nofun⟩, by decide, ?_⟩
  intro entry hm _
  obtain rfl : entry = sampleEntry 20 := by simpa [waiting] using hm
  exact ⟨2, by decide, by decide, by decide⟩

theorem not_punctual {w : TimerWheel Unit} {calls : List (Call Unit)} {now : ℕ} {entry : TimerEntry Unit}
    (hdue : entry.deadline ≤ now) (hscheduled : scheduled calls = [entry])
    (hrun : ((run w calls).map fun r => (r.2, (r.1.expire now).map Prod.snd)) = some ([], some [])) :
    ¬Punctual w (.expire now :: calls) := by
  rintro ⟨-, u, out, left, v, due, hsome, hledger, hexpire, hperm⟩
  rw [hsome] at hrun
  simp only [Option.map_some, hexpire, Option.some.injEq, Prod.mk.injEq] at hrun
  obtain ⟨rfl, rfl⟩ := hrun
  rw [hscheduled, List.nil_append] at hledger
  obtain rfl := List.perm_singleton.mp hledger.symm
  have hlength := hperm.length_eq
  simp [hdue] at hlength

/-- An entry due later in the tick of a call is passed by the cursor; so is one that is
scheduled for a tick of the past. Neither is output by the next call. -/
theorem expire_late :
    ¬Punctual (new 0 10 4 (by decide)) [.expire 16, .expire 12, .schedule (sampleEntry 15)] ∧
      ¬Punctual (new 0 10 4 (by decide)) [.expire 20, .schedule (sampleEntry 15), .expire 18] :=
  ⟨not_punctual (by decide) rfl (by decide +kernel), not_punctual (by decide) rfl (by decide +kernel)⟩

end TimerWheel

end Yayatht
