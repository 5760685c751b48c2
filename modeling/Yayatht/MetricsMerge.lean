import Mathlib.Algebra.BigOperators.Group.List.Basic
import Mathlib.Algebra.GroupWithZero.Nat
import Mathlib.Tactic.Common

set_option autoImplicit false

namespace Yayatht.Supervisor
open Std

/-- A member of a JSON object; `other` stands for what is not an unsigned integer of 64 bits. -/
inductive Value (ρ : Type) where
  | unsigned (n : UInt64)
  | other (rest : ρ)
  deriving DecidableEq

abbrev Object (ρ : Type) := ExtTreeMap String (Value ρ)

inductive Document (ρ : Type) where
  | object (fields : Object ρ)
  | other (rest : ρ)

def Value.asU64 {ρ : Type} : Value ρ → Option UInt64
  | .unsigned n => some n
  | .other _ => none

def saturatingAdd (left right : UInt64) : UInt64 := UInt64.ofNat (min (left.toNat + right.toNat) (2 ^ 64 - 1))

def invariantFields : List String := ["tap_mtu", "tap_offload", "tap_frame_capacity"]

inductive MergeError where
  | missing
  | invalid
  | inconsistent (key : String)
  | differs (key : String)
  | notUnsigned (key : String)
  deriving DecidableEq, Repr

def MergeError.text : MergeError → String
  | .missing => "missing worker metrics"
  | .invalid => "invalid worker metrics"
  | .inconsistent key => "worker metric " ++ key.quote ++ " is inconsistent"
  | .differs key => "worker metric " ++ key.quote ++ " differs"
  | .notUnsigned key => "worker metric " ++ key.quote ++ " is not an unsigned integer"

variable {ρ : Type}

section Merge

variable [DecidableEq ρ]

/-- One field of a later worker. The entry is there when it is written through the reference. -/
def mergeField (aggregate : Object ρ) (field : String × Value ρ) : Except MergeError (Object ρ) :=
  match aggregate[field.1]? with
  | none => .error (.inconsistent field.1)
  | some current =>
    if field.1 ∈ invariantFields then
      if current ≠ field.2 then .error (.differs field.1) else .ok aggregate
    else
      match current.asU64, field.2.asU64 with
      | some left, some right => .ok (aggregate.insert field.1 (.unsigned (saturatingAdd left right)))
      | _, _ => .error (.notUnsigned field.1)

def mergeWorker (aggregate : Object ρ) : Document ρ → Except MergeError (Object ρ)
  | .object fields => fields.toList.foldlM mergeField aggregate
  | .other _ => .error .invalid

def mergeDataplaneMetrics (metrics : List (Document ρ)) : Except MergeError (Document ρ) :=
  match metrics with
  | .object first :: rest => do
    let aggregate ← rest.foldlM mergeWorker first
    pure (.object (aggregate.insert "workers" (.unsigned (UInt64.ofNat metrics.length))))
  | _ => .error .missing

end Merge

variable {aggregate merged first worker : Object ρ} {workers : List (Object ρ)} {fields : List (String × Value ρ)}
  {key : String} {current value : Value ρ} {document : Document ρ}

/-! ## One field -/

/-- The value of a field may be joined with the current one. -/
def Compatible (key : String) (current value : Value ρ) : Prop :=
  if key ∈ invariantFields then current = value
  else ∃ left right, current = .unsigned left ∧ value = .unsigned right

def combine (key : String) (current value : Value ρ) : Value ρ :=
  if key ∈ invariantFields then current
  else
    match current, value with
    | .unsigned left, .unsigned right => .unsigned (saturatingAdd left right)
    | _, _ => current

/-- Each field of the list is known and can be joined. -/
def Joins (aggregate : Object ρ) (fields : List (String × Value ρ)) : Prop :=
  ∀ key value, (key, value) ∈ fields → ∃ current, aggregate[key]? = some current ∧ Compatible key current value

def Distinct (fields : List (String × Value ρ)) : Prop := fields.Pairwise fun a b => a.1 ≠ b.1

theorem getElem?_insert_of_ne {other : String} (hne : other ≠ key) :
    (aggregate.insert key value)[other]? = aggregate[other]? := by
  rw [ExtTreeMap.getElem?_insert, if_neg]
  intro heq
  exact hne (Std.compare_eq_iff_eq.mp heq).symm

theorem distinct_toList (worker : Object ρ) : Distinct worker.toList :=
  ExtTreeMap.distinct_keys_toList.imp fun hne heq => hne (Std.compare_eq_iff_eq.mpr heq)

/-- Fields of a worker that are known to the first one, with values that can be joined. -/
def Fits (first worker : Object ρ) : Prop :=
  ∀ (key : String) (value : Value ρ), worker[key]? = some value →
    ∃ current, first[key]? = some current ∧ Compatible key current value

def joined (key : String) (current : Option (Value ρ)) (value : Option (Value ρ)) : Option (Value ρ) :=
  match value with
  | none => current
  | some value => current.map (combine key · value)

theorem joins_toList : Joins aggregate worker.toList ↔ Fits aggregate worker := by
  unfold Joins Fits
  simp only [ExtTreeMap.mem_toList_iff_getElem?_eq_some]

theorem isSome_of_fits (h : Fits first worker) (hsome : worker[key]?.isSome = true) : first[key]?.isSome = true := by
  obtain ⟨value, hvalue⟩ := Option.isSome_iff_exists.mp hsome
  obtain ⟨current, hcurrent, -⟩ := h key value hvalue
  rw [hcurrent]
  rfl

theorem compatible_combine {other : Value ρ} (h : Compatible key current value) :
    Compatible key (combine key current value) other ↔ Compatible key current other := by
  unfold Compatible combine at *
  split
  · rfl
  · rename_i hinv
    rw [if_neg hinv] at h
    obtain ⟨left, right, rfl, rfl⟩ := h
    simp

theorem fits_merged {other : Object ρ} (h : Fits first worker)
    (hmerged : ∀ key : String, merged[key]? = joined key first[key]? worker[key]?) :
    Fits merged other ↔ Fits first other := by
  have hsame : ∀ (key : String) (v : Value ρ), (∃ current, merged[key]? = some current ∧ Compatible key current v) ↔
      ∃ current, first[key]? = some current ∧ Compatible key current v := by
    intro key v
    rw [hmerged]
    cases hvalue : worker[key]? with
    | none => rfl
    | some value =>
      obtain ⟨current, hcurrent, hcompatible⟩ := h key value hvalue
      simp only [hcurrent, joined, Option.map_some, Option.some.injEq, exists_eq_left', compatible_combine hcompatible]
  unfold Fits
  simp only [hsame]

def folded (workers : List (Object ρ)) (key : String) (current : Option (Value ρ)) : Option (Value ρ) :=
  workers.foldl (fun current worker => joined key current worker[key]?) current

def counted (merged : Object ρ) (count : ℕ) : Document ρ :=
  .object (merged.insert "workers" (.unsigned (UInt64.ofNat count)))

/-- The workers report the same fields and the same tap settings. -/
structure Agreed (workers : List (Object ρ)) : Prop where
  keys : ∀ worker ∈ workers, ∀ other ∈ workers, ∀ key : String, worker[key]?.isSome = true → other[key]?.isSome = true
  invariants : ∀ worker ∈ workers, ∀ other ∈ workers, ∀ key ∈ invariantFields, worker[key]? = other[key]?

/-- A field that is not a tap setting is a number. -/
def Countable (workers : List (Object ρ)) : Prop :=
  ∀ worker ∈ workers, ∀ (key : String) (value : Value ρ), worker[key]? = some value → key ∉ invariantFields →
    ∃ n, value = .unsigned n

def amount (value : Option (Value ρ)) : ℕ :=
  match value with
  | some (.unsigned n) => n.toNat
  | _ => 0

def total (workers : List (Object ρ)) (key : String) : UInt64 :=
  UInt64.ofNat (min (workers.map fun worker => amount worker[key]?).sum (2 ^ 64 - 1))

theorem toNat_saturatingAdd (left right : UInt64) :
    (saturatingAdd left right).toNat = min (left.toNat + right.toNat) (2 ^ 64 - 1) := by
  rw [saturatingAdd, UInt64.toNat_ofNat']
  omega

theorem folded_none (workers : List (Object ρ)) (key : String) : folded workers key none = none := by
  induction workers with
  | nil => rfl
  | cons worker workers ih =>
    have hnone : joined key none worker[key]? = none := by cases worker[key]? <;> rfl
    rw [folded, List.foldl_cons, hnone]
    exact ih

theorem folded_invariant (hinv : key ∈ invariantFields) (current : Option (Value ρ)) :
    folded workers key current = current := by
  induction workers generalizing current with
  | nil => rfl
  | cons worker workers ih =>
    have hsame : joined key current worker[key]? = current := by
      cases worker[key]? with
      | none => rfl
      | some value =>
        have hcombine : (combine key · value) = id := by
          funext current
          exact if_pos hinv
        rw [joined, hcombine, Option.map_id]
        rfl
    rw [folded, List.foldl_cons, hsame]
    exact ih current

theorem folded_unsigned (hinv : key ∉ invariantFields) (hcount : Countable workers) (n : UInt64) :
    folded workers key (some (.unsigned n)) =
      some (.unsigned (UInt64.ofNat
        (min (n.toNat + (workers.map fun worker => amount worker[key]?).sum) (2 ^ 64 - 1)))) := by
  induction workers generalizing n with
  | nil =>
    have hlt := n.toNat_lt
    have hmin : min (n.toNat + 0) (2 ^ 64 - 1) = n.toNat := by omega
    rw [List.map_nil, List.sum_nil, hmin, UInt64.ofNat_toNat]
    rfl
  | cons worker workers ih =>
    obtain ⟨hworker, hworkers⟩ := List.forall_mem_cons.mp hcount
    change folded workers key (joined key (some (.unsigned n)) worker[key]?) = _
    rw [List.map_cons, List.sum_cons]
    cases hvalue : worker[key]? with
    | none =>
      rw [joined, ih hworkers]
      simp [amount]
    | some value =>
      obtain ⟨m, rfl⟩ := hworker key value hvalue hinv
      have hcombine : combine key (.unsigned n) (.unsigned m : Value ρ) = .unsigned (saturatingAdd n m) := if_neg hinv
      rw [joined, Option.map_some, hcombine, ih hworkers, toNat_saturatingAdd, amount]
      congr 3
      omega

theorem Agreed.perm {others : List (Object ρ)} (h : Agreed workers) (hp : workers.Perm others) : Agreed others where
  keys worker hw other ho := h.keys worker (hp.mem_iff.mpr hw) other (hp.mem_iff.mpr ho)
  invariants worker hw other ho := h.invariants worker (hp.mem_iff.mpr hw) other (hp.mem_iff.mpr ho)

theorem Countable.perm {others : List (Object ρ)} (h : Countable workers) (hp : workers.Perm others) :
    Countable others := fun worker hw => h worker (hp.mem_iff.mpr hw)

theorem total_perm {others : List (Object ρ)} (hp : workers.Perm others) (key : String) :
    total workers key = total others key := by
  unfold total
  rw [(hp.map _).sum_eq]

theorem total_singleton {n : UInt64} (h : first[key]? = some (.unsigned n)) : total [first] key = n := by
  have hlt := n.toNat_lt
  have hmin : min (n.toNat + 0) (2 ^ 64 - 1) = n.toNat := by omega
  rw [total, List.map_singleton, List.sum_cons, List.sum_nil, h, amount, hmin, UInt64.ofNat_toNat]

/-- Workers that fit the first one and have its fields agree; with a second worker every field counts. -/
theorem agreed_of_fits (hfits : ∀ worker ∈ workers, Fits first worker)
    (hkeys : ∀ worker ∈ workers, ∀ key : String, first[key]?.isSome = true → worker[key]?.isSome = true) :
    Agreed (first :: workers) ∧ (workers ≠ [] → Countable (first :: workers)) := by
  have hto : ∀ worker ∈ first :: workers, ∀ key : String, first[key]?.isSome = true → worker[key]?.isSome = true :=
    List.forall_mem_cons.mpr ⟨fun _ h => h, hkeys⟩
  have hof : ∀ worker ∈ first :: workers, ∀ key : String, worker[key]?.isSome = true → first[key]?.isSome = true :=
    List.forall_mem_cons.mpr ⟨fun _ h => h, fun worker hw key => isSome_of_fits (hfits worker hw)⟩
  have hinvariant : ∀ worker ∈ first :: workers, ∀ key ∈ invariantFields, worker[key]? = first[key]? := by
    refine List.forall_mem_cons.mpr ⟨fun _ _ => rfl, fun worker hw key hinv => ?_⟩
    cases hvalue : worker[key]? with
    | none =>
      cases hcurrent : first[key]? with
      | none => rfl
      | some current =>
        have hsome := hkeys worker hw key (by rw [hcurrent]; rfl)
        rw [hvalue] at hsome
        cases hsome
    | some value =>
      obtain ⟨current, hcurrent, hcompatible⟩ := hfits worker hw key value hvalue
      rw [Compatible, if_pos hinv] at hcompatible
      rw [hcurrent, hcompatible]
  refine ⟨⟨fun worker hw other ho key h => hto other ho key (hof worker hw key h), fun worker hw other ho key hinv =>
    (hinvariant worker hw key hinv).trans (hinvariant other ho key hinv).symm⟩, fun hne => ?_⟩
  obtain ⟨second, hsecond⟩ := List.exists_mem_of_ne_nil workers hne
  refine List.forall_mem_cons.mpr ⟨fun key value hvalue hinv => ?_, fun worker hw key value hvalue hinv => ?_⟩
  · obtain ⟨found, hfound⟩ := Option.isSome_iff_exists.mp (hkeys second hsecond key (by rw [hvalue]; rfl))
    obtain ⟨current, hcurrent, hcompatible⟩ := hfits second hsecond key found hfound
    rw [Compatible, if_neg hinv] at hcompatible
    obtain ⟨left, -, rfl, -⟩ := hcompatible
    rw [hvalue] at hcurrent
    exact ⟨left, Option.some.inj hcurrent⟩
  · obtain ⟨current, -, hcompatible⟩ := hfits worker hw key value hvalue
    rw [Compatible, if_neg hinv] at hcompatible
    obtain ⟨-, right, -, rfl⟩ := hcompatible
    exact ⟨right, rfl⟩

/-! ## The loop -/

variable [DecidableEq ρ]

theorem mergeField_ok_iff : mergeField aggregate (key, value) = .ok merged ↔
    ∃ current, aggregate[key]? = some current ∧ Compatible key current value ∧
      merged = aggregate.insert key (combine key current value) := by
  unfold mergeField
  cases hget : aggregate[key]? with
  | none => simp
  | some current =>
    have hsame : aggregate = aggregate.insert key current := by
      apply ExtTreeMap.ext_getElem?
      intro k
      rw [ExtTreeMap.getElem?_insert]
      split
      · rename_i heq
        rw [← LawfulEqCmp.eq_of_compare heq, hget]
      · rfl
    by_cases hinv : key ∈ invariantFields
    · simp only [hinv, if_true, Compatible, combine, Option.some.injEq, exists_eq_left', ← hsame]
      by_cases heq : current = value
      · simp [heq, eq_comm]
      · simp [heq]
    · simp only [hinv, if_false, Compatible, combine, Option.some.injEq, exists_eq_left']
      cases current with
      | other rest => simp [Value.asU64]
      | unsigned left =>
        cases value with
        | other rest => simp [Value.asU64]
        | unsigned right => simp [Value.asU64, eq_comm]

/-- A field is written once, so the others are met as they were. -/
theorem foldlM_mergeField (hdistinct : Distinct fields) (h : fields.foldlM mergeField aggregate = .ok merged) :
    Joins aggregate fields ∧
      (∀ key value, (key, value) ∈ fields → merged[key]? = aggregate[key]?.map (combine key · value)) ∧
      ∀ key, (∀ value, (key, value) ∉ fields) → merged[key]? = aggregate[key]? := by
  induction fields generalizing aggregate with
  | nil =>
    cases h
    exact ⟨fun _ _ hm => (List.not_mem_nil hm).elim, fun _ _ hm => (List.not_mem_nil hm).elim, fun _ _ => rfl⟩
  | cons field fields ih =>
    obtain ⟨key, value⟩ := field
    obtain ⟨hhead, htail⟩ := List.pairwise_cons.mp hdistinct
    rw [List.foldlM_cons] at h
    cases hstep : mergeField aggregate (key, value) with
    | error error =>
      rw [hstep] at h
      cases h
    | ok next =>
      rw [hstep] at h
      obtain ⟨hjoins, hwritten, hkept⟩ := ih htail h
      obtain ⟨current, hget, hcompatible, rfl⟩ := mergeField_ok_iff.mp hstep
      have hfresh : ∀ value', (key, value') ∉ fields := fun value' hm => hhead _ hm rfl
      have hother : ∀ other value', (other, value') ∈ fields → other ≠ key := fun other value' hm heq =>
        hfresh value' (heq ▸ hm)
      refine ⟨fun k v hm => ?_, fun k v hm => ?_, fun k hm => ?_⟩
      · rcases List.mem_cons.mp hm with heq | hm
        · cases heq
          exact ⟨current, hget, hcompatible⟩
        · obtain ⟨found, hfound, hjoined⟩ := hjoins k v hm
          exact ⟨found, by rwa [getElem?_insert_of_ne (hother k v hm)] at hfound, hjoined⟩
      · rcases List.mem_cons.mp hm with heq | hm
        · cases heq
          rw [hkept key hfresh, ExtTreeMap.getElem?_insert_self, hget]
          rfl
        · rw [hwritten k v hm, getElem?_insert_of_ne (hother k v hm)]
      · have hne : k ≠ key := by
          rintro rfl
          exact hm value List.mem_cons_self
        rw [hkept k fun v hv => hm v (List.mem_cons_of_mem _ hv), getElem?_insert_of_ne hne]

theorem exists_foldlM_mergeField (hdistinct : Distinct fields) (h : Joins aggregate fields) :
    ∃ merged, fields.foldlM mergeField aggregate = .ok merged := by
  induction fields generalizing aggregate with
  | nil => exact ⟨aggregate, rfl⟩
  | cons field fields ih =>
    obtain ⟨key, value⟩ := field
    obtain ⟨hhead, htail⟩ := List.pairwise_cons.mp hdistinct
    obtain ⟨current, hget, hcompatible⟩ := h key value List.mem_cons_self
    have hstep := mergeField_ok_iff.mpr ⟨current, hget, hcompatible, rfl⟩
    have hrest : Joins (aggregate.insert key (combine key current value)) fields := by
      intro k v hm
      obtain ⟨found, hfound, hjoined⟩ := h k v (List.mem_cons_of_mem _ hm)
      have hne : k ≠ key := fun heq => hhead _ hm heq.symm
      exact ⟨found, by rwa [getElem?_insert_of_ne hne], hjoined⟩
    obtain ⟨merged, hmerged⟩ := ih htail hrest
    refine ⟨merged, ?_⟩
    rw [List.foldlM_cons, hstep]
    exact hmerged

theorem mergeWorker_ok_iff : mergeWorker aggregate (.object worker) = .ok merged ↔
    Fits aggregate worker ∧ ∀ key : String, merged[key]? = joined key aggregate[key]? worker[key]? := by
  have hresult : ∀ {found : Object ρ}, mergeWorker aggregate (.object worker) = .ok found →
      Fits aggregate worker ∧ ∀ key : String, found[key]? = joined key aggregate[key]? worker[key]? := by
    intro found h
    obtain ⟨hjoins, hwritten, hkept⟩ := foldlM_mergeField (distinct_toList worker) h
    refine ⟨joins_toList.mp hjoins, fun key => ?_⟩
    cases hvalue : worker[key]? with
    | none => exact hkept key fun value hm => by simp [ExtTreeMap.mem_toList_iff_getElem?_eq_some.mp hm] at hvalue
    | some value => exact hwritten key value (ExtTreeMap.mem_toList_iff_getElem?_eq_some.mpr hvalue)
  refine ⟨hresult, fun h => ?_⟩
  obtain ⟨found, hfound⟩ := exists_foldlM_mergeField (distinct_toList worker) (joins_toList.mpr h.1)
  have hsame : found = merged := by
    apply ExtTreeMap.ext_getElem?
    intro key
    rw [(hresult hfound).2, h.2]
  rw [← hsame]
  exact hfound

theorem foldlM_mergeWorker (h : (workers.map Document.object).foldlM mergeWorker first = .ok merged) :
    (∀ worker ∈ workers, Fits first worker) ∧ ∀ key : String, merged[key]? = folded workers key first[key]? := by
  induction workers generalizing first with
  | nil =>
    cases h
    exact ⟨fun _ hm => (List.not_mem_nil hm).elim, fun _ => rfl⟩
  | cons worker workers ih =>
    rw [List.map_cons, List.foldlM_cons] at h
    cases hstep : mergeWorker first (.object worker) with
    | error error =>
      rw [hstep] at h
      cases h
    | ok next =>
      rw [hstep] at h
      obtain ⟨hfits, hnext⟩ := mergeWorker_ok_iff.mp hstep
      obtain ⟨hrest, hresult⟩ := ih h
      refine ⟨List.forall_mem_cons.mpr ⟨hfits, fun other hm => (fits_merged hfits hnext).mp (hrest other hm)⟩, ?_⟩
      intro key
      rw [hresult key, hnext key]
      rfl

theorem exists_foldlM_mergeWorker (h : ∀ worker ∈ workers, Fits first worker) :
    ∃ merged, (workers.map Document.object).foldlM mergeWorker first = .ok merged := by
  induction workers generalizing first with
  | nil => exact ⟨first, rfl⟩
  | cons worker workers ih =>
    obtain ⟨hfits, hrest⟩ := List.forall_mem_cons.mp h
    obtain ⟨next, hstep⟩ := exists_foldlM_mergeField (distinct_toList worker) (joins_toList.mpr hfits)
    have hworker : mergeWorker first (.object worker) = .ok next := hstep
    have hnext := (mergeWorker_ok_iff.mp hworker).2
    obtain ⟨merged, hmerged⟩ := ih fun other hm => (fits_merged hfits hnext).mpr (hrest other hm)
    refine ⟨merged, ?_⟩
    rw [List.map_cons, List.foldlM_cons, hworker]
    exact hmerged

theorem fits_of_merge
    (h : mergeDataplaneMetrics ((first :: workers).map .object) = .ok document) :
    (∀ worker ∈ workers, Fits first worker) ∧ ∃ merged : Object ρ,
      (∀ key : String, merged[key]? = folded workers key first[key]?) ∧
      document = counted merged (workers.length + 1) := by
  rw [List.map_cons, mergeDataplaneMetrics] at h
  cases hfold : (workers.map Document.object).foldlM mergeWorker first with
  | error error =>
    rw [hfold] at h
    cases h
  | ok merged =>
    rw [hfold] at h
    cases h
    obtain ⟨hfits, hmerged⟩ := foldlM_mergeWorker hfold
    refine ⟨hfits, merged, hmerged, ?_⟩
    rw [counted, List.length_cons, List.length_map]

theorem exists_merge (h : ∀ worker ∈ workers, Fits first worker) :
    ∃ merged : Object ρ, mergeDataplaneMetrics ((first :: workers).map .object) =
        .ok (counted merged (workers.length + 1)) ∧
      ∀ key : String, merged[key]? = folded workers key first[key]? := by
  obtain ⟨merged, hfold⟩ := exists_foldlM_mergeWorker h
  refine ⟨merged, ?_, (foldlM_mergeWorker hfold).2⟩
  rw [List.map_cons, mergeDataplaneMetrics, hfold, counted, List.length_cons, List.length_map]
  rfl

theorem merge_agreed (hagreed : Agreed (first :: workers)) (hcount : Countable (first :: workers)) :
    ∃ merged : Object ρ, mergeDataplaneMetrics ((first :: workers).map .object) =
        .ok (counted merged (workers.length + 1)) ∧
      ∀ key : String, merged[key]? = if key ∈ invariantFields then first[key]?
        else first[key]?.map fun _ => .unsigned (total (first :: workers) key) := by
  have hfits : ∀ worker ∈ workers, Fits first worker := by
    intro worker hw key value hvalue
    have hin := List.mem_cons_of_mem first hw
    have hsome : first[key]?.isSome = true :=
      hagreed.keys worker hin first List.mem_cons_self key (by rw [hvalue]; rfl)
    obtain ⟨current, hcurrent⟩ := Option.isSome_iff_exists.mp hsome
    refine ⟨current, hcurrent, ?_⟩
    unfold Compatible
    split
    · rename_i hinv
      have hsame := hagreed.invariants worker hin first List.mem_cons_self key hinv
      rw [hvalue, hcurrent] at hsame
      exact (Option.some.inj hsame).symm
    · rename_i hinv
      obtain ⟨left, rfl⟩ := hcount first List.mem_cons_self key current hcurrent hinv
      obtain ⟨right, rfl⟩ := hcount worker hin key value hvalue hinv
      exact ⟨left, right, rfl, rfl⟩
  obtain ⟨merged, hmerge, hresult⟩ := exists_merge hfits
  refine ⟨merged, hmerge, fun key => ?_⟩
  rw [hresult key]
  split
  · rename_i hinv
    exact folded_invariant hinv _
  · rename_i hinv
    cases hcurrent : first[key]? with
    | none => exact folded_none workers key
    | some current =>
      obtain ⟨n, rfl⟩ := hcount first List.mem_cons_self key current hcurrent hinv
      rw [folded_unsigned hinv (fun worker hw => hcount worker (List.mem_cons_of_mem _ hw))]
      simp [total, hcurrent, amount]

/-! ## The order of the workers -/

/-- Merging is fair to the workers: their order does not matter, they agree when it succeeds, and
what is neither a tap setting nor their number is added up. -/
structure Impartial (workers : List (Object ρ)) : Prop where
  order : ∀ others, workers.Perm others →
    ((∀ document, mergeDataplaneMetrics (workers.map .object) ≠ .ok document) ∧
      ∀ document, mergeDataplaneMetrics (others.map .object) ≠ .ok document) ∨
    ∃ document, mergeDataplaneMetrics (workers.map .object) = .ok document ∧
      mergeDataplaneMetrics (others.map .object) = .ok document
  agreed : ∀ document, mergeDataplaneMetrics (workers.map .object) = .ok document → Agreed workers
  summed : ∀ result, mergeDataplaneMetrics (workers.map .object) = .ok (.object result) →
    ∀ (key : String) (value : Value ρ), result[key]? = some value → key ∉ invariantFields → key ≠ "workers" →
      (∀ worker ∈ workers, ∃ n, worker[key]? = some (.unsigned n)) ∧ value = .unsigned (total workers key)

/-- Where one worker has all the fields of the others, with values that can be joined, they have all
of its fields. A worker that is alone reports numbers. -/
def Level (workers : List (Object ρ)) : Prop :=
  ∀ first rest, workers.Perm (first :: rest) → (∀ worker ∈ rest, Fits first worker) →
    (∀ worker ∈ rest, ∀ key : String, first[key]?.isSome = true → worker[key]?.isSome = true) ∧
      (rest = [] → ∀ (key : String) (value : Value ρ), first[key]? = some value → key ∉ invariantFields →
        key ≠ "workers" → ∃ n, value = .unsigned n)

theorem merge_perm {other : Object ρ} {others : List (Object ρ)} (hagreed : Agreed (first :: workers))
    (hcount : Countable (first :: workers)) (hp : (first :: workers).Perm (other :: others)) :
    mergeDataplaneMetrics ((first :: workers).map .object) = mergeDataplaneMetrics ((other :: others).map .object) := by
  obtain ⟨merged, hmerged, hresult⟩ := merge_agreed hagreed hcount
  obtain ⟨merged', hmerged', hresult'⟩ := merge_agreed (hagreed.perm hp) (hcount.perm hp)
  have hin : other ∈ first :: workers := hp.mem_iff.mpr List.mem_cons_self
  have hlength : workers.length = others.length := Nat.succ.inj hp.length_eq
  have hsame : merged = merged' := by
    apply ExtTreeMap.ext_getElem?
    intro key
    rw [hresult, hresult']
    split
    · rename_i hinv
      exact hagreed.invariants first List.mem_cons_self other hin key hinv
    · rw [total_perm hp]
      have hto := hagreed.keys first List.mem_cons_self other hin key
      have hof := hagreed.keys other hin first List.mem_cons_self key
      cases hfirst : first[key]? <;> cases hother : other[key]? <;> simp_all
  rw [hmerged, hmerged', hsame, hlength]

/-- On workers that are level, what one order yields another yields too. -/
theorem Level.merge_eq {others : List (Object ρ)} (h : Level workers) (hp : workers.Perm others)
    {more : List (Object ρ)} (hmore : workers.Perm more)
    (hmerge : mergeDataplaneMetrics (others.map .object) = .ok document) :
    mergeDataplaneMetrics (more.map .object) = .ok document ∧ Agreed others := by
  cases others with
  | nil => cases hmerge
  | cons first rest =>
    obtain ⟨hfits, -⟩ := fits_of_merge hmerge
    obtain ⟨hagreed, hcount⟩ := agreed_of_fits hfits (h first rest hp hfits).1
    refine ⟨?_, hagreed⟩
    have hperm : (first :: rest).Perm more := hp.symm.trans hmore
    by_cases hrest : rest = []
    · rw [← hmerge, hrest, List.singleton_perm.mp (hrest ▸ hperm)]
    · cases more with
      | nil => exact absurd hperm.length_eq (by simp)
      | cons other others => rw [← hmerge, merge_perm hagreed (hcount hrest) hperm]

theorem Level.summed {result : Object ρ} (h : Level workers)
    (hmerge : mergeDataplaneMetrics (workers.map .object) = .ok (.object result)) (hget : result[key]? = some value)
    (hinv : key ∉ invariantFields) (hne : key ≠ "workers") :
    (∀ worker ∈ workers, ∃ n, worker[key]? = some (.unsigned n)) ∧ value = .unsigned (total workers key) := by
  cases workers with
  | nil => cases hmerge
  | cons first rest =>
    obtain ⟨hfits, merged, hmerged, hdocument⟩ := fits_of_merge hmerge
    cases hdocument
    rw [getElem?_insert_of_ne hne] at hget
    obtain ⟨hkeys, halone⟩ := h first rest (.refl _) hfits
    obtain ⟨hagreed, hcount⟩ := agreed_of_fits hfits hkeys
    by_cases hrest : rest = []
    · subst hrest
      have hfirst : first[key]? = some value := by rw [← hget, hmerged key]; rfl
      obtain ⟨n, rfl⟩ := halone rfl key value hfirst hinv hne
      rw [total_singleton hfirst]
      exact ⟨List.forall_mem_singleton.mpr ⟨n, hfirst⟩, rfl⟩
    · obtain ⟨found, hfound, hresult⟩ := merge_agreed hagreed (hcount hrest)
      rw [hmerge] at hfound
      have hdocuments := Document.object.inj (Except.ok.inj hfound)
      have hsame : found[key]? = some value := by
        rw [← hget, ← getElem?_insert_of_ne hne, ← hdocuments, getElem?_insert_of_ne hne]
      rw [hresult, if_neg hinv] at hsame
      obtain ⟨current, hcurrent, hvalue⟩ := Option.map_eq_some_iff.mp hsame
      refine ⟨fun worker hw => ?_, hvalue.symm⟩
      have hsome := hagreed.keys first List.mem_cons_self worker hw key (by rw [hcurrent]; rfl)
      obtain ⟨reported, hreported⟩ := Option.isSome_iff_exists.mp hsome
      obtain ⟨n, rfl⟩ := hcount hrest worker hw key reported hreported hinv
      exact ⟨n, hreported⟩

/-- Merging is fair exactly to the workers that are level. -/
theorem impartial_iff_level (workers : List (Object ρ)) : Impartial workers ↔ Level workers := by
  constructor
  · intro h first rest hp hfits
    obtain ⟨merged, hmerge, hmerged⟩ := exists_merge hfits
    have hboth : mergeDataplaneMetrics (workers.map .object) = .ok (counted merged (rest.length + 1)) := by
      rcases h.order _ hp with ⟨-, hfail⟩ | ⟨document, hworkers, hothers⟩
      · exact absurd hmerge (hfail _)
      · rw [hworkers, ← hothers, hmerge]
    have hagreed := (h.agreed _ hboth).perm hp
    refine ⟨fun worker hw key => ?_, ?_⟩
    · exact hagreed.keys first List.mem_cons_self worker (List.mem_cons_of_mem _ hw) key
    · rintro rfl key value hvalue hinv hne
      have hin : first ∈ workers := hp.mem_iff.mpr List.mem_cons_self
      have hget : (merged.insert "workers" (.unsigned (UInt64.ofNat 1)))[key]? = some value := by
        rw [getElem?_insert_of_ne hne, hmerged key]
        exact hvalue
      exact ⟨_, (h.summed _ hboth key value hget hinv hne).2⟩
  · intro h
    refine ⟨fun others hp => ?_, fun document hmerge => (h.merge_eq (.refl _) (.refl _) hmerge).2,
      fun result hmerge key value hget hinv hne => h.summed hmerge hget hinv hne⟩
    cases hworkers : mergeDataplaneMetrics (workers.map .object) with
    | ok document => exact .inr ⟨document, rfl, (h.merge_eq (.refl _) hp hworkers).1⟩
    | error error =>
      refine .inl ⟨fun _ hok => (by cases hok), fun document hothers => ?_⟩
      have hback := (h.merge_eq hp (.refl _) hothers).1
      rw [hworkers] at hback
      cases hback

/-- A field that only the first worker has is kept; one that it lacks is an error. -/
theorem order_matters :
    let both : Object Empty := ((∅ : Object Empty).insert "a" (.unsigned 1)).insert "b" (.unsigned 2)
    let one : Object Empty := (∅ : Object Empty).insert "a" (.unsigned 1)
    (∃ document, mergeDataplaneMetrics [.object both, .object one] = .ok document) ∧
      mergeDataplaneMetrics [.object one, .object both] = .error (.inconsistent "b") ∧ ¬ Impartial [both, one] := by
  intro both one
  have hok : mergeDataplaneMetrics ([both, one].map .object) =
      .ok (counted (both.insert "a" (.unsigned 2)) 2) := rfl
  have herror : mergeDataplaneMetrics ([one, both].map .object) = .error (.inconsistent "b") := rfl
  refine ⟨⟨_, hok⟩, herror, fun h => ?_⟩
  rcases h.order _ (List.Perm.swap one both []) with ⟨hfail, -⟩ | ⟨document, -, hothers⟩
  · exact hfail _ hok
  · rw [herror] at hothers
    cases hothers

end Yayatht.Supervisor
