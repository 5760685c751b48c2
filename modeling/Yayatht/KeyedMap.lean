import Mathlib.Data.Nat.Notation
import Mathlib.Data.List.Basic

set_option autoImplicit false

namespace Yayatht

structure KeyedMap (κ α : Type) where
  entries : List (κ × α) := []

namespace KeyedMap

variable {κ α : Type} [DecidableEq κ]

def find? (m : KeyedMap κ α) (key : κ) : Option α :=
  (m.entries.find? fun entry => entry.1 = key).map Prod.snd

def erase (m : KeyedMap κ α) (key : κ) : KeyedMap κ α :=
  ⟨m.entries.filter fun entry => entry.1 ≠ key⟩

def insert (m : KeyedMap κ α) (key : κ) (value : α) : KeyedMap κ α :=
  ⟨(key, value) :: (m.erase key).entries⟩

def modify (m : KeyedMap κ α) (key : κ) (f : α → α) : KeyedMap κ α :=
  ⟨m.entries.map fun entry => if entry.1 = key then (entry.1, f entry.2) else entry⟩

def contains (m : KeyedMap κ α) (key : κ) : Bool := (m.find? key).isSome

def size (m : KeyedMap κ α) : ℕ := m.entries.length

def isEmpty (m : KeyedMap κ α) : Bool := m.entries.isEmpty

@[simp] theorem find?_empty (key : κ) : (⟨[]⟩ : KeyedMap κ α).find? key = none := rfl

theorem find?_insert_self (m : KeyedMap κ α) (key : κ) (value : α) :
    (m.insert key value).find? key = some value := by
  simp [insert, find?]

theorem find?_erase_self (m : KeyedMap κ α) (key : κ) : (m.erase key).find? key = none := by
  simp [erase, find?, List.find?_eq_none]

theorem find?_erase_of_ne (m : KeyedMap κ α) (key other : κ) (h : other ≠ key) :
    (m.erase key).find? other = m.find? other := by
  unfold erase find?
  rw [List.find?_filter]
  congr 1
  apply congrArg (fun p => List.find? p m.entries)
  funext entry
  by_cases he : entry.1 = other <;> simp [he, h]

theorem find?_insert_of_ne (m : KeyedMap κ α) (key other : κ) (value : α) (h : other ≠ key) :
    (m.insert key value).find? other = m.find? other := by
  have hne : ¬ key = other := fun he => h he.symm
  rw [← find?_erase_of_ne m key other h]
  simp [insert, find?, hne]

theorem find?_insert (m : KeyedMap κ α) (key other : κ) (value : α) :
    (m.insert key value).find? other = if other = key then some value else m.find? other := by
  by_cases h : other = key
  · subst h
    simp [find?_insert_self]
  · simp [h, find?_insert_of_ne m key other value h]

theorem find?_erase (m : KeyedMap κ α) (key other : κ) :
    (m.erase key).find? other = if other = key then none else m.find? other := by
  by_cases h : other = key
  · subst h
    simp [find?_erase_self]
  · simp [h, find?_erase_of_ne m key other h]

theorem find?_modify (m : KeyedMap κ α) (key other : κ) (f : α → α) :
    (m.modify key f).find? other = if other = key then (m.find? key).map f else m.find? other := by
  obtain ⟨entries⟩ := m
  unfold modify find?
  induction entries with
  | nil => simp
  | cons entry entries ih =>
    by_cases hkey : entry.1 = key
    · by_cases ho : other = key
      · simp [hkey, ho]
      · have hne : ¬ key = other := fun he => ho he.symm
        simpa [hkey, ho, hne] using ih
    · by_cases ho : entry.1 = other
      · have hne : ¬ other = key := fun he => hkey (ho.trans he)
        simp [ho, hne]
      · simpa [hkey, ho] using ih

@[simp] theorem size_modify (m : KeyedMap κ α) (key : κ) (f : α → α) : (m.modify key f).size = m.size := by
  simp [modify, size]

theorem find?_eq_none_iff (m : KeyedMap κ α) (key : κ) :
    m.find? key = none ↔ ∀ entry ∈ m.entries, entry.1 ≠ key := by
  simp [find?, List.find?_eq_none]

theorem erase_of_absent {m : KeyedMap κ α} {key : κ} (h : m.find? key = none) : m.erase key = m := by
  have hall := (find?_eq_none_iff m key).mp h
  unfold erase
  congr 1
  apply List.filter_eq_self.mpr
  intro entry hm
  simpa using hall entry hm

theorem erase_insert (m : KeyedMap κ α) (key : κ) (value : α) :
    (m.insert key value).erase key = m.erase key := by
  simp [insert, erase]

theorem size_insert_of_absent {m : KeyedMap κ α} {key : κ} (h : m.find? key = none) (value : α) :
    (m.insert key value).size = m.size + 1 := by
  unfold insert size
  rw [erase_of_absent h]
  rfl

theorem size_erase_le (m : KeyedMap κ α) (key : κ) : (m.erase key).size ≤ m.size :=
  List.length_filter_le _ _

/-- No key has two entries. -/
def Distinct (m : KeyedMap κ α) : Prop := (m.entries.map Prod.fst).Nodup

theorem Distinct.erase {m : KeyedMap κ α} (h : m.Distinct) (key : κ) : (m.erase key).Distinct :=
  List.Nodup.sublist (List.filter_sublist.map Prod.fst) h

theorem Distinct.insert {m : KeyedMap κ α} (h : m.Distinct) (key : κ) (value : α) :
    (m.insert key value).Distinct := by
  refine List.nodup_cons.mpr ⟨?_, h.erase key⟩
  intro hm
  obtain ⟨entry, he, hkey⟩ := List.mem_map.mp hm
  simp only [KeyedMap.erase, List.mem_filter, decide_eq_true_eq] at he
  exact he.2 hkey

theorem Distinct.modify {m : KeyedMap κ α} (h : m.Distinct) (key : κ) (f : α → α) :
    (m.modify key f).Distinct := by
  have hkeys : (m.modify key f).entries.map Prod.fst = m.entries.map Prod.fst := by
    unfold KeyedMap.modify
    rw [List.map_map]
    apply List.map_congr_left
    intro entry _
    by_cases hkey : entry.1 = key <;> simp [hkey]
  unfold Distinct
  rw [hkeys]
  exact h

theorem Distinct.perm_erase {m : KeyedMap κ α} (h : m.Distinct) {key : κ} {value : α}
    (hf : m.find? key = some value) : m.entries.Perm ((key, value) :: (m.erase key).entries) := by
  obtain ⟨entries⟩ := m
  unfold KeyedMap.erase
  dsimp only
  induction entries with
  | nil => cases hf
  | cons entry entries ih =>
    obtain ⟨hfirst, hrest⟩ := List.nodup_cons.mp h
    by_cases hkey : entry.1 = key
    · have hkeep : entries.filter (fun other => decide (other.1 ≠ key)) = entries := by
        apply List.filter_eq_self.mpr
        intro other ho
        simp only [decide_eq_true_eq]
        rintro rfl
        exact hfirst (List.mem_map.mpr ⟨other, ho, hkey.symm⟩)
      have hvalue : entry = (key, value) := by
        have hentry : some entry.2 = some value := by simpa [find?, hkey] using hf
        exact Prod.ext hkey (Option.some.inj hentry)
      rw [List.filter_cons_of_neg (by simp [hkey]), hkeep, hvalue]
    · have hrec := ih hrest (by simpa [find?, hkey] using hf)
      rw [List.filter_cons_of_pos (by simp [hkey])]
      exact (hrec.cons entry).trans (List.Perm.swap _ _ _)

theorem Distinct.size_erase {m : KeyedMap κ α} (h : m.Distinct) {key : κ} {value : α}
    (hf : m.find? key = some value) : (m.erase key).size + 1 = m.size :=
  (h.perm_erase hf).length_eq.symm

end KeyedMap

end Yayatht
