import Mathlib.Data.Nat.Notation
import Mathlib.Tactic.Ring
import Mathlib.Tactic.NormNum

set_option autoImplicit false

/-!
# Serial numbers

Counters of a fixed width that wrap around, compared by the sign of their
difference. The comparison is the order of the unwrapped positions as long as
these lie within half of the number space; `Tiles` says that a list of
intervals covers a range of serial numbers without gap or overlap.
-/
namespace Yayatht.SerialArithmetic

variable {w : ℕ}

/-- `a` lies behind `b`: the wrapped difference is negative as a signed number. -/
def Behind (a b : BitVec w) : Prop := (a - b).toInt < 0

instance (a b : BitVec w) : Decidable (Behind a b) := inferInstanceAs (Decidable (_ < _))

/-- Forward distance from `a` to `b`. -/
def gap (a b : BitVec w) : ℕ := (b - a).toNat

theorem gap_lt (a b : BitVec w) : gap a b < 2 ^ w := (b - a).isLt

theorem behind_iff_gap (a b : BitVec w) : Behind a b ↔ 2 ^ w ≤ 2 * gap b a := by
  unfold Behind gap
  rw [BitVec.toInt_neg_iff]

@[simp] theorem gap_self (a : BitVec w) : gap a a = 0 := by simp [gap]

theorem gap_eq_zero_iff (a b : BitVec w) : gap a b = 0 ↔ a = b := by
  unfold gap
  constructor
  · intro h
    have hz : b - a = 0#w := BitVec.eq_of_toNat_eq (by simpa using h)
    have hb := BitVec.sub_add_cancel b a
    rw [hz, BitVec.zero_add] at hb
    exact hb
  · rintro rfl
    simp

theorem add_gap (a b : BitVec w) : a + BitVec.ofNat w (gap a b) = b := by
  unfold gap
  rw [BitVec.ofNat_toNat, BitVec.setWidth_eq, BitVec.add_comm, BitVec.sub_add_cancel]

theorem gap_add_left (a : BitVec w) (n : ℕ) (hn : n < 2 ^ w) : gap a (a + BitVec.ofNat w n) = n := by
  unfold gap
  rw [BitVec.add_comm, BitVec.add_sub_cancel, BitVec.toNat_ofNat, Nat.mod_eq_of_lt hn]

theorem gap_swap (a b : BitVec w) (h : a ≠ b) : gap b a = 2 ^ w - gap a b := by
  unfold gap
  have ha := a.isLt
  have hb := b.isLt
  have hne : a.toNat ≠ b.toNat := fun he => h (BitVec.eq_of_toNat_eq he)
  rw [BitVec.toNat_sub, BitVec.toNat_sub]
  rcases Nat.lt_or_gt_of_ne hne with hlt | hlt
  · rw [Nat.mod_eq_of_lt (by omega),
      show 2 ^ w - a.toNat + b.toNat = 2 ^ w + (b.toNat - a.toNat) by omega,
      Nat.add_mod_left, Nat.mod_eq_of_lt (by omega)]
    omega
  · rw [show 2 ^ w - b.toNat + a.toNat = 2 ^ w + (a.toNat - b.toNat) by omega,
      Nat.add_mod_left, Nat.mod_eq_of_lt (by omega), Nat.mod_eq_of_lt (by omega)]
    omega

theorem gap_mod (a b c : BitVec w) : gap a c = (gap a b + gap b c) % 2 ^ w := by
  have hc : c = a + BitVec.ofNat w (gap a b + gap b c) := by
    rw [BitVec.ofNat_add, ← BitVec.add_assoc, add_gap, add_gap]
  have hgap : gap a (a + BitVec.ofNat w (gap a b + gap b c)) = (gap a b + gap b c) % 2 ^ w := by
    unfold gap
    rw [BitVec.add_comm, BitVec.add_sub_cancel, BitVec.toNat_ofNat]
  rw [← hgap, ← hc]

/-- The gap between two positions counted from one origin. -/
theorem gap_positions (origin : BitVec w) {x y : ℕ} (h : x ≤ y) :
    gap (origin + BitVec.ofNat w x) (origin + BitVec.ofNat w y) = (y - x) % 2 ^ w := by
  have hy : origin + BitVec.ofNat w y = origin + BitVec.ofNat w x + BitVec.ofNat w (y - x) := by
    rw [BitVec.add_assoc, ← BitVec.ofNat_add, Nat.add_sub_cancel' h]
  unfold gap
  rw [hy, BitVec.add_comm _ (BitVec.ofNat w (y - x)), BitVec.add_sub_cancel, BitVec.toNat_ofNat]

theorem gap_split (a b c : BitVec w) (h : gap a b ≤ gap a c) : gap b c = gap a c - gap a b := by
  have hc : c = b + BitVec.ofNat w (gap a c - gap a b) := by
    have hb : b = a + BitVec.ofNat w (gap a b) := (add_gap a b).symm
    have he : gap a b + (gap a c - gap a b) = gap a c := by omega
    calc
      c = a + BitVec.ofNat w (gap a c) := (add_gap a c).symm
      _ = a + BitVec.ofNat w (gap a b + (gap a c - gap a b)) := by rw [he]
      _ = b + BitVec.ofNat w (gap a c - gap a b) := by
        rw [BitVec.ofNat_add, ← BitVec.add_assoc, ← hb]
  have hlt := gap_lt a c
  calc
    gap b c = gap b (b + BitVec.ofNat w (gap a c - gap a b)) := by rw [← hc]
    _ = gap a c - gap a b := gap_add_left b _ (by omega)

/-- Consecutive non-empty intervals `(start, length)` from `a` up to `b`. -/
def Tiles (a b : BitVec w) : List (BitVec w × ℕ) → Prop
  | [] => a = b
  | (start, length) :: rest => start = a ∧ 0 < length ∧ Tiles (a + BitVec.ofNat w length) b rest

/-- Total length of a list of intervals. -/
def span (intervals : List (BitVec w × ℕ)) : ℕ := (intervals.map Prod.snd).sum

@[simp] theorem span_nil : span ([] : List (BitVec w × ℕ)) = 0 := rfl

theorem Tiles.append {a b c : BitVec w} {xs ys : List (BitVec w × ℕ)}
    (hx : Tiles a b xs) (hy : Tiles b c ys) : Tiles a c (xs ++ ys) := by
  induction xs generalizing a with
  | nil =>
    change a = b at hx
    subst a
    exact hy
  | cons x xs ih => exact ⟨hx.1, hx.2.1, ih hx.2.2⟩

theorem Tiles.end_eq {a b : BitVec w} {xs : List (BitVec w × ℕ)} (h : Tiles a b xs) :
    b = a + BitVec.ofNat w (span xs) := by
  induction xs generalizing a with
  | nil =>
    change a = b at h
    subst a
    simp
  | cons x xs ih =>
    have hb := ih h.2.2
    have hs : span (x :: xs) = x.2 + span xs := rfl
    rw [hb, hs, BitVec.ofNat_add, BitVec.add_assoc]

theorem Tiles.gap_eq {a b : BitVec w} {xs : List (BitVec w × ℕ)} (h : Tiles a b xs)
    (hs : span xs < 2 ^ w) : gap a b = span xs := by
  rw [h.end_eq, gap_add_left a _ hs]

end Yayatht.SerialArithmetic
