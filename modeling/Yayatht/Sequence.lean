import Yayatht.SerialArithmetic

set_option autoImplicit false

namespace Yayatht.Sequence
open SerialArithmetic

/-- A TCP sequence number, `u32` on the wire. -/
abbrev Seq := BitVec 32

def before (left right : Seq) : Bool := decide ((left - right).toInt < 0)

def after (left right : Seq) : Bool := before right left

def beforeOrEqual (left right : Seq) : Bool := left == right || before left right

def distance (start stop : Seq) : Seq := stop - start

theorem before_iff (left right : Seq) : before left right = true ↔ 2 ^ 31 ≤ gap right left := by
  have h := behind_iff_gap left right
  unfold before
  rw [decide_eq_true_iff]
  change Behind left right ↔ _
  rw [h]
  omega

theorem after_iff (left right : Seq) : after left right = true ↔ 2 ^ 31 ≤ gap left right :=
  before_iff right left

/-- `after` looks half of the number space ahead, its far end included. -/
theorem after_iff_gap (left right : Seq) :
    after left right = true ↔ 0 < gap right left ∧ gap right left ≤ 2 ^ 31 := by
  rw [after_iff]
  by_cases he : left = right
  · subst he
    simp
  · have hswap := gap_swap left right he
    have hlt := gap_lt left right
    have hpos : gap left right ≠ 0 := fun hz => he ((gap_eq_zero_iff left right).mp hz)
    omega

theorem distance_toNat (start stop : Seq) : (distance start stop).toNat = gap start stop := rfl

/-- Inside half of the number space `after` is the strict order of positions. -/
theorem after_of_gap (a b c : Seq) (hb : gap a b < 2 ^ 31) (hc : gap a c ≤ 2 ^ 31) :
    after c b = true ↔ gap a b < gap a c := by
  rw [after_iff]
  by_cases hle : gap a c ≤ gap a b
  · have h := gap_split a c b hle
    omega
  · have h := gap_split a b c (by omega)
    have hne : b ≠ c := by
      rintro rfl
      omega
    rw [gap_swap b c hne, h]
    omega

end Yayatht.Sequence
