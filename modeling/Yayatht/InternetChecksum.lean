import Yayatht.Addresses

set_option autoImplicit false

namespace Yayatht.Checksum

/-- The accumulator is a `u32`; an odd last byte is a high byte. -/
def sumWords : ℕ → Bytes → ℕ
  | sum, high :: low :: rest => sumWords ((sum + beWord high low) % 2 ^ 32) rest
  | sum, [last] => (sum + 256 * last.toNat) % 2 ^ 32
  | sum, [] => sum

def foldSum (sum : ℕ) : ℕ :=
  if sum / 65536 = 0 then sum else foldSum (sum % 65536 + sum / 65536)
termination_by sum
decreasing_by omega

def fold (sum : ℕ) : ℕ := 65535 - foldSum sum

def checksum (bytes : Bytes) : ℕ := fold (sumWords 0 bytes)

/-- The sum of the pseudo header before the transport bytes. -/
def ipv4Pseudo (source destination : Bytes) (protocol : UInt8) (length : ℕ) : ℕ :=
  ((sumWords (sumWords 0 source) destination + protocol.toNat) % 2 ^ 32 + length) % 2 ^ 32

def ipv4Transport (source destination : Bytes) (protocol : UInt8) (bytes : Bytes) : ℕ :=
  fold (sumWords (ipv4Pseudo source destination protocol bytes.length) bytes)

def ipv6Pseudo (source destination : Bytes) (protocol : UInt8) (length : ℕ) : ℕ :=
  (sumWords (sumWords (sumWords 0 source) destination) (beBytes 4 (BitVec.ofNat 32 length)) +
    protocol.toNat) % 2 ^ 32

def ipv6Transport (source destination : Bytes) (protocol : UInt8) (bytes : Bytes) : ℕ :=
  fold (sumWords (ipv6Pseudo source destination protocol bytes.length) bytes)

/-- Folded but not complemented: the seed the kernel completes. -/
def ipv4PseudoHeader (source destination : Bytes) (protocol : UInt8) (length : ℕ) : ℕ :=
  foldSum (ipv4Pseudo source destination protocol length)

def ipv6PseudoHeader (source destination : Bytes) (protocol : UInt8) (length : ℕ) : ℕ :=
  foldSum (ipv6Pseudo source destination protocol length)

def wordSum : Bytes → ℕ
  | high :: low :: rest => beWord high low + wordSum rest
  | [last] => 256 * last.toNat
  | [] => 0

theorem wordSum_le (bytes : Bytes) : wordSum bytes ≤ 65535 * ((bytes.length + 1) / 2) := by
  induction bytes using wordSum.induct with
  | case1 high low rest ih =>
    have hword := beWord_lt high low
    have hlength : ((high :: low :: rest).length + 1) / 2 = (rest.length + 1) / 2 + 1 := by
      simp only [List.length_cons]
      omega
    rw [wordSum, hlength]
    omega
  | case2 last =>
    have hlast := last.toNat_lt
    simp only [wordSum, List.length_singleton]
    omega
  | case3 => exact Nat.le_refl 0

/-- While the total fits, the accumulator never wraps. -/
theorem sumWords_eq (sum : ℕ) (bytes : Bytes) (h : sum + wordSum bytes < 2 ^ 32) :
    sumWords sum bytes = sum + wordSum bytes := by
  induction sum, bytes using sumWords.induct with
  | case1 sum high low rest ih =>
    rw [wordSum] at h ⊢
    have hsmall : (sum + beWord high low) % 2 ^ 32 = sum + beWord high low := Nat.mod_eq_of_lt (by omega)
    rw [hsmall] at ih
    rw [sumWords, hsmall, ih (by omega)]
    omega
  | case2 sum last =>
    rw [wordSum] at h ⊢
    rw [sumWords]
    exact Nat.mod_eq_of_lt h
  | case3 sum => rfl

theorem wordSum_append (first rest : Bytes) (h : first.length % 2 = 0) :
    wordSum (first ++ rest) = wordSum first + wordSum rest := by
  induction first using wordSum.induct with
  | case1 high low tail ih =>
    have htail : tail.length % 2 = 0 := by
      simp only [List.length_cons] at h
      omega
    rw [List.cons_append, List.cons_append, wordSum, wordSum, ih htail]
    omega
  | case2 last => simp at h
  | case3 => simp [wordSum]

theorem foldSum_lt (sum : ℕ) : foldSum sum < 65536 := by
  induction sum using foldSum.induct with
  | case1 sum h =>
    rw [foldSum, if_pos h]
    omega
  | case2 sum h ih =>
    rw [foldSum, if_neg h]
    exact ih

theorem foldSum_mod (sum : ℕ) : foldSum sum % 65535 = sum % 65535 := by
  induction sum using foldSum.induct with
  | case1 sum h => rw [foldSum, if_pos h]
  | case2 sum h ih =>
    rw [foldSum, if_neg h, ih]
    omega

theorem foldSum_pos {sum : ℕ} (hpos : 0 < sum) : 0 < foldSum sum := by
  induction sum using foldSum.induct with
  | case1 sum h =>
    rw [foldSum, if_pos h]
    exact hpos
  | case2 sum h ih =>
    rw [foldSum, if_neg h]
    exact ih (by omega)

/-- A sum verifies when it is a positive multiple of 65535. -/
theorem fold_eq_zero {sum : ℕ} (hpos : 0 < sum) (hmod : sum % 65535 = 0) : fold sum = 0 := by
  have hlt := foldSum_lt sum
  have hfold := foldSum_mod sum
  have hfoldPos := foldSum_pos hpos
  unfold fold
  omega

theorem fold_le (sum : ℕ) : fold sum ≤ 65535 := Nat.sub_le _ _

theorem fold_complement (sum : ℕ) : (sum + fold sum) % 65535 = 0 := by
  have hlt := foldSum_lt sum
  have hfold := foldSum_mod sum
  unfold fold
  omega

theorem fold_nonzero_complement (sum : ℕ) : (sum + if fold sum = 0 then 65535 else fold sum) % 65535 = 0 := by
  have hcomplement := fold_complement sum
  split
  · rename_i hzero
    rw [hzero] at hcomplement
    omega
  · exact hcomplement

end Yayatht.Checksum
