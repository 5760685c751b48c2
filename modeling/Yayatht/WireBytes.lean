import Mathlib.Tactic.Ring
import Yayatht.ReactorState

set_option autoImplicit false

namespace Yayatht.Wire

def outOfBounds : Error := .panic "slice index out of range"

def byteAt (bytes : Bytes) (i : ℕ) : Except Error UInt8 :=
  match bytes[i]? with
  | some byte => .ok byte
  | none => .error outOfBounds

def wordAt (bytes : Bytes) (i : ℕ) : Except Error ℕ := do
  let high ← byteAt bytes i
  let low ← byteAt bytes (i + 1)
  pure (beWord high low)

/-- `bytes[start..stop]`. -/
def range (bytes : Bytes) (start stop : ℕ) : Except Error Bytes :=
  if start ≤ stop ∧ stop ≤ bytes.length then .ok ((bytes.drop start).take (stop - start))
  else .error outOfBounds

/-- The bytes from `start` on replaced by `source`. -/
def patch (bytes : Bytes) (start : ℕ) (source : Bytes) : Bytes :=
  bytes.take start ++ source ++ bytes.drop (start + source.length)

/-- `bytes[start..start + source.len()].copy_from_slice(source)`. -/
def copyAt (bytes : Bytes) (start : ℕ) (source : Bytes) : Except Error Bytes :=
  if start + source.length ≤ bytes.length then .ok (patch bytes start source) else .error outOfBounds

/-- Writes in the order given. -/
def copyFields (bytes : Bytes) : List (ℕ × Bytes) → Except Error Bytes
  | [] => pure bytes
  | (start, source) :: fields => do copyFields (← copyAt bytes start source) fields

/-- Hands `bytes[start..stop]` to a writer. -/
def within {α : Type} (bytes : Bytes) (start stop : ℕ) (write : Bytes → Except Error (Bytes × α)) :
    Except Error (Bytes × α) := do
  let slice ← range bytes start stop
  let (slice, a) ← write slice
  let bytes ← copyAt bytes start slice
  pure (bytes, a)

/-- The low 16 bits of a number, big endian. -/
def be16 (value : ℕ) : Bytes := [UInt8.ofNat (value / 256), UInt8.ofNat value]

/-- The value of a big-endian byte string. -/
def beValue (bytes : Bytes) : ℕ := bytes.foldl (fun value byte => 256 * value + byte.toNat) 0

def ofOctets (w : ℕ) (bytes : Bytes) : BitVec w := BitVec.ofNat w (beValue bytes)

@[simp] theorem ok_bind {α β : Type} (a : α) (f : α → Except Error β) : (Except.ok a >>= f) = f a := rfl

@[simp] theorem length_be16 (value : ℕ) : (be16 value).length = 2 := rfl

theorem beWord_be16 (value : ℕ) :
    beWord (UInt8.ofNat (value / 256)) (UInt8.ofNat value) = value % 65536 := by
  unfold beWord
  rw [UInt8.toNat_ofNat', UInt8.toNat_ofNat']
  omega

@[simp] theorem length_beBytes {w : ℕ} (count : ℕ) (value : BitVec w) : (beBytes count value).length = count := by
  simp [beBytes]

theorem beBytes_succ {w : ℕ} (count : ℕ) (value : BitVec w) :
    beBytes (count + 1) value = UInt8.ofNat (value.toNat / 256 ^ count) :: beBytes count value := by
  unfold beBytes
  rw [List.range_succ_eq_map, List.map_cons, List.map_map]
  congr 1
  refine List.map_congr_left fun i hi => ?_
  have hlt := List.mem_range.mp hi
  have hexp : count + 1 - 1 - (i + 1) = count - 1 - i := by omega
  change UInt8.ofNat (value.toNat / 256 ^ (count + 1 - 1 - (i + 1))) = _
  rw [hexp]

theorem beValue_append (first rest : Bytes) :
    beValue (first ++ rest) = beValue first * 256 ^ rest.length + beValue rest := by
  unfold beValue
  rw [List.foldl_append]
  generalize first.foldl (fun value byte => 256 * value + byte.toNat) 0 = start
  -- the value so far is scaled by every byte that follows
  have hscale : ∀ start next, rest.foldl (fun value byte => 256 * value + byte.toNat) (start + next) =
      start * 256 ^ rest.length + rest.foldl (fun value byte => 256 * value + byte.toNat) next := by
    induction rest with
    | nil => simp
    | cons byte rest ih =>
      intro start next
      have hstep : 256 * (start + next) + byte.toNat = 256 * start + (256 * next + byte.toNat) := by omega
      rw [List.foldl_cons, List.foldl_cons, hstep, ih, List.length_cons, Nat.pow_succ]
      ring
  exact hscale start 0

theorem beValue_octets {w : ℕ} (count : ℕ) (value : BitVec w) :
    beValue (beBytes count value) = value.toNat % 256 ^ count := by
  induction count with
  | zero => simp [beBytes, beValue, Nat.mod_one]
  | succ count ih =>
    have hsplit : beValue (beBytes (count + 1) value) =
        beValue [UInt8.ofNat (value.toNat / 256 ^ count)] * 256 ^ (beBytes count value).length +
          beValue (beBytes count value) := by
      rw [beBytes_succ, ← beValue_append]
      rfl
    have hbyte : beValue [UInt8.ofNat (value.toNat / 256 ^ count)] = value.toNat / 256 ^ count % 256 := by
      simp [beValue]
    rw [hsplit, hbyte, ih, length_beBytes, Nat.pow_succ, Nat.mod_mul]
    ring

theorem ofOctets_beBytes {w count : ℕ} (value : BitVec w) (h : w = 8 * count) :
    ofOctets w (beBytes count value) = value := by
  unfold ofOctets
  apply BitVec.eq_of_toNat_eq
  have hlt : value.toNat < 2 ^ w := value.isLt
  have hpow : 256 ^ count = 2 ^ w := by rw [h, Nat.pow_mul]
  rw [beValue_octets, BitVec.toNat_ofNat, hpow, Nat.mod_mod]
  exact Nat.mod_eq_of_lt hlt

section Slices

variable {bytes first middle last : Bytes} {start stop : ℕ}

theorem range_eq (hbytes : bytes = first ++ (middle ++ last)) (hstart : start = first.length)
    (hstop : stop = first.length + middle.length) : range bytes start stop = .ok middle := by
  subst hbytes hstart hstop
  unfold range
  rw [if_pos ⟨by omega, by simp only [List.length_append]; omega⟩, List.drop_left, Nat.add_sub_cancel_left,
    List.take_left]

theorem exists_of_range (h : range bytes start stop = .ok middle) :
    ∃ first last, bytes = first ++ (middle ++ last) ∧ start = first.length ∧
      stop = first.length + middle.length := by
  unfold range at h
  split at h
  · rename_i hbounds
    cases h
    refine ⟨bytes.take start, bytes.drop stop, ?_, ?_, ?_⟩
    · have hlast : bytes.drop stop = (bytes.drop start).drop (stop - start) := by
        rw [List.drop_drop, Nat.add_sub_cancel' hbounds.1]
      rw [hlast, List.take_append_drop, List.take_append_drop]
    · rw [List.length_take]
      omega
    · rw [List.length_take, List.length_take, List.length_drop]
      omega
  · cases h

theorem exists_append (bytes : Bytes) {count : ℕ} (h : count ≤ bytes.length) :
    ∃ first last, bytes = first ++ last ∧ first.length = count :=
  ⟨bytes.take count, bytes.drop count, (List.take_append_drop count bytes).symm, List.length_take_of_le h⟩

theorem patch_eq {source : Bytes} (hbytes : bytes = first ++ (middle ++ last)) (hstart : start = first.length)
    (hsource : source.length = middle.length) : patch bytes start source = first ++ (source ++ last) := by
  subst hbytes hstart
  unfold patch
  rw [List.take_left, hsource, ← List.drop_drop, List.drop_left, List.drop_left, List.append_assoc]

theorem copyAt_eq {source : Bytes} (hbytes : bytes = first ++ (middle ++ last)) (hstart : start = first.length)
    (hsource : source.length = middle.length) : copyAt bytes start source = .ok (first ++ (source ++ last)) := by
  have hfits : start + source.length ≤ bytes.length := by
    rw [hbytes, hstart, hsource, List.length_append, List.length_append]
    omega
  unfold copyAt
  rw [if_pos hfits, patch_eq hbytes hstart hsource]

theorem within_eq {α : Type} {write : Bytes → Except Error (Bytes × α)} {written : Bytes} {a : α}
    (hbytes : bytes = first ++ (middle ++ last)) (hstart : start = first.length)
    (hstop : stop = first.length + middle.length) (hwrite : write middle = .ok (written, a))
    (hlength : written.length = middle.length) :
    within bytes start stop write = .ok (first ++ (written ++ last), a) := by
  unfold within
  rw [range_eq hbytes hstart hstop]
  change (write middle >>= _) = _
  rw [hwrite]
  change (copyAt bytes start written >>= _) = _
  rw [copyAt_eq hbytes hstart hlength]
  rfl

/-- Each field starts where the one before it ends. -/
def Contiguous : ℕ → List (ℕ × Bytes) → Prop
  | _, [] => True
  | start, (offset, source) :: fields => offset = start ∧ Contiguous (start + source.length) fields

theorem copyFields_contiguous {fields : List (ℕ × Bytes)} (hbytes : bytes = first ++ (middle ++ last))
    (hfields : Contiguous first.length fields) (hmiddle : middle.length = (fields.flatMap Prod.snd).length) :
    copyFields bytes fields = .ok (first ++ (fields.flatMap Prod.snd ++ last)) := by
  induction fields generalizing bytes first middle with
  | nil =>
    have hnil : middle = [] := List.eq_nil_of_length_eq_zero hmiddle
    rw [hbytes, hnil]
    rfl
  | cons field fields ih =>
    obtain ⟨offset, source⟩ := field
    obtain ⟨rfl, hrest⟩ := hfields
    have hlength : middle.length = source.length + (fields.flatMap Prod.snd).length := by
      rw [hmiddle, List.flatMap_cons, List.length_append]
    have hsplit : bytes = first ++ (middle.take source.length ++ (middle.drop source.length ++ last)) := by
      rw [hbytes, ← List.append_assoc (middle.take _), List.take_append_drop]
    have htake : source.length = (middle.take source.length).length := by
      rw [List.length_take, hlength]
      omega
    have hdrop : (middle.drop source.length).length = (fields.flatMap Prod.snd).length := by
      rw [List.length_drop, hlength]
      omega
    rw [← List.length_append] at hrest
    unfold copyFields
    rw [copyAt_eq hsplit rfl htake]
    refine (ih (List.append_assoc first source _).symm hrest hdrop).trans ?_
    simp only [List.flatMap_cons, List.append_assoc]

/-- Fields in ascending order on a stretch of zeros from `start` to `stop`. -/
def laidOut : ℕ → ℕ → List (ℕ × Bytes) → Bytes
  | start, stop, [] => List.replicate (stop - start) 0
  | start, stop, (offset, source) :: fields =>
    List.replicate (offset - start) 0 ++ (source ++ laidOut (offset + source.length) stop fields)

def Ascending : ℕ → ℕ → List (ℕ × Bytes) → Prop
  | start, stop, [] => start ≤ stop
  | start, stop, (offset, source) :: fields => start ≤ offset ∧ Ascending (offset + source.length) stop fields

theorem Ascending.le {fields : List (ℕ × Bytes)} (h : Ascending start stop fields) : start ≤ stop := by
  induction fields generalizing start with
  | nil => exact h
  | cons field fields ih =>
    obtain ⟨hoffset, hrest⟩ := h
    have hstop := ih hrest
    omega

theorem Ascending.mono {fields : List (ℕ × Bytes)} {stop' : ℕ} (h : Ascending start stop fields)
    (hle : stop ≤ stop') : Ascending start stop' fields := by
  induction fields generalizing start with
  | nil => exact Nat.le_trans h hle
  | cons field fields ih => exact ⟨h.1, ih h.2⟩

theorem laidOut_append {fields : List (ℕ × Bytes)} (count : ℕ) (h : Ascending start stop fields) :
    laidOut start (stop + count) fields = laidOut start stop fields ++ List.replicate count 0 := by
  induction fields generalizing start with
  | nil =>
    have hle : start ≤ stop := h
    simp only [laidOut, List.replicate_append_replicate]
    congr 1
    omega
  | cons field fields ih =>
    obtain ⟨_, hrest⟩ := h
    simp only [laidOut, ih hrest, List.append_assoc]

theorem copyFields_zeros {fields : List (ℕ × Bytes)} (rest : Bytes) (h : Ascending first.length stop fields) :
    copyFields (first ++ (List.replicate (stop - first.length) 0 ++ rest)) fields =
      .ok (first ++ (laidOut first.length stop fields ++ rest)) := by
  induction fields generalizing first with
  | nil => rfl
  | cons field fields ih =>
    obtain ⟨offset, source⟩ := field
    obtain ⟨hoffset, hrest⟩ := h
    have hstop := hrest.le
    -- the zeros before the field, under it and after it
    have hzeros : List.replicate (stop - first.length) (0 : UInt8) =
        List.replicate (offset - first.length) 0 ++
          (List.replicate source.length 0 ++ List.replicate (stop - (offset + source.length)) 0) := by
      rw [List.replicate_append_replicate, List.replicate_append_replicate]
      congr 1
      omega
    have hfront : (first ++ List.replicate (offset - first.length) 0).length = offset := by
      rw [List.length_append, List.length_replicate]
      omega
    have hlength : (first ++ List.replicate (offset - first.length) 0 ++ source).length =
        offset + source.length := by
      rw [List.length_append, hfront]
    have hcopy : copyAt (first ++ (List.replicate (stop - first.length) 0 ++ rest)) offset source =
        .ok (first ++ List.replicate (offset - first.length) 0 ++
          (source ++ (List.replicate (stop - (offset + source.length)) 0 ++ rest))) := by
      refine copyAt_eq ?_ hfront.symm (List.length_replicate (a := (0 : UInt8))).symm
      rw [hzeros]
      simp only [List.append_assoc]
    have hfields := ih (by rw [hlength]; exact hrest)
    rw [hlength, List.append_assoc] at hfields
    unfold copyFields
    rw [hcopy]
    refine hfields.trans ?_
    simp only [laidOut, List.append_assoc]

theorem copyFields_cleared {old : Bytes} (rest : Bytes) {fields : List (ℕ × Bytes)} (hold : old.length = stop)
    (hfields : Ascending 0 stop fields) :
    copyFields (old ++ rest) ((0, List.replicate stop 0) :: fields) = .ok (laidOut 0 stop fields ++ rest) := by
  have hclear : copyAt (old ++ rest) 0 (List.replicate stop 0) = .ok (List.replicate stop 0 ++ rest) :=
    copyAt_eq (show old ++ rest = [] ++ (old ++ rest) from rfl) rfl (by rw [List.length_replicate, hold])
  unfold copyFields
  rw [hclear]
  exact copyFields_zeros rest (show Ascending ([] : Bytes).length stop fields from hfields)

end Slices

end Yayatht.Wire
