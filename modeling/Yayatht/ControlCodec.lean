import Yayatht.WireBytes

set_option autoImplicit false

namespace Yayatht.Wire

/-- The low bytes of a number, the lowest first. -/
def leBytes : ℕ → ℕ → Bytes
  | 0, _ => []
  | count + 1, value => UInt8.ofNat value :: leBytes count (value / 256)

def leValue : Bytes → ℕ
  | [] => 0
  | byte :: rest => byte.toNat + 256 * leValue rest

@[simp] theorem length_leBytes (count value : ℕ) : (leBytes count value).length = count := by
  induction count generalizing value with
  | zero => rfl
  | succ count ih => simp [leBytes, ih]

theorem leValue_lt (bytes : Bytes) : leValue bytes < 256 ^ bytes.length := by
  induction bytes with
  | nil => simp [leValue]
  | cons byte bytes ih =>
    have hbyte := byte.toNat_lt
    rw [leValue, List.length_cons, Nat.pow_succ]
    omega

theorem leValue_leBytes {count value : ℕ} (h : value < 256 ^ count) : leValue (leBytes count value) = value := by
  induction count generalizing value with
  | zero =>
    rw [Nat.pow_zero] at h
    simp only [leBytes, leValue]
    omega
  | succ count ih =>
    rw [Nat.pow_succ] at h
    have hrest : value / 256 < 256 ^ count := by omega
    rw [leBytes, leValue, ih hrest, UInt8.toNat_ofNat']
    omega

theorem leBytes_leValue {count : ℕ} {bytes : Bytes} (h : bytes.length = count) :
    leBytes count (leValue bytes) = bytes := by
  induction bytes generalizing count with
  | nil =>
    subst h
    rfl
  | cons byte bytes ih =>
    subst h
    have hbyte := byte.toNat_lt
    have hdiv : (byte.toNat + 256 * leValue bytes) / 256 = leValue bytes := by omega
    rw [leValue, List.length_cons, leBytes, hdiv, ih rfl]
    congr 1
    apply UInt8.toNat_inj.mp
    rw [UInt8.toNat_ofNat']
    omega

end Yayatht.Wire

namespace Yayatht.Control
open Wire

def version : ℕ := 1
def maxPayload : ℕ := 4096
def magic : Bytes := [0x59, 0x41, 0x59, 0x41]
def headerLen : ℕ := 20

inductive Error where
  | invalidInput (text : String)
  | invalidData (text : String)
  | panic (error : Yayatht.Error)
  deriving DecidableEq, Repr

inductive Kind where
  | mapsReady
  | ready
  | exec
  | shutdown
  | exit
  | error
  | status
  deriving DecidableEq, Repr

def Kind.raw : Kind → ℕ
  | .mapsReady => 1
  | .ready => 2
  | .exec => 3
  | .shutdown => 4
  | .exit => 5
  | .error => 6
  | .status => 7

def Kind.fromRaw : ℕ → Option Kind
  | 1 => some .mapsReady
  | 2 => some .ready
  | 3 => some .exec
  | 4 => some .shutdown
  | 5 => some .exit
  | 6 => some .error
  | 7 => some .status
  | _ => none

structure Message where
  kind : Kind
  requestId : UInt64
  payload : Bytes
  deriving DecidableEq, Repr

def encode (kind : Kind) (requestId : UInt64) (payload : Bytes) : Except Error Bytes :=
  if maxPayload < payload.length then .error (.invalidInput "control payload too large")
  else .ok (magic ++ (leBytes 2 version ++ (leBytes 2 kind.raw ++ (leBytes 4 payload.length ++
    (leBytes 8 requestId.toNat ++ payload)))))

def slice (bytes : Bytes) (start stop : ℕ) : Except Error Bytes := (range bytes start stop).mapError .panic

def decode (bytes : Bytes) : Except Error Message := do
  if bytes.length < headerLen then throw (.invalidData "invalid control header")
  if (← slice bytes 0 4) ≠ magic then throw (.invalidData "invalid control header")
  if leValue (← slice bytes 4 6) ≠ version then throw (.invalidData "unsupported control version")
  match Kind.fromRaw (leValue (← slice bytes 6 8)) with
  | none => throw (.invalidData "unknown control kind")
  | some kind =>
    let length := leValue (← slice bytes 8 12)
    if maxPayload < length ∨ headerLen + length ≠ bytes.length then
      throw (.invalidData "invalid control payload length")
    let requestId := leValue (← slice bytes 12 20)
    pure ⟨kind, UInt64.ofNat requestId, ← slice bytes headerLen bytes.length⟩

variable {bytes payload first middle last : Bytes} {kind : Kind} {requestId : UInt64} {message : Message}
  {start stop raw : ℕ}

@[simp] theorem fromRaw_raw (kind : Kind) : Kind.fromRaw kind.raw = some kind := by cases kind <;> rfl

theorem raw_of_fromRaw (h : Kind.fromRaw raw = some kind) : kind.raw = raw := by
  unfold Kind.fromRaw at h
  split at h <;> cases h <;> rfl

theorem raw_lt (kind : Kind) : kind.raw < 256 ^ 2 := by cases kind <;> decide

theorem slice_eq (hbytes : bytes = first ++ (middle ++ last)) (hstart : start = first.length)
    (hstop : stop = first.length + middle.length) : slice bytes start stop = .ok middle := by
  unfold slice
  rw [range_eq hbytes hstart hstop]
  rfl

structure Fields (bytes : Bytes) where
  (mark release sort size request payload : Bytes)
  split : bytes = mark ++ (release ++ (sort ++ (size ++ (request ++ payload))))
  mark_length : mark.length = 4
  release_length : release.length = 2
  sort_length : sort.length = 2
  size_length : size.length = 4
  request_length : request.length = 8

theorem exists_fields (h : headerLen ≤ bytes.length) : Nonempty (Fields bytes) := by
  unfold headerLen at h
  obtain ⟨mark, rest, rfl, hmark⟩ := exists_append bytes (by omega : 4 ≤ bytes.length)
  rw [List.length_append] at h
  obtain ⟨release, rest, rfl, hrelease⟩ := exists_append rest (by omega : 2 ≤ rest.length)
  rw [List.length_append] at h
  obtain ⟨sort, rest, rfl, hsort⟩ := exists_append rest (by omega : 2 ≤ rest.length)
  rw [List.length_append] at h
  obtain ⟨size, rest, rfl, hsize⟩ := exists_append rest (by omega : 4 ≤ rest.length)
  rw [List.length_append] at h
  obtain ⟨request, payload, rfl, hrequest⟩ := exists_append rest (by omega : 8 ≤ rest.length)
  exact ⟨⟨mark, release, sort, size, request, payload, rfl, hmark, hrelease, hsort, hsize, hrequest⟩⟩

theorem decode_fields (f : Fields bytes) : decode bytes =
    if f.mark ≠ magic then .error (.invalidData "invalid control header")
    else if leValue f.release ≠ version then .error (.invalidData "unsupported control version")
    else match Kind.fromRaw (leValue f.sort) with
      | none => .error (.invalidData "unknown control kind")
      | some kind =>
        if maxPayload < leValue f.size ∨ leValue f.size ≠ f.payload.length then
          .error (.invalidData "invalid control payload length")
        else .ok ⟨kind, UInt64.ofNat (leValue f.request), f.payload⟩ := by
  obtain ⟨mark, release, sort, size, request, payload, hsplit, hmark, hrelease, hsort, hsize, hrequest⟩ := f
  have hlength : bytes.length = headerLen + payload.length := by
    simp only [hsplit, List.length_append, hmark, hrelease, hsort, hsize, hrequest, headerLen]
    omega
  have hwhole : ¬ bytes.length < headerLen := by omega
  have hmark' : slice bytes 0 4 = .ok mark := by
    have hat : bytes = [] ++ (mark ++ (release ++ (sort ++ (size ++ (request ++ payload))))) := hsplit
    exact slice_eq hat rfl (by simp [hmark])
  have hrelease' : slice bytes 4 6 = .ok release := slice_eq hsplit hmark.symm (by omega)
  have hsort' : slice bytes 6 8 = .ok sort := by
    have hat : bytes = (mark ++ release) ++ (sort ++ (size ++ (request ++ payload))) := by simp [hsplit]
    apply slice_eq hat <;> simp [hmark, hrelease, hsort]
  have hsize' : slice bytes 8 12 = .ok size := by
    have hat : bytes = (mark ++ release ++ sort) ++ (size ++ (request ++ payload)) := by simp [hsplit]
    apply slice_eq hat <;> simp [hmark, hrelease, hsort, hsize]
  have hrequest' : slice bytes 12 20 = .ok request := by
    have hat : bytes = (mark ++ release ++ sort ++ size) ++ (request ++ payload) := by simp [hsplit]
    apply slice_eq hat <;> simp [hmark, hrelease, hsort, hsize, hrequest]
  have hpayload' : slice bytes headerLen bytes.length = .ok payload := by
    have hat : bytes = (mark ++ release ++ sort ++ size ++ request) ++ (payload ++ []) := by simp [hsplit]
    apply slice_eq hat <;> simp [hlength, hmark, hrelease, hsort, hsize, hrequest, headerLen]
  have hsame : headerLen + leValue size ≠ bytes.length ↔ leValue size ≠ payload.length := by omega
  unfold decode
  simp only [hmark', hrelease', hsort', hsize', hrequest', hpayload', hwhole, hsame, if_false, bind, Except.bind,
    pure, Except.pure, throw, throwThe, MonadExceptOf.throw]

theorem decode_encode (h : payload.length ≤ maxPayload) :
    ∃ bytes, encode kind requestId payload = .ok bytes ∧ decode bytes = .ok ⟨kind, requestId, payload⟩ := by
  have hsize : payload.length < 256 ^ 4 := by
    unfold maxPayload at h
    omega
  have hrequest : requestId.toNat < 256 ^ 8 := requestId.toNat_lt
  refine ⟨_, if_neg (by omega), ?_⟩
  rw [decode_fields ⟨magic, leBytes 2 version, leBytes 2 kind.raw, leBytes 4 payload.length,
    leBytes 8 requestId.toNat, payload, rfl, rfl, rfl, rfl, rfl, rfl⟩]
  have hversion : leValue (leBytes 2 version) = version := leValue_leBytes (by decide)
  have hmax : ¬ maxPayload < payload.length := by omega
  simp only [hversion, leValue_leBytes (raw_lt kind), leValue_leBytes hsize, leValue_leBytes hrequest, fromRaw_raw,
    hmax, ne_eq, not_true_eq_false, or_self, if_false, UInt64.ofNat_toNat]

theorem encode_decode (h : decode bytes = .ok message) :
    message.payload.length ≤ maxPayload ∧ encode message.kind message.requestId message.payload = .ok bytes := by
  have hwhole : headerLen ≤ bytes.length := by
    by_contra hshort
    simp [decode, not_le.mp hshort, throw, throwThe, MonadExceptOf.throw, bind, Except.bind] at h
  obtain ⟨f⟩ := exists_fields hwhole
  rw [decode_fields f] at h
  split at h
  · cases h
  rename_i hmark
  split at h
  · cases h
  rename_i hversion
  split at h
  · cases h
  rename_i kind hkind
  split at h
  · cases h
  rename_i hlength
  cases h
  obtain ⟨hmax, hsize⟩ := not_or.mp hlength
  rw [not_not] at hmark hversion hsize
  have hrequest : leValue f.request < 2 ^ 64 := by
    have hlt := leValue_lt f.request
    rw [f.request_length] at hlt
    omega
  refine ⟨hsize ▸ not_lt.mp hmax, ?_⟩
  dsimp only
  unfold encode
  rw [if_neg (by omega), raw_of_fromRaw hkind, ← hversion, ← hsize, UInt64.toNat_ofNat_of_lt' hrequest,
    leBytes_leValue f.release_length, leBytes_leValue f.sort_length, leBytes_leValue f.size_length,
    leBytes_leValue f.request_length, ← hmark, ← f.split]

/-- A packet that is not taken is answered with an error, never with a panic. -/
theorem decode_total (bytes : Bytes) :
    (∃ message, decode bytes = .ok message) ∨ ∃ text, decode bytes = .error (.invalidData text) := by
  by_cases hwhole : headerLen ≤ bytes.length
  · obtain ⟨f⟩ := exists_fields hwhole
    rw [decode_fields f]
    split
    · exact .inr ⟨_, rfl⟩
    split
    · exact .inr ⟨_, rfl⟩
    split
    · exact .inr ⟨_, rfl⟩
    split
    · exact .inr ⟨_, rfl⟩
    · exact .inl ⟨_, rfl⟩
  · refine .inr ⟨"invalid control header", ?_⟩
    simp [decode, not_le.mp hwhole, throw, throwThe, MonadExceptOf.throw, bind, Except.bind]

/-- Encoding and decoding are inverse between the messages of at most 4096 bytes and the
packets that are taken. Every other packet is refused with an error. -/
theorem codec_bijective :
    (∀ kind requestId payload, payload.length ≤ maxPayload →
      ∃ bytes, encode kind requestId payload = .ok bytes ∧ decode bytes = .ok ⟨kind, requestId, payload⟩) ∧
    (∀ bytes message, decode bytes = .ok message → message.payload.length ≤ maxPayload ∧
      encode message.kind message.requestId message.payload = .ok bytes) ∧
    ∀ bytes, (¬ ∃ kind requestId payload, encode kind requestId payload = .ok bytes) →
      ∃ text, decode bytes = .error (.invalidData text) := by
  refine ⟨fun _ _ _ h => decode_encode h, fun _ _ h => encode_decode h, fun bytes h => ?_⟩
  cases decode_total bytes with
  | inl hok =>
    obtain ⟨message, hmessage⟩ := hok
    exact absurd ⟨_, _, _, (encode_decode hmessage).2⟩ h
  | inr herror => exact herror

end Yayatht.Control
