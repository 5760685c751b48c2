import Yayatht.SocksUdp
import Yayatht.WireBytes

set_option autoImplicit false

namespace Yayatht.Wire

theorem beValue_cons (byte : UInt8) (bytes : Bytes) :
    beValue (byte :: bytes) = byte.toNat * 256 ^ bytes.length + beValue bytes := by
  rw [show byte :: bytes = [byte] ++ bytes from rfl, beValue_append]
  simp [beValue]

theorem beValue_lt (bytes : Bytes) : beValue bytes < 256 ^ bytes.length := by
  induction bytes with
  | nil => decide
  | cons byte bytes ih =>
    have hbyte : byte.toNat + 1 ≤ 256 := byte.toNat_lt
    have hscaled := Nat.mul_le_mul_right (256 ^ bytes.length) hbyte
    rw [Nat.add_mul, Nat.one_mul] at hscaled
    rw [beValue_cons, List.length_cons, Nat.pow_succ]
    omega

theorem beValue_injective {xs ys : Bytes} (hlength : xs.length = ys.length) (h : beValue xs = beValue ys) :
    xs = ys := by
  induction xs generalizing ys with
  | nil => exact (List.eq_nil_of_length_eq_zero hlength.symm).symm
  | cons x xs ih =>
    cases ys with
    | nil => cases hlength
    | cons y ys =>
      have hrest : xs.length = ys.length := Nat.succ.inj hlength
      have hx := beValue_lt xs
      have hy := beValue_lt ys
      rw [beValue_cons, beValue_cons, hrest] at h
      rw [hrest] at hx
      have hpos : 0 < 256 ^ ys.length := Nat.pow_pos (by decide)
      -- the first byte is the quotient, the rest the remainder
      have hhead : x.toNat = y.toNat := by
        have hquotient := congrArg (· / 256 ^ ys.length) h
        simp only [Nat.mul_comm _ (256 ^ ys.length), Nat.mul_add_div hpos, Nat.div_eq_of_lt hx,
          Nat.div_eq_of_lt hy] at hquotient
        simpa using hquotient
      rw [hhead] at h
      rw [UInt8.toNat_inj.mp hhead, ih hrest (Nat.add_left_cancel h)]

theorem beBytes_ofOctets {w count : ℕ} {bytes : Bytes} (hw : w = 8 * count) (hbytes : bytes.length = count) :
    beBytes count (ofOctets w bytes) = bytes := by
  apply beValue_injective
  · rw [length_beBytes, hbytes]
  · have hlt := beValue_lt bytes
    have hpow : 2 ^ w = 256 ^ count := by rw [hw, Nat.pow_mul]
    rw [hbytes] at hlt
    rw [beValue_octets, ofOctets, BitVec.toNat_ofNat, hpow, Nat.mod_mod, Nat.mod_eq_of_lt hlt]

end Yayatht.Wire

namespace Yayatht.SocksUdp
open Proxy Wire

/-! ## Writing into a slice -/

def addressLen : SocksAddress → Except Error ℕ
  | .socket (.v4 ..) => .ok (1 + 4 + 2)
  | .socket (.v6 ..) => .ok (1 + 16 + 2)
  | .domain name _ =>
    if name = [] ∨ name.length > 255 then .error .invalidDomain else .ok (1 + 1 + name.length + 2)

/-- The writes of the address from offset 3 on, and the offset after them. -/
def addressFields : SocksAddress → List (ℕ × Bytes) × ℕ
  | .socket (.v4 ip port) => ([(3, [1]), (3 + 1, beBytes 4 ip), (3 + 5, portBytes port)], 3 + 7)
  | .socket (.v6 ip port _ _) => ([(3, [4]), (3 + 1, beBytes 16 ip), (3 + 17, portBytes port)], 3 + 19)
  | .domain name port =>
    let stop := 3 + 2 + name.length
    ([(3, [3]), (3 + 1, [UInt8.ofNat name.length]), (3 + 2, name), (stop, portBytes port)], stop + 2)

/-- The output slice afterwards and the length of the datagram. A slice is shorter than
`usize::MAX`, so a sum that overflows is too large for it as well. -/
def encodeInto (out : Bytes) (destination : SocksAddress) (payload : Bytes) :
    Except Yayatht.Error (Bytes × Except Error ℕ) :=
  match addressLen destination with
  | .error error => .ok (out, .error error)
  | .ok addressLen =>
    let headerLen := 3 + addressLen
    let total := headerLen + payload.length
    if out.length < total then .ok (out, .error .outputTooSmall)
    else do
      let (fields, offset) := addressFields destination
      let out ← copyFields out ((0, [0, 0, 0]) :: fields)
      if offset ≠ headerLen then throw (.panic "assertion failed: offset == header_len")
      else
        let out ← copyAt out offset payload
        pure (out, .ok total)

theorem length_portBytes (port : UInt16) : (portBytes port).length = 2 := rfl

theorem addressFields_contiguous {destination : SocksAddress} {length : ℕ}
    (hlength : addressLen destination = .ok length) :
    ∃ address, encodeAddress destination = .ok address ∧ address.length = length ∧
      (addressFields destination).2 = 3 + length ∧
      Contiguous 3 (addressFields destination).1 ∧ (addressFields destination).1.flatMap Prod.snd = address := by
  cases destination with
  | socket target =>
    cases target with
    | v4 ip port =>
      cases hlength
      refine ⟨_, rfl, ?_, rfl, ?_, ?_⟩
      · simp [length_portBytes]
      · simp [addressFields, Contiguous]
      · simp [addressFields]
    | v6 ip port flowinfo scope =>
      cases hlength
      refine ⟨_, rfl, ?_, rfl, ?_, ?_⟩
      · simp [length_portBytes]
      · simp [addressFields, Contiguous]
      · simp [addressFields]
  | domain name port =>
    by_cases hname : name = [] ∨ name.length > 255
    · simp [addressLen, if_pos hname] at hlength
    · rw [addressLen, if_neg hname] at hlength
      cases hlength
      refine ⟨_, if_neg hname, ?_, ?_, ?_, ?_⟩
      · simp [length_portBytes]
        omega
      · simp only [addressFields]
        omega
      · simp [addressFields, Contiguous]
      · simp [addressFields]

theorem encodeAddress_error {destination : SocksAddress} {error : Error}
    (herror : addressLen destination = .error error) : encodeAddress destination = .error error := by
  cases destination with
  | socket target => cases target <;> cases herror
  | domain name port =>
    by_cases hname : name = [] ∨ name.length > 255
    · rw [addressLen, if_pos hname] at herror
      cases herror
      exact if_pos hname
    · simp [addressLen, if_neg hname] at herror

theorem encodeInto_eq (out : Bytes) (destination : SocksAddress) (payload : Bytes) :
    encodeInto out destination payload =
      match encode out.length destination payload with
      | .ok datagram => .ok (datagram ++ out.drop datagram.length, .ok datagram.length)
      | .error error => .ok (out, .error error) := by
  unfold encodeInto encode
  cases hlength : addressLen destination with
  | error error => rw [encodeAddress_error hlength]
  | ok length =>
    obtain ⟨address, haddress, rfl, hoffset, hcontiguous, hfields⟩ := addressFields_contiguous hlength
    rw [haddress]
    have htotal : ([0, 0, 0] ++ address ++ payload : Bytes).length = 3 + address.length + payload.length := by
      simp only [List.length_append, List.length_cons, List.length_nil]
    dsimp only
    rw [htotal]
    split
    · rfl
    rename_i hfits
    -- the header, the payload and the rest of the slice
    have hheader : (out.take (3 + address.length)).length = 3 + address.length := by
      rw [List.length_take]
      omega
    have hsplit : out = [] ++ (out.take (3 + address.length) ++ out.drop (3 + address.length)) := by simp
    have hall : (((0, [0, 0, 0]) :: (addressFields destination).1).flatMap Prod.snd : Bytes) =
        [0, 0, 0] ++ address := by
      rw [List.flatMap_cons, hfields]
    have hcopied : copyFields out ((0, [0, 0, 0]) :: (addressFields destination).1) =
        .ok ([] ++ ([0, 0, 0] ++ address ++ out.drop (3 + address.length))) := by
      rw [← hall]
      refine copyFields_contiguous hsplit ⟨rfl, hcontiguous⟩ ?_
      rw [hall, hheader, List.length_append]
      rfl
    have hrest : (out.drop (3 + address.length)) =
        (out.drop (3 + address.length)).take payload.length ++ out.drop (3 + address.length + payload.length) := by
      rw [← List.drop_drop (i := payload.length), List.take_append_drop]
    have hpayload : copyAt ([] ++ ([0, 0, 0] ++ address ++ out.drop (3 + address.length))) (3 + address.length)
        payload = .ok ([0, 0, 0] ++ address ++ (payload ++ out.drop (3 + address.length + payload.length))) := by
      refine copyAt_eq (by rw [List.nil_append, ← hrest]) ?_ ?_
      · rw [List.length_append]
        rfl
      · rw [List.length_take, List.length_drop]
        omega
    rw [hcopied, hoffset, ok_bind, if_neg (not_not.mpr rfl), hpayload, ok_bind]
    dsimp only
    rw [htotal, List.append_assoc _ payload]
    rfl

/-! ## Reading back -/

/-- What a datagram can name: no flow information or scope, and a name of 1 to 255 bytes. -/
def Plain : SocksAddress → Prop
  | .socket (.v4 ..) => True
  | .socket (.v6 _ _ flowinfo scope) => flowinfo = 0 ∧ scope = 0
  | .domain name _ => name ≠ [] ∧ name.length ≤ 255

theorem port_portBytes (port : UInt16) :
    UInt16.ofNat (beWord (UInt8.ofNat (port.toNat / 256)) (UInt8.ofNat port.toNat)) = port := by
  rw [beWord_be16, Nat.mod_eq_of_lt port.toNat_lt]
  exact UInt16.ofNat_toNat

theorem portBytes_port (high low : UInt8) : portBytes (UInt16.ofNat (beWord high low)) = [high, low] := by
  have hlt := beWord_lt high low
  have hword : (UInt16.ofNat (beWord high low)).toNat = beWord high low := by
    rw [UInt16.toNat_ofNat']
    exact Nat.mod_eq_of_lt hlt
  have hlow := low.toNat_lt
  unfold portBytes
  rw [hword]
  have hhigh : beWord high low / 256 = high.toNat := by
    unfold beWord
    omega
  have hmod : UInt8.ofNat (beWord high low) = low := by
    apply UInt8.toNat_inj.mp
    rw [UInt8.toNat_ofNat']
    unfold beWord
    omega
  rw [hhigh, hmod, UInt8.ofNat_toNat]

theorem read_fields (octets payload : Bytes) (port : UInt16) :
    (octets ++ portBytes port ++ payload).take octets.length = octets ∧
      UInt16.ofNat (beWord (octets ++ portBytes port ++ payload)[octets.length]!
        (octets ++ portBytes port ++ payload)[octets.length + 1]!) = port ∧
      (octets ++ portBytes port ++ payload).drop (octets.length + 2) = payload := by
  refine ⟨?_, ?_, ?_⟩
  · rw [List.append_assoc, List.take_left]
  · have hhigh : (octets ++ portBytes port ++ payload)[octets.length]! = UInt8.ofNat (port.toNat / 256) := by
      simp [portBytes]
    have hlow : (octets ++ portBytes port ++ payload)[octets.length + 1]! = UInt8.ofNat port.toNat := by
      simp [portBytes]
    rw [hhigh, hlow, port_portBytes]
  · rw [← List.drop_drop, List.append_assoc, List.drop_left]
    rfl

theorem exists_fields {bytes : Bytes} {count : ℕ} (h : count + 2 ≤ bytes.length) :
    bytes = bytes.take count ++ portBytes (UInt16.ofNat (beWord bytes[count]! bytes[count + 1]!)) ++
      bytes.drop (count + 2) := by
  have hsplit : bytes.drop count = bytes[count]! :: bytes[count + 1]! :: bytes.drop (count + 2) := by
    rw [List.drop_eq_getElem_cons (by omega), List.drop_eq_getElem_cons (by omega),
      getElem!_pos bytes count (by omega), getElem!_pos bytes (count + 1) (by omega)]
  rw [portBytes_port, List.append_assoc]
  calc bytes = bytes.take count ++ bytes.drop count := (List.take_append_drop count bytes).symm
    _ = _ := by rw [hsplit]; rfl

theorem decode_v4 (rest : Bytes) (h : 6 ≤ rest.length) :
    decode (0 :: 0 :: 0 :: 1 :: rest) = .ok ⟨.socket (.v4 (ofBeBytes 32 (rest.take 4))
      (UInt16.ofNat (beWord rest[4]! rest[5]!))), rest.drop 6⟩ := by
  unfold decode
  dsimp only
  rw [if_neg (by decide), if_neg (by decide), if_pos rfl, if_neg]
  simp only [List.length_cons]
  omega

theorem decode_v6 (rest : Bytes) (h : 18 ≤ rest.length) :
    decode (0 :: 0 :: 0 :: 4 :: rest) = .ok ⟨.socket (.v6 (ofBeBytes 128 (rest.take 16))
      (UInt16.ofNat (beWord rest[16]! rest[17]!)) 0 0), rest.drop 18⟩ := by
  unfold decode
  dsimp only
  rw [if_neg (by decide), if_neg (by decide), if_neg (by decide), if_pos rfl, if_neg]
  simp only [List.length_cons]
  omega

theorem decode_domain {length : UInt8} (rest : Bytes) (hlength : length ≠ 0)
    (h : length.toNat + 2 ≤ rest.length) :
    decode (0 :: 0 :: 0 :: 3 :: length :: rest) = .ok ⟨.domain (rest.take length.toNat)
      (UInt16.ofNat (beWord rest[length.toNat]! rest[length.toNat + 1]!)), rest.drop (length.toNat + 2)⟩ := by
  unfold decode
  dsimp only
  rw [if_neg (by decide), if_neg (by decide), if_neg (by decide), if_neg (by decide), if_pos rfl, if_neg hlength, if_neg]
  simp only [List.length_cons]
  omega

theorem decode_cases {input : Bytes} {datagram : Datagram} (h : decode input = .ok datagram) :
    (∃ rest, input = 0 :: 0 :: 0 :: 1 :: rest ∧ 6 ≤ rest.length) ∨
      (∃ rest, input = 0 :: 0 :: 0 :: 4 :: rest ∧ 18 ≤ rest.length) ∨
      ∃ length rest, input = 0 :: 0 :: 0 :: 3 :: length :: rest ∧ length ≠ 0 ∧ length.toNat + 2 ≤ rest.length := by
  unfold decode at h
  split at h
  · rename_i r0 r1 fragment kind rest
    split at h
    · cases h
    rename_i hreserved
    obtain ⟨rfl, rfl⟩ : r0 = 0 ∧ r1 = 0 := by simpa using hreserved
    split at h
    · cases h
    rename_i hfragment
    obtain rfl : fragment = 0 := not_not.mp hfragment
    split at h
    · rename_i hkind
      subst hkind
      split at h
      · cases h
      · rename_i hlength
        simp only [List.length_cons] at hlength
        exact .inl ⟨rest, rfl, by omega⟩
    split at h
    · rename_i hkind
      subst hkind
      split at h
      · cases h
      · rename_i hlength
        simp only [List.length_cons] at hlength
        exact .inr (.inl ⟨rest, rfl, by omega⟩)
    split at h
    · rename_i hkind
      subst hkind
      split at h
      · cases h
      rename_i length name
      split at h
      · cases h
      rename_i hname
      split at h
      · cases h
      · rename_i hlength
        simp only [List.length_cons] at hlength
        exact .inr (.inr ⟨length, name, rfl, hname, by omega⟩)
    · cases h
  · cases h

theorem encode_cases {capacity : ℕ} {destination : SocksAddress} {payload datagram : Bytes}
    (h : encode capacity destination payload = .ok datagram) :
    ∃ address, encodeAddress destination = .ok address ∧ datagram = 0 :: 0 :: 0 :: (address ++ payload) := by
  unfold encode at h
  split at h
  · cases h
  · rename_i address haddress
    dsimp only at h
    split at h
    · cases h
    · cases h
      exact ⟨address, haddress, rfl⟩

theorem decode_encode {capacity : ℕ} {destination : SocksAddress} {payload datagram : Bytes}
    (hplain : Plain destination) (hencode : encode capacity destination payload = .ok datagram) :
    decode datagram = .ok ⟨destination, payload⟩ := by
  obtain ⟨address, haddress, rfl⟩ := encode_cases hencode
  cases destination with
  | socket target =>
    cases target with
    | v4 ip port =>
      cases haddress
      obtain ⟨htake, hport, hdrop⟩ := read_fields (beBytes 4 ip) payload port
      rw [length_beBytes] at htake hport hdrop
      refine (decode_v4 (beBytes 4 ip ++ portBytes port ++ payload) ?_).trans ?_
      · simp only [List.length_append, length_beBytes, length_portBytes]
        omega
      · rw [htake, hport, hdrop]
        congr 4
        exact ofOctets_beBytes ip rfl
    | v6 ip port flowinfo scope =>
      obtain ⟨rfl, rfl⟩ := hplain
      cases haddress
      obtain ⟨htake, hport, hdrop⟩ := read_fields (beBytes 16 ip) payload port
      rw [length_beBytes] at htake hport hdrop
      refine (decode_v6 (beBytes 16 ip ++ portBytes port ++ payload) ?_).trans ?_
      · simp only [List.length_append, length_beBytes, length_portBytes]
        omega
      · rw [htake, hport, hdrop]
        congr 4
        exact ofOctets_beBytes ip rfl
  | domain name port =>
    obtain ⟨hname, hlength⟩ := hplain
    rw [encodeAddress, if_neg (by simp [hname, hlength])] at haddress
    cases haddress
    have hbyte : (UInt8.ofNat name.length).toNat = name.length := by
      rw [UInt8.toNat_ofNat']
      omega
    have hpos : 0 < name.length := List.length_pos_iff.mpr hname
    have hne : UInt8.ofNat name.length ≠ 0 := by
      intro hzero
      rw [hzero] at hbyte
      rw [← hbyte] at hpos
      exact absurd hpos (by decide)
    obtain ⟨htake, hport, hdrop⟩ := read_fields name payload port
    refine (decode_domain (name ++ portBytes port ++ payload) hne ?_).trans ?_
    · simp only [List.length_append, length_portBytes, hbyte]
      omega
    · rw [hbyte, htake, hport, hdrop]

theorem encode_decode {capacity : ℕ} {input : Bytes} {datagram : Datagram} (hdecode : decode input = .ok datagram)
    (hcapacity : input.length ≤ capacity) :
    encode capacity datagram.destination datagram.payload = .ok input := by
  have hfits : ∀ (address : Bytes) {payload : Bytes} {destination}, input = 0 :: 0 :: 0 :: (address ++ payload) →
      encodeAddress destination = .ok address → encode capacity destination payload = .ok input := by
    intro address payload destination hinput haddress
    unfold encode
    rw [haddress]
    subst hinput
    exact if_neg (Nat.not_lt.mpr hcapacity)
  rcases decode_cases hdecode with ⟨rest, rfl, hlength⟩ | ⟨rest, rfl, hlength⟩ | ⟨length, rest, rfl, hne, hlength⟩
  · rw [decode_v4 rest hlength] at hdecode
    cases hdecode
    refine hfits (1 :: rest.take 4 ++ portBytes (UInt16.ofNat (beWord rest[4]! rest[5]!))) ?_ ?_
    · rw [List.cons_append, List.cons_append, ← exists_fields hlength]
    · have hoctets : beBytes 4 (ofBeBytes 32 (rest.take 4)) = rest.take 4 :=
        beBytes_ofOctets rfl (List.length_take_of_le (by omega))
      rw [encodeAddress, hoctets]
  · rw [decode_v6 rest hlength] at hdecode
    cases hdecode
    refine hfits (4 :: rest.take 16 ++ portBytes (UInt16.ofNat (beWord rest[16]! rest[17]!))) ?_ ?_
    · rw [List.cons_append, List.cons_append, ← exists_fields hlength]
    · have hoctets : beBytes 16 (ofBeBytes 128 (rest.take 16)) = rest.take 16 :=
        beBytes_ofOctets rfl (List.length_take_of_le (by omega))
      rw [encodeAddress, hoctets]
  · rw [decode_domain rest hne hlength] at hdecode
    cases hdecode
    have hname : (rest.take length.toNat).length = length.toNat := List.length_take_of_le (by omega)
    have hpos : length.toNat ≠ 0 := fun hzero => hne (UInt8.toNat_inj.mp hzero)
    have hlt := length.toNat_lt
    refine hfits ([3, length] ++ rest.take length.toNat ++
      portBytes (UInt16.ofNat (beWord rest[length.toNat]! rest[length.toNat + 1]!))) ?_ ?_
    · rw [List.append_assoc, List.append_assoc, ← List.append_assoc (rest.take length.toNat), ← exists_fields hlength]
      rfl
    · rw [encodeAddress, if_neg, hname, UInt8.ofNat_toNat]
      rw [hname]
      rintro (hnil | hlong)
      · rw [hnil] at hname
        exact hpos hname.symm
      · omega

theorem plain_of_decode {input : Bytes} {datagram : Datagram} (hdecode : decode input = .ok datagram) :
    Plain datagram.destination := by
  rcases decode_cases hdecode with ⟨rest, rfl, hlength⟩ | ⟨rest, rfl, hlength⟩ | ⟨length, rest, rfl, hne, hlength⟩
  · rw [decode_v4 rest hlength] at hdecode
    cases hdecode
    trivial
  · rw [decode_v6 rest hlength] at hdecode
    cases hdecode
    exact ⟨rfl, rfl⟩
  · rw [decode_domain rest hne hlength] at hdecode
    cases hdecode
    have hname : (rest.take length.toNat).length = length.toNat := List.length_take_of_le (by omega)
    have hlt := length.toNat_lt
    refine ⟨fun hnil => hne (UInt8.toNat_inj.mp ?_), by omega⟩
    rw [hnil] at hname
    exact hname.symm

/-- Room and a usable name are all that writing needs. -/
theorem encode_error_iff (capacity : ℕ) (destination : SocksAddress) (payload : Bytes) :
    (∃ error, encode capacity destination payload = .error error) ↔
      (∃ name port, destination = .domain name port ∧ (name.length = 0 ∨ 255 < name.length)) ∨
        ∃ needed, addressLen destination = .ok needed ∧ capacity < 3 + needed + payload.length := by
  cases hlength : addressLen destination with
  | error error =>
    have hrefused : ∃ error, encode capacity destination payload = .error error := by
      unfold encode
      rw [encodeAddress_error hlength]
      exact ⟨error, rfl⟩
    refine iff_of_true hrefused (.inl ?_)
    cases destination with
    | socket target => cases target <;> cases hlength
    | domain name port =>
      refine ⟨name, port, rfl, ?_⟩
      by_contra hname
      rw [addressLen, if_neg (by simpa [List.length_eq_zero_iff] using hname)] at hlength
      cases hlength
  | ok needed =>
    obtain ⟨address, haddress, rfl, -⟩ := addressFields_contiguous hlength
    have htotal : ([0, 0, 0] ++ address ++ payload : Bytes).length = 3 + address.length + payload.length := by
      simp only [List.length_append, List.length_cons, List.length_nil]
    unfold encode
    rw [haddress]
    dsimp only
    rw [htotal]
    constructor
    · rintro ⟨error, herror⟩
      split at herror
      · rename_i hroom
        exact .inr ⟨_, rfl, hroom⟩
      · cases herror
    · rintro (⟨name, port, rfl, hname⟩ | ⟨_, hsame, hroom⟩)
      · rw [addressLen, if_pos (by simpa [List.length_eq_zero_iff] using hname)] at hlength
        cases hlength
      · cases hsame
        exact ⟨_, if_pos hroom⟩

/-- Reading and writing are inverse to each other, and writing fails only for want of a
name or of room. -/
structure Inverse : Prop where
  decode_written : ∀ out destination payload, Plain destination →
    (∀ needed, addressLen destination = .ok needed → 3 + needed + payload.length ≤ out.length) →
    ∃ written n, encodeInto out destination payload = .ok (written, .ok n) ∧
      decode (written.take n) = .ok ⟨destination, payload⟩ ∧ written.drop n = out.drop n ∧
      written.length = out.length
  rewritten : ∀ input datagram, decode input = .ok datagram → ∀ out : Bytes, input.length ≤ out.length →
    Plain datagram.destination ∧
      ∃ written, encodeInto out datagram.destination datagram.payload = .ok (written, .ok input.length) ∧
        written.take input.length = input
  refused_iff : ∀ out destination payload,
    (∃ written error, encodeInto out destination payload = .ok (written, .error error)) ↔
      (∃ name port, destination = .domain name port ∧ (name.length = 0 ∨ 255 < name.length)) ∨
        ∃ needed, addressLen destination = .ok needed ∧ out.length < 3 + needed + payload.length
  untouched : ∀ out destination payload written error,
    encodeInto out destination payload = .ok (written, .error error) → written = out
  total : ∀ out destination payload, ∃ result, encodeInto out destination payload = .ok result

theorem length_encode_le {capacity : ℕ} {destination : SocksAddress} {payload datagram : Bytes}
    (h : encode capacity destination payload = .ok datagram) : datagram.length ≤ capacity := by
  unfold encode at h
  split at h
  · cases h
  · dsimp only at h
    split at h
    · cases h
    · rename_i hroom
      cases h
      exact Nat.not_lt.mp hroom

theorem codec_inverse : Inverse where
  decode_written out destination payload hplain hroom := by
    cases hencode : encode out.length destination payload with
    | error error =>
      rcases (encode_error_iff _ _ _).mp ⟨error, hencode⟩ with ⟨name, port, rfl, hname⟩ | ⟨needed, hneeded, hless⟩
      · obtain ⟨hnil, hlong⟩ := hplain
        rw [List.length_eq_zero_iff] at hname
        rcases hname with hname | hname
        · exact absurd hname hnil
        · omega
      · have hfits := hroom needed hneeded
        omega
    | ok datagram =>
      have hle := length_encode_le hencode
      refine ⟨datagram ++ out.drop datagram.length, datagram.length, ?_, ?_, ?_, ?_⟩
      · rw [encodeInto_eq, hencode]
      · rw [List.take_left]
        exact decode_encode hplain hencode
      · rw [List.drop_left]
      · rw [List.length_append, List.length_drop]
        omega
  rewritten input datagram hdecode out hroom := by
    refine ⟨plain_of_decode hdecode, input ++ out.drop input.length, ?_, List.take_left⟩
    rw [encodeInto_eq, encode_decode hdecode hroom]
  refused_iff out destination payload := by
    rw [← encode_error_iff, encodeInto_eq]
    cases encode out.length destination payload with
    | ok datagram => simp
    | error error => simp
  untouched out destination payload written error hwritten := by
    rw [encodeInto_eq] at hwritten
    cases hencode : encode out.length destination payload with
    | ok datagram =>
      rw [hencode] at hwritten
      cases hwritten
    | error error =>
      rw [hencode] at hwritten
      cases hwritten
      rfl
  total out destination payload := by
    rw [encodeInto_eq]
    cases encode out.length destination payload with
    | ok datagram => exact ⟨_, rfl⟩
    | error error => exact ⟨_, rfl⟩

end Yayatht.SocksUdp
