import Yayatht.Packet

set_option autoImplicit false

namespace Yayatht.Packet
open Wire Checksum

/-- A checksum over the words of a byte string and of a pseudo header that knows its length. -/
structure Seeded (transport : Bytes → ℕ) (seed : ℕ → ℕ) : Prop where
  eq : ∀ bytes, transport bytes = fold (sumWords (seed bytes.length) bytes)
  le : ∀ length ≤ 65535, seed length ≤ 2 ^ 24

theorem seeded_checksum : Seeded checksum (fun _ => 0) where
  eq _ := rfl
  le _ _ := Nat.zero_le _

section Pseudo

variable {source destination : Bytes} {protocol : UInt8} {length : ℕ}

theorem ipv4Pseudo_eq (hsource : source.length = 4) (hdestination : destination.length = 4)
    (hlength : length ≤ 65535) : ipv4Pseudo source destination protocol length =
    wordSum source + wordSum destination + protocol.toNat + length := by
  have hs := wordSum_le source
  have hd := wordSum_le destination
  have hp := protocol.toNat_lt
  rw [hsource] at hs
  rw [hdestination] at hd
  unfold ipv4Pseudo
  rw [sumWords_eq 0 source (by omega), sumWords_eq _ destination (by omega)]
  omega

theorem seeded_ipv4 (hsource : source.length = 4) (hdestination : destination.length = 4) :
    Seeded (ipv4Transport source destination protocol) (ipv4Pseudo source destination protocol) where
  eq _ := rfl
  le length hlength := by
    have hs := wordSum_le source
    have hd := wordSum_le destination
    have hp := protocol.toNat_lt
    rw [ipv4Pseudo_eq hsource hdestination hlength]
    omega

theorem ipv6Pseudo_eq (hsource : source.length = 16) (hdestination : destination.length = 16) :
    ipv6Pseudo source destination protocol length =
      wordSum source + wordSum destination + wordSum (beBytes 4 (BitVec.ofNat 32 length)) + protocol.toNat := by
  have hs := wordSum_le source
  have hd := wordSum_le destination
  have hl := wordSum_le (beBytes 4 (BitVec.ofNat 32 length))
  have hp := protocol.toNat_lt
  rw [hsource] at hs
  rw [hdestination] at hd
  rw [length_beBytes] at hl
  unfold ipv6Pseudo
  rw [sumWords_eq 0 source (by omega), sumWords_eq _ destination (by omega), sumWords_eq _ (beBytes 4 _) (by omega)]
  omega

theorem seeded_ipv6 (hsource : source.length = 16) (hdestination : destination.length = 16) :
    Seeded (ipv6Transport source destination protocol) (ipv6Pseudo source destination protocol) where
  eq _ := rfl
  le length _ := by
    have hs := wordSum_le source
    have hd := wordSum_le destination
    have hl := wordSum_le (beBytes 4 (BitVec.ofNat 32 length))
    have hp := protocol.toNat_lt
    rw [length_beBytes] at hl
    rw [ipv6Pseudo_eq hsource hdestination]
    omega

end Pseudo

namespace Seeded

variable {transport : Bytes → ℕ} {seed : ℕ → ℕ} {front back : Bytes}

theorem zero_field (h : Seeded transport seed) (heven : front.length % 2 = 0)
    (hlength : front.length + (2 + back.length) ≤ 65535) : transport (front ++ ([0, 0] ++ back)) =
    fold (seed (front.length + (2 + back.length)) + (wordSum front + wordSum back)) := by
  have htotal : wordSum (front ++ ([0, 0] ++ back)) = wordSum front + wordSum back := by
    rw [wordSum_append front _ heven, show ([0, 0] : Bytes) ++ back = 0 :: 0 :: back from rfl, wordSum]
    exact congrArg (wordSum front + ·) (Nat.zero_add _)
  have hseed := h.le _ hlength
  have hfront := wordSum_le front
  have hback := wordSum_le back
  rw [h.eq, List.length_append, List.length_append, show ([0, 0] : Bytes).length = 2 from rfl,
    sumWords_eq _ _ (by rw [htotal]; omega), htotal]

/-- A field that makes up a multiple of 65535 verifies. -/
theorem verifies {value : ℕ} (h : Seeded transport seed) (heven : front.length % 2 = 0)
    (hlength : front.length + (2 + back.length) ≤ 65535) (hvalue : value ≤ 65535)
    (hpos : 0 < seed (front.length + (2 + back.length)) + wordSum front)
    (hsum : (seed (front.length + (2 + back.length)) + (wordSum front + wordSum back) + value) % 65535 = 0) :
    transport (front ++ (be16 value ++ back)) = 0 := by
  have hword : wordSum (be16 value ++ back) = value + wordSum back := by
    rw [show be16 value ++ back = UInt8.ofNat (value / 256) :: UInt8.ofNat value :: back from rfl, wordSum,
      beWord_be16, Nat.mod_eq_of_lt (by omega)]
  have htotal : wordSum (front ++ (be16 value ++ back)) = wordSum front + (value + wordSum back) := by
    rw [wordSum_append front _ heven, hword]
  have hseed := h.le _ hlength
  have hfront := wordSum_le front
  have hback := wordSum_le back
  rw [h.eq, List.length_append, List.length_append, length_be16,
    sumWords_eq _ _ (by rw [htotal]; omega), htotal]
  apply fold_eq_zero
  · omega
  · rw [← hsum]
    congr 1
    omega

theorem written (h : Seeded transport seed) (heven : front.length % 2 = 0)
    (hlength : front.length + (2 + back.length) ≤ 65535)
    (hpos : 0 < seed (front.length + (2 + back.length)) + wordSum front) :
    transport (front ++ (be16 (transport (front ++ ([0, 0] ++ back))) ++ back)) = 0 := by
  rw [h.zero_field heven hlength]
  exact h.verifies heven hlength (fold_le _) hpos (fold_complement _)

theorem written_nonzero (h : Seeded transport seed) (heven : front.length % 2 = 0)
    (hlength : front.length + (2 + back.length) ≤ 65535)
    (hpos : 0 < seed (front.length + (2 + back.length)) + wordSum front) :
    transport (front ++ (be16 (if transport (front ++ ([0, 0] ++ back)) = 0 then 0xffff
      else transport (front ++ ([0, 0] ++ back))) ++ back)) = 0 := by
  rw [h.zero_field heven hlength]
  refine h.verifies heven hlength ?_ hpos (fold_nonzero_complement _)
  split
  · exact Nat.le_refl _
  · exact fold_le _

end Seeded

theorem wordAt_be16 {bytes first last : Bytes} {i value : ℕ} (hbytes : bytes = first ++ (be16 value ++ last))
    (hi : i = first.length) (hvalue : value ≤ u16Max) : wordAt bytes i = .ok value := by
  have hmod : value % 65536 = value := Nat.mod_eq_of_lt (Nat.lt_succ_of_le hvalue)
  subst hbytes hi
  have hhigh : (first ++ (be16 value ++ last))[first.length]? = some (UInt8.ofNat (value / 256)) :=
    List.getElem?_append_right (Nat.le_refl _) |>.trans (by rw [Nat.sub_self]; rfl)
  have hlow : (first ++ (be16 value ++ last))[first.length + 1]? = some (UInt8.ofNat value) :=
    List.getElem?_append_right (Nat.le_add_right _ _) |>.trans (by rw [Nat.add_sub_cancel_left]; rfl)
  unfold wordAt byteAt
  rw [hhigh, hlow]
  exact congrArg Except.ok ((beWord_be16 value).trans hmod)

theorem port_wordAt {bytes first last : Bytes} {i : ℕ} {port : UInt16}
    (hbytes : bytes = first ++ (be16 port.toNat ++ last)) (hi : i = first.length) :
    (wordAt bytes i >>= fun word => pure (UInt16.ofNat word)) = .ok port := by
  rw [wordAt_be16 hbytes hi (Nat.le_of_lt_succ port.toNat_lt), ok_bind, UInt16.ofNat_toNat]
  rfl

namespace Ethernet

def header (destination source : MacAddress) (etherType : EtherType) : Bytes :=
  beBytes 6 destination ++ (beBytes 6 source ++ be16 etherType.raw)

@[simp] theorem length_header (destination source : MacAddress) (etherType : EtherType) :
    (header destination source etherType).length = 14 := rfl

theorem writeHeader_eq {old : Bytes} (rest : Bytes) (destination source : MacAddress) (etherType : EtherType)
    (h : old.length = 14) : writeHeader (old ++ rest) destination source etherType =
    .ok (header destination source etherType ++ rest, ()) := by
  have hlong : ¬(old ++ rest).length < ethernetHeaderLen := by
    rw [List.length_append, h]
    exact Nat.not_lt.mpr (Nat.le_add_right 14 _)
  have hcopy : copyFields (old ++ rest)
      [(0, beBytes 6 destination), (6, beBytes 6 source), (12, be16 etherType.raw)] =
      .ok (header destination source etherType ++ rest) :=
    copyFields_contiguous (show old ++ rest = [] ++ (old ++ rest) from rfl) ⟨rfl, rfl, rfl, trivial⟩ h
  unfold writeHeader
  rw [if_neg hlong, hcopy]
  rfl

end Ethernet

namespace Ip

def ipv4Front (protocol : UInt8) (payloadLen identification : ℕ) : Bytes :=
  [0x45, 0] ++ (be16 (20 + payloadLen) ++ (be16 identification ++ (be16 0x4000 ++ [64, protocol])))

def ipv4Back (source destination : BitVec 32) : Bytes := beBytes 4 source ++ beBytes 4 destination

def ipv4Checksum (source destination : BitVec 32) (protocol : UInt8) (payloadLen identification : ℕ) : ℕ :=
  checksum (ipv4Front protocol payloadLen identification ++ ([0, 0] ++ ipv4Back source destination))

def ipv4Header (source destination : BitVec 32) (protocol : UInt8) (payloadLen identification : ℕ) : Bytes :=
  ipv4Front protocol payloadLen identification ++
    (be16 (ipv4Checksum source destination protocol payloadLen identification) ++ ipv4Back source destination)

def ipv6Header (source destination : BitVec 128) (nextHeader : UInt8) (payloadLen : ℕ) : Bytes :=
  [0x60, 0, 0, 0] ++ (be16 payloadLen ++ ([nextHeader, 64] ++ (beBytes 16 source ++ beBytes 16 destination)))

section Ipv4

variable {source destination : BitVec 32} {protocol : UInt8} {payloadLen identification : ℕ}

@[simp] theorem length_ipv4Front : (ipv4Front protocol payloadLen identification).length = 10 := rfl

@[simp] theorem length_ipv4Header :
    (ipv4Header source destination protocol payloadLen identification).length = 20 := rfl

theorem writeIpv4Header_eq {old : Bytes} (rest : Bytes) (h : old.length = 20) (hlen : 20 + payloadLen ≤ u16Max) :
    writeIpv4Header (old ++ rest) source destination protocol payloadLen identification =
      .ok (ipv4Header source destination protocol payloadLen identification ++ rest, 20) := by
  have hlong : ¬((old ++ rest).length < 20 ∨ 20 + payloadLen > u16Max) := by
    rw [List.length_append, h]
    omega
  have hascending : Ascending 0 20
      [(0, [0x45]), (2, be16 (20 + payloadLen)), (4, be16 identification), (6, be16 0x4000), (8, [64]),
        (9, [protocol]), (12, beBytes 4 source), (16, beBytes 4 destination)] := by
    simp [Ascending]
  let front := ipv4Front protocol payloadLen identification
  let back := ipv4Back source destination
  have hcopy := copyFields_cleared rest h hascending
  rw [show laidOut 0 20 _ ++ rest = front ++ ([0, 0] ++ (back ++ rest)) from rfl] at hcopy
  have hrange : range (front ++ ([0, 0] ++ (back ++ rest))) 0 20 = .ok (front ++ ([0, 0] ++ back)) :=
    range_eq (show _ = [] ++ ((front ++ ([0, 0] ++ back)) ++ rest) from rfl) rfl rfl
  have hchecksum : copyAt (front ++ ([0, 0] ++ (back ++ rest))) 10
      (be16 (ipv4Checksum source destination protocol payloadLen identification)) =
      .ok (front ++ (be16 (ipv4Checksum source destination protocol payloadLen identification) ++ (back ++ rest))) :=
    copyAt_eq rfl rfl rfl
  unfold writeIpv4Header
  rw [if_neg hlong, hcopy, ok_bind, hrange, ok_bind]
  rw [show checksum (front ++ ([0, 0] ++ back)) =
    ipv4Checksum source destination protocol payloadLen identification from rfl, hchecksum]
  rfl

theorem Ipv4Packet.parse_eq {bytes header : Bytes} {totalLen : ℕ} (hfirst : byteAt bytes 0 = .ok 0x45)
    (htotal : wordAt bytes 2 = .ok totalLen) (hle : 20 ≤ totalLen) (hfits : totalLen ≤ bytes.length)
    (hfragment : wordAt bytes 6 = .ok 0x4000) (hheader : range bytes 0 20 = .ok header)
    (hchecksum : checksum header = 0) : Ipv4Packet.parse bytes = .ok ⟨bytes, 20, totalLen⟩ := by
  unfold Ipv4Packet.parse
  rw [if_neg (by omega), hfirst, ok_bind, if_neg (by decide)]
  change (if 20 < 20 ∨ 20 > bytes.length then _ else _) = _
  rw [if_neg (by omega), htotal, ok_bind]
  change (if totalLen < 20 ∨ totalLen > bytes.length then _ else _) = _
  rw [if_neg (by omega), hfragment, ok_bind, if_neg (by decide)]
  change (range bytes 0 20 >>= _) = _
  rw [hheader, ok_bind, if_neg (not_not.mpr hchecksum)]
  rfl

theorem checksum_ipv4Header :
    checksum (ipv4Header source destination protocol payloadLen identification) = 0 := by
  have hword : wordSum (ipv4Front protocol payloadLen identification) =
      beWord 0x45 0 + wordSum ((ipv4Front protocol payloadLen identification).drop 2) := rfl
  have hfirst : 0 < beWord 0x45 0 := by decide
  refine seeded_checksum.written (by rw [length_ipv4Front]) ?_ ?_
  · change 10 + (2 + 8) ≤ 65535
    decide
  · rw [hword]
    omega

variable {payload : Bytes}

/-- The packet a header and its payload parse to. -/
def ipv4Packet (source destination : BitVec 32) (protocol : UInt8) (identification : ℕ) (payload : Bytes) :
    Ipv4Packet where
  bytes := ipv4Header source destination protocol payload.length identification ++ payload
  headerLen := 20
  totalLen := 20 + payload.length

@[simp] theorem length_ipv4Packet :
    (ipv4Packet source destination protocol identification payload).bytes.length = 20 + payload.length :=
  List.length_append

theorem parse_ipv4Packet (hlen : 20 + payload.length ≤ u16Max) :
    Ipv4Packet.parse (ipv4Packet source destination protocol identification payload).bytes =
      .ok (ipv4Packet source destination protocol identification payload) := by
  let header := ipv4Header source destination protocol payload.length identification
  have hlength : (header ++ payload).length = 20 + payload.length := List.length_append
  have htotal : wordAt (header ++ payload) 2 = .ok (20 + payload.length) :=
    wordAt_be16 (show header ++ payload = header.take 2 ++ (be16 (20 + payload.length) ++ _) from rfl) rfl hlen
  have hfragment : wordAt (header ++ payload) 6 = .ok 0x4000 :=
    wordAt_be16 (show header ++ payload = header.take 6 ++ (be16 0x4000 ++ _) from rfl) rfl (by decide)
  have hheader : range (header ++ payload) 0 20 = .ok header :=
    range_eq (show header ++ payload = [] ++ (header ++ payload) from rfl) rfl rfl
  exact Ipv4Packet.parse_eq rfl htotal (Nat.le_add_right _ _) hlength.ge hfragment hheader checksum_ipv4Header

theorem range_ipv4_source :
    range (ipv4Packet source destination protocol identification payload).bytes 12 16 = .ok (beBytes 4 source) :=
  range_eq (show _ = (ipv4Header source destination protocol payload.length identification).take 12 ++
    (beBytes 4 source ++ (beBytes 4 destination ++ payload)) from rfl) rfl rfl

theorem range_ipv4_destination :
    range (ipv4Packet source destination protocol identification payload).bytes 16 20 =
      .ok (beBytes 4 destination) :=
  range_eq (show _ = (ipv4Header source destination protocol payload.length identification).take 16 ++
    (beBytes 4 destination ++ payload) from rfl) rfl rfl

@[simp] theorem source_ipv4Packet :
    (ipv4Packet source destination protocol identification payload).source = .ok source := by
  unfold Ipv4Packet.source
  rw [range_ipv4_source, ok_bind, ofOctets_beBytes source rfl]
  rfl

@[simp] theorem destination_ipv4Packet :
    (ipv4Packet source destination protocol identification payload).destination = .ok destination := by
  unfold Ipv4Packet.destination
  rw [range_ipv4_destination, ok_bind, ofOctets_beBytes destination rfl]
  rfl

@[simp] theorem protocol_ipv4Packet :
    (ipv4Packet source destination protocol identification payload).protocol = .ok protocol := rfl

@[simp] theorem payload_ipv4Packet :
    (ipv4Packet source destination protocol identification payload).payload = .ok payload :=
  range_eq (show _ = ipv4Header source destination protocol payload.length identification ++ (payload ++ []) by
    rw [List.append_nil]; rfl) rfl rfl

end Ipv4

section Ipv6

variable {source destination : BitVec 128} {nextHeader : UInt8} {payloadLen : ℕ} {payload : Bytes}

@[simp] theorem length_ipv6Header : (ipv6Header source destination nextHeader payloadLen).length = 40 := rfl

theorem writeIpv6Header_eq {old : Bytes} (rest : Bytes) (h : old.length = 40) (hlen : payloadLen ≤ u16Max) :
    writeIpv6Header (old ++ rest) source destination nextHeader payloadLen =
      .ok (ipv6Header source destination nextHeader payloadLen ++ rest, 40) := by
  have hlong : ¬((old ++ rest).length < 40 ∨ payloadLen > u16Max) := by
    rw [List.length_append, h]
    omega
  have hascending : Ascending 0 40
      [(0, [0x60]), (4, be16 payloadLen), (6, [nextHeader]), (7, [64]), (8, beBytes 16 source),
        (24, beBytes 16 destination)] := by
    simp [Ascending]
  unfold writeIpv6Header
  rw [if_neg hlong, copyFields_cleared rest h hascending]
  rfl

theorem Ipv6Packet.parse_eq {bytes : Bytes} {payloadLen : ℕ} (hfirst : byteAt bytes 0 = .ok 0x60)
    (hpayload : wordAt bytes 4 = .ok payloadLen) (hfits : 40 + payloadLen ≤ bytes.length)
    (hnext : byteAt bytes 6 = .ok nextHeader) (hplain : isExtension nextHeader = false)
    (hwhole : nextHeader ≠ 44) : Ipv6Packet.parse bytes = .ok ⟨bytes, 40, 40 + payloadLen, nextHeader⟩ := by
  have hskip : skipExtensions bytes (40 + payloadLen) 8 nextHeader 40 0 = .ok (nextHeader, 40) := by
    unfold skipExtensions
    rw [if_neg (by rw [hplain]; decide)]
    rfl
  unfold Ipv6Packet.parse
  rw [if_neg (by omega), hfirst, ok_bind, if_neg (by decide), hpayload, ok_bind, if_neg (by omega), hnext, ok_bind,
    hskip, ok_bind]
  exact if_neg hwhole

/-- The packet a header and its payload parse to. -/
def ipv6Packet (source destination : BitVec 128) (nextHeader : UInt8) (payload : Bytes) : Ipv6Packet where
  bytes := ipv6Header source destination nextHeader payload.length ++ payload
  payloadOffset := 40
  totalLen := 40 + payload.length
  nextHeader := nextHeader

@[simp] theorem length_ipv6Packet :
    (ipv6Packet source destination nextHeader payload).bytes.length = 40 + payload.length :=
  List.length_append

theorem parse_ipv6Packet (hlen : payload.length ≤ u16Max) (hplain : Ipv6Packet.isExtension nextHeader = false)
    (hwhole : nextHeader ≠ 44) : Ipv6Packet.parse (ipv6Packet source destination nextHeader payload).bytes =
    .ok (ipv6Packet source destination nextHeader payload) := by
  let header := ipv6Header source destination nextHeader payload.length
  have hlength : (header ++ payload).length = 40 + payload.length := List.length_append
  have hpayload : wordAt (header ++ payload) 4 = .ok payload.length :=
    wordAt_be16 (show header ++ payload = header.take 4 ++ (be16 payload.length ++ _) from rfl) rfl hlen
  exact Ipv6Packet.parse_eq rfl hpayload hlength.ge rfl hplain hwhole

theorem range_ipv6_source :
    range (ipv6Packet source destination nextHeader payload).bytes 8 24 = .ok (beBytes 16 source) :=
  range_eq (show _ = (ipv6Header source destination nextHeader payload.length).take 8 ++
    (beBytes 16 source ++ (beBytes 16 destination ++ payload)) from rfl) rfl rfl

theorem range_ipv6_destination :
    range (ipv6Packet source destination nextHeader payload).bytes 24 40 = .ok (beBytes 16 destination) :=
  range_eq (show _ = (ipv6Header source destination nextHeader payload.length).take 24 ++
    (beBytes 16 destination ++ payload) from rfl) rfl rfl

@[simp] theorem source_ipv6Packet : (ipv6Packet source destination nextHeader payload).source = .ok source := by
  unfold Ipv6Packet.source
  rw [range_ipv6_source, ok_bind, ofOctets_beBytes source rfl]
  rfl

@[simp] theorem destination_ipv6Packet :
    (ipv6Packet source destination nextHeader payload).destination = .ok destination := by
  unfold Ipv6Packet.destination
  rw [range_ipv6_destination, ok_bind, ofOctets_beBytes destination rfl]
  rfl

@[simp] theorem nextHeader_ipv6Packet : (ipv6Packet source destination nextHeader payload).nextHeader = nextHeader :=
  rfl

@[simp] theorem payload_ipv6Packet : (ipv6Packet source destination nextHeader payload).payload = .ok payload :=
  range_eq (show _ = ipv6Header source destination nextHeader payload.length ++ (payload ++ []) by
    rw [List.append_nil]; rfl) rfl rfl

end Ipv6

end Ip

end Yayatht.Packet
