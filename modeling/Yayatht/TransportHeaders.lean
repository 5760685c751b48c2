import Yayatht.PacketHeaders

set_option autoImplicit false

namespace Yayatht.Packet
open Wire Checksum

namespace Tcp

def front (spec : HeaderSpec) : Bytes :=
  be16 spec.sourcePort.toNat ++ (be16 spec.destinationPort.toNat ++ (beBytes 4 spec.sequence ++
    (beBytes 4 spec.acknowledgment ++
      ([(UInt8.ofNat (headerLen spec.mss spec.windowScale) / 4) <<< 4, flagByte spec.flags] ++
        be16 spec.window.toNat))))

def options (spec : HeaderSpec) : Bytes :=
  (match spec.mss with
    | none => []
    | some mss => [2, 4] ++ be16 mss.toNat) ++
  (match spec.windowScale with
    | none => []
    | some shift => [1, 3, 3, shift])

def back (spec : HeaderSpec) : Bytes := [0, 0] ++ options spec

@[simp] theorem length_front (spec : HeaderSpec) : (front spec).length = 16 := rfl

theorem length_back (spec : HeaderSpec) : 18 + (back spec).length = headerLen spec.mss spec.windowScale := by
  obtain ⟨_, _, _, _, _, _, mss, windowScale⟩ := spec
  cases mss <;> cases windowScale <;> rfl

theorem writeHeader_eq {old : Bytes} (rest : Bytes) {spec : HeaderSpec}
    (h : old.length = headerLen spec.mss spec.windowScale) : writeHeader (old ++ rest) spec =
    .ok (front spec ++ ([0, 0] ++ (back spec ++ rest)), headerLen spec.mss spec.windowScale) := by
  have hlong : ¬(old ++ rest).length < headerLen spec.mss spec.windowScale := by
    rw [List.length_append, h]
    omega
  unfold writeHeader
  rw [if_neg hlong]
  obtain ⟨_, _, _, _, _, _, mss, windowScale⟩ := spec
  cases mss <;> cases windowScale
  all_goals
    simp only [List.cons_append, List.nil_append, mssOption, windowScaleOption]
    rw [copyFields_cleared rest h (by simp [Ascending, headerLen, tcpMinHeaderLen])]
    rfl

theorem setChecksum_eq (transport : Bytes → ℕ) {head tail : Bytes} (hhead : head.length = 16)
    (htail : 2 ≤ tail.length) : setChecksum transport (head ++ ([0, 0] ++ tail)) =
    .ok (head ++ (be16 (transport (head ++ ([0, 0] ++ tail))) ++ tail), ()) := by
  have hlong : ¬(head ++ ([0, 0] ++ tail)).length < tcpMinHeaderLen := by
    simp only [List.length_append, hhead, List.length_cons, List.length_nil, tcpMinHeaderLen]
    omega
  have hzero : copyAt (head ++ ([0, 0] ++ tail)) 16 [0, 0] = .ok (head ++ ([0, 0] ++ tail)) :=
    copyAt_eq rfl hhead.symm rfl
  have hfield : copyAt (head ++ ([0, 0] ++ tail)) 16 (be16 (transport (head ++ ([0, 0] ++ tail)))) =
      .ok (head ++ (be16 (transport (head ++ ([0, 0] ++ tail))) ++ tail)) :=
    copyAt_eq rfl hhead.symm rfl
  unfold setChecksum
  rw [if_neg hlong, hzero, ok_bind, hfield]
  rfl

def segment (spec : HeaderSpec) (value : ℕ) (payload : Bytes) : Segment where
  bytes := front spec ++ (be16 value ++ (back spec ++ payload))
  headerLen := headerLen spec.mss spec.windowScale

theorem length_segment (spec : HeaderSpec) (value : ℕ) (payload : Bytes) :
    (segment spec value payload).bytes.length = headerLen spec.mss spec.windowScale + payload.length := by
  have hback := length_back spec
  simp only [segment, List.length_append, length_front, length_be16]
  omega

theorem dataOffset_eq (mss : Option UInt16) (windowScale : Option UInt8) :
    (((UInt8.ofNat (headerLen mss windowScale) / 4) <<< 4) >>> 4).toNat * 4 = headerLen mss windowScale := by
  have hlengths : ∀ length ∈ [20, 24, 28], (((UInt8.ofNat length / 4) <<< 4) >>> 4).toNat * 4 = length := by decide
  apply hlengths
  cases mss <;> cases windowScale <;> simp [headerLen, tcpMinHeaderLen]

theorem flagByte_bits (flags : TcpFlags) :
    { fin := flagByte flags &&& 0x01 ≠ 0, syn := flagByte flags &&& 0x02 ≠ 0, rst := flagByte flags &&& 0x04 ≠ 0,
      psh := flagByte flags &&& 0x08 ≠ 0, ack := flagByte flags &&& 0x10 ≠ 0 : TcpFlags } = flags := by
  obtain ⟨fin, syn, rst, psh, ack⟩ := flags
  cases fin <;> cases syn <;> cases rst <;> cases psh <;> cases ack <;> decide

section Segment

variable {spec : HeaderSpec} {value : ℕ} {payload : Bytes}

theorem parse_segment : Segment.parse (segment spec value payload).bytes = .ok (segment spec value payload) := by
  have hlength := length_segment spec value payload
  have hmin : 20 ≤ headerLen spec.mss spec.windowScale := by
    unfold headerLen tcpMinHeaderLen
    omega
  have hoffset : byteAt (segment spec value payload).bytes 12 =
      .ok ((UInt8.ofNat (headerLen spec.mss spec.windowScale) / 4) <<< 4) := rfl
  unfold Segment.parse tcpMinHeaderLen
  rw [if_neg (by omega), hoffset, ok_bind]
  simp only [dataOffset_eq]
  rw [if_neg (by omega)]
  rfl

theorem sourcePort_segment : (segment spec value payload).sourcePort = .ok spec.sourcePort :=
  port_wordAt (show (segment spec value payload).bytes = [] ++ (be16 spec.sourcePort.toNat ++ _) from rfl) rfl

theorem destinationPort_segment : (segment spec value payload).destinationPort = .ok spec.destinationPort :=
  port_wordAt (show (segment spec value payload).bytes = (front spec).take 2 ++
    (be16 spec.destinationPort.toNat ++ _) from rfl) rfl

theorem window_segment : (segment spec value payload).window = .ok spec.window :=
  port_wordAt (show (segment spec value payload).bytes = (front spec).take 14 ++
    (be16 spec.window.toNat ++ _) from rfl) rfl

theorem sequence_segment : (segment spec value payload).sequence = .ok spec.sequence := by
  have hrange : range (segment spec value payload).bytes 4 8 = .ok (beBytes 4 spec.sequence) :=
    range_eq (show _ = (front spec).take 4 ++ (beBytes 4 spec.sequence ++ _) from rfl) rfl rfl
  unfold Segment.sequence
  rw [hrange, ok_bind, ofOctets_beBytes spec.sequence rfl]
  rfl

theorem acknowledgment_segment : (segment spec value payload).acknowledgment = .ok spec.acknowledgment := by
  have hrange : range (segment spec value payload).bytes 8 12 = .ok (beBytes 4 spec.acknowledgment) :=
    range_eq (show _ = (front spec).take 8 ++ (beBytes 4 spec.acknowledgment ++ _) from rfl) rfl rfl
  unfold Segment.acknowledgment
  rw [hrange, ok_bind, ofOctets_beBytes spec.acknowledgment rfl]
  rfl

theorem flags_segment : (segment spec value payload).flags = .ok spec.flags :=
  congrArg Except.ok (flagByte_bits spec.flags)

theorem options_segment : range (segment spec value payload).bytes tcpMinHeaderLen (segment spec value payload).headerLen =
    .ok (options spec) := by
  refine range_eq (show _ = (front spec ++ (be16 value ++ [0, 0])) ++ (options spec ++ payload) from rfl) rfl ?_
  have hback := length_back spec
  have hoptions : (back spec).length = 2 + (options spec).length := List.length_append
  change headerLen spec.mss spec.windowScale = 20 + (options spec).length
  omega

theorem mss_segment : (segment spec value payload).mss = .ok spec.mss := by
  have hscan : Segment.scanOptions 2 4 (options spec).length (options spec) =
      spec.mss.map fun mss => be16 mss.toNat := by
    obtain ⟨_, _, _, _, _, _, mss, windowScale⟩ := spec
    cases mss <;> cases windowScale <;> simp [options, Segment.scanOptions, be16]
  unfold Segment.mss Segment.findOption
  rw [options_segment, ok_bind, hscan]
  cases hmss : spec.mss with
  | none => rfl
  | some mss =>
    have hword : wordAt (be16 mss.toNat) 0 = .ok mss.toNat :=
      wordAt_be16 (show be16 mss.toNat = [] ++ (be16 mss.toNat ++ []) from rfl) rfl
        (Nat.le_of_lt_succ mss.toNat_lt)
    change (wordAt (be16 mss.toNat) 0 >>= fun word => pure (some (UInt16.ofNat word))) = _
    rw [hword, ok_bind, UInt16.ofNat_toNat]
    rfl

theorem windowScale_segment : (segment spec value payload).windowScale = .ok spec.windowScale := by
  have hscan : Segment.scanOptions 3 3 (options spec).length (options spec) =
      spec.windowScale.map fun shift => [shift] := by
    obtain ⟨_, _, _, _, _, _, mss, windowScale⟩ := spec
    cases mss <;> cases windowScale <;> simp [options, Segment.scanOptions, be16]
  unfold Segment.windowScale Segment.findOption
  rw [options_segment, ok_bind, hscan]
  cases hshift : spec.windowScale <;> rfl

theorem payload_segment : (segment spec value payload).payload = .ok payload := by
  refine range_eq (show _ = (front spec ++ (be16 value ++ back spec)) ++ (payload ++ []) by
    rw [List.append_nil]; simp only [segment, List.append_assoc]) ?_ ?_
  · have hback := length_back spec
    simp only [segment, List.length_append, length_front, length_be16]
    omega
  · simp only [segment, List.length_append, length_front, length_be16]
    omega

theorem read_segment : (segment spec value payload).read =
    .ok { sourcePort := spec.sourcePort, destinationPort := spec.destinationPort, sequence := spec.sequence,
          acknowledgment := spec.acknowledgment, flags := spec.flags, window := spec.window, mss := spec.mss,
          windowScale := spec.windowScale, payload := payload } := by
  unfold Segment.read
  rw [sourcePort_segment, destinationPort_segment, sequence_segment, acknowledgment_segment, flags_segment,
    window_segment, mss_segment, windowScale_segment, payload_segment]
  rfl

end Segment

section Verified

variable {spec : HeaderSpec} {identification : ℕ} {payload : Bytes}

/-- The checksum field that `transport` gives a header and its payload. -/
def checksumValue (transport : Bytes → ℕ) (spec : HeaderSpec) (payload : Bytes) : ℕ :=
  transport (front spec ++ ([0, 0] ++ (back spec ++ payload)))

theorem transport_segment {transport : Bytes → ℕ} {seed : ℕ → ℕ} (h : Seeded transport seed)
    (hpos : ∀ length ≤ 65535, 0 < seed length)
    (hlength : headerLen spec.mss spec.windowScale + payload.length ≤ u16Max) :
    transport (segment spec (checksumValue transport spec payload) payload).bytes = 0 := by
  have hback := length_back spec
  have htotal : (front spec).length + (2 + (back spec ++ payload).length) ≤ 65535 := by
    rw [length_front, List.length_append]
    unfold u16Max at hlength
    omega
  exact h.written (by rw [length_front]) htotal (Nat.add_pos_left (hpos _ htotal) _)

theorem parseIpv4_segment {source destination : BitVec 32}
    (hlength : headerLen spec.mss spec.windowScale + payload.length ≤ u16Max) :
    let value := checksumValue (ipv4Transport (beBytes 4 source) (beBytes 4 destination) 6) spec payload
    Segment.parseIpv4 (Ip.ipv4Packet source destination Ip.protoTcp identification
      (segment spec value payload).bytes) true = .ok (segment spec value payload) := by
  intro value
  have hpos : ∀ length ≤ 65535, 0 < ipv4Pseudo (beBytes 4 source) (beBytes 4 destination) 6 length := by
    intro length hle
    rw [ipv4Pseudo_eq rfl rfl hle]
    have hprotocol : 0 < (6 : UInt8).toNat := by decide
    omega
  have hverified : ipv4Transport (beBytes 4 source) (beBytes 4 destination) 6 (segment spec value payload).bytes = 0 :=
    transport_segment (seeded_ipv4 rfl rfl) hpos hlength
  unfold Segment.parseIpv4
  rw [Ip.protocol_ipv4Packet, ok_bind, if_neg (not_not.mpr rfl), Ip.payload_ipv4Packet, ok_bind,
    Ip.range_ipv4_source, ok_bind, Ip.range_ipv4_destination, ok_bind, if_neg (fun h => h.2 hverified)]
  exact parse_segment

theorem parseIpv6_segment {source destination : BitVec 128}
    (hlength : headerLen spec.mss spec.windowScale + payload.length ≤ u16Max) :
    let value := checksumValue (ipv6Transport (beBytes 16 source) (beBytes 16 destination) 6) spec payload
    Segment.parseIpv6 (Ip.ipv6Packet source destination Ip.protoTcp (segment spec value payload).bytes) true =
      .ok (segment spec value payload) := by
  intro value
  have hpos : ∀ length ≤ 65535, 0 < ipv6Pseudo (beBytes 16 source) (beBytes 16 destination) 6 length := by
    intro length _
    rw [ipv6Pseudo_eq rfl rfl]
    have hprotocol : 0 < (6 : UInt8).toNat := by decide
    omega
  have hverified : ipv6Transport (beBytes 16 source) (beBytes 16 destination) 6 (segment spec value payload).bytes = 0 :=
    transport_segment (seeded_ipv6 rfl rfl) hpos hlength
  unfold Segment.parseIpv6
  rw [Ip.nextHeader_ipv6Packet, if_neg (not_not.mpr rfl), Ip.payload_ipv6Packet, ok_bind,
    Ip.range_ipv6_source, ok_bind, Ip.range_ipv6_destination, ok_bind, if_neg (fun h => h.2 hverified)]
  exact parse_segment

end Verified

end Tcp

namespace Udp

def front (sourcePort destinationPort : UInt16) (payloadLen : ℕ) : Bytes :=
  be16 sourcePort.toNat ++ (be16 destinationPort.toNat ++ be16 (8 + payloadLen))

@[simp] theorem length_front (sourcePort destinationPort : UInt16) (payloadLen : ℕ) :
    (front sourcePort destinationPort payloadLen).length = 6 := rfl

def datagram (sourcePort destinationPort : UInt16) (value : ℕ) (payload : Bytes) : Datagram where
  bytes := front sourcePort destinationPort payload.length ++ (be16 value ++ payload)

variable {sourcePort destinationPort : UInt16} {value : ℕ} {payload : Bytes}

theorem length_datagram : (datagram sourcePort destinationPort value payload).bytes.length = 8 + payload.length := by
  simp only [datagram, List.length_append, length_front, length_be16]
  omega

theorem writeHeader_eq {old : Bytes} (hold : old.length = 8) (hlen : 8 + payload.length ≤ u16Max) :
    writeHeader (old ++ payload) sourcePort destinationPort payload.length =
      .ok (front sourcePort destinationPort payload.length ++ ([0, 0] ++ payload), 8) := by
  have hlong : ¬((old ++ payload).length < udpHeaderLen + payload.length ∨
      udpHeaderLen + payload.length > u16Max) := by
    rw [List.length_append, hold]
    unfold udpHeaderLen
    omega
  have hcopy : copyFields (old ++ payload)
      [(0, be16 sourcePort.toNat), (2, be16 destinationPort.toNat), (4, be16 (udpHeaderLen + payload.length)),
        (6, [0, 0])] = .ok (front sourcePort destinationPort payload.length ++ ([0, 0] ++ payload)) :=
    copyFields_contiguous (show old ++ payload = [] ++ (old ++ payload) from rfl) ⟨rfl, rfl, rfl, rfl, trivial⟩ hold
  unfold writeHeader
  rw [if_neg hlong, hcopy]
  rfl

/-- The checksum field: `transport` of the datagram with a zero field, or all ones for zero. -/
def checksumValue (transport : Bytes → ℕ) (sourcePort destinationPort : UInt16) (payload : Bytes) : ℕ :=
  if transport (front sourcePort destinationPort payload.length ++ ([0, 0] ++ payload)) = 0 then 0xffff
  else transport (front sourcePort destinationPort payload.length ++ ([0, 0] ++ payload))

theorem setChecksum_eq (transport : Bytes → ℕ) :
    setChecksum transport (front sourcePort destinationPort payload.length ++ ([0, 0] ++ payload)) =
      .ok ((datagram sourcePort destinationPort (checksumValue transport sourcePort destinationPort payload)
        payload).bytes, ()) := by
  let head := front sourcePort destinationPort payload.length
  have hlong : ¬(head ++ ([0, 0] ++ payload)).length < udpHeaderLen := by
    simp only [List.length_append, List.length_cons, List.length_nil, udpHeaderLen, head, length_front]
    omega
  have hzero : copyAt (head ++ ([0, 0] ++ payload)) 6 [0, 0] = .ok (head ++ ([0, 0] ++ payload)) :=
    copyAt_eq rfl rfl rfl
  have hfield : copyAt (head ++ ([0, 0] ++ payload)) 6
      (be16 (checksumValue transport sourcePort destinationPort payload)) =
      .ok (head ++ (be16 (checksumValue transport sourcePort destinationPort payload) ++ payload)) :=
    copyAt_eq rfl rfl rfl
  unfold setChecksum
  rw [if_neg hlong, hzero, ok_bind]
  change (copyAt (head ++ ([0, 0] ++ payload)) 6
    (be16 (checksumValue transport sourcePort destinationPort payload)) >>= _) = _
  rw [hfield]
  rfl

theorem parse_datagram (hlen : 8 + payload.length ≤ u16Max) :
    Datagram.parse (datagram sourcePort destinationPort value payload).bytes =
      .ok (datagram sourcePort destinationPort value payload) := by
  have hfield : wordAt (datagram sourcePort destinationPort value payload).bytes 4 = .ok (8 + payload.length) :=
    wordAt_be16 (show _ = (front sourcePort destinationPort payload.length).take 4 ++
      (be16 (8 + payload.length) ++ _) from rfl) rfl hlen
  have hlength : (datagram sourcePort destinationPort value payload).bytes.length = 8 + payload.length :=
    length_datagram
  have hrange := range_eq (show _ = [] ++ ((datagram sourcePort destinationPort value payload).bytes ++ []) from
    (List.append_nil _).symm) rfl rfl
  rw [List.length_nil, Nat.zero_add, hlength] at hrange
  unfold Datagram.parse udpHeaderLen
  rw [if_neg (by omega), hfield, ok_bind, if_neg (by omega), hrange]
  rfl

theorem checksumField_datagram (hvalue : value ≤ u16Max) :
    (datagram sourcePort destinationPort value payload).checksumField = .ok value :=
  wordAt_be16 (show (datagram sourcePort destinationPort value payload).bytes =
    front sourcePort destinationPort payload.length ++ (be16 value ++ payload) from rfl) rfl hvalue

@[simp] theorem sourcePort_datagram :
    (datagram sourcePort destinationPort value payload).sourcePort = .ok sourcePort :=
  port_wordAt (show (datagram sourcePort destinationPort value payload).bytes =
    [] ++ (be16 sourcePort.toNat ++ _) from rfl) rfl

@[simp] theorem destinationPort_datagram :
    (datagram sourcePort destinationPort value payload).destinationPort = .ok destinationPort :=
  port_wordAt (show (datagram sourcePort destinationPort value payload).bytes =
    (front sourcePort destinationPort payload.length).take 2 ++ (be16 destinationPort.toNat ++ _) from rfl) rfl

@[simp] theorem payload_datagram : (datagram sourcePort destinationPort value payload).payload = .ok payload :=
  range_eq (show _ = (front sourcePort destinationPort payload.length ++ be16 value) ++ (payload ++ []) by
    rw [List.append_nil]; rfl) rfl (by rw [length_datagram]; rfl)

theorem transport_datagram {transport : Bytes → ℕ} {seed : ℕ → ℕ} (h : Seeded transport seed)
    (hpos : ∀ length ≤ 65535, 0 < seed length) (hlen : 8 + payload.length ≤ u16Max) :
    transport (datagram sourcePort destinationPort
      (checksumValue transport sourcePort destinationPort payload) payload).bytes = 0 := by
  have htotal : (front sourcePort destinationPort payload.length).length + (2 + payload.length) ≤ 65535 := by
    rw [length_front]
    unfold u16Max at hlen
    omega
  exact h.written_nonzero (by rw [length_front]) htotal (Nat.add_pos_left (hpos _ htotal) _)

/-- The field is never zero, which would mean that no checksum was computed. -/
theorem checksumValue_pos {transport : Bytes → ℕ} : checksumValue transport sourcePort destinationPort payload ≠ 0 := by
  unfold checksumValue
  split
  · decide
  · assumption

theorem checksumValue_le {transport : Bytes → ℕ} {seed : ℕ → ℕ} (h : Seeded transport seed) :
    checksumValue transport sourcePort destinationPort payload ≤ u16Max := by
  unfold checksumValue
  split
  · exact Nat.le_refl _
  · rw [h.eq]
    exact fold_le _

theorem parseIpv4_datagram {source destination : BitVec 32} {identification : ℕ} (hlen : 8 + payload.length ≤ u16Max) :
    let value := checksumValue (ipv4Transport (beBytes 4 source) (beBytes 4 destination) Ip.protoUdp)
      sourcePort destinationPort payload
    Datagram.parseIpv4 (Ip.ipv4Packet source destination Ip.protoUdp identification
      (datagram sourcePort destinationPort value payload).bytes) true =
      .ok (datagram sourcePort destinationPort value payload) := by
  intro value
  have hpos : ∀ length ≤ 65535, 0 < ipv4Pseudo (beBytes 4 source) (beBytes 4 destination) Ip.protoUdp length := by
    intro length hle
    rw [ipv4Pseudo_eq rfl rfl hle]
    have hprotocol : 0 < Ip.protoUdp.toNat := by decide
    omega
  have hverified : ipv4Transport (beBytes 4 source) (beBytes 4 destination) Ip.protoUdp
      (datagram sourcePort destinationPort value payload).bytes = 0 :=
    transport_datagram (seeded_ipv4 rfl rfl) hpos hlen
  have hfield : (datagram sourcePort destinationPort value payload).checksumField = .ok value :=
    checksumField_datagram (checksumValue_le (seeded_ipv4 rfl rfl))
  unfold Datagram.parseIpv4
  rw [Ip.payload_ipv4Packet, ok_bind, parse_datagram hlen, ok_bind, hfield, ok_bind, Ip.range_ipv4_source, ok_bind,
    Ip.range_ipv4_destination, ok_bind, if_neg (fun h => h.2.2 hverified)]
  rfl

theorem parseIpv6_datagram {source destination : BitVec 128} (hlen : 8 + payload.length ≤ u16Max) :
    let value := checksumValue (ipv6Transport (beBytes 16 source) (beBytes 16 destination) Ip.protoUdp)
      sourcePort destinationPort payload
    Datagram.parseIpv6 (Ip.ipv6Packet source destination Ip.protoUdp
      (datagram sourcePort destinationPort value payload).bytes) true =
      .ok (datagram sourcePort destinationPort value payload) := by
  intro value
  have hpos : ∀ length ≤ 65535, 0 < ipv6Pseudo (beBytes 16 source) (beBytes 16 destination) Ip.protoUdp length := by
    intro length _
    rw [ipv6Pseudo_eq rfl rfl]
    have hprotocol : 0 < Ip.protoUdp.toNat := by decide
    omega
  have hverified : ipv6Transport (beBytes 16 source) (beBytes 16 destination) Ip.protoUdp
      (datagram sourcePort destinationPort value payload).bytes = 0 :=
    transport_datagram (seeded_ipv6 rfl rfl) hpos hlen
  have hfield : (datagram sourcePort destinationPort value payload).checksumField = .ok value :=
    checksumField_datagram (checksumValue_le (seeded_ipv6 rfl rfl))
  unfold Datagram.parseIpv6
  rw [Ip.payload_ipv6Packet, ok_bind, parse_datagram hlen, ok_bind, if_pos rfl, hfield, ok_bind,
    Ip.range_ipv6_source, ok_bind, Ip.range_ipv6_destination, ok_bind, if_neg checksumValue_pos,
    if_neg (not_not.mpr hverified)]
  rfl

end Udp

namespace Icmp

/-- The quote: an IP header, the ports and length of the datagram, and its first bytes. -/
def quotation (ipHeader : Bytes) (sourcePort destinationPort : UInt16) (originalLen : ℕ) (quote : Bytes) : Bytes :=
  ipHeader ++ (Udp.front sourcePort destinationPort originalLen ++ ([0, 0] ++ quote))

/-- The message: type and code, the checksum, and the rest. -/
def message (transport : Bytes → ℕ) (start rest : Bytes) : Bytes :=
  start ++ (be16 (transport (start ++ ([0, 0] ++ rest))) ++ rest)

theorem writeQuotedUdpHeader_eq (sourcePort destinationPort : UInt16) (originalLen : ℕ) {old : Bytes}
    (hold : old.length = 8) :
    writeQuotedUdpHeader sourcePort destinationPort (udpHeaderLen + originalLen) old =
      .ok (Udp.front sourcePort destinationPort originalLen ++ [0, 0], ()) := by
  have hcopy : copyFields old
      [(0, be16 sourcePort.toNat), (2, be16 destinationPort.toNat), (4, be16 (udpHeaderLen + originalLen)),
        (6, [0, 0])] = .ok ([] ++ (Udp.front sourcePort destinationPort originalLen ++ ([0, 0] ++ []))) :=
    copyFields_contiguous (show old = [] ++ (old ++ []) from (List.append_nil old).symm)
      ⟨rfl, rfl, rfl, rfl, trivial⟩ hold
  unfold writeQuotedUdpHeader
  rw [hcopy]
  rfl

section Message

variable {ipLen originalLen : ℕ} {inner : Bytes → Except Error (Bytes × ℕ)} {fields : List (ℕ × Bytes)}
  {transport : Bytes → ℕ} {sourcePort destinationPort : UInt16} {quote ipHeader start info : Bytes}

theorem writeMessage_eq {icmp : Bytes} (hstart : start.length = 2) (hinfo : info.length = 4)
    (hfields : laidOut 0 8 fields = start ++ ([0, 0] ++ info)) (hascending : Ascending 0 8 fields)
    (hheader : ipHeader.length = ipLen)
    (hinner : ∀ old rest : Bytes, old.length = ipLen → inner (old ++ rest) = .ok (ipHeader ++ rest, ipLen))
    (hicmp : icmp.length = 8 + (ipLen + 8 + quote.length)) :
    writeMessage ipLen inner fields transport sourcePort destinationPort (udpHeaderLen + originalLen) quote icmp =
      .ok (message transport start (info ++ quotation ipHeader sourcePort destinationPort originalLen quote), ()) := by
  have hudp := writeQuotedUdpHeader_eq sourcePort destinationPort originalLen
    (show (List.replicate 8 (0 : UInt8)).length = 8 from List.length_replicate)
  have hquotation : quotation ipHeader sourcePort destinationPort originalLen quote =
      ipHeader ++ ((Udp.front sourcePort destinationPort originalLen ++ [0, 0]) ++ quote) := by
    simp only [quotation, List.append_assoc]
  obtain ⟨udp, hudpShape⟩ : ∃ udp, Udp.front sourcePort destinationPort originalLen ++ [0, 0] = udp := ⟨_, rfl⟩
  have hudpLength : udp.length = 8 := by
    rw [← hudpShape]
    rfl
  rw [hudpShape] at hudp hquotation
  obtain ⟨front, hshape⟩ : ∃ front, start ++ ([0, 0] ++ info) = front := ⟨_, rfl⟩
  have hfront : front.length = 8 := by
    rw [← hshape, List.length_append, List.length_append, hstart, hinfo]
    rfl
  rw [hshape] at hfields
  have hclear : copyFields icmp ((0, List.replicate icmp.length 0) :: fields) =
      .ok (front ++ List.replicate (ipLen + 8 + quote.length) 0) := by
    have hlaid := laidOut_append (ipLen + 8 + quote.length) hascending
    have hlonger : Ascending 0 icmp.length fields := hascending.mono (by omega)
    have hcopy := copyFields_cleared [] rfl hlonger
    rw [List.append_nil, List.append_nil, hicmp, hlaid, hfields] at hcopy
    rw [hicmp]
    exact hcopy
  have hquoted : within (front ++ List.replicate (ipLen + 8 + quote.length) 0) 8
      (front ++ List.replicate (ipLen + 8 + quote.length) 0).length inner =
      .ok (front ++ (ipHeader ++ List.replicate (8 + quote.length) 0), ipLen) := by
    have hwrite := hinner (List.replicate ipLen 0) (List.replicate (8 + quote.length) 0) List.length_replicate
    rw [List.replicate_append_replicate, ← Nat.add_assoc] at hwrite
    have hwithin := within_eq (show _ = front ++ (List.replicate (ipLen + 8 + quote.length) 0 ++ []) by
      rw [List.append_nil]) hfront.symm List.length_append hwrite (by
        rw [List.length_append, List.length_replicate, List.length_replicate, hheader, Nat.add_assoc])
    rw [List.append_nil] at hwithin
    exact hwithin
  have hports : within (front ++ (ipHeader ++ List.replicate (8 + quote.length) 0)) (8 + ipLen) (8 + ipLen + 8)
      (writeQuotedUdpHeader sourcePort destinationPort (udpHeaderLen + originalLen)) =
      .ok (front ++ (ipHeader ++ (udp ++ List.replicate quote.length 0)), ()) := by
    have hslice : front ++ (ipHeader ++ List.replicate (8 + quote.length) 0) =
        (front ++ ipHeader) ++ (List.replicate 8 0 ++ List.replicate quote.length 0) := by
      rw [List.replicate_append_replicate, List.append_assoc]
    have hstart : 8 + ipLen = (front ++ ipHeader).length := by rw [List.length_append, hfront, hheader]
    have hwithin := within_eq hslice hstart (by rw [← hstart, List.length_replicate]) hudp
      (by rw [hudpLength, List.length_replicate])
    rw [hwithin, List.append_assoc]
  have hpayload : copyAt (front ++ (ipHeader ++ (udp ++ List.replicate quote.length 0))) (8 + ipLen + 8) quote =
      .ok (front ++ quotation ipHeader sourcePort destinationPort originalLen quote) := by
    have hslice : front ++ (ipHeader ++ (udp ++ List.replicate quote.length 0)) =
        (front ++ (ipHeader ++ udp)) ++ (List.replicate quote.length 0 ++ []) := by
      simp only [List.append_assoc, List.append_nil]
    have hstart : 8 + ipLen + 8 = (front ++ (ipHeader ++ udp)).length := by
      rw [List.length_append, List.length_append, hfront, hheader, hudpLength, Nat.add_assoc]
    rw [copyAt_eq hslice hstart List.length_replicate.symm, hquotation]
    simp only [List.append_assoc, List.append_nil]
  have hchecksum : copyAt (front ++ quotation ipHeader sourcePort destinationPort originalLen quote) 2
      (be16 (transport (front ++ quotation ipHeader sourcePort destinationPort originalLen quote))) =
      .ok (message transport start
        (info ++ quotation ipHeader sourcePort destinationPort originalLen quote)) := by
    rw [← hshape, List.append_assoc, List.append_assoc]
    exact copyAt_eq rfl hstart.symm rfl
  unfold writeMessage icmpHeaderLen
  rw [hclear, ok_bind, hquoted, ok_bind]
  change (within _ (8 + ipLen) (8 + ipLen + 8) _ >>= _) = _
  rw [hports, ok_bind]
  change (copyAt _ (8 + ipLen + 8) quote >>= _) = _
  rw [hpayload, ok_bind, hchecksum]
  rfl

theorem length_message (transport : Bytes → ℕ) {rest : Bytes} (hstart : start.length = 2) :
    (message transport start rest).length = 4 + rest.length := by
  unfold message
  rw [List.length_append, List.length_append, hstart, length_be16]
  omega

theorem length_quotation (hheader : ipHeader.length = ipLen) :
    (quotation ipHeader sourcePort destinationPort originalLen quote).length = ipLen + 8 + quote.length := by
  unfold quotation
  simp only [List.length_append, hheader, Udp.length_front, List.length_cons, List.length_nil]
  omega

variable (start info) in
theorem writeError_eq {outer inner : ℕ → Bytes → Except Error (Bytes × ℕ)} {outerHeader : Bytes} {old rest : Bytes}
    (hstart : start.length = 2) (hinfo : info.length = 4)
    (hfields : laidOut 0 8 fields = start ++ ([0, 0] ++ info)) (hascending : Ascending 0 8 fields)
    (houterHeader : outerHeader.length = ipLen) (hheader : ipHeader.length = ipLen)
    (houter : ∀ old rest : Bytes, old.length = ipLen →
      outer (8 + (ipLen + 8 + quote.length)) (old ++ rest) = .ok (outerHeader ++ rest, ipLen))
    (hinner : ∀ old rest : Bytes, old.length = ipLen →
      inner (udpHeaderLen + originalLen) (old ++ rest) = .ok (ipHeader ++ rest, ipLen))
    (hlen : udpHeaderLen + originalLen ≤ u16Max)
    (hold : old.length = ipLen + (8 + (ipLen + 8 + quote.length))) :
    writeError ipLen outer inner fields transport sourcePort destinationPort quote originalLen (old ++ rest) =
      .ok (outerHeader ++ (message transport start
        (info ++ quotation ipHeader sourcePort destinationPort originalLen quote) ++ rest),
        ipLen + (8 + (ipLen + 8 + quote.length))) := by
  have hlong : ¬(old ++ rest).length < ipLen + (icmpHeaderLen + (ipLen + udpHeaderLen + quote.length)) := by
    rw [List.length_append, hold]
    unfold icmpHeaderLen udpHeaderLen
    omega
  have hfirst : (old.take ipLen).length = ipLen := by
    rw [List.length_take]
    omega
  have hicmp : (old.drop ipLen).length = 8 + (ipLen + 8 + quote.length) := by
    rw [List.length_drop]
    omega
  have hsplit : old ++ rest = old.take ipLen ++ (old.drop ipLen ++ rest) := by
    rw [← List.append_assoc, List.take_append_drop]
  have hlength : (message transport start
      (info ++ quotation ipHeader sourcePort destinationPort originalLen quote)).length = (old.drop ipLen).length := by
    rw [length_message transport hstart, List.length_append, hinfo, length_quotation hheader, hicmp]
    omega
  have hwithin := within_eq (show outerHeader ++ (old.drop ipLen ++ rest) = _ from rfl) houterHeader.symm
    (show ipLen + (8 + (ipLen + 8 + quote.length)) = outerHeader.length + _ by rw [houterHeader, hicmp])
    (writeMessage_eq hstart hinfo hfields hascending hheader hinner hicmp) hlength
  unfold writeError
  rw [if_neg hlong, if_neg (by omega), hsplit]
  change (outer (8 + (ipLen + 8 + quote.length)) _ >>= _) = _
  rw [houter _ _ hfirst, ok_bind]
  change (within (outerHeader ++ (old.drop ipLen ++ rest)) ipLen (ipLen + (8 + (ipLen + 8 + quote.length))) _ >>= _) = _
  rw [hwithin]
  rfl

end Message

def ipv4Start : UdpError → Bytes
  | .destinationUnreachable code => [3, code]
  | .packetTooBig _ => [3, 4]

def ipv4Info : UdpError → Bytes
  | .destinationUnreachable _ => [0, 0, 0, 0]
  | .packetTooBig mtu => [0, 0] ++ be16 (if mtu ≤ u16Max then mtu else u16Max)

def ipv6Start : UdpError → Bytes
  | .destinationUnreachable code => [1, code]
  | .packetTooBig _ => [2, 0]

def ipv6Info : UdpError → Bytes
  | .destinationUnreachable _ => [0, 0, 0, 0]
  | .packetTooBig mtu => beBytes 4 (BitVec.ofNat 32 mtu)

section Packets

variable {sourcePort destinationPort : UInt16} {quote old rest : Bytes} {originalLen : ℕ} {error : UdpError}

/-- The ICMP message of an IPv4 error. -/
def ipv4Message (source destination : BitVec 32) (sourcePort destinationPort : UInt16) (quote : Bytes)
    (originalLen : ℕ) (error : UdpError) : Bytes :=
  message Checksum.checksum (ipv4Start error) (ipv4Info error ++
    quotation (Ip.ipv4Header source destination Ip.protoUdp (8 + originalLen) 0) sourcePort destinationPort
      originalLen quote)

theorem length_ipv4Message {source destination : BitVec 32} :
    (ipv4Message source destination sourcePort destinationPort quote originalLen error).length =
      8 + (20 + 8 + quote.length) := by
  have hinfo : (ipv4Info error).length = 4 := by cases error <;> rfl
  unfold ipv4Message
  rw [length_message _ (by cases error <;> rfl), List.length_append, hinfo, length_quotation rfl,
    Ip.length_ipv4Header]
  omega

theorem writeIpv4UdpError_eq {source destination : BitVec 32} (hlen : 28 + originalLen ≤ u16Max)
    (hquote : quote.length ≤ 8) (hold : old.length = 20 + (8 + (20 + 8 + quote.length))) :
    writeIpv4UdpError (old ++ rest) source destination sourcePort destinationPort quote originalLen error =
      .ok ((Ip.ipv4Packet destination source Ip.protoIcmp 0
        (ipv4Message source destination sourcePort destinationPort quote originalLen error)).bytes ++ rest,
        20 + (8 + (20 + 8 + quote.length))) := by
  have hshort : 20 + (8 + (20 + 8 + quote.length)) ≤ u16Max := by
    unfold u16Max
    omega
  have hudp : udpHeaderLen + originalLen ≤ u16Max := by
    unfold udpHeaderLen
    omega
  have hquoted : 20 + (udpHeaderLen + originalLen) ≤ u16Max := by
    unfold udpHeaderLen
    omega
  unfold writeIpv4UdpError
  refine (writeError_eq (ipv4Start error) (ipv4Info error) (by cases error <;> rfl)
    (by cases error <;> rfl) (by cases error <;> rfl) (by cases error <;> simp [ipv4Fields, Ascending])
    Ip.length_ipv4Header Ip.length_ipv4Header (fun _ rest hold => Ip.writeIpv4Header_eq rest hold hshort)
    (fun _ rest hold => Ip.writeIpv4Header_eq rest hold hquoted) hudp hold).trans ?_
  unfold Ip.ipv4Packet
  rw [length_ipv4Message, List.append_assoc]
  rfl

/-- The ICMP message of an IPv6 error. -/
def ipv6Message (source destination : BitVec 128) (sourcePort destinationPort : UInt16) (quote : Bytes)
    (originalLen : ℕ) (error : UdpError) : Bytes :=
  message (ipv6Transport (beBytes 16 destination) (beBytes 16 source) Ip.protoIcmpv6) (ipv6Start error)
    (ipv6Info error ++ quotation (Ip.ipv6Header source destination Ip.protoUdp (8 + originalLen)) sourcePort
      destinationPort originalLen quote)

theorem length_ipv6Message {source destination : BitVec 128} :
    (ipv6Message source destination sourcePort destinationPort quote originalLen error).length =
      8 + (40 + 8 + quote.length) := by
  have hinfo : (ipv6Info error).length = 4 := by cases error <;> rfl
  unfold ipv6Message
  rw [length_message _ (by cases error <;> rfl), List.length_append, hinfo, length_quotation rfl,
    Ip.length_ipv6Header]
  omega

theorem writeIpv6UdpError_eq {source destination : BitVec 128} (hlen : 8 + originalLen ≤ u16Max)
    (hquote : quote.length ≤ 8) (hold : old.length = 40 + (8 + (40 + 8 + quote.length))) :
    writeIpv6UdpError (old ++ rest) source destination sourcePort destinationPort quote originalLen error =
      .ok ((Ip.ipv6Packet destination source Ip.protoIcmpv6
        (ipv6Message source destination sourcePort destinationPort quote originalLen error)).bytes ++ rest,
        40 + (8 + (40 + 8 + quote.length))) := by
  have hshort : 8 + (40 + 8 + quote.length) ≤ u16Max := by
    unfold u16Max
    omega
  unfold writeIpv6UdpError
  refine (writeError_eq (ipv6Start error) (ipv6Info error) (by cases error <;> rfl)
    (by cases error <;> rfl) (by cases error <;> rfl) (by cases error <;> simp [ipv6Fields, Ascending])
    Ip.length_ipv6Header Ip.length_ipv6Header (fun _ rest hold => Ip.writeIpv6Header_eq rest hold hshort)
    (fun _ rest hold => Ip.writeIpv6Header_eq rest hold hlen) hlen hold).trans ?_
  unfold Ip.ipv6Packet
  rw [length_ipv6Message, List.append_assoc]
  rfl

theorem exists_message {transport : Bytes → ℕ} {start info rest : Bytes} (hstart : start.length = 2)
    (hinfo : info.length = 4) :
    ∃ front, front.length = 8 ∧ message transport start (info ++ rest) = front ++ rest := by
  refine ⟨start ++ (be16 (transport (start ++ ([0, 0] ++ (info ++ rest)))) ++ info), ?_, ?_⟩
  · rw [List.length_append, List.length_append, hstart, hinfo, length_be16]
  · simp only [message, List.append_assoc]

theorem checksum_ipv4Message {source destination : BitVec 32} (hquote : quote.length ≤ 8) :
    Checksum.checksum (ipv4Message source destination sourcePort destinationPort quote originalLen error) = 0 := by
  have hlength : (ipv4Message source destination sourcePort destinationPort quote originalLen error).length =
      8 + (20 + 8 + quote.length) := length_ipv4Message
  have hstart : (ipv4Start error).length = 2 := by cases error <;> rfl
  unfold ipv4Message at hlength ⊢
  rw [length_message _ hstart] at hlength
  refine seeded_checksum.written (by rw [hstart]) (by rw [hstart]; omega) ?_
  cases error with
  | destinationUnreachable code =>
    change 0 < 0 + (beWord 3 code + 0)
    unfold beWord
    have hkind : (3 : UInt8).toNat = 3 := rfl
    omega
  | packetTooBig mtu => exact (by decide : 0 < 0 + wordSum [3, 4])

theorem transport_ipv6Message {source destination : BitVec 128} (hquote : quote.length ≤ 8) :
    ipv6Transport (beBytes 16 destination) (beBytes 16 source) Ip.protoIcmpv6
      (ipv6Message source destination sourcePort destinationPort quote originalLen error) = 0 := by
  have hlength : (ipv6Message source destination sourcePort destinationPort quote originalLen error).length =
      8 + (40 + 8 + quote.length) := length_ipv6Message
  have hstart : (ipv6Start error).length = 2 := by cases error <;> rfl
  unfold ipv6Message at hlength ⊢
  rw [length_message _ hstart] at hlength
  refine (seeded_ipv6 rfl rfl).written (by rw [hstart]) (by rw [hstart]; omega) ?_
  rw [ipv6Pseudo_eq rfl rfl]
  have hprotocol : 0 < Ip.protoIcmpv6.toNat := by decide
  omega

end Packets

end Icmp

end Yayatht.Packet
