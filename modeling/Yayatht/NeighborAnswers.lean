import Yayatht.FrameDecoding
import Yayatht.ReactorRun

set_option autoImplicit false

namespace Yayatht.Packet
open Wire Checksum

namespace Neighbor

def arpPacketLen : ℕ := 28

def arpFields (gatewayMac : MacAddress) (gatewayIp : BitVec 32) (request : ArpRequest) : List (ℕ × Bytes) :=
  [(0, [0, 1, 0x08, 0, 6, 4, 0, 2]), (8, beBytes 6 gatewayMac), (14, beBytes 4 gatewayIp),
    (18, beBytes 6 request.senderMac), (24, beBytes 4 request.senderIp)]

def writeArpReply (out : Bytes) (gatewayMac : MacAddress) (gatewayIp : BitVec 32) (request : ArpRequest) :
    Except Error (Bytes × ℕ) := do
  let len := ethernetHeaderLen + arpPacketLen
  if out.length < len then fail .truncated
  else
    let (out, _) ← Ethernet.writeHeader out request.senderMac gatewayMac .arp
    let (out, _) ← within out ethernetHeaderLen len fun arp => do
      let arp ← copyFields arp (arpFields gatewayMac gatewayIp request)
      pure (arp, ())
    pure (out, len)

def advertisementLen : ℕ := 32

/-- Over a zeroed message; the checksum is written last. -/
def advertisementFields (gatewayMac : MacAddress) (gatewayIp : BitVec 128) : List (ℕ × Bytes) :=
  [(0, [136]), (4, [0x60]), (8, beBytes 16 gatewayIp), (24, [2]), (25, [1]), (26, beBytes 6 gatewayMac)]

def writeNeighborAdvertisement (out : Bytes) (gatewayMac targetMac : MacAddress) (gatewayIp targetIp : BitVec 128) :
    Except Error (Bytes × ℕ) := do
  let len := ethernetHeaderLen + 40 + advertisementLen
  if out.length < len then fail .truncated
  else
    let (out, _) ← Ethernet.writeHeader out targetMac gatewayMac .ipv6
    let ipOffset := ethernetHeaderLen
    let (out, _) ← within out ipOffset out.length fun out =>
      Ip.writeIpv6Header out gatewayIp targetIp Ip.protoIcmpv6 advertisementLen
    let out ← copyAt out (ipOffset + 7) [255]
    let icmpOffset := ipOffset + 40
    let (out, _) ← within out icmpOffset (icmpOffset + advertisementLen) fun icmp => do
      let icmp ← copyFields icmp ((0, List.replicate icmp.length 0) :: advertisementFields gatewayMac gatewayIp)
      let value := ipv6Transport (beBytes 16 gatewayIp) (beBytes 16 targetIp) Ip.protoIcmpv6 icmp
      let icmp ← copyAt icmp 2 (be16 value)
      pure (icmp, ())
    pure (out, len)

section Written

variable {gatewayMac targetMac : MacAddress}

def arpReply (gatewayMac : MacAddress) (gatewayIp : BitVec 32) (request : ArpRequest) : Bytes :=
  [0, 1, 0x08, 0, 6, 4, 0, 2] ++ (beBytes 6 gatewayMac ++ (beBytes 4 gatewayIp ++
    (beBytes 6 request.senderMac ++ beBytes 4 request.senderIp)))

theorem writeArpReply_eq {old : Bytes} (rest : Bytes) (gatewayIp : BitVec 32) (request : ArpRequest)
    (hold : old.length = 42) : writeArpReply (old ++ rest) gatewayMac gatewayIp request =
    .ok (Ethernet.header request.senderMac gatewayMac .arp ++ arpReply gatewayMac gatewayIp request ++ rest, 42) := by
  obtain ⟨link, body, rfl, hlink⟩ := exists_append old (show 14 ≤ old.length by omega)
  have hbody : body.length = 28 := by
    rw [List.length_append] at hold
    omega
  have hlong : ¬(link ++ body ++ rest).length < 14 + 28 := by
    rw [List.length_append, List.length_append]
    omega
  let header := Ethernet.header request.senderMac gatewayMac .arp
  have hcontiguous : Contiguous ([] : Bytes).length (arpFields gatewayMac gatewayIp request) :=
    ⟨rfl, rfl, rfl, rfl, rfl, trivial⟩
  have hfields : copyFields body (arpFields gatewayMac gatewayIp request) =
      .ok (arpReply gatewayMac gatewayIp request) :=
    copyFields_contiguous (show body = [] ++ (body ++ []) by simp) hcontiguous hbody
  have hwithin : within (header ++ (body ++ rest)) 14 (14 + 28) (fun arp => do
      let arp ← copyFields arp (arpFields gatewayMac gatewayIp request)
      pure (arp, ())) = .ok (header ++ (arpReply gatewayMac gatewayIp request ++ rest), ()) := by
    refine within_eq rfl rfl (by rw [hbody]; rfl) ?_ (by rw [hbody]; rfl)
    rw [hfields]
    rfl
  unfold writeArpReply
  change (if (link ++ body ++ rest).length < 14 + 28 then _ else _) = _
  rw [if_neg hlong, List.append_assoc, Ethernet.writeHeader_eq (body ++ rest) _ _ _ hlink, ok_bind]
  change (within (header ++ (body ++ rest)) 14 (14 + 28) _ >>= _) = _
  rw [hwithin, ok_bind, List.append_assoc]
  rfl

def advertisementHeader (gatewayIp targetIp : BitVec 128) : Bytes :=
  [0x60, 0, 0, 0] ++ (be16 advertisementLen ++ ([Ip.protoIcmpv6, 255] ++ (beBytes 16 gatewayIp ++ beBytes 16 targetIp)))

def advertisementBack (gatewayMac : MacAddress) (gatewayIp : BitVec 128) : Bytes :=
  [0x60, 0, 0, 0] ++ (beBytes 16 gatewayIp ++ ([2, 1] ++ beBytes 6 gatewayMac))

def advertisementChecksum (gatewayMac : MacAddress) (gatewayIp targetIp : BitVec 128) : ℕ :=
  ipv6Transport (beBytes 16 gatewayIp) (beBytes 16 targetIp) Ip.protoIcmpv6
    ([136, 0] ++ ([0, 0] ++ advertisementBack gatewayMac gatewayIp))

def advertisement (gatewayMac : MacAddress) (gatewayIp targetIp : BitVec 128) : Bytes :=
  [136, 0] ++ (be16 (advertisementChecksum gatewayMac gatewayIp targetIp) ++ advertisementBack gatewayMac gatewayIp)

theorem transport_advertisement (gatewayMac : MacAddress) (gatewayIp targetIp : BitVec 128) :
    ipv6Transport (beBytes 16 gatewayIp) (beBytes 16 targetIp) Ip.protoIcmpv6
      (advertisement gatewayMac gatewayIp targetIp) = 0 := by
  refine (seeded_ipv6 rfl rfl).written rfl (by change 2 + (2 + 28) ≤ 65535; decide) ?_
  rw [ipv6Pseudo_eq rfl rfl]
  have hprotocol : 0 < Ip.protoIcmpv6.toNat := by decide
  omega

theorem writeNeighborAdvertisement_eq {old : Bytes} (rest : Bytes) (gatewayIp targetIp : BitVec 128)
    (hold : old.length = 86) : writeNeighborAdvertisement (old ++ rest) gatewayMac targetMac gatewayIp targetIp =
    .ok (Ethernet.header targetMac gatewayMac .ipv6 ++ (advertisementHeader gatewayIp targetIp ++
      advertisement gatewayMac gatewayIp targetIp) ++ rest, 86) := by
  obtain ⟨link, packet, rfl, hlink⟩ := exists_append old (show 14 ≤ old.length by omega)
  have hpacket : packet.length = 72 := by
    rw [List.length_append] at hold
    omega
  obtain ⟨ip, icmp, rfl, hip⟩ := exists_append packet (show 40 ≤ packet.length by omega)
  have hicmp : icmp.length = 32 := by
    rw [List.length_append] at hpacket
    omega
  have hlong : ¬(link ++ (ip ++ icmp) ++ rest).length < 14 + 40 + 32 := by
    simp only [List.length_append]
    omega
  let header := Ethernet.header targetMac gatewayMac .ipv6
  let written := Ip.ipv6Header gatewayIp targetIp Ip.protoIcmpv6 32
  have hkept : (written ++ (icmp ++ rest)).length = (ip ++ (icmp ++ rest)).length := by
    have hwritten : written.length = 40 := rfl
    simp only [List.length_append, hwritten, hip]
  have hwriteIp : within (header ++ (ip ++ (icmp ++ rest))) 14 (header ++ (ip ++ (icmp ++ rest))).length
      (fun out => Ip.writeIpv6Header out gatewayIp targetIp Ip.protoIcmpv6 32) =
      .ok (header ++ ((written ++ (icmp ++ rest)) ++ []), 40) :=
    within_eq (show _ = header ++ ((ip ++ (icmp ++ rest)) ++ []) by rw [List.append_nil]) rfl List.length_append
      (Ip.writeIpv6Header_eq (icmp ++ rest) hip (by decide)) hkept
  have hhop : copyAt (header ++ (written ++ (icmp ++ rest))) 21 [255] =
      .ok (header ++ (advertisementHeader gatewayIp targetIp ++ (icmp ++ rest))) :=
    copyAt_eq (show _ = (header ++ written.take 7) ++ ([64] ++
      (beBytes 16 gatewayIp ++ (beBytes 16 targetIp ++ (icmp ++ rest)))) from rfl) rfl rfl
  have hfields : copyFields icmp ((0, List.replicate icmp.length 0) :: advertisementFields gatewayMac gatewayIp) =
      .ok ([136, 0] ++ ([0, 0] ++ advertisementBack gatewayMac gatewayIp)) := by
    have hascending : Ascending 0 32 (advertisementFields gatewayMac gatewayIp) := by
      simp [Ascending, advertisementFields]
    have hcleared := copyFields_cleared [] hicmp hascending
    rw [List.append_nil] at hcleared
    rw [hicmp, hcleared, List.append_nil]
    rfl
  have hchecksum : copyAt ([136, 0] ++ ([0, 0] ++ advertisementBack gatewayMac gatewayIp)) 2
      (be16 (advertisementChecksum gatewayMac gatewayIp targetIp)) =
      .ok (advertisement gatewayMac gatewayIp targetIp) := copyAt_eq rfl rfl rfl
  have hmessage : within (header ++ (advertisementHeader gatewayIp targetIp ++ (icmp ++ rest))) 54 (54 + 32)
      (fun icmp => do
        let icmp ← copyFields icmp ((0, List.replicate icmp.length 0) :: advertisementFields gatewayMac gatewayIp)
        let value := ipv6Transport (beBytes 16 gatewayIp) (beBytes 16 targetIp) Ip.protoIcmpv6 icmp
        let icmp ← copyAt icmp 2 (be16 value)
        pure (icmp, ())) =
      .ok ((header ++ advertisementHeader gatewayIp targetIp) ++
        (advertisement gatewayMac gatewayIp targetIp ++ rest), ()) := by
    refine within_eq (List.append_assoc ..).symm rfl (by rw [hicmp]; rfl) ?_ (by rw [hicmp]; rfl)
    rw [hfields, ok_bind]
    change (copyAt _ 2 (be16 (advertisementChecksum gatewayMac gatewayIp targetIp)) >>= _) = _
    rw [hchecksum]
    rfl
  unfold writeNeighborAdvertisement
  change (if (link ++ (ip ++ icmp) ++ rest).length < 14 + 40 + 32 then _ else _) = _
  rw [if_neg hlong, List.append_assoc, List.append_assoc, Ethernet.writeHeader_eq (ip ++ (icmp ++ rest)) _ _ _ hlink,
    ok_bind]
  change (within (header ++ (ip ++ (icmp ++ rest))) 14 (header ++ (ip ++ (icmp ++ rest))).length
    (fun out => Ip.writeIpv6Header out gatewayIp targetIp Ip.protoIcmpv6 32) >>= _) = _
  rw [hwriteIp, ok_bind, List.append_nil]
  change (copyAt _ 21 [255] >>= _) = _
  rw [hhop, ok_bind]
  change (within _ 54 (54 + 32) _ >>= _) = _
  rw [hmessage, ok_bind]
  simp only [List.append_assoc]
  rfl

end Written

end Neighbor

namespace Ethernet

section Fields

variable {destination source : MacAddress} {etherType : EtherType} {packet : Bytes}

theorem parse_header : Frame.parse (header destination source etherType ++ packet) =
    .ok ⟨header destination source etherType ++ packet⟩ := by
  unfold Frame.parse ethernetHeaderLen
  rw [List.length_append, length_header]
  exact if_neg (by omega)

theorem destination_header : (Frame.mk (header destination source etherType ++ packet)).destination =
    .ok destination := by
  have hrange : range (header destination source etherType ++ packet) 0 6 = .ok (beBytes 6 destination) :=
    range_eq (show _ = [] ++ (beBytes 6 destination ++ _) from rfl) rfl rfl
  unfold Frame.destination
  rw [hrange, ok_bind, ofOctets_beBytes destination rfl]
  rfl

theorem source_header : (Frame.mk (header destination source etherType ++ packet)).source = .ok source := by
  have hrange : range (header destination source etherType ++ packet) 6 12 = .ok (beBytes 6 source) :=
    range_eq (show _ = beBytes 6 destination ++ (beBytes 6 source ++ _) from rfl) rfl rfl
  unfold Frame.source
  rw [hrange, ok_bind, ofOctets_beBytes source rfl]
  rfl

theorem etherType_header (hraw : etherType.raw ≤ u16Max) (hkind : EtherType.fromRaw etherType.raw = etherType) :
    (Frame.mk (header destination source etherType ++ packet)).etherType = .ok etherType := by
  have hword : wordAt (header destination source etherType ++ packet) 12 = .ok etherType.raw :=
    wordAt_be16 (show _ = (beBytes 6 destination ++ beBytes 6 source) ++ (be16 etherType.raw ++ packet) from rfl)
      rfl hraw
  unfold Frame.etherType
  rw [hword, ok_bind, hkind]
  rfl

theorem payload_header : (Frame.mk (header destination source etherType ++ packet)).payload = .ok packet :=
  range_eq (show _ = header destination source etherType ++ (packet ++ []) by rw [List.append_nil]) rfl
    List.length_append

theorem source_of_parse {bytes : Bytes} {frame : Frame} (h : Frame.parse bytes = .ok frame) :
    frame = ⟨bytes⟩ ∧ ∃ source, frame.source = .ok source := by
  unfold Frame.parse at h
  split at h
  · cases h
  · rename_i hlong
    cases h
    refine ⟨rfl, ofOctets 48 ((bytes.drop 6).take (12 - 6)), ?_⟩
    have hbounds : 6 ≤ 12 ∧ 12 ≤ bytes.length := by
      unfold ethernetHeaderLen at hlong
      omega
    unfold Frame.source range
    rw [if_pos hbounds]
    rfl

end Fields

end Ethernet

end Yayatht.Packet

namespace Yayatht.FrameBytes
open Wire Packet Checksum

/-- An ARP reply as the host that asked reads it. -/
structure ArpReply where
  destination : MacAddress
  source : MacAddress
  senderMac : MacAddress
  senderIp : BitVec 32
  targetMac : MacAddress
  targetIp : BitVec 32

def readArpReply (bytes : Bytes) : Except Error ArpReply := do
  let ethernet ← Ethernet.Frame.parse bytes
  match ← ethernet.etherType with
  | .arp =>
    let arp ← ethernet.payload
    if (← range arp 0 8) ≠ [0, 1, 0x08, 0, 6, 4, 0, 2] then fail .unsupported
    else
      pure
        { destination := ← ethernet.destination, source := ← ethernet.source,
          senderMac := ofOctets 48 (← range arp 8 14), senderIp := ofOctets 32 (← range arp 14 18),
          targetMac := ofOctets 48 (← range arp 18 24), targetIp := ofOctets 32 (← range arp 24 28) }
  | _ => fail .protocolMismatch

structure Advertisement where
  destination : MacAddress
  source : MacAddress
  sender : BitVec 128
  recipient : BitVec 128
  flags : UInt8
  target : BitVec 128
  linkLayer : MacAddress

/-- A resolver takes an advertisement that came over one link, whose checksum is right and
that has the address of the link layer. -/
def readAdvertisement (bytes : Bytes) : Except Error Advertisement := do
  let ethernet ← Ethernet.Frame.parse bytes
  match ← ethernet.etherType with
  | .ipv6 =>
    let packet ← Ip.Ipv6Packet.parse (← ethernet.payload)
    let icmp ← packet.payload
    let hopLimit ← byteAt packet.bytes 7
    let sender ← range packet.bytes 8 24
    let recipient ← range packet.bytes 24 40
    if packet.nextHeader ≠ Ip.protoIcmpv6 ∨ hopLimit ≠ 255 then fail .unsupported
    else if ipv6Transport sender recipient Ip.protoIcmpv6 icmp ≠ 0 then fail .invalidChecksum
    else
      let kind ← range icmp 0 2
      let option ← range icmp 24 26
      if kind ≠ [136, 0] ∨ option ≠ [2, 1] then fail .unsupported
      else
        pure
          { destination := ← ethernet.destination, source := ← ethernet.source, sender := ofOctets 128 sender,
            recipient := ofOctets 128 recipient, flags := ← byteAt icmp 4, target := ofOctets 128 (← range icmp 8 24),
            linkLayer := ofOctets 48 (← range icmp 26 32) }
  | _ => fail .protocolMismatch

theorem readArpReply_eq (gatewayMac : MacAddress) (gatewayIp : BitVec 32) (request : Neighbor.ArpRequest) :
    readArpReply (Ethernet.header request.senderMac gatewayMac .arp ++ Neighbor.arpReply gatewayMac gatewayIp request) =
      .ok
        { destination := request.senderMac, source := gatewayMac, senderMac := gatewayMac, senderIp := gatewayIp,
          targetMac := request.senderMac, targetIp := request.senderIp } := by
  let arp := Neighbor.arpReply gatewayMac gatewayIp request
  have hkind : range arp 0 8 = .ok [0, 1, 0x08, 0, 6, 4, 0, 2] :=
    range_eq (show arp = [] ++ ([0, 1, 0x08, 0, 6, 4, 0, 2] ++ _) from rfl) rfl rfl
  have hsenderMac : range arp 8 14 = .ok (beBytes 6 gatewayMac) :=
    range_eq (show arp = arp.take 8 ++ (beBytes 6 gatewayMac ++ _) from rfl) rfl rfl
  have hsenderIp : range arp 14 18 = .ok (beBytes 4 gatewayIp) :=
    range_eq (show arp = arp.take 14 ++ (beBytes 4 gatewayIp ++ _) from rfl) rfl rfl
  have htargetMac : range arp 18 24 = .ok (beBytes 6 request.senderMac) :=
    range_eq (show arp = arp.take 18 ++ (beBytes 6 request.senderMac ++ beBytes 4 request.senderIp) from rfl) rfl rfl
  have htargetIp : range arp 24 28 = .ok (beBytes 4 request.senderIp) :=
    range_eq (show arp = arp.take 24 ++ (beBytes 4 request.senderIp ++ []) from rfl) rfl rfl
  unfold readArpReply
  rw [Ethernet.parse_header, ok_bind, Ethernet.etherType_header (by decide) rfl, ok_bind]
  change (Ethernet.Frame.payload _ >>= _) = _
  rw [Ethernet.payload_header, ok_bind]
  change (range arp 0 8 >>= _) = _
  rw [hkind, ok_bind, if_neg (by decide), Ethernet.destination_header, ok_bind, Ethernet.source_header, ok_bind]
  change (range arp 8 14 >>= _) = _
  rw [hsenderMac, ok_bind]
  change (range arp 14 18 >>= _) = _
  rw [hsenderIp, ok_bind]
  change (range arp 18 24 >>= _) = _
  rw [htargetMac, ok_bind]
  change (range arp 24 28 >>= _) = _
  rw [htargetIp, ok_bind, ofOctets_beBytes gatewayMac rfl, ofOctets_beBytes gatewayIp rfl,
    ofOctets_beBytes request.senderMac rfl, ofOctets_beBytes request.senderIp rfl]
  rfl

theorem readAdvertisement_eq (gatewayMac targetMac : MacAddress) (gatewayIp targetIp : BitVec 128) :
    readAdvertisement (Ethernet.header targetMac gatewayMac .ipv6 ++
      (Neighbor.advertisementHeader gatewayIp targetIp ++ Neighbor.advertisement gatewayMac gatewayIp targetIp)) =
      .ok
        { destination := targetMac, source := gatewayMac, sender := gatewayIp, recipient := targetIp, flags := 0x60,
          target := gatewayIp, linkLayer := gatewayMac } := by
  let ip := Neighbor.advertisementHeader gatewayIp targetIp
  let icmp := Neighbor.advertisement gatewayMac gatewayIp targetIp
  have hparse : Ip.Ipv6Packet.parse (ip ++ icmp) = .ok ⟨ip ++ icmp, 40, 40 + 32, Ip.protoIcmpv6⟩ :=
    Ip.Ipv6Packet.parse_eq rfl (wordAt_be16 (show ip ++ icmp = ip.take 4 ++ (be16 32 ++ _) from rfl) rfl (by decide))
      (Nat.le_refl 72) rfl rfl (by decide)
  have hpayload : (Ip.Ipv6Packet.mk (ip ++ icmp) 40 (40 + 32) Ip.protoIcmpv6).payload = .ok icmp :=
    range_eq (show _ = ip ++ (icmp ++ []) by rw [List.append_nil]) rfl rfl
  have hhop : byteAt (ip ++ icmp) 7 = .ok 255 := rfl
  have hsender : range (ip ++ icmp) 8 24 = .ok (beBytes 16 gatewayIp) :=
    range_eq (show _ = ip.take 8 ++ (beBytes 16 gatewayIp ++ (beBytes 16 targetIp ++ icmp)) from rfl) rfl rfl
  have hrecipient : range (ip ++ icmp) 24 40 = .ok (beBytes 16 targetIp) :=
    range_eq (show _ = ip.take 24 ++ (beBytes 16 targetIp ++ icmp) from rfl) rfl rfl
  have hkind : range icmp 0 2 = .ok [136, 0] := range_eq (show icmp = [] ++ ([136, 0] ++ _) from rfl) rfl rfl
  have htarget : range icmp 8 24 = .ok (beBytes 16 gatewayIp) :=
    range_eq (show icmp = icmp.take 8 ++ (beBytes 16 gatewayIp ++ _) from rfl) rfl rfl
  have hflags : byteAt icmp 4 = .ok 0x60 := rfl
  have hoption : range icmp 24 26 = .ok [2, 1] :=
    range_eq (show icmp = icmp.take 24 ++ ([2, 1] ++ _) from rfl) rfl rfl
  have hlink : range icmp 26 32 = .ok (beBytes 6 gatewayMac) :=
    range_eq (show icmp = icmp.take 26 ++ (beBytes 6 gatewayMac ++ []) from rfl) rfl rfl
  unfold readAdvertisement
  rw [Ethernet.parse_header, ok_bind, Ethernet.etherType_header (by decide) rfl, ok_bind]
  change (Ethernet.Frame.payload _ >>= _) = _
  rw [Ethernet.payload_header, ok_bind, hparse, ok_bind, hpayload, ok_bind]
  change (byteAt (ip ++ icmp) 7 >>= _) = _
  rw [hhop, ok_bind]
  change (range (ip ++ icmp) 8 24 >>= _) = _
  rw [hsender, ok_bind]
  change (range (ip ++ icmp) 24 40 >>= _) = _
  rw [hrecipient, ok_bind, if_neg (not_or.mpr ⟨not_not.mpr rfl, not_not.mpr rfl⟩),
    if_neg (not_not.mpr (Neighbor.transport_advertisement ..))]
  rw [hkind, ok_bind, hoption, ok_bind, if_neg (by decide), Ethernet.destination_header, ok_bind,
    Ethernet.source_header, ok_bind]
  rw [hflags, ok_bind, htarget, ok_bind, hlink, ok_bind, ofOctets_beBytes gatewayMac rfl,
    ofOctets_beBytes gatewayIp rfl, ofOctets_beBytes targetIp rfl]
  rfl

section Answers

variable (cfg : Config) (macs : Macs)

/-- A buffer of the pool with a cleared virtio header and what `write` puts behind it. -/
def answering (buffer : Bytes) (write : Bytes → Except Error (Bytes × ℕ)) : Except Error (Option Bytes) := do
  let bytes ← copyAt buffer 0 (List.replicate cfg.vnetLen 0)
  let (bytes, length) ← within bytes cfg.vnetLen bytes.length write
  pure (some (← range bytes 0 (cfg.vnetLen + length)))

def handleArp (buffer : Bytes) (ethernet : Ethernet.Frame) : Except Error (Option Bytes) :=
  match cfg.gatewayIpv4 with
  | none => pure none
  | some gateway => do
    let request ← Neighbor.parseArpRequest (← ethernet.payload)
    if request.targetIp ≠ gateway then pure none
    else answering cfg buffer fun out => Neighbor.writeArpReply out macs.gateway gateway request

/-- What `handle_ipv6` answers itself. -/
def handleSolicitation (buffer : Bytes) (ethernet : Ethernet.Frame) : Except Error (Option Bytes) := do
  let packet ← Ip.Ipv6Packet.parse (← ethernet.payload)
  if packet.nextHeader = Ip.protoIcmpv6 then
    let payload ← packet.payload
    if payload.head? ≠ some 135 then pure none
    else
      match cfg.gatewayIpv6 with
      | none => pure none
      | some gateway => do
        let target ← Neighbor.parseNeighborSolicitation packet
        if target ≠ gateway then pure none
        else
          let mac ← ethernet.source
          let source ← packet.source
          answering cfg buffer fun out => Neighbor.writeNeighborAdvertisement out macs.gateway mac gateway source
  else pure none

/-- What `handle_frame` answers before the handlers of TCP and UDP. -/
def answer (buffer received : Bytes) : Except Error (Option Bytes) := do
  let ethernet ← Ethernet.Frame.parse received
  match ← ethernet.etherType with
  | .arp => handleArp cfg macs buffer ethernet
  | .ipv6 => handleSolicitation cfg macs buffer ethernet
  | _ => pure none

/-- The frame asks for an address of the gateway. -/
def Asks : TapFrame → Prop
  | .arpRequest target => cfg.gatewayIpv4 = some target
  | .neighborSolicitation target _ => cfg.gatewayIpv6 = some target
  | _ => False

variable {cfg : Config} {macs : Macs} {buffer received : Bytes} {frame : TapFrame} {verify : Bool}

theorem answering_eq {reply : Bytes} {write : Bytes → Except Error (Bytes × ℕ)}
    (hroom : cfg.vnetLen + reply.length ≤ buffer.length)
    (hwrite : ∀ old rest, old.length = reply.length → write (old ++ rest) = .ok (reply ++ rest, reply.length)) :
    answering cfg buffer write = .ok (some (List.replicate cfg.vnetLen 0 ++ reply)) := by
  obtain ⟨vnet, body, rfl, hvnet⟩ := exists_append buffer (show cfg.vnetLen ≤ buffer.length by omega)
  rw [List.length_append, hvnet] at hroom
  obtain ⟨old, rest, rfl, hold⟩ := exists_append body (show reply.length ≤ body.length by omega)
  let cleared := List.replicate cfg.vnetLen (0 : UInt8)
  have hclear : copyAt (vnet ++ (old ++ rest)) 0 cleared = .ok (cleared ++ (old ++ rest)) :=
    copyAt_eq (show _ = [] ++ (vnet ++ (old ++ rest)) from rfl) rfl (by rw [List.length_replicate, hvnet])
  have hwithin : within (cleared ++ (old ++ rest)) cfg.vnetLen (cleared ++ (old ++ rest)).length write =
      .ok (cleared ++ ((reply ++ rest) ++ []), reply.length) :=
    within_eq (show _ = cleared ++ ((old ++ rest) ++ []) by rw [List.append_nil]) List.length_replicate.symm
      List.length_append (hwrite old rest hold) (by rw [List.length_append, List.length_append, hold])
  have hrange : range (cleared ++ ((reply ++ rest) ++ [])) 0 (cfg.vnetLen + reply.length) = .ok (cleared ++ reply) :=
    range_eq (show _ = [] ++ ((cleared ++ reply) ++ rest) by simp) rfl (by
      rw [List.length_nil, Nat.zero_add, List.length_append, List.length_replicate])
  unfold answering
  rw [hclear, ok_bind]
  change (within _ _ _ write >>= _) = _
  rw [hwithin, ok_bind]
  change (range _ 0 _ >>= _) = _
  rw [hrange]
  rfl

/-- Whatever comes of it does not ask for the gateway. -/
def Quiet (cfg : Config) (m : Except Error TapFrame) : Prop := ∀ frame, m = .ok frame → ¬ Asks cfg frame

theorem Quiet.bind {α : Type} {m : Except Error α} {next : α → Except Error TapFrame}
    (h : ∀ a, Quiet cfg (next a)) : Quiet cfg (m >>= next) := by
  intro frame hframe
  cases m with
  | error error => cases hframe
  | ok a => exact h a frame hframe

theorem Quiet.pure (h : ¬ Asks cfg frame) : Quiet cfg (.ok frame) := by
  intro other hother
  cases hother
  exact h

theorem Quiet.error (error : Error) : Quiet cfg (.error error) := by
  intro frame hframe
  cases hframe

theorem quiet_decodeIpv4 (cfg : Config) (ethernet : Ethernet.Frame) (verify : Bool) :
    Quiet cfg (decodeIpv4 ethernet verify) := by
  unfold decodeIpv4
  refine .bind fun payload => .bind fun packet => .bind fun protocol => ?_
  split
  · exact .bind fun datagram => .bind fun source => .bind fun destination => .bind fun port => .bind fun port' =>
      .bind fun message => .pure id
  split
  · exact .pure id
  · exact .bind fun segment => .bind fun source => .bind fun destination => .bind fun read => .pure id

theorem room_of_capacity (hbuffer : buffer.length = cfg.mtuFrameCapacity) : cfg.vnetLen + 86 ≤ buffer.length := by
  have htap := cfg.tapMtu_ge
  unfold Config.mtuFrameCapacity ethernetHeaderLen at hbuffer
  omega

/-- No frame is sent in answer to what was read. -/
def Unanswered (cfg : Config) (answered : Except Error (Option Bytes)) (read : Except Error TapFrame) : Prop :=
  (∀ reply, answered ≠ .ok (some reply)) ∧ Quiet cfg read

theorem Unanswered.none {read : Except Error TapFrame} (h : Quiet cfg read) : Unanswered cfg (.ok none) read :=
  ⟨fun reply hreply => (by cases hreply), h⟩

theorem Unanswered.error (error error' : Error) : Unanswered cfg (.error error) (.error error') :=
  ⟨fun reply hreply => (by cases hreply), .error error'⟩

theorem handleArp_cases (macs : Macs) (hbuffer : buffer.length = cfg.mtuFrameCapacity) (ethernet : Ethernet.Frame) :
    Unanswered cfg (handleArp cfg macs buffer ethernet) (decodeArp cfg ethernet) ∨
      ∃ request, (ethernet.payload >>= Neighbor.parseArpRequest) = .ok request ∧
        decodeArp cfg ethernet = .ok (.arpRequest request.targetIp) ∧ cfg.gatewayIpv4 = some request.targetIp ∧
        handleArp cfg macs buffer ethernet = .ok (some (List.replicate cfg.vnetLen 0 ++
          (Ethernet.header request.senderMac macs.gateway .arp ++
            Neighbor.arpReply macs.gateway request.targetIp request))) := by
  have hroom := room_of_capacity hbuffer
  unfold decodeArp handleArp
  cases hgateway : cfg.gatewayIpv4 with
  | none => exact .inl (.none (.pure id))
  | some gateway =>
    change Unanswered cfg _ (ethernet.payload >>= fun payload => Neighbor.parseArpRequest payload >>= _) ∨
      ∃ request, _ ∧ (ethernet.payload >>= fun payload => Neighbor.parseArpRequest payload >>= _) = _ ∧ _
    cases ethernet.payload with
    | error error => exact .inl (.error error error)
    | ok payload =>
      simp only [ok_bind]
      cases hrequest : Neighbor.parseArpRequest payload with
      | error error => exact .inl (.error error error)
      | ok request =>
        simp only [ok_bind]
        by_cases htarget : request.targetIp = gateway
        · refine .inr ⟨request, rfl, rfl, by rw [htarget], ?_⟩
          rw [if_neg (not_not.mpr htarget), htarget]
          refine answering_eq (Nat.le_trans (Nat.add_le_add_left (show 42 ≤ 86 by decide) _) hroom) ?_
          exact fun old rest hold => Neighbor.writeArpReply_eq rest gateway request hold
        · rw [if_pos htarget]
          refine .inl (.none (.pure fun hasks => ?_))
          unfold Asks at hasks
          rw [hgateway] at hasks
          exact htarget (Option.some.inj hasks).symm

theorem handleSolicitation_cases (macs : Macs) (hbuffer : buffer.length = cfg.mtuFrameCapacity)
    {ethernet : Ethernet.Frame} {mac : MacAddress} (hmac : ethernet.source = .ok mac) (verify : Bool) :
    Unanswered cfg (handleSolicitation cfg macs buffer ethernet) (decodeIpv6 cfg ethernet verify) ∨
      ∃ target source, decodeIpv6 cfg ethernet verify = .ok (.neighborSolicitation target source) ∧
        cfg.gatewayIpv6 = some target ∧ handleSolicitation cfg macs buffer ethernet =
          .ok (some (List.replicate cfg.vnetLen 0 ++ (Ethernet.header mac macs.gateway .ipv6 ++
            (Neighbor.advertisementHeader target source ++ Neighbor.advertisement macs.gateway target source)))) := by
  have hroom := room_of_capacity hbuffer
  unfold decodeIpv6 handleSolicitation
  cases ethernet.payload with
  | error error => exact .inl (.error error error)
  | ok bytes =>
    simp only [ok_bind]
    cases Ip.Ipv6Packet.parse bytes with
    | error error => exact .inl (.error error error)
    | ok packet =>
      simp only [ok_bind]
      by_cases hicmp : packet.nextHeader = Ip.protoIcmpv6
      · simp only [if_pos hicmp]
        cases packet.payload with
        | error error => exact .inl (.error error error)
        | ok payload =>
          simp only [ok_bind]
          by_cases hkind : payload.head? ≠ some 135
          · rw [if_pos hkind, if_pos (.inl hkind)]
            exact .inl (.none (.pure id))
          · rw [if_neg hkind]
            cases hgateway : cfg.gatewayIpv6 with
            | none => exact .inl (.none (by rw [if_pos (.inr rfl)]; exact .pure id))
            | some gateway =>
              rw [if_neg (by simp [hkind])]
              cases Neighbor.parseNeighborSolicitation packet with
              | error error => exact .inl (.error error error)
              | ok target =>
                simp only [ok_bind]
                by_cases hasked : target = gateway
                · rw [if_neg (not_not.mpr hasked), hmac, ok_bind]
                  cases packet.source with
                  | error error => exact .inl (.error error error)
                  | ok source =>
                    refine .inr ⟨target, source, rfl, by rw [hasked], ?_⟩
                    rw [ok_bind, hasked]
                    refine answering_eq hroom fun old rest hold => ?_
                    exact Neighbor.writeNeighborAdvertisement_eq rest gateway source hold
                · rw [if_pos hasked]
                  refine .inl (.none (.bind fun source => .pure fun hasks => ?_))
                  unfold Asks at hasks
                  rw [hgateway] at hasks
                  exact hasked (Option.some.inj hasks).symm
      · simp only [if_neg hicmp]
        refine .inl (.none ?_)
        split
        · exact .bind fun datagram => .bind fun source => .bind fun destination => .bind fun port =>
            .bind fun port' => .bind fun message => .pure id
        split
        · exact .pure id
        · exact .bind fun segment => .bind fun source => .bind fun destination => .bind fun read => .pure id

theorem answer_cases (macs : Macs) (hbuffer : buffer.length = cfg.mtuFrameCapacity) (received : Bytes) (verify : Bool) :
    Unanswered cfg (answer cfg macs buffer received) (decodeEthernet cfg received verify) ∨
      (∃ request, ((Ethernet.Frame.mk received).payload >>= Neighbor.parseArpRequest) = .ok request ∧
        decodeEthernet cfg received verify = .ok (.arpRequest request.targetIp) ∧
        cfg.gatewayIpv4 = some request.targetIp ∧ answer cfg macs buffer received =
          .ok (some (List.replicate cfg.vnetLen 0 ++ (Ethernet.header request.senderMac macs.gateway .arp ++
            Neighbor.arpReply macs.gateway request.targetIp request)))) ∨
      ∃ mac target source, (Ethernet.Frame.mk received).source = .ok mac ∧
        decodeEthernet cfg received verify = .ok (.neighborSolicitation target source) ∧
        cfg.gatewayIpv6 = some target ∧ answer cfg macs buffer received =
          .ok (some (List.replicate cfg.vnetLen 0 ++ (Ethernet.header mac macs.gateway .ipv6 ++
            (Neighbor.advertisementHeader target source ++ Neighbor.advertisement macs.gateway target source)))) := by
  unfold decodeEthernet answer
  cases hparse : Ethernet.Frame.parse received with
  | error error => exact .inl (.error error error)
  | ok ethernet =>
    obtain ⟨rfl, mac, hmac⟩ := Ethernet.source_of_parse hparse
    simp only [ok_bind]
    cases (Ethernet.Frame.mk received).etherType with
    | error error => exact .inl (.error error error)
    | ok etherType =>
      simp only [ok_bind]
      cases etherType with
      | arp => exact (handleArp_cases macs hbuffer ⟨received⟩).imp_right .inl
      | ipv4 => exact .inl (.none (quiet_decodeIpv4 cfg _ verify))
      | ipv6 =>
        refine (handleSolicitation_cases macs hbuffer hmac verify).imp_right fun hasked => ?_
        obtain ⟨target, source, hdecode, hgateway, hanswer⟩ := hasked
        exact .inr ⟨mac, target, source, hmac, hdecode, hgateway, hanswer⟩
      | other raw => exact .inl (.none (.pure id))

/-- Whatever was in the buffer of the pool: only a request for an address of the gateway is
answered, and the host that asked reads the answer as that address. -/
theorem gateway_answered (hbuffer : buffer.length = cfg.mtuFrameCapacity) :
    (∀ reply, answer cfg macs buffer received = .ok (some reply) →
      ∃ frame, decodeEthernet cfg received verify = .ok frame ∧ Asks cfg frame) ∧
      (∀ target, decodeEthernet cfg received verify = .ok (.arpRequest target) → cfg.gatewayIpv4 = some target →
        ∃ request reply, ((Ethernet.Frame.mk received).payload >>= Neighbor.parseArpRequest) = .ok request ∧
          answer cfg macs buffer received = .ok (some (List.replicate cfg.vnetLen 0 ++ reply)) ∧
          reply.length = Reactor.arpReplyLen ∧
          readArpReply reply = .ok
            { destination := request.senderMac, source := macs.gateway, senderMac := macs.gateway,
              senderIp := target, targetMac := request.senderMac, targetIp := request.senderIp }) ∧
      ∀ target source, decodeEthernet cfg received verify = .ok (.neighborSolicitation target source) →
        cfg.gatewayIpv6 = some target →
        ∃ mac reply, (Ethernet.Frame.mk received).source = .ok mac ∧
          answer cfg macs buffer received = .ok (some (List.replicate cfg.vnetLen 0 ++ reply)) ∧
          reply.length = Reactor.neighborAdvertisementLen ∧
          readAdvertisement reply = .ok
            { destination := mac, source := macs.gateway, sender := target, recipient := source, flags := 0x60,
              target := target, linkLayer := macs.gateway } := by
  rcases answer_cases macs hbuffer received verify with
    ⟨hnone, hquiet⟩ | ⟨request, hrequest, hdecode, hgateway, hanswer⟩ |
      ⟨mac, target, source, hmac, hdecode, hgateway, hanswer⟩
  · refine ⟨fun reply hreply => absurd hreply (hnone reply), fun target hdecode hgateway => ?_,
      fun target source hdecode hgateway => ?_⟩
    · exact absurd hgateway (hquiet _ hdecode)
    · exact absurd hgateway (hquiet _ hdecode)
  · refine ⟨fun _ _ => ⟨_, hdecode, hgateway⟩, fun target hasked _ => ?_, fun target source hasked _ => ?_⟩
    · cases hdecode.symm.trans hasked
      exact ⟨request, _, hrequest, hanswer, rfl, readArpReply_eq ..⟩
    · cases hdecode.symm.trans hasked
  · refine ⟨fun _ _ => ⟨_, hdecode, hgateway⟩, fun target hasked _ => ?_, fun target source hasked _ => ?_⟩
    · cases hdecode.symm.trans hasked
    · cases hdecode.symm.trans hasked
      exact ⟨mac, _, hmac, hanswer, rfl, readAdvertisement_eq ..⟩

end Answers

/-- A host at 192.0.2.2 asks who has 192.0.2.1. -/
def askingFrame : Bytes :=
  [0xff, 0xff, 0xff, 0xff, 0xff, 0xff, 0x02, 0x79, 0x61, 0x79, 0x61, 0x02, 0x08, 0x06,
    0, 1, 0x08, 0, 6, 4, 0, 1, 0x02, 0x79, 0x61, 0x79, 0x61, 0x02, 192, 0, 2, 2, 0, 0, 0, 0, 0, 0, 192, 0, 2, 1]

/-- And one at fe80::2 solicits fe80::1. -/
def solicitingFrame : Bytes :=
  [0x33, 0x33, 0xff, 0, 0, 1, 0x02, 0x79, 0x61, 0x79, 0x61, 0x02, 0x86, 0xdd, 0x60, 0, 0, 0, 0, 24, 58, 255,
    0xfe, 0x80, 0, 0, 0, 0, 0, 0, 0, 0, 0, 0, 0, 0, 0, 2, 0xff, 2, 0, 0, 0, 0, 0, 0, 0, 0, 0, 1, 0xff, 0, 0, 1,
    135, 0, 125, 162, 0, 0, 0, 0, 0xfe, 0x80, 0, 0, 0, 0, 0, 0, 0, 0, 0, 0, 0, 0, 0, 1]

/-- The gateway is 192.0.2.1 and fe80::1. -/
def gatewayConfig : Config :=
  { Config.sample (.direct false) with
    gatewayIpv6 := some 0xfe800000000000000000000000000001#128
    tapMtu := 1280
    tapMtu_ge := by decide
    tapMtu_le := by decide }

def gatewayMacs : Macs := ⟨0x027961796102, 0x027961796101⟩

theorem gateway_answered_both :
    (∃ reply, answer gatewayConfig gatewayMacs (List.replicate gatewayConfig.mtuFrameCapacity 0) askingFrame =
        .ok (some reply) ∧ readArpReply reply = .ok
          { destination := 0x027961796102, source := 0x027961796101, senderMac := 0x027961796101,
            senderIp := 0xc0000201, targetMac := 0x027961796102, targetIp := 0xc0000202 }) ∧
      ∃ reply, answer gatewayConfig gatewayMacs (List.replicate gatewayConfig.mtuFrameCapacity 0) solicitingFrame =
        .ok (some reply) ∧ readAdvertisement reply = .ok
          { destination := 0x027961796102, source := 0x027961796101,
            sender := 0xfe800000000000000000000000000001, recipient := 0xfe800000000000000000000000000002,
            flags := 0x60, target := 0xfe800000000000000000000000000001, linkLayer := 0x027961796101 } := by
  have hrequest : ((Ethernet.Frame.mk askingFrame).payload >>= Neighbor.parseArpRequest) =
      .ok ⟨0x027961796102, 0xc0000202, 0xc0000201⟩ := rfl
  have harp : decodeEthernet gatewayConfig askingFrame true = .ok (.arpRequest 0xc0000201) := rfl
  have hsolicited : decodeEthernet gatewayConfig solicitingFrame true = .ok
      (.neighborSolicitation 0xfe800000000000000000000000000001 0xfe800000000000000000000000000002) := by
    with_unfolding_all rfl
  have hsource : (Ethernet.Frame.mk solicitingFrame).source = .ok 0x027961796102 := rfl
  obtain ⟨request, arp, hasked, harpAnswer, -, harpRead⟩ :=
    (gateway_answered List.length_replicate).2.1 0xc0000201 harp rfl
  obtain ⟨mac, advertisement, hmac, hanswer, -, hread⟩ :=
    (gateway_answered List.length_replicate).2.2 _ _ hsolicited rfl
  rw [hrequest] at hasked
  cases hasked
  rw [hsource] at hmac
  cases hmac
  exact ⟨⟨arp, harpAnswer, harpRead⟩, advertisement, hanswer, hread⟩

end Yayatht.FrameBytes
