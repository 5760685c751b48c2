import Yayatht.TransportHeaders
import Yayatht.FrameBytes

set_option autoImplicit false

namespace Yayatht.FrameBytes
open Wire Packet Checksum

variable {cfg : Config} {macs : Macs}

theorem vnetLen_eq_zero (h : cfg.tapOffload = false) : cfg.vnetLen = 0 := by
  unfold Config.vnetLen
  rw [h]
  rfl

theorem writeLink_eq (hplain : cfg.tapOffload = false) {old rest : Bytes} (address : SocketAddr)
    (hold : old.length = 14) : writeLink cfg macs (old ++ rest) address =
    .ok (Ethernet.header macs.target macs.gateway (etherTypeOf address) ++ rest) := by
  have hclear : copyAt (old ++ rest) 0 (List.replicate 0 0) = .ok ([] ++ ([] ++ (old ++ rest))) :=
    copyAt_eq (show old ++ rest = [] ++ ([] ++ (old ++ rest)) from rfl) rfl rfl
  have hlength : (Ethernet.header macs.target macs.gateway (etherTypeOf address) ++ rest).length =
      (old ++ rest).length := by
    rw [List.length_append, List.length_append, hold, Ethernet.length_header]
  have hwithin : within (old ++ rest) 0 (old ++ rest).length
      (fun out => Ethernet.writeHeader out macs.target macs.gateway (etherTypeOf address)) =
      .ok ([] ++ ((Ethernet.header macs.target macs.gateway (etherTypeOf address) ++ rest) ++ []), ()) :=
    within_eq (show old ++ rest = [] ++ ((old ++ rest) ++ []) from (List.append_nil _).symm) rfl
      (Nat.zero_add _).symm (Ethernet.writeHeader_eq rest _ _ _ hold) hlength
  unfold writeLink
  rw [vnetLen_eq_zero hplain, hclear, ok_bind]
  change (within (old ++ rest) 0 (old ++ rest).length _ >>= _) = _
  rw [hwithin, ok_bind, List.append_nil]
  rfl

def ethernetFrame (macs : Macs) (address : SocketAddr) (packet : Bytes) : Bytes :=
  Ethernet.header macs.target macs.gateway (etherTypeOf address) ++ packet

section Link

variable {address : SocketAddr} {packet : Bytes}

theorem parse_ethernetFrame :
    Ethernet.Frame.parse (ethernetFrame macs address packet) = .ok ⟨ethernetFrame macs address packet⟩ := by
  unfold Ethernet.Frame.parse ethernetFrame ethernetHeaderLen
  rw [List.length_append, Ethernet.length_header]
  exact if_neg (by omega)

theorem destination_ethernetFrame :
    (Ethernet.Frame.mk (ethernetFrame macs address packet)).destination = .ok macs.target := by
  have hrange : range (ethernetFrame macs address packet) 0 6 = .ok (beBytes 6 macs.target) :=
    range_eq (show _ = [] ++ (beBytes 6 macs.target ++ _) from rfl) rfl rfl
  unfold Ethernet.Frame.destination
  rw [hrange, ok_bind, ofOctets_beBytes macs.target rfl]
  rfl

theorem source_ethernetFrame :
    (Ethernet.Frame.mk (ethernetFrame macs address packet)).source = .ok macs.gateway := by
  have hrange : range (ethernetFrame macs address packet) 6 12 = .ok (beBytes 6 macs.gateway) :=
    range_eq (show _ = beBytes 6 macs.target ++ (beBytes 6 macs.gateway ++ _) from rfl) rfl rfl
  unfold Ethernet.Frame.source
  rw [hrange, ok_bind, ofOctets_beBytes macs.gateway rfl]
  rfl

theorem etherType_ethernetFrame :
    (Ethernet.Frame.mk (ethernetFrame macs address packet)).etherType = .ok (etherTypeOf address) := by
  have hraw : (etherTypeOf address).raw ≤ u16Max := by
    unfold etherTypeOf
    split <;> decide
  have hkind : Ethernet.EtherType.fromRaw (etherTypeOf address).raw = etherTypeOf address := by
    unfold etherTypeOf
    split <;> rfl
  have hword : wordAt (ethernetFrame macs address packet) 12 = .ok (etherTypeOf address).raw :=
    wordAt_be16 (show _ = (beBytes 6 macs.target ++ beBytes 6 macs.gateway) ++
      (be16 (etherTypeOf address).raw ++ packet) from rfl) rfl hraw
  unfold Ethernet.Frame.etherType
  rw [hword, ok_bind, hkind]
  rfl

theorem payload_ethernetFrame :
    (Ethernet.Frame.mk (ethernetFrame macs address packet)).payload = .ok packet := by
  refine range_eq (show _ = Ethernet.header macs.target macs.gateway (etherTypeOf address) ++ (packet ++ []) by
    rw [List.append_nil]; rfl) rfl ?_
  exact List.length_append

theorem decodeFrame_ipv4 (hplain : cfg.tapOffload = false) (haddress : address.isIpv4 = true) {frame : TapFrame}
    (h : decodeIpv4 ⟨ethernetFrame macs address packet⟩ true = .ok frame) :
    decodeFrame cfg (ethernetFrame macs address packet) = .frame false frame := by
  have hdecode : decodeEthernet cfg (ethernetFrame macs address packet) true = .ok frame := by
    unfold decodeEthernet
    rw [parse_ethernetFrame, ok_bind, etherType_ethernetFrame, ok_bind]
    unfold etherTypeOf
    rw [if_pos haddress]
    exact h
  unfold decodeFrame splitRxVnet
  rw [if_pos (vnetLen_eq_zero hplain)]
  simp only [pure, Except.pure, hdecode]

theorem decodeFrame_ipv6 (hplain : cfg.tapOffload = false) (haddress : address.isIpv4 = false) {frame : TapFrame}
    (h : decodeIpv6 cfg ⟨ethernetFrame macs address packet⟩ true = .ok frame) :
    decodeFrame cfg (ethernetFrame macs address packet) = .frame false frame := by
  have hdecode : decodeEthernet cfg (ethernetFrame macs address packet) true = .ok frame := by
    unfold decodeEthernet
    rw [parse_ethernetFrame, ok_bind, etherType_ethernetFrame, ok_bind]
    unfold etherTypeOf
    rw [if_neg (by rw [haddress]; decide)]
    exact h
  unfold decodeFrame splitRxVnet
  rw [if_pos (vnetLen_eq_zero hplain)]
  simp only [pure, Except.pure, hdecode]

end Link

section Tcp

variable {address : SocketAddr} {header : Tcp.HeaderSpec} {payload : Bytes}

/-- What a segment with this header reads as. -/
def arrived (header : Tcp.HeaderSpec) (payload : Bytes) : TcpSegment where
  sourcePort := header.sourcePort
  destinationPort := header.destinationPort
  sequence := header.sequence
  acknowledgment := header.acknowledgment
  flags := header.flags
  window := header.window
  mss := header.mss
  windowScale := header.windowScale
  payload := payload

theorem decode_tcpV4 (hplain : cfg.tapOffload = false) (haddress : address.isIpv4 = true) {source destination : BitVec 32}
    (hlen : 20 + (Tcp.headerLen header.mss header.windowScale + payload.length) ≤ u16Max) :
    let value := Tcp.checksumValue (ipv4Transport (beBytes 4 source) (beBytes 4 destination) 6) header payload
    decodeFrame cfg (ethernetFrame macs address (Ip.ipv4Packet source destination Ip.protoTcp 0
      (Tcp.segment header value payload).bytes).bytes) =
      .frame false (.tcpV4 source destination (arrived header payload)) := by
  intro value
  apply decodeFrame_ipv4 hplain haddress
  unfold decodeIpv4
  rw [payload_ethernetFrame, ok_bind, Ip.parse_ipv4Packet (by rw [Tcp.length_segment]; exact hlen), ok_bind,
    Ip.protocol_ipv4Packet, ok_bind, if_neg (by decide), if_neg (not_not.mpr rfl),
    Tcp.parseIpv4_segment (by omega), ok_bind, Ip.source_ipv4Packet, ok_bind, Ip.destination_ipv4Packet, ok_bind,
    Tcp.read_segment]
  rfl

theorem decode_tcpV6 (hplain : cfg.tapOffload = false) (haddress : address.isIpv4 = false)
    {source destination : BitVec 128} (hlen : Tcp.headerLen header.mss header.windowScale + payload.length ≤ u16Max) :
    let value := Tcp.checksumValue (ipv6Transport (beBytes 16 source) (beBytes 16 destination) 6) header payload
    decodeFrame cfg (ethernetFrame macs address
      (Ip.ipv6Packet source destination Ip.protoTcp (Tcp.segment header value payload).bytes).bytes) =
      .frame false (.tcpV6 source destination (arrived header payload)) := by
  intro value
  apply decodeFrame_ipv6 hplain haddress
  unfold decodeIpv6
  rw [payload_ethernetFrame, ok_bind, Ip.parse_ipv6Packet (by rw [Tcp.length_segment]; exact hlen) rfl (by decide),
    ok_bind, Ip.nextHeader_ipv6Packet, if_neg (by decide), if_neg (by decide), if_neg (not_not.mpr rfl),
    Tcp.parseIpv6_segment hlen, ok_bind, Ip.source_ipv6Packet, ok_bind, Ip.destination_ipv6Packet, ok_bind,
    Tcp.read_segment]
  rfl

end Tcp

section Udp

variable {address : SocketAddr} {sourcePort destinationPort : UInt16} {payload : Bytes}

theorem decode_udpV4 (hplain : cfg.tapOffload = false) (haddress : address.isIpv4 = true) {source destination : BitVec 32}
    (hlen : 20 + (8 + payload.length) ≤ u16Max) :
    let value := Udp.checksumValue (ipv4Transport (beBytes 4 source) (beBytes 4 destination) Ip.protoUdp)
      sourcePort destinationPort payload
    decodeFrame cfg (ethernetFrame macs address (Ip.ipv4Packet source destination Ip.protoUdp 0
      (Udp.datagram sourcePort destinationPort value payload).bytes).bytes) =
      .frame false (.udpV4 source destination sourcePort destinationPort payload) := by
  intro value
  apply decodeFrame_ipv4 hplain haddress
  unfold decodeIpv4
  rw [payload_ethernetFrame, ok_bind, Ip.parse_ipv4Packet (by rw [Udp.length_datagram]; exact hlen), ok_bind,
    Ip.protocol_ipv4Packet, ok_bind, if_pos rfl, Udp.parseIpv4_datagram (by omega), ok_bind, Ip.source_ipv4Packet,
    ok_bind, Ip.destination_ipv4Packet, ok_bind, Udp.sourcePort_datagram, ok_bind, Udp.destinationPort_datagram,
    ok_bind, Udp.payload_datagram]
  rfl

theorem decode_udpV6 (hplain : cfg.tapOffload = false) (haddress : address.isIpv4 = false)
    {source destination : BitVec 128} (hlen : 8 + payload.length ≤ u16Max) :
    let value := Udp.checksumValue (ipv6Transport (beBytes 16 source) (beBytes 16 destination) Ip.protoUdp)
      sourcePort destinationPort payload
    decodeFrame cfg (ethernetFrame macs address
      (Ip.ipv6Packet source destination Ip.protoUdp
        (Udp.datagram sourcePort destinationPort value payload).bytes).bytes) =
      .frame false (.udpV6 source destination sourcePort destinationPort payload) := by
  intro value
  apply decodeFrame_ipv6 hplain haddress
  unfold decodeIpv6
  rw [payload_ethernetFrame, ok_bind, Ip.parse_ipv6Packet (by rw [Udp.length_datagram]; exact hlen) rfl (by decide),
    ok_bind, Ip.nextHeader_ipv6Packet, if_neg (by decide), if_pos rfl, Udp.parseIpv6_datagram hlen, ok_bind,
    Ip.source_ipv6Packet, ok_bind, Ip.destination_ipv6Packet, ok_bind, Udp.sourcePort_datagram, ok_bind,
    Udp.destinationPort_datagram, ok_bind, Udp.payload_datagram]
  rfl

end Udp

section Layers

variable {α : Type} {link ip transport rest written : Bytes} {linkLen ipLen start stop : ℕ} {a : α}
  {write : Bytes → Except Error (Bytes × α)}

theorem within_transport (hlink : link.length = linkLen) (hip : ip.length = ipLen) (hstart : start = linkLen + ipLen)
    (hstop : stop = linkLen + ipLen + transport.length) (hwrite : write transport = .ok (written, a))
    (hlength : written.length = transport.length) :
    within (link ++ (ip ++ (transport ++ rest))) start stop write =
      .ok (link ++ (ip ++ (written ++ rest)), a) := by
  have hfront : (link ++ ip).length = linkLen + ipLen := by rw [List.length_append, hlink, hip]
  have hwithin := within_eq (show link ++ (ip ++ (transport ++ rest)) = (link ++ ip) ++ (transport ++ rest) from
    (List.append_assoc _ _ _).symm) (hstart.trans hfront.symm)
    (hstop.trans (congrArg (· + transport.length) hfront.symm)) hwrite hlength
  rw [hwithin, List.append_assoc]

theorem within_ip (hlink : link.length = linkLen) (hip : ip.length = ipLen)
    (hstop : stop = linkLen + ipLen + transport.length) (hwrite : write (ip ++ transport) = .ok (written ++ transport, a))
    (hlength : written.length = ipLen) :
    within (link ++ (ip ++ (transport ++ rest))) linkLen stop write =
      .ok (link ++ (written ++ (transport ++ rest)), a) := by
  have hwithin := within_eq (show link ++ (ip ++ (transport ++ rest)) = link ++ ((ip ++ transport) ++ rest) by
    rw [List.append_assoc]) hlink.symm (show stop = link.length + (ip ++ transport).length by
      rw [List.length_append, hlink, hip, hstop, Nat.add_assoc]) hwrite (by
      rw [List.length_append, List.length_append, hlength, hip])
  rw [hwithin, List.append_assoc]

theorem range_frame (hlink : link.length = linkLen) (hip : ip.length = ipLen)
    (hstop : stop = linkLen + ipLen + transport.length) :
    range (link ++ (ip ++ (transport ++ rest))) 0 stop = .ok (link ++ (ip ++ transport)) := by
  refine range_eq (show _ = [] ++ ((link ++ (ip ++ transport)) ++ rest) by
    simp only [List.nil_append, List.append_assoc]) rfl ?_
  rw [List.length_append, List.length_append, hlink, hip, hstop, List.length_nil]
  omega

/-- The IP header is written before the transport checksum, and then the frame is complete. -/
theorem sealed_frame {header : Bytes} {writeIp : Bytes → Except Error (Bytes × ℕ)}
    {setChecksum : Bytes → Except Error (Bytes × Unit)} (hlink : link.length = 14) (hip : ip.length = ipLen)
    (hheader : header.length = ipLen) (hwriteIp : writeIp (ip ++ transport) = .ok (header ++ transport, ipLen))
    (hchecksum : setChecksum transport = .ok (written, ())) (hwritten : written.length = transport.length) :
    (within (link ++ (ip ++ (transport ++ rest))) 14 (14 + ipLen + transport.length) writeIp >>= fun out =>
      within out.1 (14 + ipLen) (14 + ipLen + transport.length) setChecksum >>= fun out =>
        range out.1 0 (14 + ipLen + transport.length)) = .ok (link ++ (header ++ written)) := by
  rw [within_ip hlink hip rfl hwriteIp hheader, ok_bind,
    within_transport hlink hheader rfl rfl hchecksum hwritten, ok_bind]
  exact range_frame hlink hheader (by rw [hwritten])

end Layers

def tcpFrame (macs : Macs) (frame : TcpFrame) (payload : Bytes) : Bytes :=
  ethernetFrame macs frame.key.target <|
    match frame.key.target, frame.key.namespaceEnd with
    | .v4 source _, .v4 destination _ =>
      let value := Tcp.checksumValue (ipv4Transport (beBytes 4 source) (beBytes 4 destination) 6) frame.header payload
      (Ip.ipv4Packet source destination Ip.protoTcp 0 (Tcp.segment frame.header value payload).bytes).bytes
    | .v6 source _ _ _, .v6 destination _ _ _ =>
      let value := Tcp.checksumValue (ipv6Transport (beBytes 16 source) (beBytes 16 destination) 6) frame.header payload
      (Ip.ipv6Packet source destination Ip.protoTcp (Tcp.segment frame.header value payload).bytes).bytes
    | _, _ => []

theorem headerLen_spec (frame : TcpFrame) : tcpMinHeaderLen + (if frame.spec.mss.isSome then 4 else 0) +
    (if frame.spec.windowScale.isSome then 4 else 0) = Tcp.headerLen frame.mss frame.windowScale := by
  obtain ⟨_, _, _, mss, windowScale, _, _⟩ := frame
  cases mss <;> cases windowScale <;> rfl

theorem tcpPayloadOffset_eq (hplain : cfg.tapOffload = false) (frame : TcpFrame) :
    Reactor.tcpPayloadOffset cfg frame.key frame.spec.mss frame.spec.windowScale =
      14 + ipHeaderLen frame.key.target + Tcp.headerLen frame.mss frame.windowScale := by
  unfold Reactor.tcpPayloadOffset
  rw [headerLen_spec, vnetLen_eq_zero hplain, Nat.zero_add]
  rfl

theorem same_family {source destination : SocketAddr} (h : source.isIpv4 = destination.isIpv4) :
    (∃ ip port ip' port', source = .v4 ip port ∧ destination = .v4 ip' port') ∨
      ∃ ip port flowinfo scope ip' port' flowinfo' scope', source = .v6 ip port flowinfo scope ∧
        destination = .v6 ip' port' flowinfo' scope' := by
  cases source with
  | v4 ip port =>
    cases destination with
    | v4 ip' port' => exact .inl ⟨ip, port, ip', port', rfl, rfl⟩
    | v6 => cases h
  | v6 ip port flowinfo scope =>
    cases destination with
    | v4 => cases h
    | v6 ip' port' flowinfo' scope' => exact .inr ⟨ip, port, flowinfo, scope, ip', port', flowinfo', scope', rfl, rfl⟩

theorem finalizeTcpFrame_eq (hplain : cfg.tapOffload = false) (frame : TcpFrame)
    (hfamily : frame.key.target.isIpv4 = frame.key.namespaceEnd.isIpv4) {bytes payload : Bytes}
    (hpayload : range bytes (Reactor.tcpPayloadOffset cfg frame.key frame.spec.mss frame.spec.windowScale)
      (Reactor.tcpPayloadOffset cfg frame.key frame.spec.mss frame.spec.windowScale + payload.length) = .ok payload)
    (hlen : ipHeaderLen frame.key.target + (Tcp.headerLen frame.mss frame.windowScale + payload.length) ≤ u16Max) :
    finalizeTcpFrame cfg macs bytes frame payload.length = .ok (tcpFrame macs frame payload) := by
  obtain ⟨front, rest, rfl, hfront, -⟩ := exists_of_range hpayload
  rw [tcpPayloadOffset_eq hplain] at hfront
  obtain ⟨link, middle, rfl, hlink⟩ := exists_append front (show 14 ≤ front.length by omega)
  rw [List.length_append] at hfront
  obtain ⟨ip, tcp, rfl, hip⟩ := exists_append middle (show ipHeaderLen frame.key.target ≤ middle.length by omega)
  have htcp : tcp.length = Tcp.headerLen frame.mss frame.windowScale := by
    rw [List.length_append] at hfront
    omega
  -- the segment before and after its checksum
  let segment := Tcp.front frame.header ++ ([0, 0] ++ (Tcp.back frame.header ++ payload))
  have hback := Tcp.length_back frame.header
  have hsegment : segment.length = Tcp.headerLen frame.mss frame.windowScale + payload.length := by
    have hbackLen : 18 + (Tcp.back frame.header).length = Tcp.headerLen frame.mss frame.windowScale := hback
    simp only [segment, List.length_append, Tcp.length_front, List.length_cons, List.length_nil]
    omega
  have hslice : (tcp ++ payload).length = Tcp.headerLen frame.mss frame.windowScale + payload.length := by
    rw [List.length_append, htcp]
  have hbytes : link ++ (ip ++ tcp) ++ (payload ++ rest) = link ++ (ip ++ ((tcp ++ payload) ++ rest)) := by
    simp only [List.append_assoc]
  have hstop : 14 + ipHeaderLen frame.key.target + Tcp.headerLen frame.mss frame.windowScale + payload.length =
      14 + ipHeaderLen frame.key.target + (Tcp.headerLen frame.mss frame.windowScale + payload.length) := by
    omega
  have hheader : Tcp.writeHeader (tcp ++ payload) frame.header =
      .ok (segment, Tcp.headerLen frame.mss frame.windowScale) := Tcp.writeHeader_eq payload htcp
  have hchecksum := fun transport : Bytes → ℕ => Tcp.setChecksum_eq transport (Tcp.length_front frame.header)
    (show 2 ≤ (Tcp.back frame.header ++ payload).length by
      unfold Tcp.back
      simp only [List.length_append, List.length_cons, List.length_nil]
      omega)
  unfold finalizeTcpFrame
  simp only [tcpPayloadOffset_eq hplain, vnetLen_eq_zero hplain, hplain, Nat.zero_add, hbytes, hstop]
  rw [writeLink_eq hplain _ hlink, ok_bind]
  rw [show ethernetHeaderLen = 14 from rfl]
  rw [within_transport (Ethernet.length_header ..) hip rfl (by rw [hslice]) hheader (by rw [hsegment, hslice]), ok_bind]
  rcases same_family hfamily with ⟨source, sourcePort, destination, destinationPort, htarget, hnamespace⟩ |
    ⟨source, sourcePort, _, _, destination, destinationPort, _, _, htarget, hnamespace⟩
  · rw [htarget] at hip hlen
    let value := Tcp.checksumValue (ipv4Transport (beBytes 4 source) (beBytes 4 destination) 6) frame.header payload
    have hwritten : (Tcp.segment frame.header value payload).bytes.length = segment.length := by
      rw [Tcp.length_segment, hsegment]
      rfl
    have hip20 : ip.length = 20 := hip
    have hwriteIp : Ip.writeIpv4Header (ip ++ segment) source destination Ip.protoTcp segment.length 0 =
        .ok (Ip.ipv4Header source destination Ip.protoTcp segment.length 0 ++ segment, 20) :=
      Ip.writeIpv4Header_eq segment hip20 (by rw [hsegment]; exact hlen)
    have hframe : tcpFrame macs frame payload =
        Ethernet.header macs.target macs.gateway (etherTypeOf frame.key.target) ++
          (Ip.ipv4Header source destination Ip.protoTcp segment.length 0 ++
            (Tcp.segment frame.header value payload).bytes) := by
      unfold tcpFrame
      rw [htarget, hnamespace, ← hwritten]
      rfl
    rw [hframe, htarget, hnamespace, ← hsegment]
    exact sealed_frame rfl hip20 rfl hwriteIp (hchecksum _) hwritten
  · rw [htarget] at hip hlen
    let value := Tcp.checksumValue (ipv6Transport (beBytes 16 source) (beBytes 16 destination) 6) frame.header payload
    have hwritten : (Tcp.segment frame.header value payload).bytes.length = segment.length := by
      rw [Tcp.length_segment, hsegment]
      rfl
    have hip40 : ip.length = 40 := hip
    have hfits : segment.length ≤ u16Max := by omega
    have hwriteIp : Ip.writeIpv6Header (ip ++ segment) source destination Ip.protoTcp segment.length =
        .ok (Ip.ipv6Header source destination Ip.protoTcp segment.length ++ segment, 40) :=
      Ip.writeIpv6Header_eq segment hip40 hfits
    have hframe : tcpFrame macs frame payload =
        Ethernet.header macs.target macs.gateway (etherTypeOf frame.key.target) ++
          (Ip.ipv6Header source destination Ip.protoTcp segment.length ++
            (Tcp.segment frame.header value payload).bytes) := by
      unfold tcpFrame
      rw [htarget, hnamespace, ← hwritten]
      rfl
    rw [hframe, htarget, hnamespace, ← hsegment]
    exact sealed_frame rfl hip40 rfl hwriteIp (hchecksum _) hwritten

def udpFrame (macs : Macs) (client gateway : SocketAddr) (payload : Bytes) : Bytes :=
  ethernetFrame macs client <|
    match gateway, client with
    | .v4 source sourcePort, .v4 destination destinationPort =>
      let value := Udp.checksumValue (ipv4Transport (beBytes 4 source) (beBytes 4 destination) Ip.protoUdp)
        sourcePort destinationPort payload
      (Ip.ipv4Packet source destination Ip.protoUdp 0
        (Udp.datagram sourcePort destinationPort value payload).bytes).bytes
    | .v6 source sourcePort _ _, .v6 destination destinationPort _ _ =>
      let value := Udp.checksumValue (ipv6Transport (beBytes 16 source) (beBytes 16 destination) Ip.protoUdp)
        sourcePort destinationPort payload
      (Ip.ipv6Packet source destination Ip.protoUdp
        (Udp.datagram sourcePort destinationPort value payload).bytes).bytes
    | _, _ => []

theorem udpFrameLen_eq (hplain : cfg.tapOffload = false) (client : SocketAddr) (length : ℕ) :
    Reactor.udpFrameLen cfg client length = 14 + ipHeaderLen client + (8 + length) := by
  unfold Reactor.udpFrameLen
  rw [vnetLen_eq_zero hplain, Nat.zero_add, Nat.add_assoc]
  rfl

theorem queueUdpFrame_eq (hplain : cfg.tapOffload = false) {client gateway : SocketAddr}
    (hfamily : gateway.isIpv4 = client.isIpv4) {bytes payload : Bytes}
    (hfits : Reactor.udpFrameLen cfg client payload.length ≤ bytes.length)
    (hlen : ipHeaderLen client + (8 + payload.length) ≤ u16Max) :
    queueUdpFrame cfg macs bytes client gateway payload = .ok (udpFrame macs client gateway payload) := by
  have hroom := hfits
  rw [udpFrameLen_eq hplain] at hroom
  obtain ⟨link, middle, rfl, hlink⟩ := exists_append bytes (show 14 ≤ bytes.length by omega)
  rw [List.length_append] at hroom
  obtain ⟨ip, tail, rfl, hip⟩ := exists_append middle (show ipHeaderLen client ≤ middle.length by omega)
  rw [List.length_append] at hroom
  obtain ⟨udp, tail, rfl, hudp⟩ := exists_append tail (show 8 ≤ tail.length by omega)
  rw [List.length_append] at hroom
  obtain ⟨old, rest, rfl, hold⟩ := exists_append tail (show payload.length ≤ tail.length by omega)
  let header := Ethernet.header macs.target macs.gateway (etherTypeOf client)
  -- the datagram before its checksum
  let datagram := Udp.front gateway.port client.port payload.length ++ ([0, 0] ++ payload)
  have hdatagram : datagram.length = 8 + payload.length := by
    simp only [datagram, List.length_append, Udp.length_front, List.length_cons, List.length_nil]
    omega
  have hslice : (udp ++ payload).length = 8 + payload.length := by rw [List.length_append, hudp]
  have hcopy : copyAt (header ++ (ip ++ (udp ++ (old ++ rest)))) (14 + ipHeaderLen client + 8) payload =
      .ok (header ++ (ip ++ ((udp ++ payload) ++ rest))) := by
    have hstart : 14 + ipHeaderLen client + 8 = (header ++ (ip ++ udp)).length := by
      rw [List.length_append, List.length_append, hip, hudp, ← Nat.add_assoc]
      rfl
    rw [copyAt_eq (show _ = (header ++ (ip ++ udp)) ++ (old ++ rest) by simp only [List.append_assoc]) hstart hold.symm]
    simp only [List.append_assoc]
  have hports : within (header ++ (ip ++ ((udp ++ payload) ++ rest))) (14 + ipHeaderLen client)
      (14 + ipHeaderLen client + (8 + payload.length))
      (fun out => Udp.writeHeader out gateway.port client.port payload.length) =
      .ok (header ++ (ip ++ (datagram ++ rest)), 8) :=
    within_transport (Ethernet.length_header ..) hip rfl (by rw [hslice]) (Udp.writeHeader_eq hudp (by omega)) (by rw [hdatagram, hslice])
  unfold queueUdpFrame
  rw [if_neg (by omega), writeLink_eq hplain client hlink, ok_bind]
  simp only [udpFrameLen_eq hplain, vnetLen_eq_zero hplain, Nat.zero_add]
  change (copyAt (header ++ (ip ++ (udp ++ (old ++ rest)))) (14 + ipHeaderLen client + 8) payload >>= _) = _
  rw [hcopy, ok_bind]
  change (within _ (14 + ipHeaderLen client) (14 + ipHeaderLen client + (8 + payload.length)) _ >>= _) = _
  rw [hports, ok_bind]
  rcases same_family hfamily with ⟨source, sourcePort, destination, destinationPort, hgateway, hclient⟩ |
    ⟨source, sourcePort, flowinfo, scope, destination, destinationPort, flowinfo', scope', hgateway, hclient⟩
  · subst hgateway hclient
    have hip20 : ip.length = 20 := hip
    have hwriteIp : Ip.writeIpv4Header (ip ++ datagram) source destination Ip.protoUdp datagram.length 0 =
        .ok (Ip.ipv4Header source destination Ip.protoUdp datagram.length 0 ++ datagram, 20) :=
      Ip.writeIpv4Header_eq datagram hip20 (by rw [hdatagram]; exact hlen)
    let value := Udp.checksumValue (ipv4Transport (beBytes 4 source) (beBytes 4 destination) Ip.protoUdp)
      sourcePort destinationPort payload
    have hwritten : (Udp.datagram sourcePort destinationPort value payload).bytes.length = datagram.length := by
      rw [Udp.length_datagram, hdatagram]
    have hframe : udpFrame macs (.v4 destination destinationPort) (.v4 source sourcePort) payload =
        header ++ (Ip.ipv4Header source destination Ip.protoUdp datagram.length 0 ++
          (Udp.datagram sourcePort destinationPort value payload).bytes) := by
      rw [← hwritten]
      rfl
    rw [hframe]
    change (within _ 14 (14 + 20 + (8 + payload.length)) (fun out =>
      Ip.writeIpv4Header out source destination Ip.protoUdp (8 + payload.length) 0) >>= _) = _
    rw [← hdatagram]
    exact sealed_frame rfl hip20 rfl hwriteIp (Udp.setChecksum_eq _) hwritten
  · subst hgateway hclient
    have hip40 : ip.length = 40 := hip
    have hfits : datagram.length ≤ u16Max := by
      rw [hdatagram]
      exact Nat.le_trans (Nat.le_add_left _ _) hlen
    have hwriteIp : Ip.writeIpv6Header (ip ++ datagram) source destination Ip.protoUdp datagram.length =
        .ok (Ip.ipv6Header source destination Ip.protoUdp datagram.length ++ datagram, 40) :=
      Ip.writeIpv6Header_eq datagram hip40 hfits
    let value := Udp.checksumValue (ipv6Transport (beBytes 16 source) (beBytes 16 destination) Ip.protoUdp)
      sourcePort destinationPort payload
    have hwritten : (Udp.datagram sourcePort destinationPort value payload).bytes.length = datagram.length := by
      rw [Udp.length_datagram, hdatagram]
    have hframe : udpFrame macs (.v6 destination destinationPort flowinfo' scope')
        (.v6 source sourcePort flowinfo scope) payload = header ++ (Ip.ipv6Header source destination Ip.protoUdp datagram.length ++
          (Udp.datagram sourcePort destinationPort value payload).bytes) := by
      rw [← hwritten]
      rfl
    rw [hframe]
    change (within _ 14 (14 + 40 + (8 + payload.length)) (fun out =>
      Ip.writeIpv6Header out source destination Ip.protoUdp (8 + payload.length)) >>= _) = _
    rw [← hdatagram]
    exact sealed_frame rfl hip40 rfl hwriteIp (Udp.setChecksum_eq _) hwritten

/-- The frame of an ICMP error about a datagram of `key`. -/
def udpErrorFrame (macs : Macs) (key : Udp.FlowKey) (payload : Bytes) (originalLen : ℕ) (error : UdpError) : Bytes :=
  ethernetFrame macs key.source <|
    match key.source, key.target with
    | .v4 source sourcePort, .v4 destination destinationPort =>
      (Ip.ipv4Packet destination source Ip.protoIcmp 0
        (Icmp.ipv4Message source destination sourcePort destinationPort (payload.take 8) originalLen error)).bytes
    | .v6 source sourcePort _ _, .v6 destination destinationPort _ _ =>
      (Ip.ipv6Packet destination source Ip.protoIcmpv6
        (Icmp.ipv6Message source destination sourcePort destinationPort (payload.take 8) originalLen error)).bytes
    | _, _ => []

theorem icmp_frame (hplain : cfg.tapOffload = false) {link old rest packet : Bytes} {address : SocketAddr}
    {write : Bytes → Except Error (Bytes × ℕ)} (hlink : link.length = 14) (hold : packet.length = old.length)
    (hwrite : write (old ++ rest) = .ok (packet ++ rest, packet.length)) :
    (writeLink cfg macs (link ++ (old ++ rest)) address >>= fun bytes =>
      within bytes (cfg.vnetLen + ethernetHeaderLen) bytes.length write >>= fun out =>
        range out.1 0 (cfg.vnetLen + ethernetHeaderLen + out.2)) = .ok (ethernetFrame macs address packet) := by
  let header := Ethernet.header macs.target macs.gateway (etherTypeOf address)
  have hwithin : within (header ++ (old ++ rest)) 14 (header ++ (old ++ rest)).length write =
      .ok (header ++ ((packet ++ rest) ++ []), packet.length) :=
    within_eq (show _ = header ++ ((old ++ rest) ++ []) by rw [List.append_nil]) rfl List.length_append hwrite
      (by rw [List.length_append, List.length_append, hold])
  have hframe : range (header ++ ((packet ++ rest) ++ [])) 0 (14 + packet.length) = .ok (header ++ packet) :=
    range_eq (show _ = [] ++ ((header ++ packet) ++ rest) by
      simp only [List.append_nil, List.nil_append, List.append_assoc]) rfl (by
      rw [List.length_append, List.length_nil, Nat.zero_add]; rfl)
  rw [writeLink_eq hplain address hlink, ok_bind, vnetLen_eq_zero hplain]
  change (within (header ++ (old ++ rest)) 14 (header ++ (old ++ rest)).length write >>= _) = _
  rw [hwithin, ok_bind]
  exact hframe

/-- What an ICMP error tells about a datagram. -/
structure UdpErrorReport where
  reporter : IpAddr
  recipient : IpAddr
  kind : UInt8
  code : UInt8
  mtu : ℕ
  source : SocketAddr
  destination : SocketAddr
  length : ℕ
  quote : Bytes

/-- Reads an ICMP error whose checksum is right, and the headers it quotes. -/
def readUdpError (bytes : Bytes) : Except Error UdpErrorReport := do
  let ethernet ← Ethernet.Frame.parse bytes
  match ← ethernet.etherType with
  | .ipv4 =>
    let packet ← Ip.Ipv4Packet.parse (← ethernet.payload)
    let icmp ← packet.payload
    if (← packet.protocol) ≠ Ip.protoIcmp then fail .protocolMismatch
    else if checksum icmp ≠ 0 then fail .invalidChecksum
    else
      pure
        { reporter := .v4 (← packet.source), recipient := .v4 (← packet.destination), kind := ← byteAt icmp 0,
          code := ← byteAt icmp 1, mtu := ← wordAt icmp 6,
          source := .v4 (ofOctets 32 (← range icmp 20 24)) (UInt16.ofNat (← wordAt icmp 28)),
          destination := .v4 (ofOctets 32 (← range icmp 24 28)) (UInt16.ofNat (← wordAt icmp 30)),
          length := ← wordAt icmp 32, quote := ← range icmp 36 icmp.length }
  | .ipv6 =>
    let packet ← Ip.Ipv6Packet.parse (← ethernet.payload)
    let icmp ← packet.payload
    let source ← range packet.bytes 8 24
    let destination ← range packet.bytes 24 40
    if packet.nextHeader ≠ Ip.protoIcmpv6 then fail .protocolMismatch
    else if ipv6Transport source destination Ip.protoIcmpv6 icmp ≠ 0 then fail .invalidChecksum
    else
      pure
        { reporter := .v6 (← packet.source), recipient := .v6 (← packet.destination), kind := ← byteAt icmp 0,
          code := ← byteAt icmp 1, mtu := beValue (← range icmp 4 8),
          source := .v6 (ofOctets 128 (← range icmp 16 32)) (UInt16.ofNat (← wordAt icmp 48)) 0 0,
          destination := .v6 (ofOctets 128 (← range icmp 32 48)) (UInt16.ofNat (← wordAt icmp 50)) 0 0,
          length := ← wordAt icmp 52, quote := ← range icmp 56 icmp.length }
  | _ => fail .protocolMismatch

/-- Type, code and MTU of an error; the MTU field of IPv4 has 16 bits, that of IPv6 32. -/
def announced (ipv4 : Bool) : UdpError → UInt8 × UInt8 × ℕ
  | .destinationUnreachable code => if ipv4 then (3, code, 0) else (1, code, 0)
  | .packetTooBig mtu => if ipv4 then (3, 4, min mtu u16Max) else (2, 0, mtu % 2 ^ 32)

def udpErrorReport (key : Udp.FlowKey) (payload : Bytes) (originalLen : ℕ) (error : UdpError) : UdpErrorReport where
  reporter := key.target.ip
  recipient := key.source.ip
  kind := (announced key.source.isIpv4 error).1
  code := (announced key.source.isIpv4 error).2.1
  mtu := (announced key.source.isIpv4 error).2.2
  source := .new key.source.ip key.source.port
  destination := .new key.target.ip key.target.port
  length := 8 + originalLen
  quote := payload.take 8

section Reports

variable {key : Udp.FlowKey} {port port' : UInt16} {quote : Bytes} {originalLen : ℕ} {error : UdpError}

theorem announced_mtu {mtu : ℕ} : (if mtu ≤ u16Max then mtu else u16Max) = min mtu u16Max := by
  split
  · exact (Nat.min_eq_left ‹_›).symm
  · exact (Nat.min_eq_right (by omega)).symm

variable (port port' quote) in
theorem quoted_udp (front header : Bytes) (hlen : 8 + originalLen ≤ u16Max) :
    let icmp := front ++ Icmp.quotation header port port' originalLen quote
    let start := front.length + header.length
    wordAt icmp start = .ok port.toNat ∧ wordAt icmp (start + 2) = .ok port'.toNat ∧
      wordAt icmp (start + 4) = .ok (8 + originalLen) ∧ range icmp (start + 8) icmp.length = .ok quote := by
  intro icmp start
  have hlength : ∀ bytes : Bytes, start + bytes.length = (front ++ (header ++ bytes)).length := by
    intro bytes
    rw [List.length_append, List.length_append, ← Nat.add_assoc]
  refine ⟨?_, ?_, ?_, ?_⟩
  · exact wordAt_be16 (show icmp = (front ++ (header ++ [])) ++ (be16 port.toNat ++ _) by
      rw [List.append_nil, List.append_assoc]; rfl) (hlength []) (Nat.le_of_lt_succ port.toNat_lt)
  · exact wordAt_be16 (show icmp = (front ++ (header ++ be16 port.toNat)) ++ (be16 port'.toNat ++ _) by
      rw [List.append_assoc, List.append_assoc]; rfl) (hlength (be16 port.toNat))
      (Nat.le_of_lt_succ port'.toNat_lt)
  · exact wordAt_be16 (show icmp = (front ++ (header ++ (be16 port.toNat ++ be16 port'.toNat))) ++
      (be16 (8 + originalLen) ++ _) by rw [List.append_assoc, List.append_assoc]; rfl)
      (hlength (be16 port.toNat ++ be16 port'.toNat)) hlen
  · have hicmp : icmp = (front ++ (header ++ (Udp.front port port' originalLen ++ [0, 0]))) ++ (quote ++ []) := by
      simp only [icmp, Icmp.quotation, List.append_assoc, List.append_nil]
    refine range_eq hicmp ?_ ?_
    · rw [← hlength]
      rfl
    · rw [← List.length_append, ← List.append_nil quote, ← hicmp]

theorem quoted_ipv4 {front rest : Bytes} (hfront : front.length = 8) {ip ip' : BitVec 32} {protocol : UInt8}
    {payloadLen : ℕ} :
    let icmp := front ++ (Ip.ipv4Header ip ip' protocol payloadLen 0 ++ rest)
    range icmp 20 24 = .ok (beBytes 4 ip) ∧ range icmp 24 28 = .ok (beBytes 4 ip') := by
  intro icmp
  have hlength : ∀ bytes : Bytes, 8 + bytes.length = (front ++ bytes).length := by
    intro bytes
    rw [List.length_append, hfront]
  let header := Ip.ipv4Header ip ip' protocol payloadLen 0
  constructor
  · exact range_eq (show icmp = (front ++ header.take 12) ++ (beBytes 4 ip ++ _) by rw [List.append_assoc]; rfl)
      (hlength (header.take 12)) (by rw [← hlength]; rfl)
  · exact range_eq (show icmp = (front ++ header.take 16) ++ (beBytes 4 ip' ++ _) by rw [List.append_assoc]; rfl)
      (hlength (header.take 16)) (by rw [← hlength]; rfl)

theorem quoted_ipv6 {front rest : Bytes} (hfront : front.length = 8) {ip ip' : BitVec 128} {protocol : UInt8}
    {payloadLen : ℕ} :
    let icmp := front ++ (Ip.ipv6Header ip ip' protocol payloadLen ++ rest)
    range icmp 16 32 = .ok (beBytes 16 ip) ∧ range icmp 32 48 = .ok (beBytes 16 ip') := by
  intro icmp
  have hlength : ∀ bytes : Bytes, 8 + bytes.length = (front ++ bytes).length := by
    intro bytes
    rw [List.length_append, hfront]
  let header := Ip.ipv6Header ip ip' protocol payloadLen
  constructor
  · exact range_eq (show icmp = (front ++ header.take 8) ++ (beBytes 16 ip ++ _) by rw [List.append_assoc]; rfl)
      (hlength (header.take 8)) (by rw [← hlength]; rfl)
  · exact range_eq (show icmp = (front ++ header.take 24) ++ (beBytes 16 ip' ++ _) by rw [List.append_assoc]; rfl)
      (hlength (header.take 24)) (by rw [← hlength]; rfl)

theorem announced_ipv4 {ip ip' : BitVec 32} :
    let icmp := Icmp.ipv4Message ip ip' port port' quote originalLen error
    byteAt icmp 0 = .ok (announced true error).1 ∧ byteAt icmp 1 = .ok (announced true error).2.1 ∧
      wordAt icmp 6 = .ok (announced true error).2.2 := by
  intro icmp
  cases error with
  | destinationUnreachable code => exact ⟨rfl, rfl, rfl⟩
  | packetTooBig mtu =>
    refine ⟨rfl, rfl, ?_⟩
    change wordAt icmp 6 = .ok (min mtu u16Max)
    rw [← announced_mtu]
    refine wordAt_be16 (show icmp = icmp.take 6 ++ (be16 (if mtu ≤ u16Max then mtu else u16Max) ++ icmp.drop 8) from
      rfl) rfl ?_
    rw [announced_mtu]
    exact Nat.min_le_right _ _

theorem announced_ipv6 {ip ip' : BitVec 128} :
    let icmp := Icmp.ipv6Message ip ip' port port' quote originalLen error
    byteAt icmp 0 = .ok (announced false error).1 ∧ byteAt icmp 1 = .ok (announced false error).2.1 ∧
      ∃ field, range icmp 4 8 = .ok field ∧ beValue field = (announced false error).2.2 := by
  intro icmp
  cases error with
  | destinationUnreachable code =>
    exact ⟨rfl, rfl, [0, 0, 0, 0], range_eq (show icmp = icmp.take 4 ++ ([0, 0, 0, 0] ++ icmp.drop 8) from rfl)
      rfl rfl, rfl⟩
  | packetTooBig mtu =>
    refine ⟨rfl, rfl, beBytes 4 (BitVec.ofNat 32 mtu), range_eq (show icmp = icmp.take 4 ++
      (beBytes 4 (BitVec.ofNat 32 mtu) ++ icmp.drop 8) from rfl) rfl rfl, ?_⟩
    rw [beValue_octets, BitVec.toNat_ofNat]
    exact Nat.mod_mod _ _

theorem readUdpError_ipv4 {ip ip' : BitVec 32} {payload : Bytes} (hlen : 28 + originalLen ≤ u16Max) :
    readUdpError (udpErrorFrame macs ⟨.v4 ip port, .v4 ip' port'⟩ payload originalLen error) =
      .ok (udpErrorReport ⟨.v4 ip port, .v4 ip' port'⟩ payload originalLen error) := by
  obtain ⟨icmp, hicmp⟩ : ∃ icmp, Icmp.ipv4Message ip ip' port port' (payload.take 8) originalLen error = icmp :=
    ⟨_, rfl⟩
  have hquote : (payload.take 8).length ≤ 8 := List.length_take_le 8 payload
  have hfits : 20 + icmp.length ≤ u16Max := by
    rw [← hicmp, Icmp.length_ipv4Message]
    unfold u16Max
    omega
  have hchecksum : checksum icmp = 0 := by
    rw [← hicmp]
    exact Icmp.checksum_ipv4Message hquote
  have hannounced : byteAt icmp 0 = .ok (announced true error).1 ∧ byteAt icmp 1 = .ok (announced true error).2.1 ∧
      wordAt icmp 6 = .ok (announced true error).2.2 := by
    rw [← hicmp]
    exact announced_ipv4
  obtain ⟨front, hfront, hsplit⟩ := Icmp.exists_message
    (show (Icmp.ipv4Start error).length = 2 by cases error <;> rfl)
    (show (Icmp.ipv4Info error).length = 4 by cases error <;> rfl)
  have hshape := hicmp.symm.trans hsplit
  have hips : range icmp 20 24 = .ok (beBytes 4 ip) ∧ range icmp 24 28 = .ok (beBytes 4 ip') := by
    rw [hshape]
    exact quoted_ipv4 hfront
  have hudp := quoted_udp port port' (payload.take 8) front (Ip.ipv4Header ip ip' Ip.protoUdp (8 + originalLen) 0)
    (show 8 + originalLen ≤ u16Max by omega)
  rw [hfront, Ip.length_ipv4Header, ← hshape] at hudp
  obtain ⟨hport, hport', hlength, hrest⟩ := hudp
  have hframe : udpErrorFrame macs ⟨.v4 ip port, .v4 ip' port'⟩ payload originalLen error =
      ethernetFrame macs (.v4 ip port) (Ip.ipv4Packet ip' ip Ip.protoIcmp 0 icmp).bytes := by
    rw [← hicmp]
    rfl
  rw [hframe]
  unfold readUdpError
  rw [parse_ethernetFrame, ok_bind, etherType_ethernetFrame, ok_bind]
  change ((Ethernet.Frame.payload _ >>= _) : Except Error UdpErrorReport) = _
  rw [payload_ethernetFrame, ok_bind, Ip.parse_ipv4Packet hfits, ok_bind, Ip.payload_ipv4Packet, ok_bind,
    Ip.protocol_ipv4Packet, ok_bind, if_neg (not_not.mpr rfl), if_neg (not_not.mpr hchecksum), Ip.source_ipv4Packet,
    ok_bind, Ip.destination_ipv4Packet, ok_bind, hannounced.1, ok_bind, hannounced.2.1, ok_bind, hannounced.2.2,
    ok_bind, hips.1, ok_bind, hport, ok_bind, hips.2, ok_bind, hport', ok_bind, hlength, ok_bind, hrest, ok_bind,
    ofOctets_beBytes ip rfl, ofOctets_beBytes ip' rfl, UInt16.ofNat_toNat, UInt16.ofNat_toNat]
  rfl

theorem readUdpError_ipv6 {ip ip' : BitVec 128} {flowinfo scope flowinfo' scope' : UInt32} {payload : Bytes}
    (hlen : 8 + originalLen ≤ u16Max) :
    readUdpError (udpErrorFrame macs ⟨.v6 ip port flowinfo scope, .v6 ip' port' flowinfo' scope'⟩ payload
      originalLen error) = .ok (udpErrorReport ⟨.v6 ip port flowinfo scope, .v6 ip' port' flowinfo' scope'⟩ payload
        originalLen error) := by
  obtain ⟨icmp, hicmp⟩ : ∃ icmp, Icmp.ipv6Message ip ip' port port' (payload.take 8) originalLen error = icmp :=
    ⟨_, rfl⟩
  have hquote : (payload.take 8).length ≤ 8 := List.length_take_le 8 payload
  have hfits : icmp.length ≤ u16Max := by
    rw [← hicmp, Icmp.length_ipv6Message]
    unfold u16Max
    omega
  have hchecksum : ipv6Transport (beBytes 16 ip') (beBytes 16 ip) Ip.protoIcmpv6 icmp = 0 := by
    rw [← hicmp]
    exact Icmp.transport_ipv6Message hquote
  have hannounced : byteAt icmp 0 = .ok (announced false error).1 ∧ byteAt icmp 1 = .ok (announced false error).2.1 ∧
      ∃ field, range icmp 4 8 = .ok field ∧ beValue field = (announced false error).2.2 := by
    rw [← hicmp]
    exact announced_ipv6
  obtain ⟨hkind, hcode, field, hfield, hmtu⟩ := hannounced
  obtain ⟨front, hfront, hsplit⟩ := Icmp.exists_message
    (show (Icmp.ipv6Start error).length = 2 by cases error <;> rfl)
    (show (Icmp.ipv6Info error).length = 4 by cases error <;> rfl)
  have hshape := hicmp.symm.trans hsplit
  have hips : range icmp 16 32 = .ok (beBytes 16 ip) ∧ range icmp 32 48 = .ok (beBytes 16 ip') := by
    rw [hshape]
    exact quoted_ipv6 hfront
  have hudp := quoted_udp port port' (payload.take 8) front (Ip.ipv6Header ip ip' Ip.protoUdp (8 + originalLen)) hlen
  rw [hfront, Ip.length_ipv6Header, ← hshape] at hudp
  obtain ⟨hport, hport', hlength, hrest⟩ := hudp
  have hframe : udpErrorFrame macs ⟨.v6 ip port flowinfo scope, .v6 ip' port' flowinfo' scope'⟩ payload
      originalLen error = ethernetFrame macs (.v6 ip port flowinfo scope)
        (Ip.ipv6Packet ip' ip Ip.protoIcmpv6 icmp).bytes := by
    rw [← hicmp]
    rfl
  rw [hframe]
  unfold readUdpError
  rw [parse_ethernetFrame, ok_bind, etherType_ethernetFrame, ok_bind]
  change ((Ethernet.Frame.payload _ >>= _) : Except Error UdpErrorReport) = _
  rw [payload_ethernetFrame, ok_bind, Ip.parse_ipv6Packet hfits rfl (by decide), ok_bind, Ip.payload_ipv6Packet,
    ok_bind, Ip.range_ipv6_source, ok_bind, Ip.range_ipv6_destination, ok_bind, Ip.nextHeader_ipv6Packet,
    if_neg (not_not.mpr rfl), if_neg (not_not.mpr hchecksum), Ip.source_ipv6Packet, ok_bind, Ip.destination_ipv6Packet, ok_bind, hkind,
    ok_bind, hcode, ok_bind, hfield, ok_bind, hips.1, ok_bind, hport, ok_bind, hips.2, ok_bind, hport', ok_bind,
    hlength, ok_bind, hrest, ok_bind, hmtu, ofOctets_beBytes ip rfl, ofOctets_beBytes ip' rfl,
    UInt16.ofNat_toNat, UInt16.ofNat_toNat]
  rfl

end Reports

theorem queueUdpIcmpFor_eq (hplain : cfg.tapOffload = false) {key : Udp.FlowKey}
    (hfamily : key.source.isIpv4 = key.target.isIpv4) {bytes payload : Bytes} {originalLen : ℕ} {error : UdpError}
    (hfits : 14 + (ipHeaderLen key.source + (8 + (ipHeaderLen key.source + 8 + (payload.take 8).length))) ≤
      bytes.length)
    (hlen : (if key.source.isIpv4 then 20 else 0) + (8 + originalLen) ≤ u16Max) :
    queueUdpIcmpFor cfg macs bytes key payload originalLen error =
      .ok (udpErrorFrame macs key payload originalLen error) := by
  obtain ⟨link, middle, rfl, hlink⟩ := exists_append bytes (show 14 ≤ bytes.length by omega)
  rw [List.length_append, hlink] at hfits
  obtain ⟨old, rest, rfl, hold⟩ := exists_append middle
    (show ipHeaderLen key.source + (8 + (ipHeaderLen key.source + 8 + (payload.take 8).length)) ≤ middle.length by
      omega)
  have hquote : (payload.take 8).length ≤ 8 := List.length_take_le 8 payload
  have htwice : (payload.take 8).take 8 = payload.take 8 := by rw [List.take_take, Nat.min_self]
  obtain ⟨source, target⟩ := key
  rcases same_family hfamily with ⟨ip, port, ip', port', rfl, rfl⟩ |
    ⟨ip, port, flowinfo, scope, ip', port', flowinfo', scope', rfl, rfl⟩
  · let packet := Ip.ipv4Packet ip' ip Ip.protoIcmp 0
      (Icmp.ipv4Message ip ip' port port' (payload.take 8) originalLen error)
    have hpacket : packet.bytes.length = 20 + (8 + (20 + 8 + (payload.take 8).length)) := by
      rw [Ip.length_ipv4Packet, Icmp.length_ipv4Message]
    have hlong : 28 + originalLen ≤ u16Max := by
      have h : 20 + (8 + originalLen) ≤ u16Max := hlen
      omega
    have hwrite : Icmp.writeUdpError (old ++ rest) (.v4 ip port) (.v4 ip' port') (payload.take 8) originalLen error =
        .ok (packet.bytes ++ rest, packet.bytes.length) := by
      unfold Icmp.writeUdpError
      rw [htwice, hpacket]
      exact Icmp.writeIpv4UdpError_eq hlong hquote hold
    exact icmp_frame hplain hlink (hpacket.trans hold.symm) hwrite
  · let packet := Ip.ipv6Packet ip' ip Ip.protoIcmpv6
      (Icmp.ipv6Message ip ip' port port' (payload.take 8) originalLen error)
    have hpacket : packet.bytes.length = 40 + (8 + (40 + 8 + (payload.take 8).length)) := by
      rw [Ip.length_ipv6Packet, Icmp.length_ipv6Message]
    have hlong : 8 + originalLen ≤ u16Max := Nat.le_trans (Nat.le_add_left _ _) hlen
    have hwrite : Icmp.writeUdpError (old ++ rest) (.v6 ip port flowinfo scope) (.v6 ip' port' flowinfo' scope')
        (payload.take 8) originalLen error = .ok (packet.bytes ++ rest, packet.bytes.length) := by
      unfold Icmp.writeUdpError
      rw [hpacket]
      exact Icmp.writeIpv6UdpError_eq hlong hquote hold
    exact icmp_frame hplain hlink (hpacket.trans hold.symm) hwrite

/-- The segment a sender asks for, from its key, plan, flags, options, window and payload. -/
def askedSegment (frame : TcpFrame) (payload : Bytes) : TcpSegment where
  sourcePort := frame.key.target.port
  destinationPort := frame.key.namespaceEnd.port
  sequence := frame.plan.sequence
  acknowledgment := frame.plan.acknowledgment
  flags := frame.flags
  window := frame.window
  mss := frame.mss
  windowScale := frame.windowScale
  payload := payload

def tcpArrival (frame : TcpFrame) (payload : Bytes) : TapFrame :=
  match frame.key.target, frame.key.namespaceEnd with
  | .v4 source _, .v4 destination _ => .tcpV4 source destination (askedSegment frame payload)
  | .v6 source _ _ _, .v6 destination _ _ _ => .tcpV6 source destination (askedSegment frame payload)
  | _, _ => .ignored

def udpArrival (client gateway : SocketAddr) (payload : Bytes) : TapFrame :=
  match gateway, client with
  | .v4 source sourcePort, .v4 destination destinationPort =>
    .udpV4 source destination sourcePort destinationPort payload
  | .v6 source sourcePort _ _, .v6 destination destinationPort _ _ =>
    .udpV6 source destination sourcePort destinationPort payload
  | _, _ => .ignored

/-- A frame from the gateway to the target. -/
def Addressed (macs : Macs) (out : Bytes) : Prop :=
  ∃ ethernet, Ethernet.Frame.parse out = .ok ethernet ∧ ethernet.destination = .ok macs.target ∧
    ethernet.source = .ok macs.gateway

theorem addressed_ethernetFrame (address : SocketAddr) (packet : Bytes) :
    Addressed macs (ethernetFrame macs address packet) :=
  ⟨_, parse_ethernetFrame, destination_ethernetFrame, source_ethernetFrame⟩

theorem decode_tcpFrame (hplain : cfg.tapOffload = false) {frame : TcpFrame}
    (hfamily : frame.key.target.isIpv4 = frame.key.namespaceEnd.isIpv4) {payload : Bytes}
    (hlen : ipHeaderLen frame.key.target + (Tcp.headerLen frame.mss frame.windowScale + payload.length) ≤ u16Max) :
    decodeFrame cfg (tcpFrame macs frame payload) = .frame false (tcpArrival frame payload) := by
  have hasked : askedSegment frame payload = arrived frame.header payload := rfl
  unfold tcpFrame tcpArrival
  rw [hasked]
  rcases same_family hfamily with ⟨source, port, destination, port', htarget, hnamespace⟩ |
    ⟨source, port, _, _, destination, port', _, _, htarget, hnamespace⟩
  · rw [htarget, hnamespace]
    rw [htarget] at hlen
    exact decode_tcpV4 hplain rfl hlen
  · rw [htarget, hnamespace]
    exact decode_tcpV6 hplain rfl (Nat.le_trans (Nat.le_add_left _ _) hlen)

theorem decode_udpFrame (hplain : cfg.tapOffload = false) {client gateway : SocketAddr}
    (hfamily : gateway.isIpv4 = client.isIpv4) {payload : Bytes}
    (hlen : ipHeaderLen client + (8 + payload.length) ≤ u16Max) :
    decodeFrame cfg (udpFrame macs client gateway payload) = .frame false (udpArrival client gateway payload) := by
  rcases same_family hfamily with ⟨source, port, destination, port', rfl, rfl⟩ |
    ⟨source, port, _, _, destination, port', _, _, rfl, rfl⟩
  · exact decode_udpV4 hplain rfl hlen
  · exact decode_udpV6 hplain rfl (Nat.le_trans (Nat.le_add_left _ _) hlen)

theorem read_udpErrorFrame {key : Udp.FlowKey} (hfamily : key.source.isIpv4 = key.target.isIpv4) {payload : Bytes}
    {originalLen : ℕ} {error : UdpError}
    (hlen : (if key.source.isIpv4 then 20 else 0) + (8 + originalLen) ≤ u16Max) :
    readUdpError (udpErrorFrame macs key payload originalLen error) =
      .ok (udpErrorReport key payload originalLen error) := by
  obtain ⟨source, target⟩ := key
  rcases same_family hfamily with ⟨ip, port, ip', port', rfl, rfl⟩ |
    ⟨ip, port, _, _, ip', port', _, _, rfl, rfl⟩
  · have hlong : 20 + (8 + originalLen) ≤ u16Max := hlen
    exact readUdpError_ipv4 (by omega)
  · exact readUdpError_ipv6 (Nat.le_trans (Nat.le_add_left _ _) hlen)

/-- Without offload an IP packet that fits a pooled buffer is no longer than its length field can say. -/
theorem capacity_le (hplain : cfg.tapOffload = false) (tier : FrameTier) : cfg.capacity tier ≤ 14 + u16Max := by
  have hmtu := cfg.tapMtu_le
  have hvnet := vnetLen_eq_zero hplain
  cases tier with
  | mtu =>
    change cfg.tapMtu + (14 + cfg.vnetLen) ≤ 14 + 65535
    omega
  | gso =>
    change cfg.vnetLen + 14 + 65535 ≤ 14 + 65535
    omega

theorem capacity_ge (cfg : Config) (tier : FrameTier) : 14 + 1280 ≤ cfg.capacity tier := by
  have hmtu := cfg.tapMtu_ge
  cases tier with
  | mtu =>
    change 14 + 1280 ≤ cfg.tapMtu + (14 + cfg.vnetLen)
    omega
  | gso =>
    change 14 + 1280 ≤ cfg.vnetLen + 14 + 65535
    omega

theorem length_tcpFrame {frame : TcpFrame} (hfamily : frame.key.target.isIpv4 = frame.key.namespaceEnd.isIpv4)
    (payload : Bytes) : (tcpFrame macs frame payload).length =
    14 + ipHeaderLen frame.key.target + Tcp.headerLen frame.mss frame.windowScale + payload.length := by
  unfold tcpFrame ethernetFrame
  rw [List.length_append, Ethernet.length_header]
  rcases same_family hfamily with ⟨source, port, destination, port', htarget, hnamespace⟩ |
    ⟨source, port, _, _, destination, port', _, _, htarget, hnamespace⟩
  · rw [htarget, hnamespace]
    simp only [Ip.length_ipv4Packet, Tcp.length_segment, TcpFrame.header]
    change 14 + (20 + _) = 14 + 20 + _ + _
    omega
  · rw [htarget, hnamespace]
    simp only [Ip.length_ipv6Packet, Tcp.length_segment, TcpFrame.header]
    change 14 + (40 + _) = 14 + 40 + _ + _
    omega

theorem length_udpFrame {client gateway : SocketAddr} (hfamily : gateway.isIpv4 = client.isIpv4)
    (payload : Bytes) : (udpFrame macs client gateway payload).length =
    14 + ipHeaderLen client + (8 + payload.length) := by
  unfold udpFrame ethernetFrame
  rw [List.length_append, Ethernet.length_header]
  rcases same_family hfamily with ⟨source, port, destination, port', rfl, rfl⟩ |
    ⟨source, port, _, _, destination, port', _, _, rfl, rfl⟩
  · simp only [Ip.length_ipv4Packet, Udp.length_datagram]
    change 14 + (20 + _) = 14 + 20 + _
    omega
  · simp only [Ip.length_ipv6Packet, Udp.length_datagram]
    change 14 + (40 + _) = 14 + 40 + _
    omega

theorem length_udpErrorFrame {key : Udp.FlowKey} (hfamily : key.source.isIpv4 = key.target.isIpv4)
    (payload : Bytes) (originalLen : ℕ) (error : UdpError) :
    (udpErrorFrame macs key payload originalLen error).length =
      14 + (ipHeaderLen key.source + (8 + (ipHeaderLen key.source + 8 + (payload.take 8).length))) := by
  unfold udpErrorFrame ethernetFrame
  rw [List.length_append, Ethernet.length_header]
  obtain ⟨source, target⟩ := key
  rcases same_family hfamily with ⟨ip, port, ip', port', rfl, rfl⟩ |
    ⟨ip, port, _, _, ip', port', _, _, rfl, rfl⟩
  · simp only [Ip.length_ipv4Packet, Icmp.length_ipv4Message]
    rfl
  · simp only [Ip.length_ipv6Packet, Icmp.length_ipv6Message]
    rfl

/-- Frames written without offload, over any old contents of a pooled buffer, have the
length the reactor counts, are accepted by the reader with checksum verification, and
decode to what was supplied. A quoted datagram is one whose length an IP header can hold. -/
theorem frames_decode (cfg : Config) (hplain : cfg.tapOffload = false) (macs : Macs) (tier : FrameTier)
    (bytes : Bytes) (hbuffer : bytes.length = cfg.capacity tier) :
    (∀ (frame : TcpFrame) (payload : Bytes),
      let offset := Reactor.tcpPayloadOffset cfg frame.key frame.spec.mss frame.spec.windowScale
      frame.key.target.isIpv4 = frame.key.namespaceEnd.isIpv4 →
      range bytes offset (offset + payload.length) = .ok payload →
      ∃ out, finalizeTcpFrame cfg macs bytes frame payload.length = .ok out ∧
        out.length = offset + payload.length ∧ Addressed macs out ∧
        decodeFrame cfg out = .frame false (tcpArrival frame payload)) ∧
    (∀ (client gateway : SocketAddr) (payload : Bytes), gateway.isIpv4 = client.isIpv4 →
      Reactor.udpFrameLen cfg client payload.length ≤ bytes.length →
      ∃ out, queueUdpFrame cfg macs bytes client gateway payload = .ok out ∧
        out.length = Reactor.udpFrameLen cfg client payload.length ∧ Addressed macs out ∧
        decodeFrame cfg out = .frame false (udpArrival client gateway payload)) ∧
    ∀ (key : Udp.FlowKey) (payload : Bytes) (originalLen : ℕ) (error : UdpError),
      key.source.isIpv4 = key.target.isIpv4 →
      (if key.source.isIpv4 then 20 else 0) + (udpHeaderLen + originalLen) ≤ u16Max →
      ∃ out, queueUdpIcmpFor cfg macs bytes key payload originalLen error = .ok out ∧
        udpErrorLength (cfg.capacity tier - ethernetHeaderLen) key (payload.take 8).length originalLen =
          .ok (out.length - ethernetHeaderLen) ∧ Addressed macs out ∧
        readUdpError out = .ok (udpErrorReport key payload originalLen error) := by
  have hcapacity := capacity_le hplain tier
  refine ⟨?_, ?_, ?_⟩
  · intro frame payload offset hfamily hpayload
    have hoffset : offset = 14 + ipHeaderLen frame.key.target + Tcp.headerLen frame.mss frame.windowScale :=
      tcpPayloadOffset_eq hplain frame
    obtain ⟨front, rest, hsplit, hfront, -⟩ := exists_of_range hpayload
    have hlength : bytes.length = offset + (payload.length + rest.length) := by
      rw [hsplit, List.length_append, List.length_append, hfront]
    have hlen : ipHeaderLen frame.key.target + (Tcp.headerLen frame.mss frame.windowScale + payload.length) ≤
        u16Max := by
      omega
    refine ⟨_, finalizeTcpFrame_eq hplain frame hfamily hpayload hlen, ?_, addressed_ethernetFrame _ _,
      decode_tcpFrame hplain hfamily hlen⟩
    rw [length_tcpFrame hfamily, hoffset]
  · intro client gateway payload hfamily hfits
    have hroom := hfits
    rw [udpFrameLen_eq hplain] at hroom
    have hlen : ipHeaderLen client + (8 + payload.length) ≤ u16Max := by omega
    refine ⟨_, queueUdpFrame_eq hplain hfamily hfits hlen, ?_, addressed_ethernetFrame _ _,
      decode_udpFrame hplain hfamily hlen⟩
    rw [length_udpFrame hfamily, udpFrameLen_eq hplain]
  · intro key payload originalLen error hfamily hlen
    have hlarge := capacity_ge cfg tier
    have hquote : (payload.take 8).length ≤ 8 := List.length_take_le 8 payload
    have hheader : ipHeaderLen key.source ≤ 40 := by
      unfold ipHeaderLen
      split <;> omega
    have hfits : 14 + (ipHeaderLen key.source + (8 + (ipHeaderLen key.source + 8 + (payload.take 8).length))) ≤
        bytes.length := by
      omega
    refine ⟨_, queueUdpIcmpFor_eq hplain hfamily hfits hlen, ?_, addressed_ethernetFrame _ _,
      read_udpErrorFrame hfamily hlen⟩
    unfold udpErrorLength udpHeaderLen ethernetHeaderLen
    unfold udpHeaderLen at hlen
    rw [length_udpErrorFrame hfamily, if_neg (not_not.mpr hfamily)]
    simp only
    rw [if_neg (by omega), if_neg (by omega), Nat.add_sub_cancel_left]

/-- An answer to a SYN with both options, in a buffer full of old bytes. -/
theorem frames_decode_synAck :
    let cfg : Config :=
      { gatewayIpv4 := none, gatewayIpv6 := none, tapMtu := 1280, tapOffload := false,
        upstream := .direct false, dnsProxyTcp := false, dnsProxyUdp := false, dnsUpstream := none,
        maxTcpFlows := 16, udpEnabled := true, maxUdpFlows := 16, maxUdpAssociations := 16, workerCount := 1,
        maxPendingTcpBytes := 16384, maxRetainedTcpBytes := 16384, tapMtu_ge := by decide,
        tapMtu_le := by decide, workerCount_pos := by decide, maxTcpFlows_le := by decide,
        maxPendingTcpBytes_ge := by decide }
    let frame : TcpFrame :=
      { key := { namespaceEnd := .v4 0x0a000002 40000, target := .v4 0x0a000001 80 },
        plan := { sequence := 700, acknowledgment := 8, length := 0, syn := true, fin := false },
        flags := { syn := true, ack := true }, mss := some 1240, windowScale := some 7, window := 5000,
        gsoSize := none }
    ∃ out, finalizeTcpFrame cfg ⟨2, 1⟩ (List.replicate 1294 9) frame 0 = .ok out ∧
      decodeFrame cfg out = .frame false (.tcpV4 0x0a000001 0x0a000002
        { sourcePort := 80, destinationPort := 40000, sequence := 700, acknowledgment := 8,
          flags := { syn := true, ack := true }, window := 5000, mss := some 1240, windowScale := some 7,
          payload := [] }) := by
  intro cfg frame
  have hpayload : range (List.replicate 1294 9) 62 (62 + ([] : Bytes).length) = .ok [] := by
    unfold range
    rw [if_pos ⟨by decide, by rw [List.length_replicate]; decide⟩, Nat.add_sub_cancel_left]
    rfl
  obtain ⟨out, hout, _, _, hdecode⟩ := (frames_decode cfg rfl ⟨2, 1⟩ .mtu (List.replicate 1294 9)
    List.length_replicate).1 frame [] rfl hpayload
  exact ⟨out, hout, hdecode⟩

end Yayatht.FrameBytes
