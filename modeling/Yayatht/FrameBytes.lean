import Yayatht.Packet
import Yayatht.ReactorDatagrams

set_option autoImplicit false

/-!
# The bytes of a frame

The reactor model keeps what a frame carries. Here are the bytes: what the three
frame builders write into a pooled buffer, whatever it held before, and what the
reader makes of a frame from the TAP.
-/
namespace Yayatht.FrameBytes
open Wire Packet

structure Macs where
  target : MacAddress
  gateway : MacAddress

/-- A `TcpFrameSpec` with the widths of the header fields. -/
structure TcpFrame where
  key : FlowKey
  plan : SendPlan
  flags : TcpFlags
  mss : Option UInt16
  windowScale : Option UInt8
  window : UInt16
  gsoSize : Option UInt16

def TcpFrame.spec (frame : TcpFrame) : TcpFrameSpec where
  key := frame.key
  plan := frame.plan
  flags := frame.flags
  mss := frame.mss.map UInt16.toNat
  windowScale := frame.windowScale.map UInt8.toNat
  window := frame.window.toNat
  gsoSize := frame.gsoSize.map UInt16.toNat

def TcpFrame.header (frame : TcpFrame) : Tcp.HeaderSpec where
  sourcePort := frame.key.target.port
  destinationPort := frame.key.namespaceEnd.port
  sequence := frame.plan.sequence
  acknowledgment := frame.plan.acknowledgment
  flags := frame.flags
  window := frame.window
  mss := frame.mss
  windowScale := frame.windowScale

def etherTypeOf (address : SocketAddr) : Ethernet.EtherType := if address.isIpv4 then .ipv4 else .ipv6

section Writers

variable (cfg : Config) (macs : Macs)

def writeLink (bytes : Bytes) (address : SocketAddr) : Except Error Bytes := do
  let bytes ← copyAt bytes 0 (List.replicate cfg.vnetLen 0)
  let (bytes, _) ← within bytes cfg.vnetLen bytes.length fun out =>
    Ethernet.writeHeader out macs.target macs.gateway (etherTypeOf address)
  pure bytes

def vnetHeader (frame : TcpFrame) (payloadLen : ℕ) : Vnet.Header :=
  let gsoSize := frame.gsoSize.filter fun size => payloadLen > size.toNat
  { flags := Vnet.flagNeedsCsum
    gsoType :=
      match gsoSize with
      | none => Vnet.gsoNone
      | some _ => if frame.key.target.isIpv4 then Vnet.gsoTcpv4 else Vnet.gsoTcpv6
    hdrLen := Reactor.tcpPayloadOffset cfg frame.key frame.spec.mss frame.spec.windowScale - cfg.vnetLen
    gsoSize := gsoSize.elim 0 UInt16.toNat
    csumStart := ethernetHeaderLen + ipHeaderLen frame.key.target
    csumOffset := 16 }

/-- Writes the headers in front of the payload, which is in the buffer already. -/
def finalizeTcpFrame (bytes : Bytes) (frame : TcpFrame) (payloadLen : ℕ) : Except Error Bytes := do
  let payloadOffset := Reactor.tcpPayloadOffset cfg frame.key frame.spec.mss frame.spec.windowScale
  let frameLen := payloadOffset + payloadLen
  let bytes ← writeLink cfg macs bytes frame.key.target
  let ipOffset := cfg.vnetLen + ethernetHeaderLen
  let tcpOffset := ipOffset + ipHeaderLen frame.key.target
  let (bytes, written) ← within bytes tcpOffset frameLen fun out => Tcp.writeHeader out frame.header
  let bytes ←
    match frame.key.target, frame.key.namespaceEnd with
    | .v4 source _, .v4 destination _ => do
      let (bytes, _) ← within bytes ipOffset frameLen fun out =>
        Ip.writeIpv4Header out source destination Ip.protoTcp (written + payloadLen) 0
      let (bytes, _) ← within bytes tcpOffset frameLen fun out =>
        if cfg.tapOffload then Tcp.setIpv4PartialChecksum out source destination
        else Tcp.setIpv4Checksum out source destination
      pure bytes
    | .v6 source _ _ _, .v6 destination _ _ _ => do
      let (bytes, _) ← within bytes ipOffset frameLen fun out =>
        Ip.writeIpv6Header out source destination Ip.protoTcp (written + payloadLen)
      let (bytes, _) ← within bytes tcpOffset frameLen fun out =>
        if cfg.tapOffload then Tcp.setIpv6PartialChecksum out source destination
        else Tcp.setIpv6Checksum out source destination
      pure bytes
    | _, _ => .error (.invariant "mixed address families in flow")
  if cfg.tapOffload then
    let (bytes, _) ← within bytes 0 cfg.vnetLen (vnetHeader cfg frame payloadLen).write
    range bytes 0 frameLen
  else range bytes 0 frameLen

def queueUdpFrame (bytes : Bytes) (client gateway : SocketAddr) (payload : Bytes) : Except Error Bytes := do
  let ipOffset := cfg.vnetLen + ethernetHeaderLen
  let udpOffset := ipOffset + ipHeaderLen client
  let frameLen := Reactor.udpFrameLen cfg client payload.length
  if frameLen > bytes.length then .error (.invariant "DNS reply exceeds frame capacity")
  else
    let bytes ← writeLink cfg macs bytes client
    let bytes ← copyAt bytes (udpOffset + udpHeaderLen) payload
    let (bytes, _) ← within bytes udpOffset frameLen fun out =>
      Udp.writeHeader out gateway.port client.port payload.length
    let bytes ←
      match gateway, client with
      | .v4 source _, .v4 destination _ => do
        let (bytes, _) ← within bytes ipOffset frameLen fun out =>
          Ip.writeIpv4Header out source destination Ip.protoUdp (udpHeaderLen + payload.length) 0
        let (bytes, _) ← within bytes udpOffset frameLen fun out => Udp.setIpv4Checksum out source destination
        pure bytes
      | .v6 source _ _ _, .v6 destination _ _ _ => do
        let (bytes, _) ← within bytes ipOffset frameLen fun out =>
          Ip.writeIpv6Header out source destination Ip.protoUdp (udpHeaderLen + payload.length)
        let (bytes, _) ← within bytes udpOffset frameLen fun out => Udp.setIpv6Checksum out source destination
        pure bytes
      | _, _ => fail .protocolMismatch
    range bytes 0 frameLen

def queueUdpIcmpFor (bytes : Bytes) (key : Udp.FlowKey) (payload : Bytes) (originalLen : ℕ)
    (error : UdpError) : Except Error Bytes := do
  let ipOffset := cfg.vnetLen + ethernetHeaderLen
  let bytes ← writeLink cfg macs bytes key.source
  let (bytes, ipLength) ← within bytes ipOffset bytes.length fun out =>
    Icmp.writeUdpError out key.source key.target (payload.take 8) originalLen error
  range bytes 0 (ipOffset + ipLength)

end Writers

section Reader

variable (cfg : Config)

/-- What is left of a frame after its virtio header, whether its transport checksum
still has to be verified, and whether it is a super-frame. -/
def splitRxVnet (bytes : Bytes) : Except Error (Bytes × Bool × Bool) := do
  if cfg.vnetLen = 0 then pure (bytes, true, false)
  else
    let header ← Vnet.Header.parse bytes
    let verify := header.flags &&& (Vnet.flagNeedsCsum ||| Vnet.flagDataValid) = 0
    let body ← range bytes cfg.vnetLen bytes.length
    if header.gsoType = Vnet.gsoNone then pure (body, verify, false)
    else if header.gsoType = Vnet.gsoTcpv4 ∨ header.gsoType = Vnet.gsoTcpv6 then pure (body, verify, true)
    else .error (.invariant "TAP frame carries an unnegotiated GSO type")

def decodeArp (ethernet : Ethernet.Frame) : Except Error TapFrame := do
  if cfg.gatewayIpv4.isNone then pure .ignored
  else
    let request ← Neighbor.parseArpRequest (← ethernet.payload)
    pure (.arpRequest request.targetIp)

def decodeIpv4 (ethernet : Ethernet.Frame) (verifyChecksum : Bool) : Except Error TapFrame := do
  let packet ← Ip.Ipv4Packet.parse (← ethernet.payload)
  let protocol ← packet.protocol
  if protocol = Ip.protoUdp then
    let datagram ← Udp.Datagram.parseIpv4 packet verifyChecksum
    pure (.udpV4 (← packet.source) (← packet.destination) (← datagram.sourcePort) (← datagram.destinationPort)
      (← datagram.payload))
  else if protocol ≠ Ip.protoTcp then pure .ignored
  else
    let segment ← Tcp.Segment.parseIpv4 packet verifyChecksum
    pure (.tcpV4 (← packet.source) (← packet.destination) (← segment.read))

def decodeIpv6 (ethernet : Ethernet.Frame) (verifyChecksum : Bool) : Except Error TapFrame := do
  let packet ← Ip.Ipv6Packet.parse (← ethernet.payload)
  if packet.nextHeader = Ip.protoIcmpv6 then
    let payload ← packet.payload
    if payload.head? ≠ some 135 ∨ cfg.gatewayIpv6.isNone then pure .ignored
    else
      let target ← Neighbor.parseNeighborSolicitation packet
      pure (.neighborSolicitation target (← packet.source))
  else if packet.nextHeader = Ip.protoUdp then
    let datagram ← Udp.Datagram.parseIpv6 packet verifyChecksum
    pure (.udpV6 (← packet.source) (← packet.destination) (← datagram.sourcePort) (← datagram.destinationPort)
      (← datagram.payload))
  else if packet.nextHeader ≠ Ip.protoTcp then pure .ignored
  else
    let segment ← Tcp.Segment.parseIpv6 packet verifyChecksum
    pure (.tcpV6 (← packet.source) (← packet.destination) (← segment.read))

def decodeEthernet (bytes : Bytes) (verifyChecksum : Bool) : Except Error TapFrame := do
  let ethernet ← Ethernet.Frame.parse bytes
  match ← ethernet.etherType with
  | .arp => decodeArp cfg ethernet
  | .ipv4 => decodeIpv4 ethernet verifyChecksum
  | .ipv6 => decodeIpv6 cfg ethernet verifyChecksum
  | .other _ => pure .ignored

/-- The parsing half of `handle_frame`. -/
def decodeFrame (bytes : Bytes) : TapInput :=
  match splitRxVnet cfg bytes with
  | .error error => .frame false (.malformed error)
  | .ok (body, verifyChecksum, gso) =>
    match decodeEthernet cfg body verifyChecksum with
    | .error error => .frame gso (.malformed error)
    | .ok frame => .frame gso frame

end Reader

end Yayatht.FrameBytes
