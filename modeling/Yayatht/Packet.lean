import Yayatht.WireBytes
import Yayatht.InternetChecksum

set_option autoImplicit false

namespace Yayatht.Packet
open Wire Sequence

def fail {α : Type} (error : PacketError) : Except Error α := .error (.packet error)

abbrev MacAddress := BitVec 48

namespace Ethernet

inductive EtherType where
  | ipv4
  | arp
  | ipv6
  | other (value : ℕ)
  deriving DecidableEq, Repr

def EtherType.fromRaw (value : ℕ) : EtherType :=
  if value = 0x0800 then .ipv4
  else if value = 0x0806 then .arp
  else if value = 0x86dd then .ipv6
  else .other value

def EtherType.raw : EtherType → ℕ
  | .ipv4 => 0x0800
  | .arp => 0x0806
  | .ipv6 => 0x86dd
  | .other value => value

structure Frame where
  bytes : Bytes

namespace Frame

def parse (bytes : Bytes) : Except Error Frame :=
  if bytes.length < ethernetHeaderLen then fail .truncated else pure ⟨bytes⟩

def destination (frame : Frame) : Except Error MacAddress := do
  pure (ofOctets 48 (← range frame.bytes 0 6))

def source (frame : Frame) : Except Error MacAddress := do
  pure (ofOctets 48 (← range frame.bytes 6 12))

def etherType (frame : Frame) : Except Error EtherType := do
  pure (.fromRaw (← wordAt frame.bytes 12))

def payload (frame : Frame) : Except Error Bytes := range frame.bytes ethernetHeaderLen frame.bytes.length

end Frame

def writeHeader (out : Bytes) (destination source : MacAddress) (etherType : EtherType) :
    Except Error (Bytes × Unit) := do
  if out.length < ethernetHeaderLen then fail .truncated
  else
    let out ← copyFields out [(0, beBytes 6 destination), (6, beBytes 6 source), (12, be16 etherType.raw)]
    pure (out, ())

end Ethernet

namespace Ip

def protoIcmp : UInt8 := 1
def protoTcp : UInt8 := 6
def protoUdp : UInt8 := 17
def protoIcmpv6 : UInt8 := 58

structure Ipv4Packet where
  bytes : Bytes
  headerLen : ℕ
  totalLen : ℕ

namespace Ipv4Packet

def parse (bytes : Bytes) : Except Error Ipv4Packet := do
  if bytes.length < 20 then fail .truncated
  else
    let first ← byteAt bytes 0
    if first >>> 4 ≠ 4 then fail .protocolMismatch
    else
      let headerLen := (first &&& 0x0f).toNat * 4
      if headerLen < 20 ∨ headerLen > bytes.length then fail .invalidLength
      else
        let totalLen ← wordAt bytes 2
        if totalLen < headerLen ∨ totalLen > bytes.length then fail .invalidLength
        else
          let fragment ← wordAt bytes 6
          if fragment &&& 0x3fff ≠ 0 then fail .unsupported
          else
            let header ← range bytes 0 headerLen
            if Checksum.checksum header ≠ 0 then fail .invalidChecksum
            else pure ⟨bytes, headerLen, totalLen⟩

def source (packet : Ipv4Packet) : Except Error (BitVec 32) := do
  pure (ofOctets 32 (← range packet.bytes 12 16))

def destination (packet : Ipv4Packet) : Except Error (BitVec 32) := do
  pure (ofOctets 32 (← range packet.bytes 16 20))

def protocol (packet : Ipv4Packet) : Except Error UInt8 := byteAt packet.bytes 9

def payload (packet : Ipv4Packet) : Except Error Bytes := range packet.bytes packet.headerLen packet.totalLen

end Ipv4Packet

structure Ipv6Packet where
  bytes : Bytes
  payloadOffset : ℕ
  totalLen : ℕ
  nextHeader : UInt8

namespace Ipv6Packet

def isExtension (next : UInt8) : Bool := next = 0 || next = 43 || next = 60 || next = 51

/-- Walks the extension headers; `room` counts how many more are accepted. -/
def skipExtensions (bytes : Bytes) (totalLen : ℕ) :
    ℕ → UInt8 → ℕ → ℕ → Except Error (UInt8 × ℕ)
  | room, next, offset, extensionBytes =>
    if isExtension next then
      match room with
      | 0 => fail .unsupported
      | room + 1 =>
        if offset + 2 > totalLen then fail .unsupported
        else do
          let following ← byteAt bytes offset
          let units ← byteAt bytes (offset + 1)
          let length := if next = 51 then (units.toNat + 2) * 4 else (units.toNat + 1) * 8
          if extensionBytes + length > 256 ∨ offset + length > totalLen then fail .unsupported
          else skipExtensions bytes totalLen room following (offset + length) (extensionBytes + length)
    else pure (next, offset)

def parse (bytes : Bytes) : Except Error Ipv6Packet := do
  if bytes.length < 40 then fail .truncated
  else
    let first ← byteAt bytes 0
    if first >>> 4 ≠ 6 then fail .protocolMismatch
    else
      let payloadLen ← wordAt bytes 4
      let totalLen := 40 + payloadLen
      if totalLen > bytes.length then fail .truncated
      else
        let next ← byteAt bytes 6
        let (next, offset) ← skipExtensions bytes totalLen 8 next 40 0
        if next = 44 then fail .unsupported else pure ⟨bytes, offset, totalLen, next⟩

def source (packet : Ipv6Packet) : Except Error (BitVec 128) := do
  pure (ofOctets 128 (← range packet.bytes 8 24))

def destination (packet : Ipv6Packet) : Except Error (BitVec 128) := do
  pure (ofOctets 128 (← range packet.bytes 24 40))

def payload (packet : Ipv6Packet) : Except Error Bytes :=
  range packet.bytes packet.payloadOffset packet.totalLen

end Ipv6Packet

/-- The number of bytes written comes with the slice. -/
def writeIpv4Header (out : Bytes) (source destination : BitVec 32) (protocol : UInt8)
    (payloadLen identification : ℕ) : Except Error (Bytes × ℕ) := do
  let totalLen := 20 + payloadLen
  if out.length < 20 ∨ totalLen > u16Max then fail .invalidLength
  else
    let out ← copyFields out
      [(0, List.replicate 20 0), (0, [0x45]), (2, be16 totalLen), (4, be16 identification), (6, be16 0x4000),
        (8, [64]), (9, [protocol]), (12, beBytes 4 source), (16, beBytes 4 destination)]
    let header ← range out 0 20
    let out ← copyAt out 10 (be16 (Checksum.checksum header))
    pure (out, 20)

def writeIpv6Header (out : Bytes) (source destination : BitVec 128) (nextHeader : UInt8) (payloadLen : ℕ) :
    Except Error (Bytes × ℕ) := do
  if out.length < 40 ∨ payloadLen > u16Max then fail .invalidLength
  else
    let out ← copyFields out
      [(0, List.replicate 40 0), (0, [0x60]), (4, be16 payloadLen), (6, [nextHeader]), (7, [64]),
        (8, beBytes 16 source), (24, beBytes 16 destination)]
    pure (out, 40)

end Ip

namespace Tcp

structure Segment where
  bytes : Bytes
  headerLen : ℕ

namespace Segment

def parse (bytes : Bytes) : Except Error Segment := do
  if bytes.length < tcpMinHeaderLen then fail .truncated
  else
    let offset ← byteAt bytes 12
    let headerLen := (offset >>> 4).toNat * 4
    if headerLen < tcpMinHeaderLen ∨ headerLen > bytes.length then fail .invalidLength
    else pure ⟨bytes, headerLen⟩

def parseIpv4 (ip : Ip.Ipv4Packet) (verifyChecksum : Bool) : Except Error Segment := do
  if (← ip.protocol) ≠ Ip.protoTcp then fail .protocolMismatch
  else
    let payload ← ip.payload
    let source ← range ip.bytes 12 16
    let destination ← range ip.bytes 16 20
    if verifyChecksum ∧ Checksum.ipv4Transport source destination 6 payload ≠ 0 then fail .invalidChecksum
    else parse payload

def parseIpv6 (ip : Ip.Ipv6Packet) (verifyChecksum : Bool) : Except Error Segment := do
  if ip.nextHeader ≠ Ip.protoTcp then fail .protocolMismatch
  else
    let payload ← ip.payload
    let source ← range ip.bytes 8 24
    let destination ← range ip.bytes 24 40
    if verifyChecksum ∧ Checksum.ipv6Transport source destination 6 payload ≠ 0 then fail .invalidChecksum
    else parse payload

def sourcePort (segment : Segment) : Except Error UInt16 := do
  pure (UInt16.ofNat (← wordAt segment.bytes 0))

def destinationPort (segment : Segment) : Except Error UInt16 := do
  pure (UInt16.ofNat (← wordAt segment.bytes 2))

def sequence (segment : Segment) : Except Error Seq := do
  pure (ofOctets 32 (← range segment.bytes 4 8))

def acknowledgment (segment : Segment) : Except Error Seq := do
  pure (ofOctets 32 (← range segment.bytes 8 12))

def flags (segment : Segment) : Except Error TcpFlags := do
  let value ← byteAt segment.bytes 13
  pure
    { fin := value &&& 0x01 ≠ 0, syn := value &&& 0x02 ≠ 0, rst := value &&& 0x04 ≠ 0,
      psh := value &&& 0x08 ≠ 0, ack := value &&& 0x10 ≠ 0 }

def window (segment : Segment) : Except Error UInt16 := do
  pure (UInt16.ofNat (← wordAt segment.bytes 14))

def payload (segment : Segment) : Except Error Bytes :=
  range segment.bytes segment.headerLen segment.bytes.length

/-- Looks through the options; every round takes at least one byte of them. -/
def scanOptions (wantedKind : UInt8) (wantedLen : ℕ) : ℕ → Bytes → Option Bytes
  | 0, _ => none
  | _ + 1, [] => none
  | rounds + 1, kind :: rest =>
    if kind = 0 then none
    else if kind = 1 then scanOptions wantedKind wantedLen rounds rest
    else
      match rest with
      | [] => none
      | len :: tail =>
        if len.toNat < 2 ∨ len.toNat - 2 > tail.length then none
        else if kind = wantedKind ∧ len.toNat = wantedLen then some (tail.take (len.toNat - 2))
        else scanOptions wantedKind wantedLen rounds (tail.drop (len.toNat - 2))

def findOption (segment : Segment) (wantedKind : UInt8) (wantedLen : ℕ) : Except Error (Option Bytes) := do
  let options ← range segment.bytes tcpMinHeaderLen segment.headerLen
  pure (scanOptions wantedKind wantedLen options.length options)

def mss (segment : Segment) : Except Error (Option UInt16) := do
  match ← segment.findOption 2 4 with
  | none => pure none
  | some value => pure (some (UInt16.ofNat (← wordAt value 0)))

def windowScale (segment : Segment) : Except Error (Option UInt8) := do
  match ← segment.findOption 3 3 with
  | none => pure none
  | some value => pure (some (← byteAt value 0))

def read (segment : Segment) : Except Error TcpSegment := do
  pure
    { sourcePort := ← segment.sourcePort, destinationPort := ← segment.destinationPort,
      sequence := ← segment.sequence, acknowledgment := ← segment.acknowledgment, flags := ← segment.flags,
      window := ← segment.window, mss := ← segment.mss, windowScale := ← segment.windowScale,
      payload := ← segment.payload }

end Segment

structure HeaderSpec where
  sourcePort : UInt16
  destinationPort : UInt16
  sequence : Seq
  acknowledgment : Seq
  flags : TcpFlags
  window : UInt16
  mss : Option UInt16
  windowScale : Option UInt8

def headerLen (mss : Option UInt16) (windowScale : Option UInt8) : ℕ :=
  tcpMinHeaderLen + (if mss.isSome then 4 else 0) + (if windowScale.isSome then 4 else 0)

def bit (flag : Bool) : UInt8 := if flag then 1 else 0

def flagByte (flags : TcpFlags) : UInt8 :=
  bit flags.fin ||| bit flags.syn <<< 1 ||| bit flags.rst <<< 2 ||| bit flags.psh <<< 3 ||| bit flags.ack <<< 4

def mssOption : Option UInt16 → List (ℕ × Bytes)
  | none => []
  | some mss => [(tcpMinHeaderLen, [2]), (tcpMinHeaderLen + 1, [4]), (tcpMinHeaderLen + 2, be16 mss.toNat)]

def windowScaleOption (cursor : ℕ) : Option UInt8 → List (ℕ × Bytes)
  | none => []
  | some shift => [(cursor, [1]), (cursor + 1, [3]), (cursor + 2, [3]), (cursor + 3, [shift])]

def writeHeader (out : Bytes) (spec : HeaderSpec) : Except Error (Bytes × ℕ) := do
  let headerLen := headerLen spec.mss spec.windowScale
  if out.length < headerLen then fail .truncated
  else
    let cursor := tcpMinHeaderLen + (if spec.mss.isSome then 4 else 0)
    let out ← copyFields out
      ([(0, List.replicate headerLen 0), (0, be16 spec.sourcePort.toNat), (2, be16 spec.destinationPort.toNat),
        (4, beBytes 4 spec.sequence), (8, beBytes 4 spec.acknowledgment),
        (12, [(UInt8.ofNat headerLen / 4) <<< 4]), (13, [flagByte spec.flags]), (14, be16 spec.window.toNat)] ++
        mssOption spec.mss ++ windowScaleOption cursor spec.windowScale)
    pure (out, headerLen)

/-- Writes a checksum over a zero field. -/
def setChecksum (transport : Bytes → ℕ) (tcp : Bytes) : Except Error (Bytes × Unit) := do
  if tcp.length < tcpMinHeaderLen then fail .truncated
  else
    let tcp ← copyAt tcp 16 [0, 0]
    let tcp ← copyAt tcp 16 (be16 (transport tcp))
    pure (tcp, ())

def setIpv4Checksum (tcp : Bytes) (source destination : BitVec 32) : Except Error (Bytes × Unit) :=
  setChecksum (Checksum.ipv4Transport (beBytes 4 source) (beBytes 4 destination) 6) tcp

def setIpv6Checksum (tcp : Bytes) (source destination : BitVec 128) : Except Error (Bytes × Unit) :=
  setChecksum (Checksum.ipv6Transport (beBytes 16 source) (beBytes 16 destination) 6) tcp

/-- Leaves the sum of the pseudo header for the kernel to complete. -/
def setPartialChecksum (pseudo : ℕ → ℕ) (tcp : Bytes) : Except Error (Bytes × Unit) := do
  if tcp.length < tcpMinHeaderLen then fail .truncated
  else
    let tcp ← copyAt tcp 16 (be16 (pseudo tcp.length))
    pure (tcp, ())

def setIpv4PartialChecksum (tcp : Bytes) (source destination : BitVec 32) : Except Error (Bytes × Unit) :=
  setPartialChecksum (Checksum.ipv4PseudoHeader (beBytes 4 source) (beBytes 4 destination) 6) tcp

def setIpv6PartialChecksum (tcp : Bytes) (source destination : BitVec 128) : Except Error (Bytes × Unit) :=
  setPartialChecksum (Checksum.ipv6PseudoHeader (beBytes 16 source) (beBytes 16 destination) 6) tcp

end Tcp

namespace Udp

structure Datagram where
  bytes : Bytes

namespace Datagram

/-- The length field decides; padding after it is dropped. -/
def parse (bytes : Bytes) : Except Error Datagram := do
  if bytes.length < udpHeaderLen then fail .truncated
  else
    let length ← wordAt bytes 4
    if length < udpHeaderLen ∨ length > bytes.length then fail .invalidLength
    else pure ⟨← range bytes 0 length⟩

def checksumField (datagram : Datagram) : Except Error ℕ := wordAt datagram.bytes 6

def parseIpv4 (ip : Ip.Ipv4Packet) (verifyChecksum : Bool) : Except Error Datagram := do
  let datagram ← parse (← ip.payload)
  let field ← datagram.checksumField
  let source ← range ip.bytes 12 16
  let destination ← range ip.bytes 16 20
  if verifyChecksum ∧ field ≠ 0 ∧
      Checksum.ipv4Transport source destination Ip.protoUdp datagram.bytes ≠ 0 then
    fail .invalidChecksum
  else pure datagram

def parseIpv6 (ip : Ip.Ipv6Packet) (verifyChecksum : Bool) : Except Error Datagram := do
  let datagram ← parse (← ip.payload)
  if verifyChecksum then
    let field ← datagram.checksumField
    let source ← range ip.bytes 8 24
    let destination ← range ip.bytes 24 40
    if field = 0 then fail .invalidChecksum
    else if Checksum.ipv6Transport source destination Ip.protoUdp datagram.bytes ≠ 0 then fail .invalidChecksum
    else pure datagram
  else pure datagram

def sourcePort (datagram : Datagram) : Except Error UInt16 := do
  pure (UInt16.ofNat (← wordAt datagram.bytes 0))

def destinationPort (datagram : Datagram) : Except Error UInt16 := do
  pure (UInt16.ofNat (← wordAt datagram.bytes 2))

def payload (datagram : Datagram) : Except Error Bytes :=
  range datagram.bytes udpHeaderLen datagram.bytes.length

end Datagram

def writeHeader (out : Bytes) (sourcePort destinationPort : UInt16) (payloadLen : ℕ) :
    Except Error (Bytes × ℕ) := do
  let length := udpHeaderLen + payloadLen
  if out.length < length ∨ length > u16Max then fail .invalidLength
  else
    let out ← copyFields out
      [(0, be16 sourcePort.toNat), (2, be16 destinationPort.toNat), (4, be16 length), (6, [0, 0])]
    pure (out, udpHeaderLen)

/-- A computed zero is written as `0xffff`. -/
def setChecksum (transport : Bytes → ℕ) (datagram : Bytes) : Except Error (Bytes × Unit) := do
  if datagram.length < udpHeaderLen then fail .truncated
  else
    let datagram ← copyAt datagram 6 [0, 0]
    let value := transport datagram
    let datagram ← copyAt datagram 6 (be16 (if value = 0 then 0xffff else value))
    pure (datagram, ())

def setIpv4Checksum (datagram : Bytes) (source destination : BitVec 32) : Except Error (Bytes × Unit) :=
  setChecksum (Checksum.ipv4Transport (beBytes 4 source) (beBytes 4 destination) Ip.protoUdp) datagram

def setIpv6Checksum (datagram : Bytes) (source destination : BitVec 128) : Except Error (Bytes × Unit) :=
  setChecksum (Checksum.ipv6Transport (beBytes 16 source) (beBytes 16 destination) Ip.protoUdp) datagram

end Udp

namespace Icmp

def icmpHeaderLen : ℕ := 8

/-- Type, code and MTU of an IPv4 error, over a zeroed message; the MTU field has 16 bits. -/
def ipv4Fields : UdpError → List (ℕ × Bytes)
  | .destinationUnreachable code => [(0, [3]), (1, [code])]
  | .packetTooBig mtu => [(0, [3]), (1, [4]), (6, be16 (if mtu ≤ u16Max then mtu else u16Max))]

def ipv6Fields : UdpError → List (ℕ × Bytes)
  | .destinationUnreachable code => [(0, [1]), (1, [code])]
  | .packetTooBig mtu => [(0, [2]), (4, beBytes 4 (BitVec.ofNat 32 mtu))]

def writeQuotedUdpHeader (sourcePort destinationPort : UInt16) (length : ℕ) (out : Bytes) :
    Except Error (Bytes × Unit) := do
  let out ← copyFields out
    [(0, be16 sourcePort.toNat), (2, be16 destinationPort.toNat), (4, be16 length), (6, [0, 0])]
  pure (out, ())

/-- The message over a slice of its length; `inner` writes the quoted IP header. -/
def writeMessage (ipLen : ℕ) (inner : Bytes → Except Error (Bytes × ℕ)) (fields : List (ℕ × Bytes))
    (transport : Bytes → ℕ) (sourcePort destinationPort : UInt16) (udpLen : ℕ) (quote icmp : Bytes) :
    Except Error (Bytes × Unit) := do
  let quotedUdp := icmpHeaderLen + ipLen
  let icmp ← copyFields icmp ((0, List.replicate icmp.length 0) :: fields)
  let (icmp, _) ← within icmp icmpHeaderLen icmp.length inner
  let (icmp, _) ← within icmp quotedUdp (quotedUdp + udpHeaderLen)
    (writeQuotedUdpHeader sourcePort destinationPort udpLen)
  let icmp ← copyAt icmp (quotedUdp + udpHeaderLen) quote
  let icmp ← copyAt icmp 2 (be16 (transport icmp))
  pure (icmp, ())

/-- An error packet: `outer` and `inner` write the IP headers of the packet and of the
quoted datagram for a given payload length. -/
def writeError (ipLen : ℕ) (outer inner : ℕ → Bytes → Except Error (Bytes × ℕ)) (fields : List (ℕ × Bytes))
    (transport : Bytes → ℕ) (sourcePort destinationPort : UInt16) (quote : Bytes) (originalLen : ℕ)
    (out : Bytes) : Except Error (Bytes × ℕ) := do
  let icmpLen := icmpHeaderLen + (ipLen + udpHeaderLen + quote.length)
  let totalLen := ipLen + icmpLen
  if out.length < totalLen then fail .truncated
  else
    let udpLen := udpHeaderLen + originalLen
    if udpLen > u16Max then fail .invalidLength
    else
      let (out, _) ← outer icmpLen out
      let (out, _) ← within out ipLen totalLen
        (writeMessage ipLen (inner udpLen) fields transport sourcePort destinationPort udpLen quote)
      pure (out, totalLen)

def writeIpv4UdpError (out : Bytes) (originalSource originalDestination : BitVec 32)
    (sourcePort destinationPort : UInt16) (quote : Bytes) (originalLen : ℕ) (error : UdpError) :
    Except Error (Bytes × ℕ) :=
  writeError 20 (fun len out => Ip.writeIpv4Header out originalDestination originalSource Ip.protoIcmp len 0)
    (fun len out => Ip.writeIpv4Header out originalSource originalDestination Ip.protoUdp len 0)
    (ipv4Fields error) Checksum.checksum sourcePort destinationPort quote originalLen out

def writeIpv6UdpError (out : Bytes) (originalSource originalDestination : BitVec 128)
    (sourcePort destinationPort : UInt16) (quote : Bytes) (originalLen : ℕ) (error : UdpError) :
    Except Error (Bytes × ℕ) :=
  writeError 40 (fun len out => Ip.writeIpv6Header out originalDestination originalSource Ip.protoIcmpv6 len)
    (fun len out => Ip.writeIpv6Header out originalSource originalDestination Ip.protoUdp len)
    (ipv6Fields error)
    (Checksum.ipv6Transport (beBytes 16 originalDestination) (beBytes 16 originalSource) Ip.protoIcmpv6)
    sourcePort destinationPort quote originalLen out

/-- An IPv4 quote is cut to eight bytes of payload. -/
def writeUdpError (out : Bytes) (source destination : SocketAddr) (quote : Bytes) (originalLen : ℕ)
    (error : UdpError) : Except Error (Bytes × ℕ) :=
  match source, destination with
  | .v4 source sourcePort, .v4 destination destinationPort =>
    writeIpv4UdpError out source destination sourcePort destinationPort (quote.take 8) originalLen error
  | .v6 source sourcePort _ _, .v6 destination destinationPort _ _ =>
    writeIpv6UdpError out source destination sourcePort destinationPort quote originalLen error
  | _, _ => fail .protocolMismatch

end Icmp

namespace Neighbor

structure ArpRequest where
  senderMac : MacAddress
  senderIp : BitVec 32
  targetIp : BitVec 32

def parseArpRequest (bytes : Bytes) : Except Error ArpRequest := do
  if bytes.length < 28 then fail .truncated
  else if (← range bytes 0 8) ≠ [0, 1, 0x08, 0, 6, 4, 0, 1] then fail .unsupported
  else
    pure
      { senderMac := ofOctets 48 (← range bytes 8 14), senderIp := ofOctets 32 (← range bytes 14 18),
        targetIp := ofOctets 32 (← range bytes 24 28) }

def parseNeighborSolicitation (ip : Ip.Ipv6Packet) : Except Error (BitVec 128) := do
  if ip.nextHeader ≠ Ip.protoIcmpv6 then fail .protocolMismatch
  else
    let payload ← ip.payload
    if payload.length < 24 ∨ payload[0]? ≠ some 135 ∨ payload[1]? ≠ some 0 then fail .unsupported
    else
      let source ← range ip.bytes 8 24
      let destination ← range ip.bytes 24 40
      if Checksum.ipv6Transport source destination Ip.protoIcmpv6 payload ≠ 0 then fail .invalidChecksum
      else pure (ofOctets 128 (← range payload 8 24))

end Neighbor

namespace Vnet

def flagNeedsCsum : UInt8 := 1
def flagDataValid : UInt8 := 2
def gsoNone : UInt8 := 0
def gsoTcpv4 : UInt8 := 1
def gsoTcpv6 : UInt8 := 4

structure Header where
  flags : UInt8
  gsoType : UInt8
  hdrLen : ℕ
  gsoSize : ℕ
  csumStart : ℕ
  csumOffset : ℕ

/-- Native order, on a little-endian host. -/
def ne16 (value : ℕ) : Bytes := [UInt8.ofNat value, UInt8.ofNat (value / 256)]

def neWordAt (bytes : Bytes) (i : ℕ) : Except Error ℕ := do
  let low ← byteAt bytes i
  let high ← byteAt bytes (i + 1)
  pure (beWord high low)

def Header.parse (bytes : Bytes) : Except Error Header := do
  if bytes.length < vnetHeaderLen then fail .truncated
  else
    pure
      { flags := ← byteAt bytes 0, gsoType := ← byteAt bytes 1, hdrLen := ← neWordAt bytes 2,
        gsoSize := ← neWordAt bytes 4, csumStart := ← neWordAt bytes 6, csumOffset := ← neWordAt bytes 8 }

def Header.write (header : Header) (out : Bytes) : Except Error (Bytes × Unit) := do
  if out.length < vnetHeaderLen then fail .truncated
  else
    let out ← copyFields out
      [(0, [header.flags]), (1, [header.gsoType]), (2, ne16 header.hdrLen), (4, ne16 header.gsoSize),
        (6, ne16 header.csumStart), (8, ne16 header.csumOffset)]
    pure (out, ())

end Vnet

end Yayatht.Packet
