import Yayatht.FrameBytes
import Yayatht.PacketHeaders

set_option autoImplicit false

/-!
# Decoding with checked arithmetic

The readers of a TAP frame once more, with every addition and multiplication in the
width of the source, every slice checked and every loop that does not end
reported; all of these stop the process. They decode what the readers on natural
numbers decode, and nothing stops.
-/
namespace Yayatht.Checked
open Wire Packet

/-! ## Arithmetic -/

def overflow : Error := .panic "attempt to compute with overflow"

def add (bits a b : ℕ) : Except Error ℕ := if a + b < 2 ^ bits then .ok (a + b) else .error overflow

def mul (bits a b : ℕ) : Except Error ℕ := if a * b < 2 ^ bits then .ok (a * b) else .error overflow

def sub (a b : ℕ) : Except Error ℕ := if b ≤ a then .ok (a - b) else .error overflow

def sumWords : ℕ → Bytes → Except Error ℕ
  | sum, high :: low :: rest => do sumWords (← add 32 sum (beWord high low)) rest
  | sum, [last] => add 32 sum (256 * last.toNat)
  | sum, [] => pure sum

def foldSum (sum : ℕ) : Except Error ℕ :=
  if sum / 65536 = 0 then pure sum
  else do
    let _ ← add 32 (sum % 65536) (sum / 65536)
    foldSum (sum % 65536 + sum / 65536)
termination_by sum
decreasing_by omega

def fold (sum : ℕ) : Except Error ℕ := do pure (65535 - (← foldSum sum))

def checksum (bytes : Bytes) : Except Error ℕ := do fold (← sumWords 0 bytes)

def ipv4Transport (source destination : Bytes) (protocol : UInt8) (bytes : Bytes) : Except Error ℕ := do
  let sum ← sumWords 0 source
  let sum ← sumWords sum destination
  let sum ← add 32 sum protocol.toNat
  let sum ← add 32 sum (bytes.length % 2 ^ 32)
  fold (← sumWords sum bytes)

def ipv6Transport (source destination : Bytes) (protocol : UInt8) (bytes : Bytes) : Except Error ℕ := do
  let sum ← sumWords 0 source
  let sum ← sumWords sum destination
  let sum ← sumWords sum (beBytes 4 (BitVec.ofNat 32 bytes.length))
  let sum ← add 32 sum protocol.toNat
  fold (← sumWords sum bytes)

/-! ## Readers -/

def parseIpv4 (bytes : Bytes) : Except Error Ip.Ipv4Packet := do
  if bytes.length < 20 then fail .truncated
  else
    let first ← byteAt bytes 0
    if first >>> 4 ≠ 4 then fail .protocolMismatch
    else
      let headerLen ← mul 64 (first &&& 0x0f).toNat 4
      if headerLen < 20 ∨ headerLen > bytes.length then fail .invalidLength
      else
        let totalLen ← wordAt bytes 2
        if totalLen < headerLen ∨ totalLen > bytes.length then fail .invalidLength
        else
          let fragment ← wordAt bytes 6
          if fragment &&& 0x3fff ≠ 0 then fail .unsupported
          else
            let header ← range bytes 0 headerLen
            if (← checksum header) ≠ 0 then fail .invalidChecksum
            else pure ⟨bytes, headerLen, totalLen⟩

def extensionLength (current units : UInt8) : Except Error ℕ :=
  if current = 51 then do mul 64 (← add 64 units.toNat 2) 4 else do mul 64 (← add 64 units.toNat 1) 8

def skipExtensions (bytes : Bytes) (totalLen : ℕ) : ℕ → UInt8 → ℕ → ℕ → Except Error (UInt8 × ℕ)
  | room, next, offset, extensionBytes =>
    if Ip.Ipv6Packet.isExtension next then
      match room with
      | 0 => fail .unsupported
      | room + 1 => do
        if (← add 64 offset 2) > totalLen then fail .unsupported
        else do
          let following ← byteAt bytes offset
          let units ← byteAt bytes (← add 64 offset 1)
          let length ← extensionLength next units
          let offset ← add 64 offset length
          let extensionBytes ← add 64 extensionBytes length
          if extensionBytes > 256 ∨ offset > totalLen then fail .unsupported
          else skipExtensions bytes totalLen room following offset extensionBytes
    else pure (next, offset)

def parseIpv6 (bytes : Bytes) : Except Error Ip.Ipv6Packet := do
  if bytes.length < 40 then fail .truncated
  else
    let first ← byteAt bytes 0
    if first >>> 4 ≠ 6 then fail .protocolMismatch
    else
      let payloadLen ← wordAt bytes 4
      let totalLen ← add 64 40 payloadLen
      if totalLen > bytes.length then fail .truncated
      else
        let next ← byteAt bytes 6
        let (next, offset) ← skipExtensions bytes totalLen 8 next 40 0
        if next = 44 then fail .unsupported else pure ⟨bytes, offset, totalLen, next⟩

def parseTcp (bytes : Bytes) : Except Error Tcp.Segment := do
  if bytes.length < tcpMinHeaderLen then fail .truncated
  else
    let offset ← byteAt bytes 12
    let headerLen ← mul 64 (offset >>> 4).toNat 4
    if headerLen < tcpMinHeaderLen ∨ headerLen > bytes.length then fail .invalidLength
    else pure ⟨bytes, headerLen⟩

/-- Whether a checksum is wrong; it is computed only to be verified. -/
def rejects (verifyChecksum : Bool) (sum : Except Error ℕ) : Except Error Bool :=
  if verifyChecksum then do pure (decide ((← sum) ≠ 0)) else pure false

def ipv4Sum (ip : Ip.Ipv4Packet) (protocol : UInt8) (bytes : Bytes) : Except Error ℕ := do
  ipv4Transport (← range ip.bytes 12 16) (← range ip.bytes 16 20) protocol bytes

def ipv6Sum (ip : Ip.Ipv6Packet) (protocol : UInt8) (bytes : Bytes) : Except Error ℕ := do
  ipv6Transport (← range ip.bytes 8 24) (← range ip.bytes 24 40) protocol bytes

def parseTcpIpv4 (ip : Ip.Ipv4Packet) (verifyChecksum : Bool) : Except Error Tcp.Segment := do
  if (← ip.protocol) ≠ Ip.protoTcp then fail .protocolMismatch
  else
    let payload ← ip.payload
    if ← rejects verifyChecksum (ipv4Sum ip 6 payload) then fail .invalidChecksum else parseTcp payload

def parseTcpIpv6 (ip : Ip.Ipv6Packet) (verifyChecksum : Bool) : Except Error Tcp.Segment := do
  if ip.nextHeader ≠ Ip.protoTcp then fail .protocolMismatch
  else
    let payload ← ip.payload
    if ← rejects verifyChecksum (ipv6Sum ip 6 payload) then fail .invalidChecksum else parseTcp payload

/-- The loop over the options; one that is still going after `rounds` is reported. -/
def scanOptions (wantedKind : UInt8) (wantedLen : ℕ) : ℕ → Bytes → Except Error (Option Bytes)
  | _, [] => pure none
  | 0, _ :: _ => .error (.panic "option loop does not end")
  | rounds + 1, kind :: rest =>
    if kind = 0 then pure none
    else if kind = 1 then scanOptions wantedKind wantedLen rounds rest
    else
      match rest with
      | [] => pure none
      | len :: tail =>
        if len.toNat < 2 then pure none
        else do
          let size ← sub len.toNat 2
          if size > tail.length then pure none
          else if kind = wantedKind ∧ len.toNat = wantedLen then do pure (some (← range tail 0 size))
          else do scanOptions wantedKind wantedLen rounds (← range tail size tail.length)

def findOption (segment : Tcp.Segment) (wantedKind : UInt8) (wantedLen : ℕ) : Except Error (Option Bytes) := do
  let options ← range segment.bytes tcpMinHeaderLen segment.headerLen
  scanOptions wantedKind wantedLen options.length options

def mss (segment : Tcp.Segment) : Except Error (Option UInt16) := do
  match ← findOption segment 2 4 with
  | none => pure none
  | some value => pure (some (UInt16.ofNat (← wordAt value 0)))

def windowScale (segment : Tcp.Segment) : Except Error (Option UInt8) := do
  match ← findOption segment 3 3 with
  | none => pure none
  | some value => pure (some (← byteAt value 0))

def readTcp (segment : Tcp.Segment) : Except Error TcpSegment := do
  pure
    { sourcePort := ← segment.sourcePort, destinationPort := ← segment.destinationPort,
      sequence := ← segment.sequence, acknowledgment := ← segment.acknowledgment, flags := ← segment.flags,
      window := ← segment.window, mss := ← mss segment, windowScale := ← windowScale segment,
      payload := ← segment.payload }

def parseUdpIpv4 (ip : Ip.Ipv4Packet) (verifyChecksum : Bool) : Except Error Packet.Udp.Datagram := do
  let datagram ← Packet.Udp.Datagram.parse (← ip.payload)
  let field ← datagram.checksumField
  if ← rejects (verifyChecksum && decide (field ≠ 0)) (ipv4Sum ip Ip.protoUdp datagram.bytes) then
    fail .invalidChecksum
  else pure datagram

def parseUdpIpv6 (ip : Ip.Ipv6Packet) (verifyChecksum : Bool) : Except Error Packet.Udp.Datagram := do
  let datagram ← Packet.Udp.Datagram.parse (← ip.payload)
  if verifyChecksum then
    let field ← datagram.checksumField
    if field = 0 then fail .invalidChecksum
    else if ← rejects true (ipv6Sum ip Ip.protoUdp datagram.bytes) then fail .invalidChecksum
    else pure datagram
  else pure datagram

def parseNeighborSolicitation (ip : Ip.Ipv6Packet) : Except Error (BitVec 128) := do
  if ip.nextHeader ≠ Ip.protoIcmpv6 then fail .protocolMismatch
  else
    let payload ← ip.payload
    if payload.length < 24 then fail .unsupported
    else if (← byteAt payload 0) ≠ 135 then fail .unsupported
    else if (← byteAt payload 1) ≠ 0 then fail .unsupported
    else if ← rejects true (ipv6Sum ip Ip.protoIcmpv6 payload) then fail .invalidChecksum
    else pure (ofOctets 128 (← range payload 8 24))

def decodeIpv4 (ethernet : Ethernet.Frame) (verifyChecksum : Bool) : Except Error TapFrame := do
  let packet ← parseIpv4 (← ethernet.payload)
  let protocol ← packet.protocol
  if protocol = Ip.protoUdp then
    let datagram ← parseUdpIpv4 packet verifyChecksum
    pure (.udpV4 (← packet.source) (← packet.destination) (← datagram.sourcePort) (← datagram.destinationPort)
      (← datagram.payload))
  else if protocol ≠ Ip.protoTcp then pure .ignored
  else
    let segment ← parseTcpIpv4 packet verifyChecksum
    pure (.tcpV4 (← packet.source) (← packet.destination) (← readTcp segment))

variable (cfg : Config)

/-- The reply to a solicitation reads the source of the frame too. -/
def decodeIpv6 (ethernet : Ethernet.Frame) (verifyChecksum : Bool) : Except Error TapFrame := do
  let packet ← parseIpv6 (← ethernet.payload)
  if packet.nextHeader = Ip.protoIcmpv6 then
    let payload ← packet.payload
    if payload.head? ≠ some 135 ∨ cfg.gatewayIpv6.isNone then pure .ignored
    else
      let target ← parseNeighborSolicitation packet
      let _ ← ethernet.source
      pure (.neighborSolicitation target (← packet.source))
  else if packet.nextHeader = Ip.protoUdp then
    let datagram ← parseUdpIpv6 packet verifyChecksum
    pure (.udpV6 (← packet.source) (← packet.destination) (← datagram.sourcePort) (← datagram.destinationPort)
      (← datagram.payload))
  else if packet.nextHeader ≠ Ip.protoTcp then pure .ignored
  else
    let segment ← parseTcpIpv6 packet verifyChecksum
    pure (.tcpV6 (← packet.source) (← packet.destination) (← readTcp segment))

def decodeEthernet (bytes : Bytes) (verifyChecksum : Bool) : Except Error TapFrame := do
  let ethernet ← Ethernet.Frame.parse bytes
  match ← ethernet.etherType with
  | .arp => FrameBytes.decodeArp cfg ethernet
  | .ipv4 => decodeIpv4 ethernet verifyChecksum
  | .ipv6 => decodeIpv6 cfg ethernet verifyChecksum
  | .other _ => pure .ignored

/-- A malformed frame is counted and dropped; a panic is not caught. -/
def dropping (gso : Bool) : Except Error TapFrame → Except Error TapInput
  | .error (.panic text) => .error (.panic text)
  | .error error => .ok (.frame gso (.malformed error))
  | .ok frame => .ok (.frame gso frame)

def decodeFrame (bytes : Bytes) : Except Error TapInput :=
  match FrameBytes.splitRxVnet cfg bytes with
  | .error error => dropping false (.error error)
  | .ok (body, verifyChecksum, gso) => dropping gso (decodeEthernet cfg body verifyChecksum)

/-! ## Computations that end alike -/

section Alike

variable {α β : Type} {m m' : Except Error α} {f f' : α → Except Error β} {Q R : α → Prop} {S : β → Prop}

/-- A result satisfies `Q`; an error is one that the caller drops. -/
def Safe (m : Except Error α) (Q : α → Prop) : Prop :=
  match m with
  | .ok a => Q a
  | .error (.panic _) => False
  | .error _ => True

/-- Two computations end alike, and safely. -/
def Alike (m m' : Except Error α) (Q : α → Prop) : Prop := m = m' ∧ Safe m' Q

theorem Safe.mono (h : Safe m Q) (hQ : ∀ a, Q a → R a) : Safe m R := by
  unfold Safe at h ⊢
  split
  · exact hQ _ h
  · exact h
  · trivial

theorem Safe.alike (h : Safe m Q) : Alike m m Q := ⟨rfl, h⟩

theorem Alike.mono (h : Alike m m' Q) (hQ : ∀ a, Q a → R a) : Alike m m' R := ⟨h.1, h.2.mono hQ⟩

theorem Alike.pure {a : α} (h : Q a) : Alike (pure a) (pure a) Q := ⟨rfl, h⟩

theorem Alike.fail (error : PacketError) : Alike (fail error) (fail error) Q := ⟨rfl, trivial⟩

theorem Alike.bind (h : Alike m m' Q) (hf : ∀ a, Q a → Alike (f a) (f' a) S) :
    Alike (m >>= f) (m' >>= f') S := by
  obtain ⟨rfl, hsafe⟩ := h
  cases m with
  | ok a => exact hf a hsafe
  | error error =>
    refine ⟨rfl, ?_⟩
    cases error with
    | panic text => exact hsafe
    | _ => trivial

theorem Alike.ite {p : Prop} [Decidable p] {n n' : Except Error α} (h : p → Alike m m' Q)
    (h' : ¬p → Alike n n' Q) : Alike (if p then m else n) (if p then m' else n') Q := by
  split
  · exact h ‹_›
  · exact h' ‹_›

end Alike

section Reads

variable {bytes : Bytes} {i start stop : ℕ}

theorem alike_byteAt (h : i < bytes.length) :
    Alike (byteAt bytes i) (byteAt bytes i) fun byte => bytes[i]? = some byte := by
  apply Safe.alike
  unfold byteAt
  rw [List.getElem?_eq_getElem h]
  rfl

theorem alike_wordAt (h : i + 1 < bytes.length) :
    Alike (wordAt bytes i) (wordAt bytes i) fun word => word < 65536 := by
  refine .bind (alike_byteAt (by omega)) fun high _ => ?_
  refine .bind (alike_byteAt h) fun low _ => ?_
  exact .pure (beWord_lt high low)

theorem alike_range (h : start ≤ stop ∧ stop ≤ bytes.length) :
    Alike (range bytes start stop) (range bytes start stop)
      fun slice => slice <:+: bytes ∧ slice.length = stop - start := by
  apply Safe.alike
  unfold range
  rw [if_pos h]
  refine ⟨((List.take_prefix _ _).isInfix).trans (List.drop_suffix _ _).isInfix, ?_⟩
  rw [List.length_take, List.length_drop]
  omega

end Reads

/-! ## The accumulator -/

section Sums

variable {bits a b : ℕ}

theorem add_eq (h : a + b < 2 ^ bits) : add bits a b = .ok (a + b) := if_pos h

theorem mul_eq (h : a * b < 2 ^ bits) : mul bits a b = .ok (a * b) := if_pos h

theorem sub_eq (h : b ≤ a) : sub a b = .ok (a - b) := if_pos h

theorem sumWords_eq (sum : ℕ) (bytes : Bytes) (h : sum + Checksum.wordSum bytes < 2 ^ 32) :
    sumWords sum bytes = .ok (sum + Checksum.wordSum bytes) := by
  induction sum, bytes using sumWords.induct with
  | case1 sum high low rest ih =>
    rw [Checksum.wordSum] at h ⊢
    rw [sumWords, add_eq (by omega), ok_bind, ih (sum + beWord high low) (by omega), Nat.add_assoc]
  | case2 sum last => exact add_eq h
  | case3 sum => rfl

theorem foldSum_eq (sum : ℕ) (h : sum < 2 ^ 32) : foldSum sum = .ok (Checksum.foldSum sum) := by
  induction sum using foldSum.induct with
  | case1 sum hsmall =>
    rw [foldSum, if_pos hsmall, Checksum.foldSum, if_pos hsmall]
    rfl
  | case2 sum hlarge ih =>
    rw [foldSum, if_neg hlarge, Checksum.foldSum, if_neg hlarge, add_eq (by omega), ok_bind]
    exact ih (by omega)

theorem fold_eq {sum : ℕ} (h : sum < 2 ^ 32) : fold sum = .ok (Checksum.fold sum) := by
  unfold fold
  rw [foldSum_eq sum h]
  rfl

variable {source destination bytes : Bytes} {protocol : UInt8}

theorem wordSum_lt (hbytes : bytes.length ≤ 65535) : Checksum.wordSum bytes ≤ 2147450880 := by
  have hle := Checksum.wordSum_le bytes
  omega

theorem checksum_eq (hbytes : bytes.length ≤ 65535) : checksum bytes = .ok (Checksum.checksum bytes) := by
  have hsum := wordSum_lt hbytes
  unfold checksum Checksum.checksum
  rw [sumWords_eq 0 bytes (by omega), ok_bind, fold_eq (by omega), Checksum.sumWords_eq 0 bytes (by omega)]

theorem ipv4Transport_eq (hsource : source.length = 4) (hdestination : destination.length = 4)
    (hbytes : bytes.length ≤ 65535) :
    ipv4Transport source destination protocol bytes =
      .ok (Checksum.ipv4Transport source destination protocol bytes) := by
  have hs := Checksum.wordSum_le source
  have hd := Checksum.wordSum_le destination
  have hp := protocol.toNat_lt
  have hsum := wordSum_lt hbytes
  rw [hsource] at hs
  rw [hdestination] at hd
  unfold ipv4Transport Checksum.ipv4Transport
  rw [ipv4Pseudo_eq hsource hdestination hbytes, Checksum.sumWords_eq _ bytes (by omega),
    Nat.mod_eq_of_lt (by omega), sumWords_eq 0 source (by omega), ok_bind, sumWords_eq _ destination (by omega),
    ok_bind, add_eq (by omega), ok_bind, add_eq (by omega), ok_bind, sumWords_eq _ bytes (by omega), ok_bind,
    fold_eq (by omega), Nat.zero_add]

theorem ipv6Transport_eq (hsource : source.length = 16) (hdestination : destination.length = 16)
    (hbytes : bytes.length ≤ 65535) :
    ipv6Transport source destination protocol bytes =
      .ok (Checksum.ipv6Transport source destination protocol bytes) := by
  have hs := Checksum.wordSum_le source
  have hd := Checksum.wordSum_le destination
  have hl := Checksum.wordSum_le (beBytes 4 (BitVec.ofNat 32 bytes.length))
  have hp := protocol.toNat_lt
  have hsum := wordSum_lt hbytes
  rw [hsource] at hs
  rw [hdestination] at hd
  rw [length_beBytes] at hl
  unfold ipv6Transport Checksum.ipv6Transport
  rw [ipv6Pseudo_eq hsource hdestination, Checksum.sumWords_eq _ bytes (by omega),
    sumWords_eq 0 source (by omega), ok_bind, sumWords_eq _ destination (by omega),
    ok_bind, sumWords_eq _ (beBytes 4 _) (by omega), ok_bind, add_eq (by omega), ok_bind,
    sumWords_eq _ bytes (by omega), ok_bind, fold_eq (by omega), Nat.zero_add]

end Sums

/-! ## The parsers -/

/-- What `Ipv4Packet::parse` established about its slice. -/
structure Ipv4Framed (bytes : Bytes) (packet : Ip.Ipv4Packet) : Prop where
  bytes_eq : packet.bytes = bytes
  header_ge : 20 ≤ packet.headerLen
  header_le : packet.headerLen ≤ packet.totalLen
  total_le : packet.totalLen ≤ bytes.length
  total_lt : packet.totalLen < 65536

theorem parseIpv4_alike (bytes : Bytes) :
    Alike (parseIpv4 bytes) (Ip.Ipv4Packet.parse bytes) (Ipv4Framed bytes) := by
  unfold parseIpv4 Ip.Ipv4Packet.parse
  refine .ite (fun _ => .fail _) fun hlong => ?_
  refine .bind (alike_byteAt (by omega)) fun first _ => ?_
  refine .ite (fun _ => .fail _) fun _ => ?_
  have hfirst := (first &&& 0x0f).toNat_lt
  rw [mul_eq (by omega), ok_bind]
  dsimp only
  refine .ite (fun _ => .fail _) fun hheader => ?_
  refine .bind (alike_wordAt (by omega)) fun totalLen htotal => ?_
  refine .ite (fun _ => .fail _) fun hlen => ?_
  refine .bind (alike_wordAt (by omega)) fun fragment _ => ?_
  refine .ite (fun _ => .fail _) fun _ => ?_
  refine .bind (alike_range (by omega)) fun header hslice => ?_
  rw [checksum_eq (by omega), ok_bind]
  refine .ite (fun _ => .fail _) fun _ => .pure ⟨rfl, ?_, ?_, ?_, htotal⟩
  all_goals
    dsimp only
    omega

/-- What `Ipv6Packet::parse` established about its slice. -/
structure Ipv6Framed (bytes : Bytes) (packet : Ip.Ipv6Packet) : Prop where
  bytes_eq : packet.bytes = bytes
  offset_ge : 40 ≤ packet.payloadOffset
  offset_le : packet.payloadOffset ≤ packet.totalLen
  total_le : packet.totalLen ≤ bytes.length
  total_lt : packet.totalLen < 65576

theorem extensionLength_eq (current units : UInt8) :
    extensionLength current units = .ok (if current = 51 then (units.toNat + 2) * 4 else (units.toNat + 1) * 8) := by
  have hunits := units.toNat_lt
  unfold extensionLength
  split
  · rw [add_eq (by omega), ok_bind, mul_eq (by omega)]
  · rw [add_eq (by omega), ok_bind, mul_eq (by omega)]

theorem skipExtensions_alike {bytes : Bytes} {totalLen : ℕ} (hfits : totalLen ≤ bytes.length) (htotal : totalLen < 65576)
    (room : ℕ) (next : UInt8) (offset extensionBytes : ℕ) (hoffset : 40 ≤ offset ∧ offset ≤ totalLen)
    (hextension : extensionBytes ≤ 256) :
    Alike (skipExtensions bytes totalLen room next offset extensionBytes)
      (Ip.Ipv6Packet.skipExtensions bytes totalLen room next offset extensionBytes)
      fun found => 40 ≤ found.2 ∧ found.2 ≤ totalLen := by
  induction room generalizing next offset extensionBytes with
  | zero =>
    unfold skipExtensions Ip.Ipv6Packet.skipExtensions
    exact .ite (fun _ => .fail _) fun _ => .pure hoffset
  | succ room ih =>
    unfold skipExtensions Ip.Ipv6Packet.skipExtensions
    refine .ite (fun _ => ?_) fun _ => .pure hoffset
    dsimp only
    rw [add_eq (by omega), ok_bind]
    refine .ite (fun _ => .fail _) fun hroom => ?_
    refine .bind (alike_byteAt (by omega)) fun following _ => ?_
    rw [add_eq (by omega), ok_bind]
    refine .bind (alike_byteAt (by omega)) fun units _ => ?_
    rw [extensionLength_eq, ok_bind]
    have hunits := units.toNat_lt
    generalize hlength : (if next = 51 then (units.toNat + 2) * 4 else (units.toNat + 1) * 8) = length
    have hbound : length ≤ 2048 := by
      rw [← hlength]
      split <;> omega
    rw [add_eq (by omega), ok_bind, add_eq (by omega), ok_bind]
    refine .ite (fun _ => .fail _) fun hmore => ?_
    exact ih following (offset + length) (extensionBytes + length) (by omega) (by omega)

theorem parseIpv6_alike (bytes : Bytes) :
    Alike (parseIpv6 bytes) (Ip.Ipv6Packet.parse bytes) (Ipv6Framed bytes) := by
  unfold parseIpv6 Ip.Ipv6Packet.parse
  refine .ite (fun _ => .fail _) fun hlong => ?_
  refine .bind (alike_byteAt (by omega)) fun first _ => ?_
  refine .ite (fun _ => .fail _) fun _ => ?_
  refine .bind (alike_wordAt (by omega)) fun payloadLen hpayload => ?_
  rw [add_eq (by omega), ok_bind]
  dsimp only
  refine .ite (fun _ => .fail _) fun hfits => ?_
  refine .bind (alike_byteAt (by omega)) fun next _ => ?_
  refine .bind (skipExtensions_alike (by omega) (by omega) 8 next 40 0 (by omega) (by omega)) ?_
  rintro ⟨following, offset⟩ ⟨hge, hle⟩
  refine .ite (fun _ => .fail _) fun _ => .pure ⟨rfl, hge, hle, ?_, ?_⟩
  all_goals
    dsimp only
    omega

/-- A slice of `bytes` of at most the length an IP packet can have. -/
def Within (bytes slice : Bytes) : Prop := slice <:+: bytes ∧ slice.length ≤ 65535

section Packets

variable {bytes : Bytes} {ip4 : Ip.Ipv4Packet} {ip6 : Ip.Ipv6Packet}

theorem ipv4_payload (h : Ipv4Framed bytes ip4) : Alike ip4.payload ip4.payload (Within bytes) := by
  have htotal := h.total_le
  have hlt := h.total_lt
  unfold Ip.Ipv4Packet.payload
  rw [h.bytes_eq]
  refine (alike_range ⟨h.header_le, htotal⟩).mono fun slice hs => ⟨hs.1, ?_⟩
  omega

theorem ipv6_payload (h : Ipv6Framed bytes ip6) : Alike ip6.payload ip6.payload (Within bytes) := by
  have htotal := h.total_le
  have hlt := h.total_lt
  have hge := h.offset_ge
  unfold Ip.Ipv6Packet.payload
  rw [h.bytes_eq]
  refine (alike_range ⟨h.offset_le, htotal⟩).mono fun slice hs => ⟨hs.1, ?_⟩
  omega

theorem ipv4_range (h : Ipv4Framed bytes ip4) {start stop : ℕ} (hle : start ≤ stop ∧ stop ≤ 20) :
    Alike (range ip4.bytes start stop) (range ip4.bytes start stop) fun slice => slice.length = stop - start := by
  have hge := h.header_ge
  have hheader := h.header_le
  have htotal := h.total_le
  refine (alike_range ⟨hle.1, ?_⟩).mono fun _ hs => hs.2
  rw [h.bytes_eq]
  omega

theorem ipv6_range (h : Ipv6Framed bytes ip6) {start stop : ℕ} (hle : start ≤ stop ∧ stop ≤ 40) :
    Alike (range ip6.bytes start stop) (range ip6.bytes start stop) fun slice => slice.length = stop - start := by
  have hge := h.offset_ge
  have hoffset := h.offset_le
  have htotal := h.total_le
  refine (alike_range ⟨hle.1, ?_⟩).mono fun _ hs => hs.2
  rw [h.bytes_eq]
  omega

theorem ipv4_protocol (h : Ipv4Framed bytes ip4) : Alike ip4.protocol ip4.protocol fun _ => True := by
  have hge := h.header_ge
  have hheader := h.header_le
  have htotal := h.total_le
  refine (alike_byteAt ?_).mono fun _ _ => trivial
  rw [h.bytes_eq]
  omega

theorem exists_range (bytes : Bytes) (start stop : ℕ) (h : start ≤ stop ∧ stop ≤ bytes.length) :
    ∃ slice, range bytes start stop = .ok slice ∧ slice.length = stop - start := by
  refine ⟨_, if_pos h, ?_⟩
  rw [List.length_take, List.length_drop]
  omega

theorem ipv4_sum (h : Ipv4Framed bytes ip4) (protocol : UInt8) {payload : Bytes} (hpayload : payload.length ≤ 65535) :
    ∃ source destination, range ip4.bytes 12 16 = .ok source ∧ range ip4.bytes 16 20 = .ok destination ∧
      ipv4Sum ip4 protocol payload = .ok (Checksum.ipv4Transport source destination protocol payload) := by
  have hge := h.header_ge
  have hheader := h.header_le
  have htotal := h.total_le
  have hlong : 20 ≤ ip4.bytes.length := by
    rw [h.bytes_eq]
    omega
  obtain ⟨source, hs, hsource⟩ := exists_range ip4.bytes 12 16 (by omega)
  obtain ⟨destination, hd, hdestination⟩ := exists_range ip4.bytes 16 20 (by omega)
  refine ⟨source, destination, hs, hd, ?_⟩
  unfold ipv4Sum
  rw [hs, hd, ok_bind, ok_bind]
  exact ipv4Transport_eq hsource hdestination hpayload

theorem ipv6_sum (h : Ipv6Framed bytes ip6) (protocol : UInt8) {payload : Bytes} (hpayload : payload.length ≤ 65535) :
    ∃ source destination, range ip6.bytes 8 24 = .ok source ∧ range ip6.bytes 24 40 = .ok destination ∧
      ipv6Sum ip6 protocol payload = .ok (Checksum.ipv6Transport source destination protocol payload) := by
  have hge := h.offset_ge
  have hoffset := h.offset_le
  have htotal := h.total_le
  have hlong : 40 ≤ ip6.bytes.length := by
    rw [h.bytes_eq]
    omega
  obtain ⟨source, hs, hsource⟩ := exists_range ip6.bytes 8 24 (by omega)
  obtain ⟨destination, hd, hdestination⟩ := exists_range ip6.bytes 24 40 (by omega)
  refine ⟨source, destination, hs, hd, ?_⟩
  unfold ipv6Sum
  rw [hs, hd, ok_bind, ok_bind]
  exact ipv6Transport_eq hsource hdestination hpayload

end Packets

section Verification

variable {α : Type} {m m' : Except Error α} {Q : α → Prop} {sum : Except Error ℕ} {value : ℕ} {verify : Bool}

theorem alike_verified {p : Prop} [Decidable p] (hsum : sum = .ok value) (hp : p ↔ verify = true ∧ value ≠ 0)
    (hm : Alike m m' Q) :
    Alike (do if ← rejects verify sum then fail .invalidChecksum else m)
      (if p then fail .invalidChecksum else m') Q := by
  have hrejects : rejects verify sum = .ok (decide p) := by
    unfold rejects
    cases verify with
    | false =>
      have hno : ¬p := fun h => Bool.false_ne_true (hp.mp h).1
      rw [decide_eq_false hno]
      rfl
    | true =>
      have hsame : decide p = decide (value ≠ 0) := by
        rw [decide_eq_decide, hp]
        exact and_iff_right rfl
      rw [hsum, hsame]
      rfl
  rw [hrejects, ok_bind]
  simp only [decide_eq_true_eq]
  exact .ite (fun _ => .fail _) fun _ => hm

end Verification

/-! ## Segments -/

/-- What `TcpSegment::parse` established about its slice. -/
structure Segmented (bytes : Bytes) (segment : Tcp.Segment) : Prop where
  bytes_eq : segment.bytes = bytes
  header_ge : 20 ≤ segment.headerLen
  header_le : segment.headerLen ≤ bytes.length

theorem parseTcp_alike (bytes : Bytes) : Alike (parseTcp bytes) (Tcp.Segment.parse bytes) (Segmented bytes) := by
  unfold parseTcp Tcp.Segment.parse
  have hmin : tcpMinHeaderLen = 20 := rfl
  refine .ite (fun _ => .fail _) fun hlong => ?_
  refine .bind (alike_byteAt (by omega)) fun offset _ => ?_
  have hoffset := (offset >>> 4).toNat_lt
  rw [mul_eq (by omega), ok_bind]
  dsimp only
  refine .ite (fun _ => .fail _) fun hheader => .pure ⟨rfl, ?_, ?_⟩
  all_goals
    dsimp only
    omega

def SegmentOf (bytes : Bytes) (segment : Tcp.Segment) : Prop := ∃ payload, Within bytes payload ∧ Segmented payload segment

theorem parseTcpIpv4_alike {bytes : Bytes} {ip : Ip.Ipv4Packet} (h : Ipv4Framed bytes ip) (verify : Bool) :
    Alike (parseTcpIpv4 ip verify) (Tcp.Segment.parseIpv4 ip verify) (SegmentOf bytes) := by
  unfold parseTcpIpv4 Tcp.Segment.parseIpv4
  refine .bind (ipv4_protocol h) fun protocol _ => ?_
  refine .ite (fun _ => .fail _) fun _ => ?_
  refine .bind (ipv4_payload h) fun payload hpayload => ?_
  obtain ⟨source, destination, hs, hd, hsum⟩ := ipv4_sum h 6 hpayload.2
  rw [hs, ok_bind, hd, ok_bind]
  exact alike_verified hsum Iff.rfl ((parseTcp_alike payload).mono fun _ hsegment => ⟨payload, hpayload, hsegment⟩)

theorem parseTcpIpv6_alike {bytes : Bytes} {ip : Ip.Ipv6Packet} (h : Ipv6Framed bytes ip) (verify : Bool) :
    Alike (parseTcpIpv6 ip verify) (Tcp.Segment.parseIpv6 ip verify) (SegmentOf bytes) := by
  unfold parseTcpIpv6 Tcp.Segment.parseIpv6
  refine .ite (fun _ => .fail _) fun _ => ?_
  refine .bind (ipv6_payload h) fun payload hpayload => ?_
  obtain ⟨source, destination, hs, hd, hsum⟩ := ipv6_sum h 6 hpayload.2
  rw [hs, ok_bind, hd, ok_bind]
  exact alike_verified hsum Iff.rfl ((parseTcp_alike payload).mono fun _ hsegment => ⟨payload, hpayload, hsegment⟩)

/-- Every round takes a byte, so the loop ends within the length of the options; an
option that is found has the wanted length. -/
theorem scanOptions_alike (wantedKind : UInt8) (wantedLen rounds : ℕ) (options : Bytes) (h : options.length ≤ rounds) :
    Alike (scanOptions wantedKind wantedLen rounds options)
      (.ok (Tcp.Segment.scanOptions wantedKind wantedLen rounds options))
      fun found => ∀ value, found = some value → value.length = wantedLen - 2 := by
  induction rounds generalizing options with
  | zero =>
    rw [List.length_eq_zero_iff.mp (Nat.le_zero.mp h)]
    exact .pure fun value hvalue => by cases hvalue
  | succ rounds ih =>
    cases options with
    | nil => exact .pure fun value hvalue => by cases hvalue
    | cons kind rest =>
      rw [List.length_cons] at h
      unfold scanOptions Tcp.Segment.scanOptions
      by_cases hend : kind = 0
      · rw [if_pos hend, if_pos hend]
        exact .pure fun value hvalue => by cases hvalue
      rw [if_neg hend, if_neg hend]
      by_cases hpad : kind = 1
      · rw [if_pos hpad, if_pos hpad]
        exact ih rest (by omega)
      rw [if_neg hpad, if_neg hpad]
      cases rest with
      | nil => exact .pure fun value hvalue => by cases hvalue
      | cons len tail =>
        rw [List.length_cons] at h
        dsimp only
        by_cases hshort : len.toNat < 2
        · rw [if_pos hshort, if_pos (.inl hshort)]
          exact .pure fun value hvalue => by cases hvalue
        rw [if_neg hshort, sub_eq (by omega), ok_bind]
        by_cases hlong : len.toNat - 2 > tail.length
        · rw [if_pos hlong, if_pos (.inr hlong)]
          exact .pure fun value hvalue => by cases hvalue
        rw [if_neg hlong, if_neg (not_or.mpr ⟨hshort, hlong⟩)]
        by_cases hfound : kind = wantedKind ∧ len.toNat = wantedLen
        · have hslice : range tail 0 (len.toNat - 2) = .ok (tail.take (len.toNat - 2)) := by
            unfold range
            rw [if_pos (by omega), List.drop_zero, Nat.sub_zero]
          rw [if_pos hfound, if_pos hfound, hslice, ok_bind]
          refine .pure fun value hvalue => ?_
          cases hvalue
          rw [List.length_take]
          omega
        · have hslice : range tail (len.toNat - 2) tail.length = .ok (tail.drop (len.toNat - 2)) := by
            unfold range
            rw [if_pos (by omega), ← List.length_drop, List.take_length]
          rw [if_neg hfound, if_neg hfound, hslice, ok_bind]
          refine ih _ ?_
          rw [List.length_drop]
          omega

section Segment

variable {bytes : Bytes} {segment : Tcp.Segment}

theorem findOption_alike (h : Segmented bytes segment) (wantedKind : UInt8) (wantedLen : ℕ) :
    Alike (findOption segment wantedKind wantedLen) (segment.findOption wantedKind wantedLen)
      fun found => ∀ value, found = some value → value.length = wantedLen - 2 := by
  refine .bind (alike_range ⟨h.header_ge, ?_⟩) fun options _ =>
    scanOptions_alike wantedKind wantedLen options.length options (Nat.le_refl _)
  rw [h.bytes_eq]
  exact h.header_le

theorem mss_alike (h : Segmented bytes segment) : Alike (mss segment) segment.mss fun _ => True := by
  refine .bind (findOption_alike h 2 4) fun found hfound => ?_
  cases found with
  | none => exact .pure trivial
  | some value =>
    have hlen := hfound value rfl
    exact .bind (alike_wordAt (by omega)) fun _ _ => .pure trivial

theorem windowScale_alike (h : Segmented bytes segment) : Alike (windowScale segment) segment.windowScale fun _ => True := by
  refine .bind (findOption_alike h 3 3) fun found hfound => ?_
  cases found with
  | none => exact .pure trivial
  | some value =>
    have hlen := hfound value rfl
    exact .bind (alike_byteAt (by omega)) fun _ _ => .pure trivial

theorem readTcp_alike (h : Segmented bytes segment) :
    Alike (readTcp segment) segment.read fun read => read.payload <:+: bytes := by
  have hge := h.header_ge
  have hle := h.header_le
  have hlong : 20 ≤ segment.bytes.length := by
    rw [h.bytes_eq]
    omega
  refine .bind (.bind (alike_wordAt (by omega)) fun _ _ => .pure trivial) fun _ (_ : True) => ?_
  refine .bind (.bind (alike_wordAt (by omega)) fun _ _ => .pure trivial) fun _ (_ : True) => ?_
  refine .bind (.bind (alike_range (by omega)) fun _ _ => .pure trivial) fun _ (_ : True) => ?_
  refine .bind (.bind (alike_range (by omega)) fun _ _ => .pure trivial) fun _ (_ : True) => ?_
  refine .bind (.bind (alike_byteAt (by omega)) fun _ _ => .pure trivial) fun _ (_ : True) => ?_
  refine .bind (.bind (alike_wordAt (by omega)) fun _ _ => .pure trivial) fun _ (_ : True) => ?_
  refine .bind (mss_alike h) fun _ _ => ?_
  refine .bind (windowScale_alike h) fun _ _ => ?_
  refine .bind (alike_range ⟨by rw [h.bytes_eq]; exact hle, Nat.le_refl _⟩) fun payload hpayload => .pure ?_
  rw [← h.bytes_eq]
  exact hpayload.1

end Segment

/-! ## Datagrams -/

structure DatagramOf (bytes : Bytes) (datagram : Packet.Udp.Datagram) : Prop where
  within : datagram.bytes <:+: bytes
  header_ge : 8 ≤ datagram.bytes.length

theorem parseUdp_alike {bytes payload : Bytes} (h : Within bytes payload) :
    Alike (Packet.Udp.Datagram.parse payload) (Packet.Udp.Datagram.parse payload)
      fun datagram => DatagramOf bytes datagram ∧ datagram.bytes.length ≤ 65535 := by
  unfold Packet.Udp.Datagram.parse
  have hmin : udpHeaderLen = 8 := rfl
  refine .ite (fun _ => .fail _) fun hlong => ?_
  refine .bind (alike_wordAt (by omega)) fun length hlength => ?_
  refine .ite (fun _ => .fail _) fun hfits => ?_
  refine .bind (alike_range (by omega)) fun slice hslice => .pure ⟨⟨hslice.1.trans h.1, ?_⟩, ?_⟩
  all_goals
    dsimp only
    omega

theorem parseUdpIpv4_alike {bytes : Bytes} {ip : Ip.Ipv4Packet} (h : Ipv4Framed bytes ip) (verify : Bool) :
    Alike (parseUdpIpv4 ip verify) (Packet.Udp.Datagram.parseIpv4 ip verify) (DatagramOf bytes) := by
  unfold parseUdpIpv4 Packet.Udp.Datagram.parseIpv4
  refine .bind (ipv4_payload h) fun payload hpayload => ?_
  refine .bind (parseUdp_alike hpayload) fun datagram hdatagram => ?_
  have hge := hdatagram.1.header_ge
  refine .bind (alike_wordAt (by omega)) fun field _ => ?_
  obtain ⟨source, destination, hs, hd, hsum⟩ := ipv4_sum h Ip.protoUdp hdatagram.2
  rw [hs, ok_bind, hd, ok_bind]
  refine alike_verified hsum ?_ (.pure hdatagram.1)
  simp [and_assoc]

theorem parseUdpIpv6_alike {bytes : Bytes} {ip : Ip.Ipv6Packet} (h : Ipv6Framed bytes ip) (verify : Bool) :
    Alike (parseUdpIpv6 ip verify) (Packet.Udp.Datagram.parseIpv6 ip verify) (DatagramOf bytes) := by
  unfold parseUdpIpv6 Packet.Udp.Datagram.parseIpv6
  refine .bind (ipv6_payload h) fun payload hpayload => ?_
  refine .bind (parseUdp_alike hpayload) fun datagram hdatagram => ?_
  have hge := hdatagram.1.header_ge
  refine .ite (fun _ => ?_) fun _ => .pure hdatagram.1
  refine .bind (alike_wordAt (by omega)) fun field _ => ?_
  obtain ⟨source, destination, hs, hd, hsum⟩ := ipv6_sum h Ip.protoUdp hdatagram.2
  rw [hs, ok_bind, hd, ok_bind]
  refine .ite (fun _ => .fail _) fun _ => ?_
  exact alike_verified hsum (and_iff_right rfl).symm (.pure hdatagram.1)

section Datagram

variable {bytes : Bytes} {datagram : Packet.Udp.Datagram} (h : DatagramOf bytes datagram)
include h

theorem udp_port {i : ℕ} (hi : i + 1 < 8) :
    Alike (do pure (UInt16.ofNat (← wordAt datagram.bytes i))) (do pure (UInt16.ofNat (← wordAt datagram.bytes i)))
      fun _ => True := by
  have hge := h.header_ge
  exact .bind (alike_wordAt (by omega)) fun _ _ => .pure trivial

theorem udp_payload : Alike datagram.payload datagram.payload fun payload => payload <:+: bytes :=
  (alike_range ⟨h.header_ge, Nat.le_refl _⟩).mono fun _ hslice => hslice.1.trans h.within

end Datagram

/-! ## The decoder -/

theorem parseNeighborSolicitation_alike {bytes : Bytes} {ip : Ip.Ipv6Packet} (h : Ipv6Framed bytes ip) :
    Alike (parseNeighborSolicitation ip) (Neighbor.parseNeighborSolicitation ip) fun _ => True := by
  unfold parseNeighborSolicitation Neighbor.parseNeighborSolicitation
  refine .ite (fun _ => .fail _) fun _ => ?_
  refine .bind (ipv6_payload h) fun payload hpayload => ?_
  by_cases hshort : payload.length < 24
  · rw [if_pos hshort, if_pos (.inl hshort)]
    exact .fail _
  rw [if_neg hshort]
  obtain ⟨first, hfirst⟩ : ∃ first, payload[0]? = some first := ⟨_, List.getElem?_eq_getElem (by omega)⟩
  obtain ⟨second, hsecond⟩ : ∃ second, payload[1]? = some second := ⟨_, List.getElem?_eq_getElem (by omega)⟩
  have hread : byteAt payload 0 = .ok first ∧ byteAt payload 1 = .ok second := by
    unfold byteAt
    rw [hfirst, hsecond]
    exact ⟨rfl, rfl⟩
  rw [hread.1, ok_bind, hread.2, hfirst, hsecond]
  by_cases htype : first ≠ 135
  · rw [if_pos htype, if_pos (.inr (.inl fun h => htype (Option.some.inj h)))]
    exact .fail _
  rw [if_neg htype, ok_bind]
  by_cases hcode : second ≠ 0
  · rw [if_pos hcode, if_pos (.inr (.inr fun h => hcode (Option.some.inj h)))]
    exact .fail _
  rw [if_neg hcode, if_neg (by simp_all)]
  obtain ⟨source, destination, hs, hd, hsum⟩ := ipv6_sum h Ip.protoIcmpv6 hpayload.2
  rw [hs, ok_bind, hd, ok_bind]
  refine alike_verified hsum (and_iff_right rfl).symm ?_
  exact .bind (alike_range (by omega)) fun _ _ => .pure trivial

def payload? : TapFrame → Option Bytes
  | .tcpV4 _ _ segment => some segment.payload
  | .tcpV6 _ _ segment => some segment.payload
  | .udpV4 _ _ _ _ payload => some payload
  | .udpV6 _ _ _ _ payload => some payload
  | _ => none

/-- A frame carries a slice of `bytes`. -/
def Inside (bytes : Bytes) (frame : TapFrame) : Prop := ∀ payload, payload? frame = some payload → payload <:+: bytes

theorem ethernet_payload {bytes : Bytes} (h : ethernetHeaderLen ≤ bytes.length) :
    Alike (Ethernet.Frame.payload ⟨bytes⟩) (Ethernet.Frame.payload ⟨bytes⟩) fun payload => payload <:+: bytes :=
  (alike_range ⟨h, Nat.le_refl _⟩).mono fun _ hslice => hslice.1

theorem SegmentOf.inside {input bytes : Bytes} {segment : Tcp.Segment} (h : SegmentOf bytes segment)
    (hbytes : bytes <:+: input) : Alike (readTcp segment) segment.read fun read => read.payload <:+: input := by
  obtain ⟨payload, hwithin, hsegment⟩ := h
  exact (readTcp_alike hsegment).mono fun _ hread => (hread.trans hwithin.1).trans hbytes

theorem decodeIpv4_alike {bytes : Bytes} (h : ethernetHeaderLen ≤ bytes.length) (verify : Bool) :
    Alike (decodeIpv4 ⟨bytes⟩ verify) (FrameBytes.decodeIpv4 ⟨bytes⟩ verify) (Inside bytes) := by
  unfold decodeIpv4 FrameBytes.decodeIpv4
  refine .bind (ethernet_payload h) fun body hbody => ?_
  refine .bind (parseIpv4_alike body) fun packet hpacket => ?_
  have hsource : Alike packet.source packet.source fun _ => True :=
    .bind (ipv4_range hpacket (by omega)) fun _ _ => .pure trivial
  have hdestination : Alike packet.destination packet.destination fun _ => True :=
    .bind (ipv4_range hpacket (by omega)) fun _ _ => .pure trivial
  refine .bind (ipv4_protocol hpacket) fun protocol _ => ?_
  refine .ite (fun _ => ?_) fun _ => .ite (fun _ => .pure fun payload hnone => by cases hnone) fun _ => ?_
  · refine .bind (parseUdpIpv4_alike hpacket verify) fun datagram hdatagram => ?_
    refine .bind hsource fun source _ => .bind hdestination fun destination _ => ?_
    refine .bind (udp_port hdatagram (by omega)) fun _ _ => .bind (udp_port hdatagram (by omega)) fun _ _ => ?_
    refine .bind (udp_payload hdatagram) fun payload hpayload => .pure fun carried hcarried => ?_
    cases hcarried
    exact hpayload.trans hbody
  · refine .bind (parseTcpIpv4_alike hpacket verify) fun segment hsegment => ?_
    refine .bind hsource fun source _ => .bind hdestination fun destination _ => ?_
    refine .bind (hsegment.inside hbody) fun read hread => .pure fun carried hcarried => ?_
    cases hcarried
    exact hread

theorem decodeIpv6_alike {bytes : Bytes} (h : ethernetHeaderLen ≤ bytes.length) (verify : Bool) :
    Alike (decodeIpv6 cfg ⟨bytes⟩ verify) (FrameBytes.decodeIpv6 cfg ⟨bytes⟩ verify) (Inside bytes) := by
  unfold decodeIpv6 FrameBytes.decodeIpv6
  refine .bind (ethernet_payload h) fun body hbody => ?_
  refine .bind (parseIpv6_alike body) fun packet hpacket => ?_
  have hsource : Alike packet.source packet.source fun _ => True :=
    .bind (ipv6_range hpacket (by omega)) fun _ _ => .pure trivial
  have hdestination : Alike packet.destination packet.destination fun _ => True :=
    .bind (ipv6_range hpacket (by omega)) fun _ _ => .pure trivial
  have hnothing : Alike (pure .ignored) (pure .ignored) (Inside bytes) := .pure fun payload hnone => by cases hnone
  refine .ite (fun _ => ?_) fun _ => .ite (fun _ => ?_) fun _ => .ite (fun _ => hnothing) fun _ => ?_
  · refine .bind (ipv6_payload hpacket) fun payload _ => ?_
    refine .ite (fun _ => hnothing) fun _ => ?_
    refine .bind (parseNeighborSolicitation_alike hpacket) fun target _ => ?_
    obtain ⟨source, hread, -⟩ := exists_range bytes 6 12 ⟨by omega, Nat.le_trans (by decide) h⟩
    have hmac : Ethernet.Frame.source ⟨bytes⟩ = .ok (ofOctets 48 source) := by
      unfold Ethernet.Frame.source
      rw [hread]
      rfl
    rw [hmac, ok_bind]
    exact .bind hsource fun _ _ => .pure fun payload hnone => by cases hnone
  · refine .bind (parseUdpIpv6_alike hpacket verify) fun datagram hdatagram => ?_
    refine .bind hsource fun source _ => .bind hdestination fun destination _ => ?_
    refine .bind (udp_port hdatagram (by omega)) fun _ _ => .bind (udp_port hdatagram (by omega)) fun _ _ => ?_
    refine .bind (udp_payload hdatagram) fun payload hpayload => .pure fun carried hcarried => ?_
    cases hcarried
    exact hpayload.trans hbody
  · refine .bind (parseTcpIpv6_alike hpacket verify) fun segment hsegment => ?_
    refine .bind hsource fun source _ => .bind hdestination fun destination _ => ?_
    refine .bind (hsegment.inside hbody) fun read hread => .pure fun carried hcarried => ?_
    cases hcarried
    exact hread

theorem decodeArp_alike {bytes : Bytes} (h : ethernetHeaderLen ≤ bytes.length) :
    Alike (FrameBytes.decodeArp cfg ⟨bytes⟩) (FrameBytes.decodeArp cfg ⟨bytes⟩) (Inside bytes) := by
  unfold FrameBytes.decodeArp
  refine .ite (fun _ => .pure fun payload hnone => by cases hnone) fun _ => ?_
  refine .bind (ethernet_payload h) fun body _ => ?_
  refine .bind (Q := fun _ => True) ?_ fun request _ => .pure fun payload hnone => by cases hnone
  unfold Neighbor.parseArpRequest
  refine .ite (fun _ => .fail _) fun hlong => ?_
  refine .bind (alike_range (by omega)) fun _ _ => ?_
  refine .ite (fun _ => .fail _) fun _ => ?_
  refine .bind (alike_range (by omega)) fun _ _ => .bind (alike_range (by omega)) fun _ _ => ?_
  exact .bind (alike_range (by omega)) fun _ _ => .pure trivial

theorem decodeEthernet_alike (bytes : Bytes) (verify : Bool) :
    Alike (decodeEthernet cfg bytes verify) (FrameBytes.decodeEthernet cfg bytes verify) (Inside bytes) := by
  unfold decodeEthernet FrameBytes.decodeEthernet
  have hparse : Alike (Ethernet.Frame.parse bytes) (Ethernet.Frame.parse bytes)
      fun ethernet => ethernet = ⟨bytes⟩ ∧ ethernetHeaderLen ≤ bytes.length :=
    .ite (fun _ => .fail _) fun hlong => .pure ⟨rfl, Nat.le_of_not_lt hlong⟩
  refine .bind hparse ?_
  rintro _ ⟨rfl, hlong⟩
  have htype : Alike (Ethernet.Frame.etherType ⟨bytes⟩) (Ethernet.Frame.etherType ⟨bytes⟩) fun _ => True :=
    .bind (alike_wordAt (Nat.lt_of_lt_of_le (by decide) hlong)) fun _ _ => .pure trivial
  refine .bind htype fun etherType _ => ?_
  cases etherType with
  | arp => exact decodeArp_alike cfg hlong
  | ipv4 => exact decodeIpv4_alike hlong verify
  | ipv6 => exact decodeIpv6_alike cfg hlong verify
  | other value => exact .pure fun payload hnone => by cases hnone

theorem splitRxVnet_alike (bytes : Bytes) :
    Alike (FrameBytes.splitRxVnet cfg bytes) (FrameBytes.splitRxVnet cfg bytes) fun split => split.1 <:+: bytes := by
  unfold FrameBytes.splitRxVnet
  have hlen : cfg.vnetLen ≤ vnetHeaderLen := by
    unfold Config.vnetLen
    split
    · exact Nat.le_refl _
    · exact Nat.zero_le _
  have hmin : vnetHeaderLen = 10 := rfl
  have hword : ∀ {i}, i + 1 < bytes.length → Alike (Vnet.neWordAt bytes i) (Vnet.neWordAt bytes i) fun _ => True :=
    fun h => .bind (alike_byteAt (by omega)) fun _ _ => .bind (alike_byteAt h) fun _ _ => .pure trivial
  have hparse : Alike (Vnet.Header.parse bytes) (Vnet.Header.parse bytes) fun _ => vnetHeaderLen ≤ bytes.length := by
    unfold Vnet.Header.parse
    refine .ite (fun _ => .fail _) fun hlong => ?_
    refine .bind (alike_byteAt (by omega)) fun _ _ => .bind (alike_byteAt (by omega)) fun _ _ => ?_
    refine .bind (hword (by omega)) fun _ _ => .bind (hword (by omega)) fun _ _ => ?_
    refine .bind (hword (by omega)) fun _ _ => .bind (hword (by omega)) fun _ _ => ?_
    exact .pure (Nat.le_of_not_lt hlong)
  refine .ite (fun _ => .pure (List.infix_refl _)) fun _ => ?_
  refine .bind hparse fun header hlong => ?_
  refine .bind (alike_range ⟨hlen.trans hlong, Nat.le_refl _⟩) fun body hbody => ?_
  exact .ite (fun _ => .pure hbody.1) fun _ => .ite (fun _ => .pure hbody.1) fun _ => ⟨rfl, trivial⟩

/-- What is kept of a frame, malformed or not. -/
def kept : Except Error TapFrame → TapFrame
  | .error error => .malformed error
  | .ok frame => frame

theorem dropping_alike (bytes : Bytes) {m m' : Except Error TapFrame} (gso : Bool) (h : Alike m m' (Inside bytes)) :
    dropping gso m = .ok (.frame gso (kept m')) ∧ Inside bytes (kept m') := by
  obtain ⟨rfl, hsafe⟩ := h
  cases m with
  | ok frame => exact ⟨rfl, hsafe⟩
  | error error =>
    have hnothing : Inside bytes (.malformed error) := fun payload hnone => by cases hnone
    cases error with
    | panic text => exact hsafe.elim
    | _ => exact ⟨rfl, hnothing⟩

/-- Every byte string is decoded without a panic, as the readers on natural numbers decode
it, and what is carried on is a slice of it; with any choice of verification. -/
theorem decodeFrame_total (bytes : Bytes) :
    (∃ gso frame, decodeFrame cfg bytes = .ok (.frame gso frame) ∧ FrameBytes.decodeFrame cfg bytes = .frame gso frame ∧
      Inside bytes frame) ∧
      ∀ verify, Alike (decodeEthernet cfg bytes verify) (FrameBytes.decodeEthernet cfg bytes verify) (Inside bytes) := by
  refine ⟨?_, decodeEthernet_alike cfg bytes⟩
  have hsplit := (splitRxVnet_alike cfg bytes).2
  unfold decodeFrame FrameBytes.decodeFrame
  cases hs : FrameBytes.splitRxVnet cfg bytes with
  | error error =>
    rw [hs] at hsplit
    have halike : Alike (.error error) (.error error) (Inside bytes) := by
      refine ⟨rfl, ?_⟩
      cases error with
      | panic text => exact hsplit
      | _ => trivial
    obtain ⟨hdropped, hinside⟩ := dropping_alike bytes false halike
    exact ⟨false, _, hdropped, rfl, hinside⟩
  | ok split =>
    obtain ⟨body, verify, gso⟩ := split
    rw [hs] at hsplit
    have hbody : body <:+: bytes := hsplit
    have halike := (decodeEthernet_alike cfg body verify).mono
      fun frame (h : Inside body frame) payload hpayload => (h payload hpayload).trans hbody
    obtain ⟨hdropped, hinside⟩ := dropping_alike bytes gso halike
    refine ⟨gso, _, hdropped, ?_, hinside⟩
    dsimp only
    cases FrameBytes.decodeEthernet cfg body verify <;> rfl

end Yayatht.Checked
