import Yayatht.FrameBytes
import Yayatht.ReactorRun
import Mathlib.Algebra.BigOperators.Intervals
import Mathlib.Algebra.Order.BigOperators.Group.Finset

set_option autoImplicit false

namespace Yayatht
open Packet

def usizeMax : ℕ := 18446744073709551615
def maxWorkers : ℕ := 256
def minTapMtu : ℕ := 1280
def maxTapMtu : ℕ := 65520
def dataplaneFdHeadroom : ℕ := 32
def udpSocketBufferBytes : ℕ := 65536
def dnsSocketBufferBytes : ℕ := 65536

inductive DnsMode where
  | proxyTcp
  | proxyUdp
  | off
  deriving DecidableEq, Repr

structure DnsConfig where
  mode : DnsMode
  upstream : Option SocketAddr

inductive UpstreamConfig where
  | direct (hostLoopback : Bool)
  | proxy (protocol : Proxy.Protocol) (address : SocketAddr) (credentials : Option Proxy.Credentials)

structure NetworkConfig where
  tapMtu : ℕ
  tapOffload : Bool
  targetMac : MacAddress
  gatewayMac : MacAddress
  targetIpv4 : Option (BitVec 32 × UInt8)
  gatewayIpv4 : Option (BitVec 32)
  targetIpv6 : Option (BitVec 128 × UInt8)
  gatewayIpv6 : Option (BitVec 128)

structure LaunchConfig where
  command : List Bytes
  name : Option Bytes
  network : NetworkConfig
  upstream : UpstreamConfig
  dns : DnsConfig
  maxTcpFlows : ℕ
  udpEnabled : Bool
  maxUdpFlows : ℕ
  maxUdpAssociations : ℕ
  workers : ℕ
  maxPendingTcpBytes : ℕ
  maxRetainedTcpBytes : ℕ
  tcpReceiveBufferBytes : ℕ
  tcpSendBufferBytes : ℕ

inductive ConfigError where
  | emptyCommand
  | noIpFamily
  | invalidFlowLimit
  | invalidUdpFlowLimit
  | invalidUdpAssociationLimit
  | invalidGlobalByteLimit
  | invalidSocketBufferLimit
  | invalidTapMtu
  | invalidName
  | invalidProxyUdp
  | invalidWorkerCount
  | insufficientWorkerFlows
  | insufficientWorkerBytes
  deriving DecidableEq, Repr

/-- `[A-Za-z0-9_.-]` -/
def nameByte (byte : UInt8) : Bool :=
  (48 ≤ byte && byte ≤ 57) || (65 ≤ byte && byte ≤ 90) || (97 ≤ byte && byte ≤ 122) ||
    [95, 46, 45].contains byte

def UpstreamConfig.isSocks5 : UpstreamConfig → Bool
  | .direct _ => false
  | .proxy protocol _ _ => protocol == .socks5

namespace LaunchConfig

def validate (c : LaunchConfig) : Except ConfigError Unit :=
  if c.command.isEmpty then .error .emptyCommand
  else if c.network.targetIpv4.isNone ∧ c.network.targetIpv6.isNone then .error .noIpFamily
  else if ¬(minTapMtu ≤ c.network.tapMtu ∧ c.network.tapMtu ≤ maxTapMtu) then .error .invalidTapMtu
  else if ¬(1 ≤ c.maxTcpFlows ∧ c.maxTcpFlows ≤ 1048576) then .error .invalidFlowLimit
  else if ¬(1 ≤ c.maxUdpFlows ∧ c.maxUdpFlows ≤ 1048576) then .error .invalidUdpFlowLimit
  else if ¬(1 ≤ c.maxUdpAssociations ∧ c.maxUdpAssociations ≤ 1048576) then .error .invalidUdpAssociationLimit
  else if ¬(1 ≤ c.workers ∧ c.workers ≤ maxWorkers) then .error .invalidWorkerCount
  else if [c.maxTcpFlows, c.maxUdpFlows, c.maxUdpAssociations].any fun limit => limit < c.workers then
    .error .insufficientWorkerFlows
  else if c.dns.mode = .proxyUdp ∧ (c.udpEnabled = false ∨ c.upstream.isSocks5 = false) then
    .error .invalidProxyUdp
  else if ¬(16 * 1024 ≤ c.maxPendingTcpBytes ∧ c.maxPendingTcpBytes ≤ 1024 ^ 4) ∨
      ¬(16 * 1024 ≤ c.maxRetainedTcpBytes ∧ c.maxRetainedTcpBytes ≤ 1024 ^ 4) then
    .error .invalidGlobalByteLimit
  else
    let workerByteFloor := min (c.workers * (16 * 1024)) usizeMax
    if c.maxPendingTcpBytes < workerByteFloor ∨ c.maxRetainedTcpBytes < workerByteFloor then
      .error .insufficientWorkerBytes
    else if ¬(16 * 1024 ≤ c.tcpReceiveBufferBytes ∧ c.tcpReceiveBufferBytes ≤ 16 * 1024 * 1024) ∨
        ¬(16 * 1024 ≤ c.tcpSendBufferBytes ∧ c.tcpSendBufferBytes ≤ 16 * 1024 * 1024) then
      .error .invalidSocketBufferLimit
    else if c.name.any fun name => name.isEmpty || !name.all nameByte then .error .invalidName
    else .ok ()

end LaunchConfig

def workerShare (total workers workerIndex : ℕ) : ℕ :=
  total / workers + if workerIndex < total % workers then 1 else 0

/-- `reactor::Config` as `dataplane` fills it in. -/
structure WorkerConfig where
  targetMac : MacAddress
  gatewayMac : MacAddress
  targetIpv4 : Option (BitVec 32)
  gatewayIpv4 : Option (BitVec 32)
  targetIpv6 : Option (BitVec 128)
  gatewayIpv6 : Option (BitVec 128)
  tapMtu : ℕ
  tapOffload : Bool
  upstream : Upstream
  dnsProxyTcp : Bool
  dnsProxyUdp : Bool
  dnsUpstream : Option SocketAddr
  maxTcpFlows : ℕ
  udpEnabled : Bool
  maxUdpFlows : ℕ
  maxUdpAssociations : ℕ
  workerCount : ℕ
  maxPendingTcpBytes : ℕ
  maxRetainedTcpBytes : ℕ
  tcpReceiveBufferBytes : ℕ
  tcpSendBufferBytes : ℕ

def UpstreamConfig.dataplane : UpstreamConfig → Upstream
  | .direct hostLoopback => .direct hostLoopback
  | .proxy protocol address credentials => .proxy protocol address credentials

def LaunchConfig.dataplane (c : LaunchConfig) (workerIndex : ℕ) : WorkerConfig where
  targetMac := c.network.targetMac
  gatewayMac := c.network.gatewayMac
  targetIpv4 := c.network.targetIpv4.map Prod.fst
  gatewayIpv4 := c.network.gatewayIpv4
  targetIpv6 := c.network.targetIpv6.map Prod.fst
  gatewayIpv6 := c.network.gatewayIpv6
  tapMtu := c.network.tapMtu
  tapOffload := c.network.tapOffload
  upstream := c.upstream.dataplane
  dnsProxyTcp := c.dns.mode = .proxyTcp
  dnsProxyUdp := c.dns.mode = .proxyUdp
  dnsUpstream := c.dns.upstream
  maxTcpFlows := workerShare c.maxTcpFlows c.workers workerIndex
  udpEnabled := c.udpEnabled
  maxUdpFlows := workerShare c.maxUdpFlows c.workers workerIndex
  maxUdpAssociations := workerShare c.maxUdpAssociations c.workers workerIndex
  workerCount := c.workers
  maxPendingTcpBytes := workerShare c.maxPendingTcpBytes c.workers workerIndex
  maxRetainedTcpBytes := workerShare c.maxRetainedTcpBytes c.workers workerIndex
  tcpReceiveBufferBytes := c.tcpReceiveBufferBytes
  tcpSendBufferBytes := c.tcpSendBufferBytes

/-! ## The arithmetic of a worker -/

def divide (a b : ℕ) : Except Error ℕ :=
  if b = 0 then .error (.panic "attempt to divide by zero") else .ok (a / b)

def subtract (a b : ℕ) : Except Error ℕ :=
  if a < b then .error (.panic "attempt to subtract with overflow") else .ok (a - b)

def checkedAdd (max a b : ℕ) : Option ℕ := if a + b ≤ max then some (a + b) else none

def checkedMul (max a b : ℕ) : Option ℕ := if a * b ≤ max then some (a * b) else none

def saturatingMul (max a b : ℕ) : ℕ := min (a * b) max

def saturatingAdd (max a b : ℕ) : ℕ := min (a + b) max

/-- `FlowTable::with_capacity` with its assertion. -/
def FlowTable.assertedCapacity {α : Type} (capacity : ℕ) : Except Error (FlowTable α) :=
  if capacity ≤ 2 ^ 20 then .ok (FlowTable.withCapacity capacity)
  else .error (.panic "assertion failed: capacity <= 1 << SLOT_BITS")

/-- `udp_engine::Engine::new`, whose flow table has the assertion too. -/
def Udp.Engine.assertedNew (maxFlows maxAssociations : ℕ) : Except Error Udp.Engine := do
  let _ ← FlowTable.assertedCapacity (α := Udp.Flow) maxFlows
  pure (Udp.Engine.new maxFlows maxAssociations)

def dataplaneNofileLimit (maxTcpFlows maxUdpFlows maxUdpAssociations : ℕ) : Except Error ℕ :=
  match (checkedAdd u64Max maxTcpFlows maxUdpFlows).bind fun value =>
      ((checkedMul u64Max maxUdpAssociations 2).bind fun extra => checkedAdd u64Max value extra).bind fun value =>
        checkedAdd u64Max value dataplaneFdHeadroom with
  | some limit => .ok limit
  -- `ErrorKind::InvalidInput`
  | none => .error (.io (.os 22))

/-- What `Reactor::new` computes from its configuration, and the tables it allocates. -/
structure WorkerParts where
  vnetLen : ℕ
  frameCapacity : ℕ
  framePoolFrames : ℕ
  maxSocketBufferBytes : ℕ
  maxUdpSocketBufferBytes : ℕ
  maxTotalSocketBufferBytes : ℕ
  flowFdLimit : ℕ
  gsoFrameCapacity : ℕ
  tapRxCapacity : ℕ
  udpRxCapacity : ℕ
  socksBufferCapacity : ℕ
  gsoPoolFrames : ℕ
  flows : FlowTable FlowEntry
  udpEngine : Udp.Engine
  socksAssociations : FlowTable SocksAssociation

namespace WorkerConfig

def udpSocketCount (c : WorkerConfig) : ℕ :=
  match c.upstream with
  | .direct _ => c.maxUdpFlows
  | .proxy .socks5 _ _ => saturatingMul usizeMax c.maxUdpAssociations 2
  | .proxy .httpConnect _ _ => 0

def gsoPoolFrames (c : WorkerConfig) (gsoFrameCapacity : ℕ) : Except Error ℕ :=
  if c.tapOffload then do
    let workerGsoBytes ← divide tapGsoPoolBytes c.workerCount
    let frames ← divide workerGsoBytes gsoFrameCapacity
    pure (max frames 1)
  else pure 0

/-- `Reactor::new` after its system calls. -/
def newReactor (c : WorkerConfig) : Except Error WorkerParts := do
  let vnetLen := if c.tapOffload then vnetHeaderLen else 0
  let frameCapacity ←
    match checkedAdd usizeMax c.tapMtu (ethernetHeaderLen + vnetLen) with
    | some capacity => pure capacity
    | none => .error (.invariant "TAP frame capacity overflow")
  let workerPoolBytes ← divide tapFramePoolBytes c.workerCount
  let frames ← divide workerPoolBytes frameCapacity
  let framePoolFrames := max 1 (min frames tapFramePoolMaxFrames)
  let maxTcpSocketBufferBytes := saturatingMul u64Max c.maxTcpFlows
    (saturatingAdd usizeMax c.tcpReceiveBufferBytes c.tcpSendBufferBytes)
  let maxUdpSocketBufferBytes := saturatingMul u64Max c.udpSocketCount (saturatingMul u64Max udpSocketBufferBytes 2)
  let maxDnsSocketBufferBytes :=
    if c.dnsProxyTcp && c.dnsUpstream.isSome then saturatingMul u64Max dnsSocketBufferBytes 2 else 0
  let flowFdLimit ← dataplaneNofileLimit c.maxTcpFlows c.maxUdpFlows c.maxUdpAssociations
  let gsoFrameCapacity := vnetLen + ethernetHeaderLen + gsoMaxL3Bytes
  let gsoPoolFrames ← c.gsoPoolFrames gsoFrameCapacity
  let flows ← FlowTable.assertedCapacity c.maxTcpFlows
  let udpEngine ← Udp.Engine.assertedNew c.maxUdpFlows c.maxUdpAssociations
  let socksAssociations ← FlowTable.assertedCapacity c.maxUdpAssociations
  pure
    { vnetLen := vnetLen
      frameCapacity := frameCapacity
      framePoolFrames := framePoolFrames
      maxSocketBufferBytes := maxTcpSocketBufferBytes
      maxUdpSocketBufferBytes := maxUdpSocketBufferBytes
      maxTotalSocketBufferBytes := saturatingAdd u64Max
        (saturatingAdd u64Max maxTcpSocketBufferBytes maxUdpSocketBufferBytes) maxDnsSocketBufferBytes
      flowFdLimit := flowFdLimit
      gsoFrameCapacity := gsoFrameCapacity
      tapRxCapacity := if c.tapOffload then gsoFrameCapacity else frameCapacity
      udpRxCapacity := c.tapMtu - (40 + udpHeaderLen)
      socksBufferCapacity := saturatingAdd usizeMax c.tapMtu 22
      gsoPoolFrames := gsoPoolFrames
      flows := flows
      udpEngine := udpEngine
      socksAssociations := socksAssociations }

/-- The MSS `handle_tcp` starts from; the subtraction saturates, the conversion to `u16` is an `expect`. -/
def defaultMss (c : WorkerConfig) (ipv4 : Bool) : Except Error ℕ :=
  let mss := c.tapMtu - if ipv4 then 40 else 60
  if mss ≤ u16Max then .ok mss else .error (.panic "validated TAP MTU produces a u16 MSS")

end WorkerConfig

/-- The bound of `process_dns_frames` on a reply. -/
def WorkerParts.frameLimit (parts : WorkerParts) : Except Error ℕ := do
  let limit ← subtract parts.frameCapacity parts.vnetLen
  let limit ← subtract limit ethernetHeaderLen
  let limit ← subtract limit 40
  subtract limit udpHeaderLen

/-! ## Shares -/

theorem sum_remainder {workers remainder : ℕ} (h : remainder ≤ workers) :
    ∑ i ∈ Finset.range workers, (if i < remainder then 1 else 0) = remainder := by
  induction workers with
  | zero =>
    rw [Finset.sum_range_zero]
    omega
  | succ workers ih =>
    rw [Finset.sum_range_succ]
    rcases Nat.lt_or_ge workers remainder with hlast | hlast
    · have hall : ∑ i ∈ Finset.range workers, (if i < remainder then 1 else 0) = workers := by
        rw [Finset.sum_congr rfl fun i hi => if_pos ((Finset.mem_range.mp hi).trans hlast)]
        simp
      rw [hall, if_pos hlast]
      omega
    · rw [ih hlast, if_neg (Nat.not_lt.mpr hlast)]
      rfl

theorem sum_workerShare (total : ℕ) {workers : ℕ} (h : 0 < workers) :
    ∑ i ∈ Finset.range workers, workerShare total workers i = total := by
  unfold workerShare
  rw [Finset.sum_add_distrib, sum_remainder (Nat.mod_lt total h).le]
  rw [Finset.sum_const_nat fun _ _ => rfl, Finset.card_range]
  exact Nat.div_add_mod total workers

theorem workerShare_le_succ (total workers i j : ℕ) :
    workerShare total workers i ≤ workerShare total workers j + 1 := by
  unfold workerShare
  split <;> omega

theorem le_workerShare {total workers floor : ℕ} (hpos : 0 < workers) (h : workers * floor ≤ total) (i : ℕ) :
    floor ≤ workerShare total workers i := by
  have hquotient : floor ≤ total / workers := (Nat.le_div_iff_mul_le hpos).mpr (by rwa [Nat.mul_comm])
  exact hquotient.trans (Nat.le_add_right _ _)

theorem workerShare_le {total workers : ℕ} (hpos : 0 < workers) {i : ℕ} (hi : i < workers) :
    workerShare total workers i ≤ total := by
  calc
    workerShare total workers i ≤ ∑ j ∈ Finset.range workers, workerShare total workers j :=
      Finset.single_le_sum (fun _ _ => Nat.zero_le _) (Finset.mem_range.mpr hi)
    _ = total := sum_workerShare total hpos

namespace LaunchConfig

variable {c : LaunchConfig}

/-- One limit of the configuration is divided among the workers: the parts add up to it, no two
differ by more than one, and each is at least `floor`. -/
structure Divided (c : LaunchConfig) (total : ℕ) (share : WorkerConfig → ℕ) (floor : ℕ) : Prop where
  sum : ∑ i ∈ Finset.range c.workers, share (c.dataplane i) = total
  even : ∀ i j, i < c.workers → j < c.workers → share (c.dataplane i) ≤ share (c.dataplane j) + 1
  floor_le : ∀ i, i < c.workers → floor ≤ share (c.dataplane i)

/-- What an accepted configuration keeps to. -/
structure Valid (c : LaunchConfig) : Prop where
  tapMtu : minTapMtu ≤ c.network.tapMtu ∧ c.network.tapMtu ≤ maxTapMtu
  workers : 1 ≤ c.workers ∧ c.workers ≤ maxWorkers
  tcpFlows : c.workers ≤ c.maxTcpFlows ∧ c.maxTcpFlows ≤ 1048576
  udpFlows : c.workers ≤ c.maxUdpFlows ∧ c.maxUdpFlows ≤ 1048576
  udpAssociations : c.workers ≤ c.maxUdpAssociations ∧ c.maxUdpAssociations ≤ 1048576
  pendingBytes : c.workers * 16384 ≤ c.maxPendingTcpBytes
  retainedBytes : c.workers * 16384 ≤ c.maxRetainedTcpBytes

theorem ite_error_eq_ok {ε : Type} {p : Prop} [Decidable p] {e : ε} {k : Except ε Unit} :
    (if p then .error e else k) = .ok () ↔ ¬p ∧ k = .ok () := by
  by_cases h : p
  · simp [h]
  · simp [h]

theorem valid_of_validate (h : c.validate = .ok ()) : Valid c := by
  unfold validate at h
  simp only [ite_error_eq_ok, not_not] at h
  obtain ⟨-, -, htap, htcp, hudp, hassociations, hworkers, hflows, -, -, hbytes, -⟩ := h
  have hfloor : min (c.workers * (16 * 1024)) usizeMax = c.workers * (16 * 1024) := by
    apply Nat.min_eq_left
    have hle : c.workers ≤ 256 := hworkers.2
    unfold usizeMax
    omega
  rw [hfloor] at hbytes
  simp only [List.any_cons, List.any_nil, Bool.or_false, Bool.or_eq_true, decide_eq_true_eq] at hflows
  exact ⟨htap, hworkers, ⟨by omega, htcp.2⟩, ⟨by omega, hudp.2⟩, ⟨by omega, hassociations.2⟩, by omega, by omega⟩

theorem Valid.divided (h : Valid c) {total floor : ℕ} {share : WorkerConfig → ℕ}
    (hshare : ∀ i, share (c.dataplane i) = workerShare total c.workers i) (hfloor : c.workers * floor ≤ total) :
    Divided c total share floor := by
  have hpos : 0 < c.workers := h.workers.1
  refine ⟨?_, ?_, ?_⟩
  · rw [Finset.sum_congr rfl fun i _ => hshare i]
    exact sum_workerShare total hpos
  · intro i j _ _
    rw [hshare, hshare]
    exact workerShare_le_succ _ _ _ _
  · intro i _
    rw [hshare]
    exact le_workerShare hpos hfloor i

/-- The part of a worker, as the reactor model takes it. -/
def Valid.config (h : Valid c) {i : ℕ} (hi : i < c.workers) : Config where
  gatewayIpv4 := (c.dataplane i).gatewayIpv4
  gatewayIpv6 := (c.dataplane i).gatewayIpv6
  tapMtu := (c.dataplane i).tapMtu
  tapOffload := (c.dataplane i).tapOffload
  upstream := (c.dataplane i).upstream
  dnsProxyTcp := (c.dataplane i).dnsProxyTcp
  dnsProxyUdp := (c.dataplane i).dnsProxyUdp
  dnsUpstream := (c.dataplane i).dnsUpstream
  maxTcpFlows := (c.dataplane i).maxTcpFlows
  udpEnabled := (c.dataplane i).udpEnabled
  maxUdpFlows := (c.dataplane i).maxUdpFlows
  maxUdpAssociations := (c.dataplane i).maxUdpAssociations
  workerCount := (c.dataplane i).workerCount
  maxPendingTcpBytes := (c.dataplane i).maxPendingTcpBytes
  maxRetainedTcpBytes := (c.dataplane i).maxRetainedTcpBytes
  tapMtu_ge := h.tapMtu.1
  tapMtu_le := h.tapMtu.2
  workerCount_pos := h.workers.1
  maxTcpFlows_le := (workerShare_le h.workers.1 hi).trans h.tcpFlows.2
  maxPendingTcpBytes_ge := le_workerShare h.workers.1 h.pendingBytes i

theorem assertedCapacity_ok {α : Type} {capacity : ℕ} (h : capacity ≤ 1048576) :
    FlowTable.assertedCapacity (α := α) capacity = .ok (FlowTable.withCapacity capacity) :=
  if_pos h

theorem dataplaneNofileLimit_ok {tcp udp associations : ℕ} (htcp : tcp ≤ 1048576) (hudp : udp ≤ 1048576)
    (hassociations : associations ≤ 1048576) :
    dataplaneNofileLimit tcp udp associations = .ok (tcp + udp + associations * 2 + dataplaneFdHeadroom) := by
  have hfirst : checkedAdd u64Max tcp udp = some (tcp + udp) := if_pos (by unfold u64Max; omega)
  have hextra : checkedMul u64Max associations 2 = some (associations * 2) := if_pos (by unfold u64Max; omega)
  have hvalue : checkedAdd u64Max (tcp + udp) (associations * 2) = some (tcp + udp + associations * 2) :=
    if_pos (by unfold u64Max; omega)
  have hlimit : checkedAdd u64Max (tcp + udp + associations * 2) dataplaneFdHeadroom =
      some (tcp + udp + associations * 2 + dataplaneFdHeadroom) :=
    if_pos (by unfold u64Max dataplaneFdHeadroom; omega)
  unfold dataplaneNofileLimit
  rw [hfirst, Option.bind_some, hextra, Option.bind_some, hvalue, Option.bind_some, hlimit]

theorem divide_ok {a b : ℕ} (h : 0 < b) : divide a b = .ok (a / b) := if_neg (Nat.ne_of_gt h)

theorem subtract_ok {a b : ℕ} (h : b ≤ a) : subtract a b = .ok (a - b) := if_neg (Nat.not_lt.mpr h)

/-- The parts of a worker are those the reactor model starts from. -/
structure Matches (parts : WorkerParts) (cfg : Config) : Prop where
  vnetLen : parts.vnetLen = cfg.vnetLen
  frameCapacity : parts.frameCapacity = cfg.mtuFrameCapacity
  framePoolFrames : parts.framePoolFrames = cfg.framePoolFrames
  gsoFrameCapacity : parts.gsoFrameCapacity = cfg.gsoFrameCapacity
  gsoPoolFrames : parts.gsoPoolFrames = cfg.gsoPoolFrames
  udpRxCapacity : parts.udpRxCapacity = cfg.udpRxCapacity
  socksBufferCapacity : parts.socksBufferCapacity = cfg.socksBufferCapacity
  flows : parts.flows = FlowTable.withCapacity cfg.maxTcpFlows
  udpEngine : parts.udpEngine = Udp.Engine.new cfg.maxUdpFlows cfg.maxUdpAssociations
  socksAssociations : parts.socksAssociations = FlowTable.withCapacity cfg.maxUdpAssociations

theorem Valid.newReactor_ok (h : Valid c) {i : ℕ} (hi : i < c.workers) :
    ∃ parts, (c.dataplane i).newReactor = .ok parts ∧ Matches parts (h.config hi) := by
  have hworkers : 0 < (c.dataplane i).workerCount := h.workers.1
  have hmtu : (c.dataplane i).tapMtu ≤ 65520 := h.tapMtu.2
  have htcp : (c.dataplane i).maxTcpFlows ≤ 1048576 := (workerShare_le h.workers.1 hi).trans h.tcpFlows.2
  have hudp : (c.dataplane i).maxUdpFlows ≤ 1048576 := (workerShare_le h.workers.1 hi).trans h.udpFlows.2
  have hassociations : (c.dataplane i).maxUdpAssociations ≤ 1048576 :=
    (workerShare_le h.workers.1 hi).trans h.udpAssociations.2
  have hvnet : (if (c.dataplane i).tapOffload then vnetHeaderLen else 0) = (h.config hi).vnetLen := rfl
  have hvnetLe : (h.config hi).vnetLen ≤ 10 := by
    rw [← hvnet]
    unfold vnetHeaderLen
    split <;> omega
  have hframe : checkedAdd usizeMax (c.dataplane i).tapMtu (ethernetHeaderLen + (h.config hi).vnetLen) =
      some (h.config hi).mtuFrameCapacity := by
    apply if_pos
    unfold usizeMax ethernetHeaderLen
    omega
  have hframePos : 0 < (h.config hi).mtuFrameCapacity := by
    unfold Config.mtuFrameCapacity ethernetHeaderLen
    omega
  have hgsoPos : 0 < (h.config hi).vnetLen + ethernetHeaderLen + gsoMaxL3Bytes := by
    unfold ethernetHeaderLen
    omega
  have hgso : (c.dataplane i).gsoPoolFrames ((h.config hi).vnetLen + ethernetHeaderLen + gsoMaxL3Bytes) =
      .ok (h.config hi).gsoPoolFrames := by
    unfold WorkerConfig.gsoPoolFrames
    rw [divide_ok hworkers, Wire.ok_bind, divide_ok hgsoPos, Wire.ok_bind, Nat.max_comm]
    change _ = Except.ok (if (c.dataplane i).tapOffload then _ else 0)
    cases (c.dataplane i).tapOffload <;> rfl
  have hsocks : saturatingAdd usizeMax (c.dataplane i).tapMtu 22 = (h.config hi).socksBufferCapacity := by
    apply Nat.min_eq_left
    unfold usizeMax
    omega
  have hengine : Udp.Engine.assertedNew (c.dataplane i).maxUdpFlows (c.dataplane i).maxUdpAssociations =
      .ok (Udp.Engine.new (c.dataplane i).maxUdpFlows (c.dataplane i).maxUdpAssociations) := by
    unfold Udp.Engine.assertedNew
    rw [assertedCapacity_ok hudp]
    rfl
  unfold WorkerConfig.newReactor
  simp only [hvnet, hframe, divide_ok hworkers, divide_ok hframePos, pure, Except.pure, Wire.ok_bind, hgso,
    dataplaneNofileLimit_ok htcp hudp hassociations, assertedCapacity_ok htcp, hengine,
    assertedCapacity_ok hassociations, hsocks]
  exact ⟨_, rfl, rfl, rfl, rfl, rfl, rfl, rfl, rfl, rfl, rfl, rfl⟩

theorem Matches.frameLimit_ok {parts : WorkerParts} {cfg : Config} (h : Matches parts cfg) :
    parts.frameLimit = .ok (Reactor.dnsFrameLimit cfg) := by
  have hmtu := cfg.tapMtu_ge
  unfold WorkerParts.frameLimit Reactor.dnsFrameLimit
  rw [h.frameCapacity, h.vnetLen]
  unfold Config.mtuFrameCapacity ethernetHeaderLen udpHeaderLen
  rw [subtract_ok (by omega), Wire.ok_bind, subtract_ok (by omega), Wire.ok_bind, subtract_ok (by omega),
    Wire.ok_bind, subtract_ok (by omega)]

/-- An accepted configuration divides its limits among the workers without loss, and no worker
fails on its part. -/
theorem validate_preserves_limits (c : LaunchConfig) (h : c.validate = .ok ()) :
    Divided c c.maxTcpFlows WorkerConfig.maxTcpFlows 1 ∧
      Divided c c.maxUdpFlows WorkerConfig.maxUdpFlows 1 ∧
      Divided c c.maxUdpAssociations WorkerConfig.maxUdpAssociations 1 ∧
      Divided c c.maxPendingTcpBytes WorkerConfig.maxPendingTcpBytes 16384 ∧
      Divided c c.maxRetainedTcpBytes WorkerConfig.maxRetainedTcpBytes 16384 ∧
      ∀ i, i < c.workers → ∃ parts, (c.dataplane i).newReactor = .ok parts ∧
        1 ≤ parts.framePoolFrames ∧ (c.network.tapOffload = true → 1 ≤ parts.gsoPoolFrames) ∧
        (∀ ipv4, ∃ mss, (c.dataplane i).defaultMss ipv4 = .ok mss) ∧
        ∃ limit, parts.frameLimit = .ok limit := by
  have hvalid := valid_of_validate h
  refine ⟨hvalid.divided (fun _ => rfl) ?_, hvalid.divided (fun _ => rfl) ?_, hvalid.divided (fun _ => rfl) ?_,
    hvalid.divided (fun _ => rfl) hvalid.pendingBytes, hvalid.divided (fun _ => rfl) hvalid.retainedBytes, ?_⟩
  · rw [Nat.mul_one]
    exact hvalid.tcpFlows.1
  · rw [Nat.mul_one]
    exact hvalid.udpFlows.1
  · rw [Nat.mul_one]
    exact hvalid.udpAssociations.1
  intro i hi
  obtain ⟨parts, hparts, hmatches⟩ := hvalid.newReactor_ok hi
  refine ⟨parts, hparts, ?_, ?_, ?_, ?_⟩
  · rw [hmatches.framePoolFrames]
    exact Nat.le_max_left _ _
  · intro hoffload
    rw [hmatches.gsoPoolFrames]
    unfold Config.gsoPoolFrames
    rw [if_pos (show (hvalid.config hi).tapOffload = true from hoffload)]
    exact Nat.le_max_left _ _
  · intro ipv4
    have hle : (c.dataplane i).tapMtu ≤ 65520 := hvalid.tapMtu.2
    refine ⟨_, if_pos ?_⟩
    exact (Nat.sub_le _ _).trans (hle.trans (by decide))
  · exact ⟨_, hmatches.frameLimit_ok⟩

def manyWorkers : LaunchConfig where
  command := [[115, 104]]
  name := none
  network :=
    { tapMtu := 32000, tapOffload := false, targetMac := 2, gatewayMac := 1, targetIpv4 := some (0xc0000202, 24),
      gatewayIpv4 := some 0xc0000201, targetIpv6 := none, gatewayIpv6 := none }
  upstream := .direct false
  dns := { mode := .off, upstream := none }
  maxTcpFlows := 512
  udpEnabled := true
  maxUdpFlows := 512
  maxUdpAssociations := 512
  workers := 256
  maxPendingTcpBytes := 16777216
  maxRetainedTcpBytes := 16777216
  tcpReceiveBufferBytes := 65536
  tcpSendBufferBytes := 65536

example : ∃ h : manyWorkers.validate = .ok (),
    (valid_of_validate h).config (show 0 < manyWorkers.workers by decide) = .sample (.direct false) :=
  ⟨by decide, rfl⟩

def fourWorkers : LaunchConfig where
  command := [[115, 104]]
  name := some [97, 45, 49]
  network :=
    { tapMtu := 1500, tapOffload := true, targetMac := 2, gatewayMac := 1, targetIpv4 := some (0xc0000202, 24),
      gatewayIpv4 := some 0xc0000201, targetIpv6 := none, gatewayIpv6 := none }
  upstream := .direct false
  dns := { mode := .off, upstream := none }
  maxTcpFlows := 10
  udpEnabled := true
  maxUdpFlows := 7
  maxUdpAssociations := 5
  workers := 4
  maxPendingTcpBytes := 70001
  maxRetainedTcpBytes := 70002
  tcpReceiveBufferBytes := 65536
  tcpSendBufferBytes := 65536

theorem validate_preserves_limits_four :
    fourWorkers.validate = .ok () ∧ Divided fourWorkers 10 WorkerConfig.maxTcpFlows 1 ∧
      (List.range 4).map (fun i => (fourWorkers.dataplane i).maxTcpFlows) = [3, 3, 2, 2] :=
  ⟨by decide, (validate_preserves_limits fourWorkers (by decide)).1, by decide⟩

end LaunchConfig

end Yayatht
