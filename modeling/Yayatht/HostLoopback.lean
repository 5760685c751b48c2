import Yayatht.FlowCustody
import Yayatht.ProxyContainment

set_option autoImplicit false

namespace Yayatht
open EffectLogic

/-- 127.0.0.0/8 and ::1. -/
def SocketAddr.isLoopback : SocketAddr → Bool
  | .v4 ip _ => ip.extractLsb 31 24 == 127#8
  | .v6 ip _ _ _ => ip == localhostV6

/-- Addresses of the host itself. -/
def SocketAddr.isHost (address : SocketAddr) : Bool := address.isLoopback || address.isUnspecified

/-- The transport and the destination of a packet to forward. -/
def TapFrame.destination? : TapFrame → Option (Transport × SocketAddr)
  | .tcpV4 _ destination segment => some (.stream, .v4 destination segment.destinationPort)
  | .tcpV6 _ destination segment => some (.stream, .v6 destination segment.destinationPort 0 0)
  | .udpV4 _ destination _ port _ => some (.datagram, .v4 destination port)
  | .udpV6 _ destination _ port _ => some (.datagram, .v6 destination port 0 0)
  | _ => none

/-- The journal grew by dials of one peer. -/
def Dials (pair : Transport × SocketAddr) (before after : List Notice) : Prop :=
  ∃ n, peers after = List.replicate n pair ++ peers before

namespace Dials

variable {pair : Transport × SocketAddr} {before after : List Notice}

theorem refl (pair : Transport × SocketAddr) (journal : List Notice) : Dials pair journal journal := ⟨0, rfl⟩

theorem trans {later : List Notice} (h : Dials pair before after) (h' : Dials pair after later) :
    Dials pair before later := by
  obtain ⟨n, hn⟩ := h
  obtain ⟨m, hm⟩ := h'
  refine ⟨m + n, ?_⟩
  rw [hm, hn, ← List.append_assoc, List.replicate_append_replicate]

theorem notice {n : Notice} (h : Dials pair before after) (hn : n.dial? = none) :
    Dials pair before (n :: after) := by
  obtain ⟨count, hcount⟩ := h
  refine ⟨count, ?_⟩
  unfold peers at hcount ⊢
  rw [List.filterMap_cons_none hn, hcount]

theorem dial {transport : Transport} {peer : SocketAddr} (h : Dials (transport, peer) before after) :
    Dials (transport, peer) before (.dialed transport peer :: after) := by
  obtain ⟨n, hn⟩ := h
  refine ⟨n + 1, ?_⟩
  change (transport, peer) :: peers after = _
  rw [hn]
  rfl

end Dials

theorem Notice.Ordinary.dial? {n : Notice} (h : n.Ordinary) : n.dial? = none := by
  cases n with
  | dialed => exact h.elim
  | _ => rfl

theorem custody_dials (pair : Transport × SocketAddr) (before : List Notice) :
    Custody (fun _ s => Dials pair before s.journal) fun _ s => Dials pair before s.journal where
  hidden {held s t} h hframes := by
    have hjournal : t.journal = s.journal := congrArg (fun f => f.2.2.2.2) hframes
    rw [hjournal]
    exact h
  noted n hn h := h.notice hn.dial?
  acquired _ h := h
  dry _ h := h
  acquiredGso _ h := h
  dryGso _ h := h
  released {held s} slot h := by
    obtain ⟨tier, index⟩ := slot
    cases tier <;> exact h
  pushed h := h
  popped _ h := h
  purged _ h := h
  lost h := h.notice rfl
  starved _ _ h := h
  failed _ h := h
  marked n hn h := h.notice hn.dial?

instance (pair : Transport × SocketAddr) : IsPreorder Reactor fun s t => Dials pair s.journal t.journal where
  refl s := .refl pair s.journal
  trans _ _ _ h h' := h.trans h'

theorem neutral_dials (cfg : Config) (pair : Transport × SocketAddr) :
    Neutral cfg (fun _ _ _ => True) (fun _ => True) fun s t => Dials pair s.journal t.journal where
  hidden s t hcore _ _ := by
    have hjournal : t.journal = s.journal := congrArg Core.journal hcore
    rw [hjournal]
    exact .refl _ _
  engine _ _ _ := .refl _ _
  associations _ _ _ := .refl _ _
  replied _ _ _ := (Dials.refl _ _).notice rfl
  errors _ _ _ := trivial
  fits _ _ _ _ := trivial
  reply client gateway payload s _ := by
    have h : Keeps _ _ (Reactor.queueUdpFrame cfg client gateway payload) :=
      (custody_dials pair s.journal).queueUdpFrame client gateway payload
    exact Ends.mono (h s (.refl _ _)) (fun _ _ ht => ht) fun _ _ ht => ⟨ht, trivial⟩
  icmp key payload originalLen error s := by
    have h : Keeps _ _ (Reactor.queueUdpIcmpFor cfg key payload originalLen error) :=
      (custody_dials pair s.journal).queueUdpIcmpFor key payload originalLen error
    exact Ends.mono (h s (.refl _ _)) (fun _ _ ht => ht) fun _ _ ht => ⟨ht, trivial⟩

namespace Reactor

variable (cfg : Config)

def isGateway (target : SocketAddr) : Bool :=
  match target.ip with
  | .v4 ip => cfg.gatewayIpv4 = some ip
  | .v6 ip => cfg.gatewayIpv6 = some ip

/-- DNS interception takes the packet. -/
def intercepts (transport : Transport) (target : SocketAddr) : Bool :=
  dnsProxyTcpIntercepts cfg target || match transport with
    | .stream => false
    | .datagram => dnsProxyUdpIntercepts cfg target

/-- The peer the code of each transport chooses. -/
def transportPeer (hostLoopback : Bool) (transport : Transport) (target : SocketAddr) : SocketAddr :=
  match transport with
  | .stream => (routeTarget cfg target).2
  | .datagram => udpTransportTarget cfg hostLoopback target

variable {cfg} {hostLoopback : Bool}

theorem transportPeer_eq (hcfg : cfg.upstream = .direct hostLoopback) (transport : Transport) (target : SocketAddr) :
    transportPeer cfg hostLoopback transport target = loopbackFor cfg hostLoopback target := by
  cases transport with
  | stream =>
    unfold transportPeer routeTarget
    rw [hcfg]
  | datagram =>
    unfold transportPeer udpTransportTarget loopbackFor
    cases hostLoopback with
    | false => rfl
    | true =>
      cases target with
      | v4 ip port => simp only [eq_comm, if_true, SocketAddr.new]
      | v6 ip port flowinfo scope => simp only [eq_comm, if_true, SocketAddr.new]

/-- The peer is the destination itself unless the gateway stands for the host. -/
theorem loopbackFor_cases (cfg : Config) (hostLoopback : Bool) (target : SocketAddr) :
    loopbackFor cfg hostLoopback target = target ∨ hostLoopback = true ∧ isGateway cfg target = true := by
  unfold loopbackFor
  cases hostLoopback with
  | false => exact .inl rfl
  | true =>
    rw [if_pos rfl]
    cases target with
    | v4 ip port =>
      dsimp only
      split
      · rename_i hgateway
        exact .inr ⟨rfl, decide_eq_true hgateway⟩
      · exact .inl rfl
    | v6 ip port flowinfo scope =>
      dsimp only
      split
      · rename_i hgateway
        exact .inr ⟨rfl, decide_eq_true hgateway⟩
      · exact .inl rfl

theorem handleTcp_dials (key : FlowKey) (segment : TcpSegment) (s : Reactor)
    (hplain : dnsProxyTcpIntercepts cfg key.target = false) :
    Dials (.stream, (routeTarget cfg key.target).2) s.journal (final (handleTcp cfg key segment s)).journal := by
  have hkeeps := (custody_dials (.stream, (routeTarget cfg key.target).2) s.journal).handleTcp
    (fun _ _ _ h => h) key segment (fun logicalTarget t htarget h => by
      rw [htarget hplain]
      exact h.dial) s (.refl _ _)
  exact Ends.final (P := fun t : Reactor => Dials _ s.journal t.journal) hkeeps

theorem handleForwardUdp_dials (hcfg : cfg.upstream = .direct hostLoopback) (source target : SocketAddr)
    (message : Bytes) (s : Reactor) :
    Dials (.datagram, udpTransportTarget cfg hostLoopback target) s.journal
      (final (handleForwardUdp cfg source target message s)).journal := by
  unfold handleForwardUdp
  split
  · exact .refl _ _
  rw [hcfg]
  have htracks := (neutral_dials cfg (.datagram, udpTransportTarget cfg hostLoopback target)).forwardDirectUdp
    source target _ message s fun t => (Dials.refl _ _).dial
  exact Ends.final (P := fun t : Reactor => Dials _ s.journal t.journal)
    (Ends.mono htracks (fun _ _ ht => ht) fun _ _ ht => ht.1)

theorem handleUdp_dials (hcfg : cfg.upstream = .direct hostLoopback) (endpoints : Dns.Endpoints)
    (message : Bytes) (s : Reactor) (hplain : intercepts cfg .datagram endpoints.gateway = false) :
    Dials (.datagram, udpTransportTarget cfg hostLoopback endpoints.gateway) s.journal
      (final (handleUdp cfg endpoints message s)).journal := by
  obtain ⟨htcp, hudp⟩ := Bool.or_eq_false_iff.mp hplain
  unfold handleUdp
  dsimp only at hudp ⊢
  rw [htcp, hudp]
  exact handleForwardUdp_dials hcfg _ _ message s

theorem handleFrame_dials (hcfg : cfg.upstream = .direct hostLoopback) {frame : TapFrame} {transport : Transport}
    {destination : SocketAddr} (hframe : frame.destination? = some (transport, destination))
    (hplain : intercepts cfg transport destination = false) (s : Reactor) :
    Dials (transport, transportPeer cfg hostLoopback transport destination) s.journal
      (final (handleFrame cfg frame s)).journal := by
  cases frame with
  | malformed | ignored | arpRequest | neighborSolicitation => cases hframe
  | tcpV4 source address segment =>
    cases hframe
    exact handleTcp_dials _ segment s (Bool.or_eq_false_iff.mp hplain).1
  | tcpV6 source address segment =>
    cases hframe
    exact handleTcp_dials _ segment s (Bool.or_eq_false_iff.mp hplain).1
  | udpV4 source address sourcePort port payload =>
    cases hframe
    exact handleUdp_dials hcfg _ payload s hplain
  | udpV6 source address sourcePort port payload =>
    cases hframe
    exact handleUdp_dials hcfg _ payload s hplain

/-- A packet that DNS interception leaves alone dials one peer only, the one `transportPeer`
names. It is the packet's own destination unless the gateway stands for the host, so it is an address of the
host only when the packet asked for it; and the two transports agree on it. -/
theorem direct_peer (cfg : Config) (hostLoopback : Bool) (hcfg : cfg.upstream = .direct hostLoopback)
    (frame : TapFrame) (transport : Transport) (destination : SocketAddr)
    (hframe : frame.destination? = some (transport, destination))
    (hplain : intercepts cfg transport destination = false) (s : Reactor) :
    Dials (transport, transportPeer cfg hostLoopback transport destination) s.journal
        (final (handleFrame cfg frame s)).journal ∧
      (hostLoopback = false → transportPeer cfg hostLoopback transport destination = destination) ∧
      ((transportPeer cfg hostLoopback transport destination).isHost = true →
        destination.isHost = true ∨ hostLoopback = true ∧ isGateway cfg destination = true) ∧
      transportPeer cfg hostLoopback .stream destination = transportPeer cfg hostLoopback .datagram destination := by
  have hpeer := transportPeer_eq hcfg transport destination
  refine ⟨handleFrame_dials hcfg hframe hplain s, ?_, ?_, ?_⟩
  · rintro rfl
    exact hpeer
  · intro hhost
    rw [hpeer] at hhost
    rcases loopbackFor_cases cfg hostLoopback destination with hself | hgateway
    · rw [hself] at hhost
      exact .inl hhost
    · exact .inr hgateway
  · rw [transportPeer_eq hcfg, transportPeer_eq hcfg]

def synTo (address : BitVec 32) (port : UInt16) : TapFrame :=
  .tcpV4 0xc0000202#32 address
    { sourcePort := 40000, destinationPort := port, sequence := 7, acknowledgment := 0, flags := { syn := true },
      window := 1000, mss := none, windowScale := none, payload := [] }

def peersOf (hostLoopback : Bool) (frame : TapFrame) : List (Transport × SocketAddr) :=
  let cfg := Config.sample (.direct hostLoopback)
  peers (final (handleFrame cfg frame (Reactor.new cfg .quiet {} 0 0))).journal

/-- The gateway stands for the host loopback. -/
theorem direct_peer_gateway :
    peersOf true (synTo 0xc0000201#32 8080) = [(.stream, .v4 localhostV4 8080)] ∧
      Dials (.stream, .v4 localhostV4 8080) []
        (final (handleFrame (Config.sample (.direct true)) (synTo 0xc0000201#32 8080)
          (Reactor.new (Config.sample (.direct true)) .quiet {} 0 0))).journal :=
  ⟨by decide +kernel,
    (direct_peer (Config.sample (.direct true)) true rfl (synTo 0xc0000201#32 8080) .stream
      (.v4 0xc0000201#32 8080) rfl rfl (Reactor.new (Config.sample (.direct true)) .quiet {} 0 0)).1⟩

/-- A packet to the loopback address is forwarded to the host's own loopback, whether the gateway
may stand for the host or not. -/
theorem direct_peer_loopback :
    (synTo localhostV4 80).destination? = some (.stream, .v4 localhostV4 80) ∧
      (SocketAddr.v4 localhostV4 80).isLoopback = true ∧
      (∀ hostLoopback, intercepts (Config.sample (.direct hostLoopback)) .stream (.v4 localhostV4 80) = false ∧
        isGateway (Config.sample (.direct hostLoopback)) (.v4 localhostV4 80) = false ∧
        peersOf hostLoopback (synTo localhostV4 80) = [(.stream, .v4 localhostV4 80)]) := by
  decide +kernel

end Reactor

end Yayatht
