import Yayatht.RunSteps
import Yayatht.FlowStrand

set_option autoImplicit false

namespace Yayatht
open EffectLogic

def Notice.dial? : Notice → Option (Transport × SocketAddr)
  | .dialed transport peer => some (transport, peer)
  | _ => none

theorem Notice.dial?_of_about {n : Notice} {id : FlowId} (h : n.about = some id) : n.dial? = none := by
  cases n <;> first | rfl | cases h

theorem Notice.dial?_eq_some {n : Notice} {transport : Transport} {peer : SocketAddr} :
    n.dial? = some (transport, peer) ↔ n = .dialed transport peer := by
  cases n with
  | dialed t p => simp [Notice.dial?]
  | _ => simp [Notice.dial?]

def peers (journal : List Notice) : List (Transport × SocketAddr) := journal.filterMap Notice.dial?

theorem mem_peers {journal : List Notice} {transport : Transport} {peer : SocketAddr} :
    (transport, peer) ∈ peers journal ↔ Notice.dialed transport peer ∈ journal := by
  unfold peers
  rw [List.mem_filterMap]
  constructor
  · rintro ⟨n, hn, hd⟩
    rw [← Notice.dial?_eq_some.mp hd]
    exact hn
  · intro h
    exact ⟨_, h, rfl⟩

theorem settleNotices_dial? (id : FlowId) (acked retained clamps : ℕ) :
    ∀ n ∈ settleNotices id acked retained clamps, n.dial? = none := by
  intro n hn
  rcases List.mem_append.mp hn with h | h
  · split at h
    · simp only [List.mem_cons, List.not_mem_nil, or_false] at h
      rcases h with rfl | rfl <;> rfl
    · cases h
  · rw [(List.mem_replicate.mp h).2]
    rfl

/-- The journal grew by notices other than dials. -/
def Undialed (before after : List Notice) : Prop :=
  ∃ notices, after = notices ++ before ∧ ∀ n ∈ notices, n.dial? = none

namespace Undialed

variable {journal after : List Notice}

theorem refl (journal : List Notice) : Undialed journal journal := ⟨[], rfl, by simp⟩

theorem notices {ns : List Notice} (h : ∀ n ∈ ns, n.dial? = none) : Undialed journal (ns ++ journal) :=
  ⟨ns, rfl, h⟩

theorem notice {n : Notice} (h : n.dial? = none) : Undialed journal (n :: journal) :=
  ⟨[n], rfl, by simpa using h⟩

theorem trans {later : List Notice} (h : Undialed journal after) (h' : Undialed after later) :
    Undialed journal later := by
  obtain ⟨ns, rfl, hns⟩ := h
  obtain ⟨ms, rfl, hms⟩ := h'
  refine ⟨ms ++ ns, by rw [List.append_assoc], ?_⟩
  simp only [List.mem_append]
  rintro n (hn | hn)
  · exact hms n hn
  · exact hns n hn

theorem closing {c d : Core} {id : FlowId} {e : FlowEntry} (h : Closing c id e d) :
    Undialed c.journal d.journal := by
  have hclose : ∀ sides : FlowSides, Undialed c.journal (c.unregister id sides.namespaceKey e).journal := by
    intro sides
    obtain ⟨ns, hkind, hn⟩ := Core.unregister_journal c id sides.namespaceKey e
    rw [hn]
    refine trans (notice rfl) (notices fun n hm => ?_)
    obtain ⟨length, available, rfl⟩ := hkind n hm
    rfl
  cases h with
  | done sides h => exact hclose sides
  | stuck => exact notice rfl
  | broken sides h => exact (hclose sides).trans (notice rfl)

theorem settle {c : Core} {id : FlowId} {e f : FlowEntry} {segment : TcpSegment} {clamps : ℕ}
    {ns : List Notice} (h : ∀ n ∈ ns, n.about = some id) :
    Undialed c.journal (c.settle id e segment clamps ns f).journal := by
  refine trans (notice rfl) (notices ?_)
  simp only [List.mem_append]
  rintro n (hn | hn)
  · exact Notice.dial?_of_about (h n hn)
  · exact settleNotices_dial? id _ _ clamps n hn

end Undialed

/-- A step dials a peer it may dial, or none at all. -/
theorem Act.dialing {cfg : Config} {c d : Core} (h : Act cfg c d) :
    (∃ transport peer, (Recorded c.journal c.socks → Dialable cfg c.journal transport peer) ∧
        d = c.log [.dialed transport peer]) ∨
      (Undialed c.journal d.journal ∧ (Recorded c.journal c.socks → Recorded c.journal d.socks)) := by
  have hclosing : ∀ {c d : Core} {id : FlowId} {e : FlowEntry}, Closing c id e d → d.socks = c.socks := by
    rintro c d id e (_ | _ | _)
    · exact Core.unregister_socks _ _ _ _
    · rfl
    · exact Core.unregister_socks _ _ _ _
  cases h with
  | dialed transport peer h => exact .inl ⟨transport, peer, h, rfl⟩
  | associations u h => exact .inr ⟨.refl _, h⟩
  | engine | touch | replyConsumed | enqueue | planFin | commitPlain | commit | flush | reap =>
    exact .inr ⟨.refl _, id⟩
  | mild notice h => exact .inr ⟨.notice (by cases h <;> rfl), id⟩
  | synLost | serviced | timeWait | built | commitMissed | commitMismatched | flushFin |
    flushFinFailed | planData => exact .inr ⟨.notice rfl, id⟩
  | create | drop => exact .inr ⟨.trans (.notice rfl) (.notice rfl), id⟩
  | handled id e f g segment clamps notices hget hspared hrst hf hg => exact .inr ⟨.settle hg.about, fun h => h⟩
  | lost id e f g segment clamps notices hget hspared hrst hf hg => exact .inr ⟨.settle hg.about, fun h => h⟩
  | ackAborted id e f segment clamps count fault hget hspared hrst hf hfault =>
    refine .inr ⟨.notices fun n hn => ?_, fun h => h⟩
    simp only [List.cons_append, List.mem_cons, List.mem_append, List.mem_replicate, List.not_mem_nil,
      or_false] at hn
    rcases hn with rfl | ⟨-, rfl⟩ | rfl
    · exact Notice.dial?_of_about hfault.about
    · rfl
    · rfl
  | reset id e segment d hget hspared hrst h =>
    refine .inr ⟨.trans (.notice rfl) (.closing h), fun hr => ?_⟩
    rw [hclosing h]
    exact hr
  | close id e d hget hspared h =>
    refine .inr ⟨.closing h, fun hr => ?_⟩
    rw [hclosing h]
    exact hr
  | activate => exact .inr ⟨.trans (.notice rfl) (.notice rfl), fun h => h⟩
  | activateLost id e bytesAcked dry hget hspared hhandshake =>
    refine .inr ⟨.notices fun n hn => ?_, fun h => h⟩
    simp only [List.cons_append, List.mem_cons, List.mem_append, List.mem_replicate, List.not_mem_nil,
      or_false] at hn
    rcases hn with rfl | ⟨-, rfl⟩ | rfl <;> rfl

theorem Dialable.append {cfg : Config} {journal : List Notice} {transport : Transport} {peer : SocketAddr}
    (h : Dialable cfg journal transport peer) (notices : List Notice) :
    Dialable cfg (notices ++ journal) transport peer := by
  intro protocol address credentials hcfg
  have hpeer := h protocol address credentials hcfg
  cases transport with
  | stream => exact hpeer
  | datagram =>
    obtain ⟨bound, hanswered, hrelay⟩ := hpeer
    exact ⟨bound, hanswered.append notices, hrelay⟩

/-- Every peer on record was one that could be dialed. -/
structure Contained (cfg : Config) (c : Core) : Prop where
  recorded : Recorded c.journal c.socks
  dialed : ∀ transport peer, Notice.dialed transport peer ∈ c.journal → Dialable cfg c.journal transport peer

namespace Contained

variable {cfg : Config} {c d : Core}

theorem initial (cfg : Config) : Contained cfg (Core.initial cfg) where
  recorded := Recorded.initial _
  dialed _ _ h := by cases h

theorem act (hc : Contained cfg c) (h : Act cfg c d) : Contained cfg d := by
  rcases h.dialing with ⟨transport, peer, hdial, rfl⟩ | ⟨⟨notices, hjournal, hquiet⟩, hrecorded⟩
  · refine ⟨hc.recorded.append [.dialed transport peer], fun transport' peer' hm => ?_⟩
    change _ ∈ [Notice.dialed transport peer] ++ c.journal at hm
    rcases List.mem_append.mp hm with hm | hm
    · cases List.mem_singleton.mp hm
      exact (hdial hc.recorded).append _
    · exact (hc.dialed transport' peer' hm).append _
  · refine ⟨hjournal ▸ (hrecorded hc.recorded).append notices, fun transport peer hm => ?_⟩
    rw [hjournal] at hm ⊢
    rcases List.mem_append.mp hm with hm | hm
    · cases hquiet _ hm
    · exact (hc.dialed transport peer hm).append notices

theorem tapAct (hc : Contained cfg c) (h : TapAct cfg c d) : Contained cfg d := by
  rcases h with h | ⟨refresh, rfl⟩
  · exact hc.act h
  · exact ⟨hc.recorded, hc.dialed⟩

theorem path (hc : Contained cfg c) (h : Path (TapAct cfg) c d) : Contained cfg d :=
  Path.invariant (P := Contained cfg) (fun _ _ hs hc => hc.tapAct hs) h hc

end Contained

/-- The proxy and the relays it named. -/
def proxyPeers (address : SocketAddr) (journal : List Notice) : Set (Transport × SocketAddr) :=
  { pair | pair = (.stream, address) ∨
    ∃ bound, Answered journal bound ∧ Reactor.relayEndpoint address bound = some pair.2 ∧ pair.1 = .datagram }

theorem proxyPeers_of_answers {address : SocketAddr} {first second : List Notice}
    (h : ∀ bound, Answered first bound → Answered second bound) :
    proxyPeers address first ⊆ proxyPeers address second := by
  rintro pair (hpair | ⟨bound, hanswered, hrelay⟩)
  · exact .inl hpair
  · exact .inr ⟨bound, h bound hanswered, hrelay⟩

namespace Reactor

theorem peers_contained {cfg : Config} {protocol : Proxy.Protocol} {address : SocketAddr}
    {credentials : Option Proxy.Credentials} (hcfg : cfg.upstream = .proxy protocol address credentials)
    {s : Reactor} (hs : Visited cfg s) : ∀ pair ∈ peers s.journal, pair ∈ proxyPeers address s.journal := by
  obtain ⟨d, hpath, hjournal⟩ := hs.path cfg
  have hc := (Contained.initial cfg).path hpath
  rintro ⟨transport, peer⟩ hm
  rw [mem_peers, ← hjournal] at hm
  rw [← hjournal]
  have hpeer := hc.dialed transport peer hm protocol address credentials hcfg
  cases transport with
  | stream => exact .inl (congrArg (Prod.mk Transport.stream) hpeer)
  | datagram =>
    obtain ⟨bound, hanswered, hrelay⟩ := hpeer
    exact .inr ⟨bound, hanswered, hrelay, rfl⟩

/-- Behind a proxy every stream goes to it and every datagram socket to a relay one of its
replies names; a second run with no other replies reaches no other peers. -/
theorem proxy_contains (cfg : Config) (protocol : Proxy.Protocol) (address : SocketAddr)
    (credentials : Option Proxy.Credentials) (hcfg : cfg.upstream = .proxy protocol address credentials)
    (s : Reactor) (hs : Visited cfg s) :
    (∀ peer, (.stream, peer) ∈ peers s.journal → peer = address) ∧
      (∀ peer, (.datagram, peer) ∈ peers s.journal →
        ∃ bound, Answered s.journal bound ∧ relayEndpoint address bound = some peer) ∧
      ∀ t, Visited cfg t → (∀ bound, Answered t.journal bound → Answered s.journal bound) →
        ∀ pair ∈ peers t.journal, pair ∈ proxyPeers address s.journal := by
  have hsubset := peers_contained hcfg hs
  refine ⟨fun peer hm => ?_, fun peer hm => ?_, fun t ht hanswers => ?_⟩
  · rcases hsubset _ hm with hpair | ⟨bound, -, -, hkind⟩
    · exact congrArg Prod.snd hpair
    · cases hkind
  · rcases hsubset _ hm with hpair | ⟨bound, hanswered, hrelay, -⟩
    · cases congrArg Prod.fst hpair
    · exact ⟨bound, hanswered, hrelay⟩
  · exact fun pair hm => proxyPeers_of_answers hanswers (peers_contained hcfg ht pair hm)

def socksProxy : SocketAddr := .v4 0x0a000001#32 1080

def socksConfig : Config := .sample (.proxy .socks5 socksProxy none)

/-- A datagram of the namespace, and the two replies of the proxy. -/
def socksScript : List (Event × Kernel) :=
  [(.tap readable, Kernel.quiet.reads (.udpV4 0xc0000202#32 0x08080808#32 5353 53 [1])),
    (.socksControl ⟨0, 1⟩ readable,
      { Kernel.quiet with recv := Stream'.cons (.ok [5, 0]) Kernel.quiet.recv }),
    (.socksControl ⟨0, 1⟩ (readable ||| writable),
      { Kernel.quiet with recv := Stream'.cons (.ok [5, 0, 0, 1, 10, 0, 0, 9, 7, 208]) Kernel.quiet.recv })]

/-- The run of `socksScript` dials the proxy and then the relay it named. -/
theorem proxy_contains_socksScript :
    ∃ s, Visited socksConfig s ∧
      peers s.journal = [(.datagram, .v4 0x0a000009#32 2000), (.stream, socksProxy)] ∧
      ∃ bound, Answered s.journal bound ∧ relayEndpoint socksProxy bound = some (.v4 0x0a000009#32 2000) := by
  have hpeers : (replay socksConfig socksScript (Reactor.new socksConfig .quiet {} 0 0)).map
      (fun s => peers s.journal) = some [(.datagram, .v4 0x0a000009#32 2000), (.stream, socksProxy)] := by
    decide +kernel
  obtain ⟨s, hs, hpeers⟩ := Option.map_eq_some_iff.mp hpeers
  have hvisited := (reachable_of_replay socksConfig socksScript (.start .quiet {} 0 0) hs).visited
  have hmem : (.datagram, .v4 0x0a000009#32 2000) ∈ peers s.journal := by
    rw [hpeers]
    exact List.mem_cons_self
  exact ⟨s, hvisited, hpeers,
    (proxy_contains socksConfig .socks5 socksProxy none rfl s hvisited).2.1 _ hmem⟩

end Reactor

end Yayatht
