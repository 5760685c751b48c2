import Yayatht.FlowMachine

set_option autoImplicit false

namespace Yayatht

namespace Proxy.Handshake

theorem new_fresh {target : SocketAddr} {credentials : Option Credentials} {h : Handshake}
    (hnew : new .socks5 .udpAssociate target credentials = .ok h) :
    h.command = .udpAssociate ∧ h.boundAddress = none := by
  cases hnew
  exact ⟨rfl, rfl⟩

theorem advanceOutput_command (h : Handshake) (length : ℕ) :
    (h.advanceOutput length).1.command = h.command := by
  unfold advanceOutput
  split
  · rfl
  dsimp only
  split
  · rfl
  split <;> rfl

theorem advanceOutput_boundAddress (h : Handshake) (length : ℕ) :
    (h.advanceOutput length).1.boundAddress = h.boundAddress := by
  unfold advanceOutput
  split
  · rfl
  dsimp only
  split
  · rfl
  split <;> rfl

theorem receive_command (h : Handshake) (input : Bytes) : (h.receive input).1.command = h.command := by
  unfold receive
  split
  · unfold receiveSocksMethod
    repeat' split
    all_goals rfl
  · unfold receiveSocksAuth
    repeat' split
    all_goals rfl
  · unfold receiveSocksCommand
    repeat' split
    all_goals rfl
  · unfold receiveHttp
    dsimp only
    repeat' split
    all_goals rfl
  · rfl

/-- Only a command reply brings a bound address. -/
theorem receive_boundAddress (h : Handshake) (input : Bytes) (hstate : h.state ≠ .socksCommandRead) :
    (h.receive input).1.boundAddress = h.boundAddress := by
  unfold receive
  split
  · unfold receiveSocksMethod
    repeat' split
    all_goals rfl
  · unfold receiveSocksAuth
    repeat' split
    all_goals rfl
  · exact absurd (by assumption) hstate
  · unfold receiveHttp
    dsimp only
    repeat' split
    all_goals rfl
  · rfl

end Proxy.Handshake

theorem FlowTable.get_insert_cases {α : Type} {t : FlowTable α} {value a : α} {id : FlowId}
    (h : (t.insert value).1.get id = some a) : a = value ∨ t.get id = some a := by
  unfold FlowTable.insert at h
  split at h
  · exact .inr h
  split at h
  · exact .inr h
  rename_i index _ _ _ slot hslot
  split at h
  · exact .inr h
  · obtain ⟨found, hfound, hg, hv⟩ := (FlowTable.get_eq_some_iff _ id a).mp h
    dsimp only at hfound
    have hlt := (List.getElem?_eq_some_iff.mp hslot).1
    by_cases hi : index = id.slot
    · subst hi
      rw [List.getElem?_set_self hlt] at hfound
      cases hfound
      cases hv
      exact .inl rfl
    · rw [List.getElem?_set_ne hi] at hfound
      exact .inr ((FlowTable.get_eq_some_iff _ id a).mpr ⟨found, hfound, hg, hv⟩)

theorem Answered.append {journal : List Notice} {bound : Proxy.SocksAddress} (h : Answered journal bound)
    (notices : List Notice) : Answered (notices ++ journal) bound := by
  obtain ⟨handshake, response, hm, hrest⟩ := h
  exact ⟨handshake, response, List.mem_append_right _ hm, hrest⟩

theorem Dialable.direct {cfg : Config} {journal : List Notice} {transport : Transport}
    {peer : SocketAddr} {hostLoopback : Bool} (hcfg : cfg.upstream = .direct hostLoopback) :
    Dialable cfg journal transport peer := by
  intro protocol address credentials h
  rw [hcfg] at h
  cases h

theorem Dialable.proxy {cfg : Config} {journal : List Notice} {protocol : Proxy.Protocol}
    {address : SocketAddr} {credentials : Option Proxy.Credentials}
    (hcfg : cfg.upstream = .proxy protocol address credentials) :
    Dialable cfg journal .stream address := by
  intro protocol' address' credentials' h
  rw [hcfg] at h
  cases h
  rfl

namespace Recorded

variable {journal : List Notice} {t : FlowTable SocksAssociation}

theorem initial (capacity : ℕ) : Recorded journal (FlowTable.withCapacity capacity) := by
  intro id a h hget
  simp at hget

theorem append (hr : Recorded journal t) (notices : List Notice) : Recorded (notices ++ journal) t := by
  intro id a h hget hh
  obtain ⟨hcommand, hbound⟩ := hr id a h hget hh
  exact ⟨hcommand, fun bound hb => (hbound bound hb).append notices⟩

theorem modify (hr : Recorded journal t) (id : FlowId) {f : SocksAssociation → SocksAssociation}
    (hf : ∀ a, (f a).handshake = a.handshake ∨ (f a).handshake = none) :
    Recorded journal (t.modify id f) := by
  intro other a h hget hh
  rw [FlowTable.get_modify] at hget
  split at hget
  · obtain ⟨b, hb, rfl⟩ := Option.map_eq_some_iff.mp hget
    rcases hf b with he | he
    · exact hr id b h (by assumption) (he ▸ hh)
    · rw [he] at hh
      cases hh
  · exact hr other a h hget hh

theorem withHandshake (hr : Recorded journal t) (id : FlowId) {f : SocksAssociation → SocksAssociation}
    {handshake : Proxy.Handshake} (hf : ∀ a, (f a).handshake = some handshake)
    (hcommand : handshake.command = .udpAssociate)
    (hbound : ∀ bound, handshake.boundAddress = some bound → Answered journal bound) :
    Recorded journal (t.modify id f) := by
  intro other a h hget hh
  rw [FlowTable.get_modify] at hget
  split at hget
  · obtain ⟨b, hb, rfl⟩ := Option.map_eq_some_iff.mp hget
    rw [hf b] at hh
    cases hh
    exact ⟨hcommand, hbound⟩
  · exact hr other a h hget hh

theorem remove (hr : Recorded journal t) (id : FlowId) :
    Recorded journal (t.deferRemove id).flushDeferred.1 := by
  intro other a h hget hh
  rw [FlowTable.get_flushDeferred] at hget
  split at hget
  · cases hget
  · rw [FlowTable.get_deferRemove] at hget
    exact hr other a h hget hh

theorem insert (hr : Recorded journal t) {a : SocksAssociation} (ha : a.handshake = none) :
    Recorded journal (t.insert a).1 := by
  intro id b h hget hh
  rcases FlowTable.get_insert_cases hget with rfl | hget
  · rw [ha] at hh
    cases hh
  · exact hr id b h hget hh

theorem received (hr : Recorded journal t) {id : FlowId} {a : SocksAssociation} {h : Proxy.Handshake}
    (hget : t.get id = some a) (hh : a.handshake = some h) (response : Bytes) {bound : Proxy.SocksAddress}
    (hnoted : Notice.socksReply h response ∈ journal)
    (hbound : (h.receive response).1.boundAddress = some bound) : Answered journal bound := by
  obtain ⟨hcommand, hold⟩ := hr id a h hget hh
  by_cases hstate : h.state = .socksCommandRead
  · exact ⟨h, response, hnoted, hstate, hcommand, hbound⟩
  · rw [Proxy.Handshake.receive_boundAddress h response hstate] at hbound
    exact hold bound hbound

end Recorded

end Yayatht
