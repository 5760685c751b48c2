import Yayatht.CheckedDecoding

set_option autoImplicit false

namespace Yayatht.Packet.Ip
open Wire Ipv6Packet

structure ExtensionHeader where
  following : UInt8
  units : UInt8
  body : Bytes
  deriving DecidableEq, Repr

namespace ExtensionHeader

def bytes (header : ExtensionHeader) : Bytes := header.following :: header.units :: header.body

/-- The length as the kind of the header counts it. -/
def Sized (header : ExtensionHeader) (kind : UInt8) : Prop :=
  header.bytes.length = if kind = 51 then (header.units.toNat + 2) * 4 else (header.units.toNat + 1) * 8

end ExtensionHeader

def chainBytes (headers : List ExtensionHeader) : Bytes := headers.flatMap ExtensionHeader.bytes

/-- Each header names the kind of the next one; the last names no extension. -/
def Chained : UInt8 → List ExtensionHeader → UInt8 → Prop
  | next, [], final => next = final ∧ isExtension next = false
  | next, header :: headers, final =>
    isExtension next = true ∧ header.Sized next ∧ Chained header.following headers final

def declaredLen (bytes : Bytes) : ℕ := beWord (bytes.getD 4 0) (bytes.getD 5 0)

structure Accepted (bytes : Bytes) (headers : List ExtensionHeader) (final : UInt8) (payload : Bytes) : Prop where
  split : ∃ fixed trailer, bytes = fixed ++ (chainBytes headers ++ (payload ++ trailer)) ∧ fixed.length = 40
  version : bytes.getD 0 0 >>> 4 = 6
  declared : declaredLen bytes = (chainBytes headers ++ payload).length
  chained : Chained (bytes.getD 6 0) headers final
  count : headers.length ≤ 8
  total : (chainBytes headers).length ≤ 256
  unfragmented : final ≠ 44

variable {bytes front rest payload : Bytes} {headers : List ExtensionHeader} {header : ExtensionHeader}
  {next final : UInt8} {totalLen room offset stop extensionBytes : ℕ} {packet : Ipv6Packet}

theorem chainBytes_cons (header : ExtensionHeader) (headers : List ExtensionHeader) :
    chainBytes (header :: headers) = header.bytes ++ chainBytes headers := List.flatMap_cons

theorem byteAt_getD {i : ℕ} (h : i < bytes.length) : byteAt bytes i = .ok (bytes.getD i 0) := by
  unfold byteAt
  rw [List.getD_eq_getElem?_getD, List.getElem?_eq_getElem h]
  rfl

theorem wordAt_declaredLen (h : 6 ≤ bytes.length) : wordAt bytes 4 = .ok (declaredLen bytes) := by
  unfold wordAt
  rw [byteAt_getD (by omega), ok_bind, byteAt_getD (by omega), ok_bind]
  rfl

theorem byteAt_append (front rest : Bytes) (byte : UInt8) :
    byteAt (front ++ byte :: rest) front.length = .ok byte := by
  unfold byteAt
  rw [List.getElem?_append_right (Nat.le_refl _), Nat.sub_self]
  rfl

theorem skipExtensions_chain (hbytes : bytes = front ++ (chainBytes headers ++ rest))
    (h : Chained next headers final) (hroom : headers.length ≤ room)
    (hinside : front.length + (chainBytes headers).length ≤ totalLen)
    (htotal : extensionBytes + (chainBytes headers).length ≤ 256) :
    skipExtensions bytes totalLen room next front.length extensionBytes =
      .ok (final, front.length + (chainBytes headers).length) := by
  induction headers generalizing front next room extensionBytes with
  | nil =>
    obtain ⟨rfl, hlast⟩ := h
    unfold skipExtensions
    rw [hlast]
    rfl
  | cons header headers ih =>
    obtain ⟨hkind, hsized, hchained⟩ := h
    rw [List.length_cons] at hroom
    rw [chainBytes_cons, List.length_append] at hinside htotal
    obtain ⟨room, rfl⟩ : ∃ n, room = n + 1 := ⟨room - 1, by omega⟩
    have hlength : 2 ≤ header.bytes.length := by simp [ExtensionHeader.bytes]
    have hfollowing : byteAt bytes front.length = .ok header.following := by
      rw [hbytes, chainBytes_cons]
      exact byteAt_append _ _ _
    have hunits : byteAt bytes (front.length + 1) = .ok header.units := by
      have hsplit : bytes =
          (front ++ [header.following]) ++ header.units :: (header.body ++ (chainBytes headers ++ rest)) := by
        rw [hbytes, chainBytes_cons]
        simp [ExtensionHeader.bytes]
      have hat : (front ++ [header.following]).length = front.length + 1 := by simp
      rw [hsplit, ← hat]
      exact byteAt_append _ _ _
    have hnext : bytes = (front ++ header.bytes) ++ (chainBytes headers ++ rest) := by
      rw [hbytes, chainBytes_cons]
      simp only [List.append_assoc]
    have hin : (front ++ header.bytes).length + (chainBytes headers).length ≤ totalLen := by
      rw [List.length_append]
      omega
    have hsum : extensionBytes + header.bytes.length + (chainBytes headers).length ≤ 256 := by omega
    have hrest := ih hnext hchained (by omega : headers.length ≤ room) hin hsum
    unfold skipExtensions
    rw [hkind, if_pos rfl]
    dsimp only
    rw [if_neg (by omega), hfollowing, ok_bind, hunits, ok_bind, ← hsized, if_neg (by omega),
      ← List.length_append, hrest, chainBytes_cons, List.length_append, List.length_append, Nat.add_assoc]

theorem exists_chain (h : skipExtensions bytes totalLen room next offset extensionBytes = .ok (final, stop))
    (hin : offset ≤ totalLen) (hfits : totalLen ≤ bytes.length) (hextension : extensionBytes ≤ 256) :
    ∃ headers rest, Chained next headers final ∧ headers.length ≤ room ∧
      bytes.drop offset = chainBytes headers ++ rest ∧ stop = offset + (chainBytes headers).length ∧
      stop ≤ totalLen ∧ extensionBytes + (chainBytes headers).length ≤ 256 := by
  induction room generalizing next offset extensionBytes with
  | zero =>
    unfold skipExtensions at h
    split at h
    · cases h
    · rename_i hlast
      cases h
      exact ⟨[], bytes.drop stop, ⟨rfl, Bool.eq_false_iff.mpr hlast⟩, Nat.le_refl _, rfl, rfl, hin, hextension⟩
  | succ room ih =>
    unfold skipExtensions at h
    split at h
    · rename_i hkind
      dsimp only at h
      split at h
      · cases h
      rename_i hroom
      obtain ⟨following, units, tail, htail⟩ :
          ∃ following units tail, bytes.drop offset = following :: units :: tail := by
        have hlength : 2 ≤ (bytes.drop offset).length := by
          rw [List.length_drop]
          omega
        generalize bytes.drop offset = ahead at hlength ⊢
        rcases ahead with _ | ⟨following, _ | ⟨units, tail⟩⟩
        · simp at hlength
        · simp at hlength
        · exact ⟨following, units, tail, rfl⟩
      have hsplit : bytes = bytes.take offset ++ following :: units :: tail := by
        rw [← htail, List.take_append_drop]
      have hfront : (bytes.take offset).length = offset := List.length_take_of_le (by omega)
      have hfollowing : byteAt bytes offset = .ok following := by
        have hat := byteAt_append (bytes.take offset) (units :: tail) following
        rwa [← hsplit, hfront] at hat
      have hunits : byteAt bytes (offset + 1) = .ok units := by
        have hat := byteAt_append (bytes.take offset ++ [following]) tail units
        rwa [List.append_assoc, List.singleton_append, ← hsplit, List.length_append, hfront,
          List.length_singleton] at hat
      rw [hfollowing, ok_bind, hunits, ok_bind] at h
      generalize hlength : (if next = 51 then (units.toNat + 2) * 4 else (units.toNat + 1) * 8) = length at h
      have hlong : 2 ≤ length := by
        rw [← hlength]
        split <;> omega
      split at h
      · cases h
      rename_i hlimits
      obtain ⟨headers, rest, hchained, hcount, hdrop, hstop, hend, htotal⟩ := ih h (by omega) (by omega)
      have hbody : (tail.take (length - 2)).length + 2 = length := by
        have htotal_length := congrArg List.length htail
        simp only [List.length_drop, List.length_cons] at htotal_length
        rw [List.length_take]
        omega
      have hbytes : (ExtensionHeader.mk following units (tail.take (length - 2))).bytes.length = length := by
        simp only [ExtensionHeader.bytes, List.length_cons]
        omega
      refine ⟨⟨following, units, tail.take (length - 2)⟩ :: headers, rest,
        ⟨hkind, hbytes.trans hlength.symm, hchained⟩, Nat.succ_le_succ hcount, ?_, ?_, hend, ?_⟩
      · have htail' : tail.drop (length - 2) = chainBytes headers ++ rest := by
          rw [← hdrop, ← List.drop_drop, htail]
          obtain ⟨n, rfl⟩ : ∃ n, length = n + 2 := ⟨length - 2, by omega⟩
          rfl
        rw [htail, chainBytes_cons, List.append_assoc, ← htail']
        simp [ExtensionHeader.bytes]
      · rw [chainBytes_cons, List.length_append, hbytes]
        omega
      · rw [chainBytes_cons, List.length_append, hbytes]
        omega
    · rename_i hlast
      cases h
      exact ⟨[], bytes.drop stop, ⟨rfl, Bool.eq_false_iff.mpr hlast⟩, Nat.zero_le _, rfl, rfl, hin, hextension⟩

theorem parse_eq (hlong : 40 ≤ bytes.length) (hversion : bytes.getD 0 0 >>> 4 = 6)
    (hfits : 40 + declaredLen bytes ≤ bytes.length) :
    Ipv6Packet.parse bytes = (do
      let (next, offset) ← skipExtensions bytes (40 + declaredLen bytes) 8 (bytes.getD 6 0) 40 0
      if next = 44 then fail .unsupported
      else pure ⟨bytes, offset, 40 + declaredLen bytes, next⟩) := by
  unfold Ipv6Packet.parse
  rw [if_neg (by omega), byteAt_getD (by omega), ok_bind, if_neg (not_not.mpr hversion),
    wordAt_declaredLen (by omega), ok_bind]
  dsimp only
  rw [if_neg (by omega), byteAt_getD (by omega), ok_bind]

theorem parse_accepted (h : Accepted bytes headers final payload) :
    ∃ packet, Ipv6Packet.parse bytes = .ok packet ∧ packet.nextHeader = final ∧ packet.payload = .ok payload := by
  obtain ⟨fixed, trailer, hsplit, hfixed⟩ := h.split
  have hlength : bytes.length = 40 + (chainBytes headers ++ payload).length + trailer.length := by
    rw [hsplit]
    simp only [List.length_append, hfixed]
    omega
  have hsum : (chainBytes headers ++ payload).length = (chainBytes headers).length + payload.length :=
    List.length_append
  have hdeclared := h.declared
  have hinside : fixed.length + (chainBytes headers).length ≤ 40 + declaredLen bytes := by omega
  have htotal : 0 + (chainBytes headers).length ≤ 256 := by
    rw [Nat.zero_add]
    exact h.total
  have hwalk := skipExtensions_chain hsplit h.chained h.count hinside htotal
  rw [hfixed] at hwalk
  rw [parse_eq (by omega) h.version (by omega), hwalk, ok_bind]
  dsimp only
  rw [if_neg h.unfragmented]
  refine ⟨_, rfl, rfl, ?_⟩
  have hwhole : bytes = (fixed ++ chainBytes headers) ++ (payload ++ trailer) := by
    rw [hsplit]
    simp only [List.append_assoc]
  refine range_eq hwhole ?_ ?_
  · rw [List.length_append, hfixed]
  · rw [List.length_append, hfixed]
    dsimp only
    omega

theorem accepted_of_parse (h : Ipv6Packet.parse bytes = .ok packet) :
    ∃ headers payload, Accepted bytes headers packet.nextHeader payload := by
  have hlong : 40 ≤ bytes.length := by
    by_contra hshort
    unfold Ipv6Packet.parse at h
    rw [if_pos (by omega)] at h
    cases h
  have hversion : bytes.getD 0 0 >>> 4 = 6 := by
    by_contra hother
    unfold Ipv6Packet.parse at h
    rw [if_neg (by omega), byteAt_getD (by omega), ok_bind, if_pos hother] at h
    cases h
  have hfits : 40 + declaredLen bytes ≤ bytes.length := by
    by_contra hover
    unfold Ipv6Packet.parse at h
    rw [if_neg (by omega), byteAt_getD (by omega), ok_bind, if_neg (not_not.mpr hversion),
      wordAt_declaredLen (by omega), ok_bind] at h
    dsimp only at h
    rw [if_pos (by omega)] at h
    cases h
  rw [parse_eq hlong hversion hfits] at h
  cases hwalk : skipExtensions bytes (40 + declaredLen bytes) 8 (bytes.getD 6 0) 40 0 with
  | error error =>
    rw [hwalk] at h
    cases h
  | ok found =>
    obtain ⟨final, stop⟩ := found
    rw [hwalk, ok_bind] at h
    dsimp only at h
    split at h
    · cases h
    rename_i hfragment
    cases h
    obtain ⟨headers, rest, hchained, hcount, hdrop, hstop, hend, htotal⟩ :=
      exists_chain hwalk (by omega) hfits (by omega)
    have hlength := congrArg List.length hdrop
    rw [List.length_drop, List.length_append] at hlength
    have htake : (rest.take (40 + declaredLen bytes - stop)).length = 40 + declaredLen bytes - stop := by
      rw [List.length_take]
      omega
    refine ⟨headers, rest.take (40 + declaredLen bytes - stop), ⟨bytes.take 40,
      rest.drop (40 + declaredLen bytes - stop), ?_, ?_⟩, hversion, ?_, hchained, hcount, by omega, hfragment⟩
    · rw [List.take_append_drop, ← hdrop, List.take_append_drop]
    · rw [List.length_take]
      omega
    · rw [List.length_append, htake]
      omega

/-- A packet is accepted exactly when its extension headers form a short chain inside the
payload; its next header and its payload are then those after the chain. -/
theorem parseIpv6_exact (bytes : Bytes) :
    ((∃ packet, Checked.parseIpv6 bytes = .ok packet) ↔
      ∃ headers final payload, Accepted bytes headers final payload) ∧
    (∀ packet, Checked.parseIpv6 bytes = .ok packet → ∀ headers final payload,
      Accepted bytes headers final payload → packet.nextHeader = final ∧ packet.payload = .ok payload) ∧
    ∀ text, Checked.parseIpv6 bytes ≠ .error (.panic text) := by
  obtain ⟨heq, hsafe⟩ := Checked.parseIpv6_alike bytes
  rw [heq]
  refine ⟨⟨?_, ?_⟩, ?_, ?_⟩
  · rintro ⟨packet, hpacket⟩
    obtain ⟨headers, payload, haccepted⟩ := accepted_of_parse hpacket
    exact ⟨headers, _, payload, haccepted⟩
  · rintro ⟨headers, final, payload, haccepted⟩
    obtain ⟨packet, hpacket, -⟩ := parse_accepted haccepted
    exact ⟨packet, hpacket⟩
  · intro packet hpacket headers final payload haccepted
    obtain ⟨found, hfound, hread⟩ := parse_accepted haccepted
    rw [hpacket] at hfound
    cases hfound
    exact hread
  · intro text htext
    rw [htext] at hsafe
    exact hsafe

end Yayatht.Packet.Ip
