import Yayatht.NetlinkFormat
import Yayatht.ProgramTrees

set_option autoImplicit false

namespace Yayatht.Netlink
open Wire Processes Processes.Program

inductive Call where
  | openSocket
  | interfaceIndex (name : Bytes)
  | sendTo (packet : Bytes)
  | recv
  deriving DecidableEq, Repr

abbrev Answer : Call → Type
  | .openSocket => Except IoError Unit
  | .interfaceIndex _ => Except IoError (BitVec 32)
  | .sendTo _ => Except IoError Unit
  | .recv => Except IoError Bytes

abbrev Proc := ExceptT Error (Program Call Answer)

abbrev call (c : Call) : Proc (Answer c) := Program.inquire c

abbrev liftExcept {α : Type} (r : Except Error α) : Proc α := Program.settled r

abbrev orFail {α : Type} (answer : Except IoError α) : Proc α := liftExcept (answer.mapError .io)

def bufferLen : ℕ := 8192

/-- The messages of a datagram from the front on; nothing when none of them is the acknowledgment. -/
def readReplies (sequence : BitVec 32) : ℕ → Bytes → Option (Except Error Unit)
  | 0, _ => none
  | fuel + 1, bytes =>
    if bytes.length < nlHeaderLen then none
    else
      let header := readHeader bytes
      if header.length < nlHeaderLen ∨ bytes.length < header.length then
        some (.error (.invalidData "invalid netlink reply"))
      else if header.sequence = sequence ∧ header.messageType = nlmsgError then
        if header.length < nlHeaderLen + 4 then some (.error (.invalidData "short netlink error"))
        else
          let error := BitVec.ofNat 32 (leValue ((bytes.drop nlHeaderLen).take 4))
          some (if error = 0 then .ok () else .error (.os (-error).toInt))
      else readReplies sequence fuel (bytes.drop (align header.length nlmsgAlignto))

def waitAck (sequence : BitVec 32) : Proc Unit :=
  repeating (fun () => do
    let bytes := (← orFail (← call .recv)).take bufferLen
    match readReplies sequence bytes.length bytes with
    | none => pure (.inl ())
    | some result =>
      liftExcept result
      pure (.inr ())) ()

/-- The socket is the number of its last request. -/
def request (socket : BitVec 32) (r : Request) : Proc (BitVec 32) := do
  let sequence := socket + 1
  let packet ← liftExcept (r.packet sequence)
  orFail (← call (.sendTo packet))
  waitAck sequence
  pure sequence

def interfaceIndex (name : Bytes) : Proc (BitVec 32) := do
  if name.contains 0 then throw (.invalidInput "interface contains NUL")
  orFail (← call (.interfaceIndex name))

def afInet : ℕ := 2
def afInet6 : ℕ := 10
def iffUp : ℕ := 1

def ifInfo (index : BitVec 32) : Bytes :=
  leBytes 1 0 ++ leBytes 1 0 ++ leBytes 2 0 ++ leBytes 4 index.toNat ++ leBytes 4 iffUp ++ leBytes 4 iffUp

def ifAddr (family : ℕ) (prefixLen : BitVec 8) (index : BitVec 32) : Bytes :=
  leBytes 1 family ++ leBytes 1 prefixLen.toNat ++ leBytes 1 (if family = afInet6 then 0x02 else 0) ++ leBytes 1 0 ++
    leBytes 4 index.toNat

/-- `RouteMessage` of a default route. -/
def routeMessage (family : ℕ) : Bytes :=
  leBytes 1 family ++ leBytes 1 0 ++ leBytes 1 0 ++ leBytes 1 0 ++ leBytes 1 254 ++ leBytes 1 3 ++ leBytes 1 0 ++
    leBytes 1 1 ++ leBytes 4 0

def linkUp (index : BitVec 32) (mac : Option Bytes) (mtu : Option (BitVec 32)) : Request where
  messageType := rtmNewlink
  flags := 0
  body := ifInfo index
  attributes := (mac.map fun mac => (iflaAddress, mac)).toList ++
    (mtu.map fun mtu => (iflaMtu, leBytes 4 mtu.toNat)).toList

def newAddress (index : BitVec 32) (family : ℕ) (prefixLen : BitVec 8) (address : Bytes) : Request where
  messageType := rtmNewaddr
  flags := nlmFCreate ||| nlmFExcl
  body := ifAddr family prefixLen index
  attributes := [(ifaLocal, address), (ifaAddress, address)]

def defaultRoute (index : BitVec 32) (family : ℕ) (gateway : Bytes) : Request where
  messageType := rtmNewroute
  flags := nlmFCreate ||| nlmFExcl
  body := routeMessage family
  attributes := [(rtaGateway, gateway), (rtaOif, leBytes 4 index.toNat)]

/-- What `configure_namespace` is called with. -/
structure Settings where
  tapName : Bytes
  tapMac : BitVec 48
  tapMtu : BitVec 32
  ipv4 : Option (BitVec 32 × BitVec 8 × BitVec 32)
  ipv6 : Option (BitVec 128 × BitVec 8 × BitVec 128)

def loopbackName : Bytes := [108, 111]

def addFamily (socket tap : BitVec 32) (family : ℕ) : Option (Bytes × BitVec 8 × Bytes) → Proc (BitVec 32)
  | none => pure socket
  | some (address, prefixLen, gateway) => do
    let socket ← request socket (newAddress tap family prefixLen address)
    request socket (defaultRoute tap family gateway)

def Settings.v4 (s : Settings) : Option (Bytes × BitVec 8 × Bytes) :=
  s.ipv4.map fun (address, prefixLen, gateway) => (beBytes 4 address, prefixLen, beBytes 4 gateway)

def Settings.v6 (s : Settings) : Option (Bytes × BitVec 8 × Bytes) :=
  s.ipv6.map fun (address, prefixLen, gateway) => (beBytes 16 address, prefixLen, beBytes 16 gateway)

def configureNamespace (s : Settings) : Proc Unit := do
  orFail (← call .openSocket)
  let socket := 0
  let loopback ← interfaceIndex loopbackName
  let socket ← request socket (linkUp loopback none none)
  let tap ← interfaceIndex s.tapName
  let socket ← request socket (linkUp tap (some (beBytes 6 s.tapMac)) (some s.tapMtu))
  let socket ← addFamily socket tap afInet s.v4
  let _ ← addFamily socket tap afInet6 s.v6
  pure ()

/-! ## What is to be sent -/

def familyPlan (tap : BitVec 32) (family : ℕ) : Option (Bytes × BitVec 8 × Bytes) → List Request
  | none => []
  | some (address, prefixLen, gateway) => [newAddress tap family prefixLen address, defaultRoute tap family gateway]

/-- The requests, given the numbers of the two interfaces. -/
def plan (s : Settings) (loopback tap : BitVec 32) : List Request :=
  [linkUp loopback none none, linkUp tap (some (beBytes 6 s.tapMac)) (some s.tapMtu)] ++
    familyPlan tap afInet s.v4 ++ familyPlan tap afInet6 s.v6

abbrev History := List (Exchange Call Answer)

/-- The packets handed to the socket, in order. -/
def sent (past : History) : List Bytes :=
  (past.filterMap fun e => match e.call with
    | .sendTo packet => some packet
    | _ => none).reverse

/-- The receiver reads the request from the packet, under this number. -/
def Carries (packet : Bytes) (r : Request) (sequence : BitVec 32) : Prop :=
  readRequest packet = some ⟨r.header sequence packet.length, r.body, r.attributes⟩

/-- A message as long as its header says. -/
structure Whole (message : Bytes) : Prop where
  header : nlHeaderLen ≤ message.length
  length : (readHeader message).length = message.length

/-- The message reports on the request of this number. -/
def Reports (sequence : BitVec 32) (message : Bytes) : Prop :=
  (readHeader message).sequence = sequence ∧ (readHeader message).messageType = nlmsgError

/-- In front of `rest` stand whole messages that report on something else, each padded to a
multiple of four. -/
inductive Precedes (sequence : BitVec 32) (rest : Bytes) : Bytes → Prop
  | nothing : Precedes sequence rest rest
  | message {message padding bytes : Bytes} (hwhole : Whole message) (hother : ¬ Reports sequence message)
      (hpadding : padding.length < 4) (haligned : (message ++ padding).length % 4 = 0)
      (hbytes : Precedes sequence rest bytes) : Precedes sequence rest (message ++ padding ++ bytes)

/-- The first message of the datagram that reports on this request has room for a code, this one. -/
def Answers (bytes : Bytes) (sequence error : BitVec 32) : Prop :=
  ∃ message rest, Precedes sequence (message ++ rest) bytes ∧ Whole message ∧ Reports sequence message ∧
    nlHeaderLen + 4 ≤ message.length ∧ leValue ((message.drop nlHeaderLen).take 4) = error.toNat

/-- No answer can be read from the datagram: a header gives a length that is too small or more than
is left, or the message that reports on this request is too short for a code. -/
def Unreadable (bytes : Bytes) (sequence : BitVec 32) (text : String) : Prop :=
  (text = "invalid netlink reply" ∧ ∃ rest, Precedes sequence rest bytes ∧ nlHeaderLen ≤ rest.length ∧
    ((readHeader rest).length < nlHeaderLen ∨ rest.length < (readHeader rest).length)) ∨
  (text = "short netlink error" ∧ ∃ message rest, Precedes sequence (message ++ rest) bytes ∧ Whole message ∧
    Reports sequence message ∧ message.length < nlHeaderLen + 4)

/-- The acknowledgment arrived between the request of this number and the next one. -/
def Acked (number : ℕ) (past : History) : Prop :=
  ∃ later earlier bytes, past = later ++ ⟨.recv, .ok bytes⟩ :: earlier ∧ (sent earlier).length = number ∧
    Answers (bytes.take bufferLen) (BitVec.ofNat 32 number) 0

/-- These requests are sent, and so many of them acknowledged, each before the next one was sent. -/
structure Stage (requests : List Request) (acks : ℕ) (past : History) : Prop where
  length : (sent past).length = requests.length
  carries : ∀ i packet r, (sent past)[i]? = some packet → requests[i]? = some r →
    Carries packet r (BitVec.ofNat 32 (i + 1))
  acked : ∀ i, i < acks → Acked (i + 1) past

/-- The number of an interface comes from the kernel. -/
def Known (name : Bytes) (index : BitVec 32) (past : History) : Prop := ⟨.interfaceIndex name, .ok index⟩ ∈ past

/-- A packet may be sent: it is the next request, and the ones before were acknowledged. -/
def Next (s : Settings) (packet : Bytes) (past : History) : Prop :=
  ∃ loopback tap done r rest, plan s loopback tap = done ++ r :: rest ∧ Stage done done.length past ∧
    Carries packet r (BitVec.ofNat 32 (done.length + 1)) ∧ Known loopbackName loopback past ∧
    (done ≠ [] → Known s.tapName tap past)

def refusal : Exchange Call Answer → Option IoError
  | ⟨.openSocket, .error e⟩ => some e
  | ⟨.interfaceIndex _, .error e⟩ => some e
  | ⟨.sendTo _, .error e⟩ => some e
  | ⟨.recv, .error e⟩ => some e
  | ⟨.openSocket, .ok _⟩ => none
  | ⟨.interfaceIndex _, .ok _⟩ => none
  | ⟨.sendTo _, .ok _⟩ => none
  | ⟨.recv, .ok _⟩ => none

/-- Where an error comes from: a code is the answer to the last request, a failure is that of the last
call, bad data are in the last datagram, and the only bad input is the name of the TAP. -/
def Explained (s : Settings) : Error → History → Prop
  | .os code, past => ∃ bytes earlier error, past = ⟨.recv, .ok bytes⟩ :: earlier ∧ error ≠ 0 ∧
      code = (-error).toInt ∧ Answers (bytes.take bufferLen) (BitVec.ofNat 32 (sent past).length) error
  | .io e, past => ∃ last earlier, past = last :: earlier ∧ refusal last = some e
  | .invalidData text, past => ∃ bytes earlier, past = ⟨.recv, .ok bytes⟩ :: earlier ∧
      Unreadable (bytes.take bufferLen) (BitVec.ofNat 32 (sent past).length) text
  | .invalidInput text, _ => text = "interface contains NUL" ∧ s.tapName.contains 0 = true

def Rule (s : Settings) : Exchange Call Answer → History → Prop
  | ⟨.sendTo packet, _⟩, past => Next s packet past
  | _, _ => True

section Replies

variable {sequence : BitVec 32} {bytes : Bytes} {fuel : ℕ}

theorem leValue_code (bytes : Bytes) : leValue (bytes.take 4) < 2 ^ 32 := by
  have hlt := leValue_lt (bytes.take 4)
  have hle : 256 ^ (bytes.take 4).length ≤ 256 ^ 4 :=
    Nat.pow_le_pow_right (by omega) (by rw [List.length_take]; omega)
  omega

theorem readHeader_append {message : Bytes} (h : nlHeaderLen ≤ message.length) (more : Bytes) :
    readHeader (message ++ more) = readHeader message := by
  have hfield : ∀ offset size, offset + size ≤ 16 →
      ((message ++ more).drop offset).take size = (message.drop offset).take size := by
    intro offset size hle
    unfold nlHeaderLen at h
    rw [List.drop_append_of_le_length (by omega), List.take_append_of_le_length (by rw [List.length_drop]; omega)]
  have hlength := hfield 0 4 (by omega)
  rw [List.drop_zero, List.drop_zero] at hlength
  unfold readHeader
  rw [hlength, hfield 4 2 (by omega), hfield 6 2 (by omega), hfield 8 4 (by omega), hfield 12 4 (by omega)]

theorem exists_message (bytes : Bytes) (hlong : nlHeaderLen ≤ (readHeader bytes).length)
    (hfits : (readHeader bytes).length ≤ bytes.length) :
    ∃ message behind, bytes = message ++ behind ∧ Whole message ∧ readHeader message = readHeader bytes := by
  have hlength : (bytes.take (readHeader bytes).length).length = (readHeader bytes).length :=
    List.length_take_of_le hfits
  have hheader : nlHeaderLen ≤ (bytes.take (readHeader bytes).length).length := hlong.trans_eq hlength.symm
  have hsame := readHeader_append hheader (bytes.drop (readHeader bytes).length)
  rw [List.take_append_drop] at hsame
  exact ⟨_, _, (List.take_append_drop _ _).symm, ⟨hheader, by rw [← hsame, hlength]⟩, hsame.symm⟩

theorem Precedes.length_le {rest : Bytes} (h : Precedes sequence rest bytes) : rest.length ≤ bytes.length := by
  induction h with
  | nothing => exact Nat.le_refl _
  | message _ _ _ _ _ ih =>
    rw [List.length_append]
    omega

section Skip

variable {message behind : Bytes} (hwhole : Whole message) (hother : ¬ Reports sequence message)
include hwhole hother

/-- A message about something else may stand in front. -/
theorem Precedes.skip {rest : Bytes} (hrest : nlHeaderLen ≤ rest.length)
    (h : Precedes sequence rest ((message ++ behind).drop (align message.length nlmsgAlignto))) :
    Precedes sequence rest (message ++ behind) := by
  have hsmall : message.length < 2 ^ 32 := by
    have hcode := leValue_code message
    exact hwhole.length ▸ hcode
  obtain ⟨hle, hlt, hmod⟩ := align_le (show message.length + 3 < 2 ^ 64 by omega)
  unfold nlmsgAlignto at h
  rw [List.drop_append, List.drop_of_length_le hle, List.nil_append] at h
  have hfits : align message.length 4 - message.length < behind.length := by
    have hlong := h.length_le
    rw [List.length_drop] at hlong
    unfold nlHeaderLen at hrest
    omega
  have hpadding : (behind.take (align message.length 4 - message.length)).length =
      align message.length 4 - message.length := List.length_take_of_le hfits.le
  have hnext : Precedes sequence rest (message ++ behind.take (align message.length 4 - message.length) ++
      behind.drop (align message.length 4 - message.length)) :=
    .message hwhole hother (by omega) (by rw [List.length_append, hpadding]; omega) h
  rwa [List.append_assoc, List.take_append_drop] at hnext

theorem Answers.skip {error : BitVec 32}
    (h : Answers ((message ++ behind).drop (align message.length nlmsgAlignto)) sequence error) :
    Answers (message ++ behind) sequence error := by
  obtain ⟨answer, rest, hbefore, hanswer, hrest⟩ := h
  refine ⟨answer, rest, hbefore.skip hwhole hother ?_, hanswer, hrest⟩
  rw [List.length_append]
  exact hanswer.header.trans (Nat.le_add_right _ _)

theorem Unreadable.skip {text : String}
    (h : Unreadable ((message ++ behind).drop (align message.length nlmsgAlignto)) sequence text) :
    Unreadable (message ++ behind) sequence text := by
  rcases h with ⟨htext, rest, hbefore, hheader, hbad⟩ | ⟨htext, answer, rest, hbefore, hanswer, hshort⟩
  · exact .inl ⟨htext, rest, hbefore.skip hwhole hother hheader, hheader, hbad⟩
  · refine .inr ⟨htext, answer, rest, hbefore.skip hwhole hother ?_, hanswer, hshort⟩
    rw [List.length_append]
    exact hanswer.header.trans (Nat.le_add_right _ _)

end Skip

/-- A verdict is read off the answer in the datagram, or the datagram cannot be read that far. -/
theorem readReplies_some {result : Except Error Unit} (h : readReplies sequence fuel bytes = some result) :
    (∃ error, Answers bytes sequence error ∧ result = if error = 0 then .ok () else .error (.os (-error).toInt)) ∨
      ∃ text, Unreadable bytes sequence text ∧ result = .error (.invalidData text) := by
  induction fuel generalizing bytes with
  | zero => cases h
  | succ fuel ih =>
    unfold readReplies at h
    split at h
    · cases h
    rename_i hheader
    dsimp only at h
    split at h
    · rename_i hbad
      injection h with h
      exact .inr ⟨_, .inl ⟨rfl, bytes, .nothing, by omega, hbad⟩, h.symm⟩
    rename_i hlength
    obtain ⟨message, behind, hbytes, hwhole, hread⟩ := exists_message bytes (by omega) (by omega)
    rw [← hread] at h
    split at h
    · rename_i hmatch
      split at h
      · rename_i hshort
        injection h with h
        rw [hwhole.length] at hshort
        exact .inr ⟨_, .inr ⟨rfl, message, behind, hbytes ▸ .nothing, hwhole, hmatch, hshort⟩, h.symm⟩
      rename_i hlong
      injection h with h
      rw [hwhole.length] at hlong
      have hfield : (bytes.drop nlHeaderLen).take 4 = (message.drop nlHeaderLen).take 4 := by
        rw [hbytes, List.drop_append_of_le_length hwhole.header, List.take_append_of_le_length]
        rw [List.length_drop]
        omega
      have hcode := leValue_code (message.drop nlHeaderLen)
      rw [hfield] at h
      refine .inl ⟨BitVec.ofNat 32 (leValue ((message.drop nlHeaderLen).take 4)), ?_, h.symm⟩
      refine ⟨message, behind, hbytes ▸ .nothing, hwhole, hmatch, by omega, ?_⟩
      rw [BitVec.toNat_ofNat, Nat.mod_eq_of_lt hcode]
    · rename_i hother
      rw [hwhole.length] at h
      subst hbytes
      rcases ih h with ⟨error, hanswers, hresult⟩ | ⟨text, hbad, hresult⟩
      · exact .inl ⟨error, hanswers.skip hwhole hother, hresult⟩
      · exact .inr ⟨text, hbad.skip hwhole hother, hresult⟩

end Replies

/-! ## One request after the other -/

section Stages

variable {past : History} {requests : List Request} {acks : ℕ} {r : Request}

theorem sent_send (packet : Bytes) (a : Except IoError Unit) :
    sent (⟨.sendTo packet, a⟩ :: past) = sent past ++ [packet] := by
  unfold sent
  rw [List.filterMap_cons, List.reverse_cons]

theorem sent_other {c : Call} {a : Answer c} (h : ∀ packet, c ≠ .sendTo packet) :
    sent (⟨c, a⟩ :: past) = sent past := by
  unfold sent
  rw [List.filterMap_cons]
  cases c with
  | sendTo packet => exact absurd rfl (h packet)
  | openSocket => rfl
  | interfaceIndex name => rfl
  | recv => rfl

theorem Acked.later {number : ℕ} (h : Acked number past) (e : Exchange Call Answer) : Acked number (e :: past) := by
  obtain ⟨later, earlier, bytes, hpast, hrest⟩ := h
  exact ⟨e :: later, earlier, bytes, congrArg (List.cons e) hpast, hrest⟩

theorem Stage.quiet (h : Stage requests acks past) {c : Call} {a : Answer c} (hc : ∀ packet, c ≠ .sendTo packet) :
    Stage requests acks (⟨c, a⟩ :: past) where
  length := (congrArg List.length (sent_other hc)).trans h.length
  carries := fun i packet r hpacket hr => h.carries i packet r (by rwa [sent_other hc] at hpacket) hr
  acked := fun i hi => (h.acked i hi).later _

theorem Stage.send (h : Stage requests acks past) {packet : Bytes} (a : Except IoError Unit)
    (hpacket : Carries packet r (BitVec.ofNat 32 (requests.length + 1))) :
    Stage (requests ++ [r]) acks (⟨.sendTo packet, a⟩ :: past) where
  length := by
    rw [sent_send, List.length_append, List.length_append, h.length]
    rfl
  carries := by
    intro i p r' hp hr'
    rw [sent_send] at hp
    rcases Nat.lt_or_ge i requests.length with hlt | hge
    · rw [List.getElem?_append_left (h.length ▸ hlt)] at hp
      rw [List.getElem?_append_left hlt] at hr'
      exact h.carries i p r' hp hr'
    · rw [List.getElem?_append_right (h.length ▸ hge)] at hp
      rw [List.getElem?_append_right hge] at hr'
      obtain ⟨hi, rfl⟩ := List.getElem?_eq_some_iff.mp hr'
      have hlast : i = requests.length := by
        rw [List.length_singleton] at hi
        omega
      subst hlast
      rw [h.length, Nat.sub_self] at hp
      cases hp
      simpa using hpacket
  acked := fun i hi => (h.acked i hi).later _

theorem Stage.ack (h : Stage requests acks past) {bytes : Bytes} (hlast : requests.length = acks + 1)
    (hack : Answers (bytes.take bufferLen) (BitVec.ofNat 32 (acks + 1)) 0) :
    Stage requests (acks + 1) (⟨.recv, .ok bytes⟩ :: past) where
  length := (h.quiet (c := .recv) (a := .ok bytes) (by simp)).length
  carries := (h.quiet (c := .recv) (a := .ok bytes) (by simp)).carries
  acked := by
    intro i hi
    rcases Nat.lt_or_ge i acks with hlt | hge
    · exact (h.acked i hlt).later _
    · have hi : i = acks := by omega
      subst hi
      exact ⟨[], past, bytes, rfl, h.length.trans hlast, hack⟩

theorem familyPlan_sound {tap : BitVec 32} {family : ℕ} {addresses : Option (Bytes × BitVec 8 × Bytes)}
    (h : r ∈ familyPlan tap family addresses) : r.Sound := by
  cases addresses with
  | none => exact absurd h List.not_mem_nil
  | some addresses =>
    obtain ⟨address, prefixLen, gateway⟩ := addresses
    rcases List.mem_cons.mp h with rfl | h
    · refine ⟨?_, by simp [newAddress, nlmFCreate, nlmFExcl], ?_, by simp [newAddress]⟩
      · simp [newAddress, ifAddr, bodyLen, rtmNewaddr, rtmNewlink]
      · simp [newAddress, ifaLocal, ifaAddress]
    · rcases List.mem_singleton.mp h with rfl
      refine ⟨?_, by simp [defaultRoute, nlmFCreate, nlmFExcl], ?_, by simp [defaultRoute]⟩
      · simp [defaultRoute, routeMessage, bodyLen, rtmNewaddr, rtmNewlink, rtmNewroute]
      · simp [defaultRoute, rtaGateway, rtaOif]

theorem linkUp_sound (index : BitVec 32) (mac : Option Bytes) (mtu : Option (BitVec 32)) :
    (linkUp index mac mtu).Sound := by
  refine ⟨?_, by simp [linkUp], ?_, ?_⟩
  · simp [linkUp, ifInfo, bodyLen, rtmNewlink]
  · intro a hmem
    unfold linkUp at hmem
    cases mac <;> cases mtu <;> simp [iflaAddress, iflaMtu] at hmem <;> grind
  · cases mac <;> cases mtu <;> simp [linkUp]

theorem plan_sound {s : Settings} {loopback tap : BitVec 32} (h : r ∈ plan s loopback tap) : r.Sound := by
  unfold plan at h
  rcases List.mem_append.mp h with h | h6
  · rcases List.mem_append.mp h with h | h4
    · rcases List.mem_cons.mp h with rfl | h
      · exact linkUp_sound ..
      · rcases List.mem_singleton.mp h with rfl
        exact linkUp_sound ..
    · exact familyPlan_sound h4
  · exact familyPlan_sound h6

/-- A request whose attributes are few and short. -/
structure Small (r : Request) : Prop where
  body : r.body.length ≤ 16
  count : r.attributes.length ≤ 2
  values : ∀ a ∈ r.attributes, a.2.length ≤ 16

theorem appendAttrs_small {attributes : List Attribute} (out : Bytes)
    (hout : out.length + 23 * attributes.length < 2 ^ 32) (hvalues : ∀ a ∈ attributes, a.2.length ≤ 16) :
    ∃ packet, appendAttrs out attributes = .ok packet ∧ packet.length ≤ out.length + 23 * attributes.length := by
  induction attributes generalizing out with
  | nil => exact ⟨out, rfl, Nat.le_refl _⟩
  | cons a rest ih =>
    obtain ⟨kind, value⟩ := a
    have hvalue : value.length ≤ 16 := hvalues _ List.mem_cons_self
    rw [List.length_cons] at hout ⊢
    have hlength : (out ++ attributeBytes (kind, value)).length = out.length + (4 + value.length) := by
      rw [List.length_append, length_attributeBytes]
      rfl
    have hpadded : (pad (out ++ attributeBytes (kind, value)) 4).length = align (out.length + (4 + value.length)) 4 := by
      rw [length_pad (by omega), hlength]
    have halign := align_le (n := out.length + (4 + value.length)) (by omega)
    have hfirst : appendAttr out kind value = .ok (pad (out ++ attributeBytes (kind, value)) rtaAlignto) :=
      if_neg (by unfold rtAttrLen; omega)
    obtain ⟨packet, hpacket, hle⟩ := ih (pad (out ++ attributeBytes (kind, value)) rtaAlignto)
      (by unfold rtaAlignto; omega) fun b hb => hvalues b (List.mem_cons_of_mem _ hb)
    refine ⟨packet, ?_, ?_⟩
    · unfold appendAttrs
      rw [hfirst]
      exact hpacket
    · unfold rtaAlignto at hle
      omega

theorem Small.exists_packet (h : Small r) (sequence : BitVec 32) : ∃ packet, r.packet sequence = .ok packet := by
  have hbody := h.body
  have hcount := h.count
  have hstart : ((r.header sequence 0).bytes ++ r.body).length = 16 + r.body.length := by
    rw [List.length_append, length_headerBytes]
    rfl
  obtain ⟨packet, hpacket, hle⟩ := appendAttrs_small ((r.header sequence 0).bytes ++ r.body) (by omega) h.values
  have hpadded : (pad packet 4).length = align packet.length 4 := length_pad (by omega)
  have halign := align_le (n := packet.length) (by omega)
  refine ⟨leBytes 4 (pad packet nlmsgAlignto).length ++ (pad packet nlmsgAlignto).drop 4, ?_⟩
  change (appendAttrs ((r.header sequence 0).bytes ++ r.body) r.attributes >>= _) = _
  rw [hpacket]
  refine if_neg ?_
  unfold nlmsgAlignto
  omega

theorem familyPlan_small {tap : BitVec 32} {family : ℕ} {addresses : Option (Bytes × BitVec 8 × Bytes)}
    (haddresses : ∀ a ∈ addresses, a.1.length ≤ 16 ∧ a.2.2.length ≤ 16) (h : r ∈ familyPlan tap family addresses) :
    Small r := by
  have hsound := (familyPlan_sound h).sizes.2.2
  cases addresses with
  | none => exact absurd h List.not_mem_nil
  | some addresses =>
    obtain ⟨address, prefixLen, gateway⟩ := addresses
    obtain ⟨haddress, hgateway⟩ := haddresses _ rfl
    rcases List.mem_cons.mp h with rfl | h
    · refine ⟨hsound, Nat.le_refl _, ?_⟩
      simp [newAddress]
      exact haddress
    · rcases List.mem_singleton.mp h with rfl
      refine ⟨hsound, Nat.le_refl _, ?_⟩
      simp [defaultRoute]
      exact hgateway

theorem plan_small {s : Settings} {loopback tap : BitVec 32} (h : r ∈ plan s loopback tap) : Small r := by
  have hsound := (plan_sound h).sizes.2.2
  unfold plan at h
  rcases List.mem_append.mp h with h | h6
  · rcases List.mem_append.mp h with h | h4
    · rcases List.mem_cons.mp h with rfl | h
      · exact ⟨hsound, by simp [linkUp], by simp [linkUp]⟩
      · rcases List.mem_singleton.mp h with rfl
        exact ⟨hsound, by simp [linkUp], by simp [linkUp]⟩
    · refine familyPlan_small (fun a ha => ?_) h4
      obtain ⟨_, _, rfl⟩ := Option.map_eq_some_iff.mp ha
      simp
  · refine familyPlan_small (fun a ha => ?_) h6
    obtain ⟨_, _, rfl⟩ := Option.map_eq_some_iff.mp ha
    simp

end Stages

section Programs

variable {s : Settings} {past : History}

theorem orFail_explained {α : Type} {answer : Except IoError α} {last : Exchange Call Answer}
    (hlast : ∀ e, answer = .error e → refusal last = some e) (e : Error) (h : answer.mapError Error.io = .error e) :
    Explained s e (last :: past) := by
  cases answer with
  | ok a => cases h
  | error error =>
    cases h
    exact ⟨last, past, rfl, hlast error rfl⟩

/-- Waiting sends nothing, and ends well only with an acknowledgment of the last request. -/
theorem waitAck_holds {requests : List Request} {acks : ℕ} (hI : Whenever (Rule s) past)
    (hstage : Stage requests acks past) (hlast : requests.length = acks + 1) :
    Holds (Whenever (Rule s)) past (waitAck (BitVec.ofNat 32 (acks + 1))).run
      (Outcome (fun _ past' => past <:+ past' ∧ Stage requests (acks + 1) past') (Explained s)) := by
  refine Holds.repeating (J := fun _ past' => Whenever (Rule s) past' ∧ past <:+ past' ∧ Stage requests acks past')
    ⟨hI, List.suffix_rfl, hstage⟩ fun _ past1 hJ => ?_
  obtain ⟨hI, hsuffix, hstage⟩ := hJ
  refine Holds.bindE (Holds.inquire hI fun _ => trivial) fun answer past2 hI hpast => ?_
  subst hpast
  refine Holds.bindE (Holds.settled hI (orFail_explained fun _ h => by rw [h]; rfl)) fun bytes past3 hI hpast => ?_
  obtain ⟨hanswer, rfl⟩ := hpast
  have hbytes : answer = .ok bytes := by
    cases answer with
    | error e => cases hanswer
    | ok received =>
      cases hanswer
      rfl
  subst hbytes
  have hlater : past <:+ ⟨.recv, .ok bytes⟩ :: past1 := hsuffix.trans (List.suffix_cons _ _)
  cases hreplies : readReplies (BitVec.ofNat 32 (acks + 1)) (bytes.take bufferLen).length (bytes.take bufferLen) with
  | none =>
    dsimp only
    rw [hreplies]
    exact .pureE hI ⟨hI, hlater, hstage.quiet (by simp)⟩
  | some result =>
    dsimp only
    rw [hreplies]
    have hsent : (sent (⟨.recv, .ok bytes⟩ :: past1)).length = acks + 1 :=
      (hstage.quiet (by simp)).length.trans hlast
    refine Holds.bindE (Holds.settled hI fun e he => ?_) fun _ past4 hI hpast => ?_
    · rcases readReplies_some hreplies with ⟨error, hanswers, hresult⟩ | ⟨text, hbad, hresult⟩
      · rw [he] at hresult
        split at hresult
        · cases hresult
        · rename_i hnonzero
          cases hresult
          exact ⟨bytes, past1, error, rfl, hnonzero, rfl, hsent ▸ hanswers⟩
      · rw [he] at hresult
        cases hresult
        exact ⟨bytes, past1, rfl, hsent ▸ hbad⟩
    · obtain ⟨rfl, rfl⟩ := hpast
      rcases readReplies_some hreplies with ⟨error, hanswers, hresult⟩ | ⟨text, -, hresult⟩
      · split at hresult
        · rename_i hzero
          exact .pureE hI ⟨hlater, hstage.ack hlast (hzero ▸ hanswers)⟩
        · cases hresult
      · cases hresult

/-- A request that is next in the plan is sent under its number and acknowledged. -/
theorem request_holds {loopback tap socket : BitVec 32} {requests rest : List Request} {r : Request}
    (hI : Whenever (Rule s) past) (hsocket : socket = BitVec.ofNat 32 requests.length)
    (hplan : plan s loopback tap = requests ++ r :: rest)
    (hstage : Stage requests requests.length past) (hloopback : Known loopbackName loopback past)
    (htap : requests ≠ [] → Known s.tapName tap past) :
    Holds (Whenever (Rule s)) past (request socket r).run
      (Outcome (fun socket past' => socket = BitVec.ofNat 32 (requests ++ [r]).length ∧ past <:+ past' ∧
        Stage (requests ++ [r]) (requests ++ [r]).length past') (Explained s)) := by
  have hmem : r ∈ plan s loopback tap := hplan ▸ List.mem_append_right _ List.mem_cons_self
  obtain ⟨built, hbuilt⟩ := (plan_small hmem).exists_packet (BitVec.ofNat 32 (requests.length + 1))
  have hnumber : socket + 1 = BitVec.ofNat 32 (requests.length + 1) := by
    rw [hsocket, BitVec.ofNat_add]
    rfl
  have hlength : (requests ++ [r]).length = requests.length + 1 := List.length_append
  unfold request
  rw [hnumber, hlength]
  refine Holds.bindE (Holds.settled hI fun e he => by rw [hbuilt] at he; cases he) fun packet past1 hI hpast => ?_
  obtain ⟨hpacket, rfl⟩ := hpast
  have hcarries : Carries packet r (BitVec.ofNat 32 (requests.length + 1)) :=
    readRequest_packet (plan_sound hmem) hpacket
  refine Holds.bindE (Holds.inquire hI fun _ => ?_) fun answer past2 hI hpast => ?_
  · exact ⟨loopback, tap, requests, r, rest, hplan, hstage, hcarries, hloopback, htap⟩
  subst hpast
  refine Holds.bindE (Holds.settled hI (orFail_explained fun _ h => by rw [h]; rfl)) fun _ past3 hI hpast => ?_
  obtain ⟨_, rfl⟩ := hpast
  refine Holds.bindE (waitAck_holds hI (hstage.send answer hcarries) hlength) fun _ past4 hI hpast => ?_
  exact .pureE hI ⟨rfl, (List.suffix_cons _ _).trans hpast.1, hpast.2⟩

theorem interfaceIndex_holds {name : Bytes} (hI : Whenever (Rule s) past)
    (hname : name.contains 0 = true → s.tapName.contains 0 = true) :
    Holds (Whenever (Rule s)) past (interfaceIndex name).run
      (Outcome (fun index past' => past' = ⟨.interfaceIndex name, .ok index⟩ :: past) (Explained s)) := by
  unfold interfaceIndex
  split
  · rename_i hnul
    exact .throwE hI ⟨rfl, hname hnul⟩
  · refine Holds.bindE (Holds.inquire hI fun _ => trivial) fun answer past1 hI hpast => ?_
    subst hpast
    refine (Holds.settled (E := Explained s) hI (orFail_explained fun _ h => by rw [h]; rfl)).post fun result past2 hI hresult => ?_
    cases result with
    | error e => exact hresult
    | ok index =>
      obtain ⟨hanswer, rfl⟩ := hresult
      cases answer with
      | error e => cases hanswer
      | ok number =>
        cases hanswer
        rfl

theorem addFamily_holds {loopback tap socket : BitVec 32} {requests rest : List Request} {family : ℕ}
    {addresses : Option (Bytes × BitVec 8 × Bytes)} (hI : Whenever (Rule s) past)
    (hsocket : socket = BitVec.ofNat 32 requests.length)
    (hplan : plan s loopback tap = requests ++ familyPlan tap family addresses ++ rest)
    (hstage : Stage requests requests.length past) (hloopback : Known loopbackName loopback past)
    (htap : Known s.tapName tap past) :
    Holds (Whenever (Rule s)) past (addFamily socket tap family addresses).run
      (Outcome (fun socket past' => socket = BitVec.ofNat 32 (requests ++ familyPlan tap family addresses).length ∧
        past <:+ past' ∧ Stage (requests ++ familyPlan tap family addresses)
          (requests ++ familyPlan tap family addresses).length past') (Explained s)) := by
  cases addresses with
  | none =>
    change plan s loopback tap = requests ++ [] ++ rest at hplan
    change Holds _ past (pure _ : Proc _).run (Outcome (fun socket past' => socket = BitVec.ofNat 32
      (requests ++ []).length ∧ past <:+ past' ∧ Stage (requests ++ []) (requests ++ []).length past') _)
    rw [List.append_nil]
    exact .pureE hI ⟨hsocket, List.suffix_rfl, hstage⟩
  | some addresses =>
    obtain ⟨address, prefixLen, gateway⟩ := addresses
    change plan s loopback tap = requests ++ [newAddress tap family prefixLen address,
      defaultRoute tap family gateway] ++ rest at hplan
    have hfirst : plan s loopback tap = requests ++ newAddress tap family prefixLen address ::
        (defaultRoute tap family gateway :: rest) := by
      rw [hplan, List.append_assoc]
      rfl
    refine Holds.bindE (request_holds hI hsocket hfirst hstage hloopback fun _ => htap) fun socket past1 hI hpast => ?_
    obtain ⟨rfl, hsuffix, hstage⟩ := hpast
    have hsecond : plan s loopback tap = (requests ++ [newAddress tap family prefixLen address]) ++
        defaultRoute tap family gateway :: rest := by
      rw [hfirst, List.append_assoc]
      rfl
    refine (request_holds hI rfl hsecond hstage (hsuffix.subset hloopback) fun _ => hsuffix.subset htap).post
      fun result past2 _ hresult => ?_
    cases result with
    | error e => exact hresult
    | ok socket =>
      obtain ⟨rfl, hsuffix', hstage⟩ := hresult
      rw [List.append_assoc] at hstage
      exact ⟨by rw [List.append_assoc]; rfl, hsuffix.trans hsuffix', hstage⟩

theorem plan_eq (s : Settings) (loopback tap : BitVec 32) :
    plan s loopback tap = [] ++ linkUp loopback none none ::
      (linkUp tap (some (beBytes 6 s.tapMac)) (some s.tapMtu) ::
        (familyPlan tap afInet s.v4 ++ familyPlan tap afInet6 s.v6)) := by
  unfold plan
  rw [List.append_assoc]
  rfl

theorem configureNamespace_holds (s : Settings) :
    Holds (Whenever (Rule s)) [] (configureNamespace s).run
      (Outcome (fun _ past => ∃ loopback tap, Known loopbackName loopback past ∧ Known s.tapName tap past ∧
        Stage (plan s loopback tap) (plan s loopback tap).length past) (Explained s)) := by
  unfold configureNamespace
  refine Holds.bindE (Holds.inquire trivial fun _ => trivial) fun answer past1 hI hpast => ?_
  subst hpast
  refine Holds.bindE (Holds.settled hI (orFail_explained fun _ h => by rw [h]; rfl)) fun _ past2 hI hpast => ?_
  obtain ⟨_, rfl⟩ := hpast
  refine Holds.bindE (interfaceIndex_holds hI fun h => absurd h (by decide)) fun loopback past3 hI hpast => ?_
  subst hpast
  have hnone : Stage [] 0 [⟨.interfaceIndex loopbackName, .ok loopback⟩, ⟨.openSocket, answer⟩] :=
    ⟨rfl, fun i packet r hpacket => by simp [sent] at hpacket, fun i hi => absurd hi (Nat.not_lt_zero i)⟩
  refine Holds.bindE (request_holds hI rfl (plan_eq s loopback 0) hnone List.mem_cons_self fun h => absurd rfl h)
    fun socket past4 hI hpast => ?_
  obtain ⟨rfl, hsuffix4, hstage⟩ := hpast
  have hloopback : Known loopbackName loopback past4 := hsuffix4.subset List.mem_cons_self
  refine Holds.bindE (interfaceIndex_holds hI id) fun tap past5 hI hpast => ?_
  subst hpast
  refine Holds.bindE (request_holds hI rfl (plan_eq s loopback tap) (hstage.quiet (by simp))
    (List.mem_cons_of_mem _ hloopback) fun _ => List.mem_cons_self) fun socket past6 hI hpast => ?_
  obtain ⟨rfl, hsuffix6, hstage⟩ := hpast
  have hloopback : Known loopbackName loopback past6 := hsuffix6.subset (List.mem_cons_of_mem _ hloopback)
  have htap : Known s.tapName tap past6 := hsuffix6.subset List.mem_cons_self
  refine Holds.bindE (addFamily_holds hI rfl rfl hstage hloopback htap)
    fun socket past7 hI hpast => ?_
  obtain ⟨rfl, hsuffix7, hstage⟩ := hpast
  refine Holds.bindE (addFamily_holds hI rfl (List.append_nil _).symm hstage (hsuffix7.subset hloopback)
    (hsuffix7.subset htap)) fun socket past8 hI hpast => ?_
  obtain ⟨rfl, hsuffix8, hstage⟩ := hpast
  exact .pureE hI ⟨loopback, tap, hsuffix8.subset (hsuffix7.subset hloopback),
    hsuffix8.subset (hsuffix7.subset htap), hstage⟩

end Programs

/-- Whatever the kernel answers, a request of `configureNamespace` is sent only when all before it
were acknowledged, each under its number; it succeeds only when all of the plan were, and an error
code it fails with is the kernel's answer to the last request. -/
theorem configure_namespace_acknowledged (s : Settings)
    {allows : List (Occurrence Unit Call Answer) → Occurrence Unit Call Answer → Prop}
    {journal : List (Occurrence Unit Call Answer)} {now : Unit → Program Call Answer (Except Error Unit)}
    (h : Run allows (fun _ => (configureNamespace s).run) journal now) :
    (∀ later earlier packet a, journal = later ++ ⟨(), .sendTo packet, a⟩ :: earlier →
      Next s packet (mine () earlier)) ∧
    (now () = .ret (.ok ()) → ∃ loopback tap, Known loopbackName loopback (mine () journal) ∧
      Known s.tapName tap (mine () journal) ∧
      Stage (plan s loopback tap) (plan s loopback tap).length (mine () journal)) ∧
    ∀ e, now () = .ret (.error e) → Explained s e (mine () journal) := by
  have hholds := h.holds (i := ()) (configureNamespace_holds s)
  refine ⟨fun later earlier packet a hsplit => ?_, fun hnow => ?_, fun e hnow => ?_⟩
  · exact hholds.here.at_split (mine_split hsplit)
  · rw [hnow] at hholds
    exact hholds.returned
  · rw [hnow] at hholds
    exact hholds.returned

/-- A kernel that acknowledges the request of this number. -/
def acknowledging (number : ℕ) : (c : Call) → Answer c
  | .openSocket => .ok ()
  | .interfaceIndex name => .ok (if name = loopbackName then 1 else 2)
  | .sendTo _ => .ok ()
  | .recv => .ok (NlHeader.bytes ⟨20, nlmsgError, 0, BitVec.ofNat 32 number, 0⟩ ++ leBytes 4 0)

/-- 10.0.2.100/24 by 10.0.2.2 on `tap0` -/
def tapSettings : Settings where
  tapName := [116, 97, 112, 48]
  tapMac := 0x020000000001
  tapMtu := 1500
  ipv4 := some (0x0a000264, 24, 0x0a000202)
  ipv6 := none

theorem configure_namespace_acknowledged_tap : ∃ journal now,
    Run (fun _ _ => true = true) (fun _ : Unit => (configureNamespace tapSettings).run) journal now ∧
    now () = .ret (.ok ()) ∧ ∃ loopback tap, Known loopbackName loopback (mine () journal) ∧
      Known tapSettings.tapName tap (mine () journal) ∧
      Stage (plan tapSettings loopback tap) (plan tapSettings loopback tap).length (mine () journal) := by
  have hreplay : (replayed (fun _ _ => true) ([0, 0, 0, 1, 1, 1, 2, 2, 3, 3, 4].map fun n => ((), acknowledging n)) []
      (fun _ : Unit => (configureNamespace tapSettings).run)).any
        (fun run => match run.2 () with
          | .ret (.ok ()) => true
          | .ret (.error _) => false
          | .call _ _ => false
          | .loop _ _ _ => false) = true := by decide +kernel
  obtain ⟨journal, now, hrun, hended⟩ := Run.exists_replayed _ _ hreplay
  have hnow : now () = .ret (.ok ()) := by
    dsimp only at hended
    split at hended
    · rename_i heq
      exact heq
    all_goals cases hended
  exact ⟨journal, now, hrun, hnow, (configure_namespace_acknowledged tapSettings hrun).2.1 hnow⟩

end Yayatht.Netlink
