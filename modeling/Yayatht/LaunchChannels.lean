import Yayatht.LaunchProcesses

set_option autoImplicit false

namespace Yayatht.Control
open Wire

variable {bytes : Bytes} {message whole : Message}

/-- A packet that was cut short is not taken for another message. -/
theorem decode_take {size : ℕ} (hwhole : decode bytes = .ok whole) (h : decode (bytes.take size) = .ok message) :
    message = whole := by
  obtain ⟨hmax, hencode⟩ := encode_decode hwhole
  obtain ⟨hmax', hencode'⟩ := encode_decode h
  unfold encode at hencode hencode'
  rw [if_neg (by omega)] at hencode hencode'
  injection hencode with hbytes
  injection hencode' with htaken
  have hsplit := List.take_append_drop size bytes
  rw [← htaken, ← hbytes] at hsplit
  simp only [List.append_assoc] at hsplit
  obtain ⟨_, hsplit⟩ := List.append_inj hsplit rfl
  obtain ⟨_, hsplit⟩ := List.append_inj hsplit rfl
  obtain ⟨hkind, hsplit⟩ := List.append_inj hsplit (by simp only [length_leBytes])
  obtain ⟨hlength, hsplit⟩ := List.append_inj hsplit (by simp only [length_leBytes])
  obtain ⟨hrequest, hpayload⟩ := List.append_inj hsplit (by simp only [length_leBytes])
  have hsame : message.payload.length = whole.payload.length := by
    have hvalue := congrArg leValue hlength
    unfold maxPayload at hmax hmax'
    rwa [leValue_leBytes (by omega), leValue_leBytes (by omega)] at hvalue
  have hraw : message.kind.raw = whole.kind.raw := by
    have hvalue := congrArg leValue hkind
    rwa [leValue_leBytes (raw_lt _), leValue_leBytes (raw_lt _)] at hvalue
  have hid : message.requestId.toNat = whole.requestId.toNat := by
    have hvalue := congrArg leValue hrequest
    rwa [leValue_leBytes message.requestId.toNat_lt, leValue_leBytes whole.requestId.toNat_lt] at hvalue
  have hsorts : message.kind = whole.kind := by
    have hfrom := congrArg Kind.fromRaw hraw
    rw [fromRaw_raw, fromRaw_raw] at hfrom
    exact Option.some.inj hfrom
  obtain ⟨hpayload, _⟩ := List.append_inj (hpayload.trans (List.append_nil _).symm) hsame
  cases message
  cases whole
  simp only [Message.mk.injEq]
  exact ⟨hsorts, UInt64.toNat_inj.mp hid, hpayload⟩

theorem decode_of_encode {kind : Kind} {requestId : UInt64} {payload : Bytes}
    (h : encode kind requestId payload = .ok bytes) : decode bytes = .ok ⟨kind, requestId, payload⟩ := by
  have hshort : payload.length ≤ maxPayload := by
    by_contra hlong
    unfold encode at h
    rw [if_pos (by omega)] at h
    cases h
  obtain ⟨encoded, hencode, hdecode⟩ := @decode_encode payload kind requestId hshort
  rw [hencode] at h
  cases h
  exact hdecode

end Yayatht.Control

namespace Yayatht.Launch
open Processes Processes.Program Supervisor

abbrev History := List (Exchange Call Answer)

abbrev IfOk {ε α : Type} (Q : α → History → Prop) : Except ε α → History → Prop := Outcome Q fun _ _ => True

def Heard (role : Role) (message : Control.Message) (past : History) : Prop :=
  ∃ size bytes, ⟨.recvPacket role size, .ok bytes⟩ ∈ past ∧ Control.decode bytes = .ok message

theorem Heard.later {role : Role} {message : Control.Message} {past : History} (h : Heard role message past)
    (e : Exchange Call Answer) : Heard role message (e :: past) := by
  obtain ⟨size, bytes, hmem, hdecode⟩ := h
  exact ⟨size, bytes, List.mem_cons_of_mem _ hmem, hdecode⟩

/-! ## The rules of single calls -/

section Rules

variable {P : Exchange Call Answer → History → Prop} {past : History} {ε α β : Type} {role : Role}

theorem orFail_ok {answer : Except IoError α} (hI : Whenever P past) :
    Holds (Whenever P) past (orFail answer).run (IfOk fun a past' => answer = .ok a ∧ past' = past) := by
  refine .ret _ _ hI ?_
  cases answer with
  | ok a => exact ⟨rfl, rfl⟩
  | error e => exact trivial

theorem setup_ok {s : Setup} (hI : Whenever P past) (hP : ∀ a, P ⟨.setup s, a⟩ past) :
    Holds (Whenever P) past (setup s).run (IfOk fun _ past' => past' = ⟨.setup s, .ok ()⟩ :: past) := by
  refine Holds.bindE (Holds.inquire hI hP) fun a past' hI hpast => ?_
  subst hpast
  cases a with
  | ok u => exact .pureE hI rfl
  | error e => exact .throwE hI trivial

theorem attempt_holds {ε' : Type} {p : Proc ε α} {Q : Except ε α → History → Prop} {E : ε' → History → Prop}
    (h : Holds (Whenever P) past p.run Q) : Holds (Whenever P) past (attempt p).run (Outcome Q E) :=
  h.bind fun _ past hI hQ => .ret past _ hI hQ

theorem fromIo_ok {p : Proc Failure α} {Q : α → History → Prop} (h : Holds (Whenever P) past p.run (IfOk Q)) :
    Holds (Whenever P) past (fromIo p).run (IfOk Q) := by
  refine Holds.bindE (attempt_holds h) fun result past hI hQ => ?_
  cases result with
  | ok a => exact .pureE hI hQ
  | error e => exact .throwE hI trivial

theorem send_ok {kind : Control.Kind} {requestId : UInt64} {payload : Bytes} (hI : Whenever P past)
    (hP : ∀ packet a, Control.decode packet = .ok ⟨kind, requestId, payload⟩ → P ⟨.sendPacket role packet, a⟩ past) :
    Holds (Whenever P) past (send role kind requestId payload).run
      (IfOk fun _ past' => ∃ packet, Control.decode packet = .ok ⟨kind, requestId, payload⟩ ∧
        past' = ⟨.sendPacket role packet, .ok ()⟩ :: past) := by
  cases hpacket : Control.encode kind requestId payload with
  | error e =>
    unfold send
    rw [hpacket]
    exact .throwE hI trivial
  | ok packet =>
    have hdecode := Control.decode_of_encode hpacket
    unfold send
    rw [hpacket]
    change Holds (Whenever P) past (call (.sendPacket role packet) >>= fun a => orFail a).run _
    refine Holds.bindE (Holds.inquire hI fun a => hP packet a hdecode) fun a past' hI hpast => ?_
    subst hpast
    refine (orFail_ok hI).post fun result past' hI hresult => ?_
    cases result with
    | ok u =>
      obtain ⟨rfl, rfl⟩ := hresult
      exact ⟨packet, hdecode, rfl⟩
    | error e => exact trivial

theorem receive_ok {size : ℕ} (hI : Whenever P past) (hP : ∀ a, P ⟨.recvPacket role size, a⟩ past) :
    Holds (Whenever P) past (receive role size).run
      (IfOk fun message past' => ∃ bytes, Control.decode bytes = .ok message ∧
        past' = ⟨.recvPacket role size, .ok bytes⟩ :: past) := by
  refine Holds.bindE (Holds.inquire hI hP) fun a past' hI hpast => ?_
  subst hpast
  refine Holds.bindE (orFail_ok hI) fun bytes past' hI hpast => ?_
  obtain ⟨hbytes, rfl⟩ := hpast
  refine (Holds.settled (E := fun _ _ => True) hI fun _ _ => trivial).post fun result past' hI hresult => ?_
  cases result with
  | error e => exact trivial
  | ok message =>
    obtain ⟨hdecode, rfl⟩ := hresult
    have ha : a = .ok bytes := by
      unfold recvPacket at hbytes
      split at hbytes
      · cases hbytes
      · exact hbytes
    subst ha
    refine ⟨bytes, ?_, rfl⟩
    cases hmessage : Control.decode bytes with
    | error e =>
      rw [hmessage] at hdecode
      cases hdecode
    | ok message' =>
      rw [hmessage] at hdecode
      cases hdecode
      rfl

theorem expect_ok {kind : Control.Kind} (hI : Whenever P past)
    (hP : ∀ a, P ⟨.recvPacket role messageCapacity, a⟩ past) :
    Holds (Whenever P) past (expect role kind).run
      (IfOk fun payload past' => ∃ bytes message, Control.decode bytes = .ok message ∧ message.kind = kind ∧
        message.payload = payload ∧ past' = ⟨.recvPacket role messageCapacity, .ok bytes⟩ :: past) := by
  refine Holds.bindE (receive_ok hI hP) fun message past' hI hpast => ?_
  obtain ⟨bytes, hdecode, rfl⟩ := hpast
  split
  · exact .throwE hI trivial
  split
  · exact .throwE hI trivial
  · rename_i hkind
    exact .pureE hI ⟨bytes, message, hdecode, not_not.mp hkind, rfl, rfl⟩

/-! ### Any outcome -/

theorem calls_orFail {ok : Call → Prop} (answer : Except IoError α) : Calls ok (orFail answer).run := .ret _

theorem calls_attempt {ok : Call → Prop} {ε' : Type} {p : Proc ε α} (h : Calls ok p.run) :
    Calls ok (attempt p : Proc ε' (Except ε α)).run := h.bind fun _ => .ret _

theorem calls_fromIo {ok : Call → Prop} {p : Proc Failure α} (h : Calls ok p.run) : Calls ok (fromIo p).run := by
  refine Calls.bindE (calls_attempt h) fun result => ?_
  cases result with
  | ok a => exact .pureE a
  | error e => exact .throwE _

theorem calls_setup {ok : Call → Prop} {s : Setup} (h : ok (.setup s)) : Calls ok (setup s).run := by
  refine Calls.bindE (Calls.inquire h) fun a => ?_
  cases a with
  | ok u => exact .pureE _
  | error e => exact .throwE _

theorem calls_receive {ok : Call → Prop} {size : ℕ} (h : ok (.recvPacket role size)) :
    Calls ok (receive role size).run :=
  Calls.bindE (Calls.inquire h) fun _ => Calls.bindE (calls_orFail _) fun _ => Calls.settled _

theorem calls_send {ok : Call → Prop} {kind : Control.Kind} {requestId : UInt64} {payload : Bytes}
    (h : ∀ packet, Control.decode packet = .ok ⟨kind, requestId, payload⟩ → ok (.sendPacket role packet)) :
    Calls ok (send role kind requestId payload).run := by
  unfold send
  cases hpacket : Control.encode kind requestId payload with
  | error e => exact .throwE _
  | ok packet =>
    change Calls ok (call (.sendPacket role packet) >>= fun a => orFail a).run
    exact Calls.bindE (Calls.inquire (h packet (Control.decode_of_encode hpacket))) fun _ => calls_orFail _

end Rules

/-! ## What a process has done -/

/-- What a process has set up, handed on and started. -/
def Exchange.deed : Exchange Call Answer → Option Call
  | ⟨.setup s, .ok ()⟩ => some (.setup s)
  | ⟨.sendFd worker packet, .ok ()⟩ => some (.sendFd worker packet)
  | ⟨.forkExec command, _⟩ => some (.forkExec command)
  | _ => none

def deeds (past : History) : List Call := (past.filterMap Exchange.deed).reverse

/-- What was done from one point on to a later one. -/
structure Done (past : History) (calls : List Call) (past' : History) : Prop where
  suffix : past <:+ past'
  deeds_eq : deeds past' = deeds past ++ calls

section Deeds

variable {past past' past'' : History} {calls calls' : List Call} {role : Role} {message : Control.Message}

theorem deeds_cons (e : Exchange Call Answer) (past : History) :
    deeds (e :: past) = deeds past ++ (Exchange.deed e).toList := by
  unfold deeds
  cases h : Exchange.deed e with
  | none => rw [List.filterMap_cons_none h, Option.toList_none, List.append_nil]
  | some c => rw [List.filterMap_cons_some h, List.reverse_cons, Option.toList_some]

theorem deeds_suffix (h : past <:+ past') : deeds past <+: deeds past' := by
  obtain ⟨later, rfl⟩ := h
  unfold deeds
  rw [List.filterMap_append, List.reverse_append]
  exact List.prefix_append _ _

theorem Done.refl (past : History) : Done past [] past := ⟨List.suffix_rfl, (List.append_nil _).symm⟩

theorem Done.cons (e : Exchange Call Answer) (past : History) : Done past (Exchange.deed e).toList (e :: past) :=
  ⟨List.suffix_cons e past, deeds_cons e past⟩

theorem Done.trans (h : Done past calls past') (h' : Done past' calls' past'') :
    Done past (calls ++ calls') past'' :=
  ⟨h.suffix.trans h'.suffix, by rw [h'.deeds_eq, h.deeds_eq, List.append_assoc]⟩

theorem Heard.suffix (h : Heard role message past) (hpast : past <:+ past') : Heard role message past' := by
  obtain ⟨size, bytes, hmem, hdecode⟩ := h
  exact ⟨size, bytes, hpast.subset hmem, hdecode⟩

end Deeds

/-! ## Rules of calls, by what they do -/

section Rules

variable {P : Exchange Call Answer → History → Prop} {past : History} {ε α : Type} {role : Role}

theorem setup_done {s : Setup} (hI : Whenever P past) (hP : ∀ a, P ⟨.setup s, a⟩ past) :
    Holds (Whenever P) past (setup s).run
      (IfOk fun _ past' => Done past [.setup s] past' ∧ ⟨.setup s, .ok ()⟩ ∈ past') := by
  refine (setup_ok hI hP).post fun result past' _ hresult => ?_
  cases result with
  | error e => exact trivial
  | ok u =>
    change past' = _ at hresult
    subst hresult
    exact ⟨Done.cons ⟨.setup s, .ok ()⟩ past, List.mem_cons_self⟩

theorem send_done {kind : Control.Kind} {requestId : UInt64} {payload : Bytes} (hI : Whenever P past)
    (hP : ∀ packet a, Control.decode packet = .ok ⟨kind, requestId, payload⟩ → P ⟨.sendPacket role packet, a⟩ past) :
    Holds (Whenever P) past (send role kind requestId payload).run (IfOk fun _ past' => Done past [] past') := by
  refine (send_ok hI hP).post fun result past' _ hresult => ?_
  cases result with
  | error e => exact trivial
  | ok u =>
    obtain ⟨packet, _, rfl⟩ := hresult
    exact Done.cons ⟨.sendPacket role packet, .ok ()⟩ past

theorem receive_done {size : ℕ} (hI : Whenever P past) (hP : ∀ a, P ⟨.recvPacket role size, a⟩ past) :
    Holds (Whenever P) past (receive role size).run
      (IfOk fun message past' => Done past [] past' ∧ Heard role message past') := by
  refine (receive_ok hI hP).post fun result past' _ hresult => ?_
  cases result with
  | error e => exact trivial
  | ok message =>
    obtain ⟨bytes, hdecode, rfl⟩ := hresult
    exact ⟨Done.cons ⟨.recvPacket role size, .ok bytes⟩ past, size, bytes, List.mem_cons_self, hdecode⟩

theorem receive_any {size : ℕ} (hI : Whenever P past) (hP : ∀ a, P ⟨.recvPacket role size, a⟩ past) :
    Holds (Whenever P) past (receive role size).run fun result past' =>
      past <:+ past' ∧ ∀ message, result = .ok message → Heard role message past' := by
  refine .call past _ _ hI fun a => ?_
  have hI' : Whenever P (⟨.recvPacket role size, a⟩ :: past) := ⟨hP a, hI⟩
  have hsuffix := List.suffix_cons (⟨.recvPacket role size, a⟩ : Exchange Call Answer) past
  cases a with
  | error e => exact .ret _ _ hI' ⟨hsuffix, fun _ h => by cases h⟩
  | ok bytes =>
    cases bytes with
    | nil => exact .ret _ _ hI' ⟨hsuffix, fun _ h => by cases h⟩
    | cons byte bytes =>
      refine .ret _ _ hI' ⟨hsuffix, fun message hmessage => ?_⟩
      change (Control.decode (byte :: bytes)).mapError Failure.control = .ok message at hmessage
      refine ⟨size, byte :: bytes, List.mem_cons_self, ?_⟩
      cases hdecode : Control.decode (byte :: bytes) with
      | error e =>
        rw [hdecode] at hmessage
        cases hmessage
      | ok message' =>
        rw [hdecode] at hmessage
        cases hmessage
        rfl

theorem expect_done {kind : Control.Kind} (hI : Whenever P past)
    (hP : ∀ a, P ⟨.recvPacket role messageCapacity, a⟩ past) :
    Holds (Whenever P) past (expect role kind).run
      (IfOk fun payload past' => Done past [] past' ∧
        ∃ message, message.kind = kind ∧ message.payload = payload ∧ Heard role message past') := by
  refine (expect_ok hI hP).post fun result past' _ hresult => ?_
  cases result with
  | error e => exact trivial
  | ok payload =>
    obtain ⟨bytes, message, hdecode, hkind, hpayload, rfl⟩ := hresult
    have hdone := Done.cons ⟨.recvPacket role messageCapacity, .ok bytes⟩ past
    exact ⟨hdone, message, hkind, hpayload, _, bytes, List.mem_cons_self, hdecode⟩

theorem plain_ok {ok : Call → Prop} {p : Proc ε α} (h : Calls ok p.run) (hI : Whenever P past)
    (hP : ∀ c a past, ok c → P ⟨c, a⟩ past) :
    Holds (Whenever P) past p.run (IfOk fun _ past' => past <:+ past') := by
  refine (Holds.freely h hI hP).post fun result past' _ hsuffix => ?_
  cases result with
  | ok a => exact hsuffix
  | error e => exact trivial

end Rules

/-! ## Packets between processes -/

section Packets

variable {earlier : Journal} {role : Role} {message : Control.Message}

theorem mem_sent {who : Party} {packet : Bytes} (h : packet ∈ earlier.filterMap (Occurrence.sentOn who role)) :
    (⟨who, .sendPacket role packet, .ok ()⟩ : Occurrence Party Call Answer) ∈ earlier := by
  obtain ⟨e, hmem, he⟩ := List.mem_filterMap.mp h
  unfold Occurrence.sentOn at he
  split at he
  · split at he
    · rename_i hwho
      obtain ⟨rfl, rfl⟩ := hwho
      cases he
      exact hmem
    · cases he
  · cases he

theorem mem_passed {worker : ℕ} {packet : Bytes} (h : packet ∈ earlier.filterMap (Occurrence.passedTo worker)) :
    (⟨.child .namespaceInit, .sendFd worker packet, .ok ()⟩ : Occurrence Party Call Answer) ∈ earlier := by
  obtain ⟨e, hmem, he⟩ := List.mem_filterMap.mp h
  unfold Occurrence.passedTo at he
  split at he
  · split at he
    · rename_i hwho
      subst hwho
      cases he
      exact hmem
    · cases he
  · cases he

theorem mine_suffix {before after : Journal} (i : Party) (h : before <:+ after) : mine i before <:+ mine i after := by
  obtain ⟨later, rfl⟩ := h
  rw [mine_append]
  exact List.suffix_append _ _

theorem suffix_of_split {journal later earlier : Journal} {e : Occurrence Party Call Answer}
    (h : journal = later ++ e :: earlier) : earlier <:+ journal :=
  h ▸ (List.suffix_cons e earlier).trans (List.suffix_append later _)

/-- A packet that arrives was sent by the other end. -/
theorem sent_of_received {who : Party} {size : ℕ} {bytes : Bytes}
    (h : allows earlier ⟨who, .recvPacket role size, .ok bytes⟩ = true) (hdecode : Control.decode bytes = .ok message) :
    ∃ packet, (⟨peer role who, .sendPacket role packet, .ok ()⟩ : Occurrence Party Call Answer) ∈ earlier ∧
      packet.take size = bytes := by
  cases bytes with
  | nil => cases hdecode
  | cons byte bytes =>
    unfold allows at h
    obtain ⟨_, hpacket⟩ := Bool.and_eq_true_iff.mp h
    obtain ⟨packet, hnext, htake⟩ := (Option.any_eq_true _ _).mp hpacket
    have hmem := List.mem_of_getElem? hnext
    exact ⟨packet, mem_sent (List.mem_reverse.mp hmem), of_decide_eq_true htake⟩

theorem passed_of_received {who : Party} {size worker : ℕ} {bytes : Bytes}
    (h : allows earlier ⟨who, .recvFd worker size, .ok bytes⟩ = true) :
    ∃ packet, (⟨.child .namespaceInit, .sendFd worker packet, .ok ()⟩ : Occurrence Party Call Answer) ∈ earlier := by
  unfold allows at h
  obtain ⟨_, hpacket⟩ := Bool.and_eq_true_iff.mp h
  obtain ⟨packet, hmem, _⟩ := List.any_eq_true.mp hpacket
  exact ⟨packet, mem_passed hmem⟩

/-- The message was sent in this packet, after `before`. -/
structure Sent (role : Role) (who : Party) (message : Control.Message) (packet : Bytes) (before journal : Journal) :
    Prop where
  sent : (⟨who, .sendPacket role packet, .ok ()⟩ : Occurrence Party Call Answer) :: before <:+ journal
  decodes : Control.decode packet = .ok message

theorem Sent.suffix {who : Party} {packet : Bytes} {before journal : Journal}
    (h : Sent role who message packet before journal) : before <:+ journal :=
  (List.suffix_cons _ before).trans h.sent

/-- What a process has heard, the other end said before, by its own rule. -/
theorem heard_said {render : Failure → Bytes} {config : LaunchConfig} {sandbox : SandboxConfig}
    {journal : Journal} {now : (party : Party) → Program Call Answer (Returns party)} {who : Party}
    {P : Exchange Call Answer → History → Prop} {Says : Control.Message → History → Prop}
    (h : Runs render config sandbox journal now) (hearlier : earlier <:+ journal)
    (hheard : Heard role message (mine who earlier)) (hrule : Whenever P (mine (peer role who) journal))
    (hsaid : ∀ packet a past, P ⟨.sendPacket role packet, a⟩ past →
      ∃ whole, Control.decode packet = .ok whole ∧ Says whole past) :
    ∃ packet before, Sent role (peer role who) message packet before earlier ∧
      Says message (mine (peer role who) before) := by
  obtain ⟨size, bytes, hmem, hdecode⟩ := hheard
  obtain ⟨after, before, hsplit⟩ := List.append_of_mem (mem_mine.mp hmem)
  obtain ⟨later, hjournal⟩ := hearlier
  rw [hsplit, ← List.append_assoc] at hjournal
  obtain ⟨packet, hsent, htake⟩ := sent_of_received (h.allowed hjournal.symm) hdecode
  obtain ⟨after', before', hsplit'⟩ := List.append_of_mem hsent
  rw [hsplit', ← List.cons_append, ← List.append_assoc] at hjournal
  obtain ⟨whole, hwhole, hsay⟩ := hsaid _ _ _ (hrule.at_split (mine_split hjournal.symm))
  rw [← htake] at hdecode
  have hsame := Control.decode_take hwhole hdecode
  subst hsame
  have hlast : (⟨peer role who, .sendPacket role packet, .ok ()⟩ : Occurrence Party Call Answer) :: before' <:+
      earlier :=
    (hsplit' ▸ List.suffix_append after' _).trans (suffix_of_split hsplit)
  exact ⟨packet, before', ⟨hlast, hwhole⟩, hsay⟩

end Packets

end Yayatht.Launch
