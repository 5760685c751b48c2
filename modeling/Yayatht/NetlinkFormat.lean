import Yayatht.ControlCodec

set_option autoImplicit false

/-!
# Netlink messages

Requests of the routing socket: a header of sixteen bytes, a body of fixed size and
attributes, each padded to a multiple of four. A reader that follows the rules of the
receiving side takes apart what the writer put together. Numbers are little endian.
-/
namespace Yayatht.Netlink
open Wire

def nlmsgAlignto : ℕ := 4
def rtaAlignto : ℕ := 4
def nlmFRequest : ℕ := 0x0001
def nlmFAck : ℕ := 0x0004
def nlmFExcl : ℕ := 0x0200
def nlmFCreate : ℕ := 0x0400
def nlmsgError : ℕ := 2
def rtmNewlink : ℕ := 16
def rtmNewaddr : ℕ := 20
def rtmNewroute : ℕ := 24
def iflaAddress : ℕ := 1
def iflaMtu : ℕ := 4
def ifaAddress : ℕ := 1
def ifaLocal : ℕ := 2
def rtaOif : ℕ := 4
def rtaGateway : ℕ := 5

inductive Error where
  | invalidInput (text : String)
  | invalidData (text : String)
  | os (code : ℤ)
  | io (error : IoError)
  deriving DecidableEq, Repr

/-- `(value + to - 1) & !(to - 1)` -/
def align (value unit : ℕ) : ℕ := (value + unit - 1) &&& (2 ^ 64 - 1 - (unit - 1))

/-- `out.resize(align(out.len(), to), 0)` -/
def pad (bytes : Bytes) (unit : ℕ) : Bytes :=
  bytes ++ List.replicate (align bytes.length unit - bytes.length) 0

structure NlHeader where
  length : ℕ
  messageType : ℕ
  flags : ℕ
  sequence : BitVec 32
  pid : ℕ
  deriving DecidableEq, Repr

def nlHeaderLen : ℕ := 16
def rtAttrLen : ℕ := 4

def NlHeader.bytes (h : NlHeader) : Bytes :=
  leBytes 4 h.length ++ (leBytes 2 h.messageType ++ (leBytes 2 h.flags ++ (leBytes 4 h.sequence.toNat ++
    leBytes 4 h.pid)))

abbrev Attribute := ℕ × Bytes

def appendAttr (out : Bytes) (kind : ℕ) (value : Bytes) : Except Error Bytes :=
  let length := rtAttrLen + value.length
  if 65535 < length then .error (.invalidInput "netlink attribute too large")
  else .ok (pad (out ++ (leBytes 2 length ++ (leBytes 2 kind ++ value))) rtaAlignto)

def appendAttrs : Bytes → List Attribute → Except Error Bytes
  | out, [] => .ok out
  | out, (kind, value) :: rest => do appendAttrs (← appendAttr out kind value) rest

structure Request where
  messageType : ℕ
  flags : ℕ
  body : Bytes
  attributes : List Attribute
  deriving DecidableEq, Repr

def Request.packet (r : Request) (sequence : BitVec 32) : Except Error Bytes := do
  let header := NlHeader.bytes ⟨0, r.messageType, nlmFRequest ||| nlmFAck ||| r.flags, sequence, 0⟩
  let packet ← appendAttrs (header ++ r.body) r.attributes
  let packet := pad packet nlmsgAlignto
  if 4294967295 < packet.length then .error (.invalidInput "netlink message too large")
  else .ok (leBytes 4 packet.length ++ packet.drop 4)

/-! ## The receiving side -/

/-- The attributes of a message, one after the other. -/
def readAttributes : ℕ → Bytes → Option (List Attribute)
  | _, [] => some []
  | 0, _ => none
  | fuel + 1, bytes =>
    let length := leValue (bytes.take 2)
    if length < rtAttrLen ∨ bytes.length < length then none
    else do
      let rest ← readAttributes fuel (bytes.drop (align length rtaAlignto))
      some ((leValue ((bytes.drop 2).take 2), (bytes.take length).drop rtAttrLen) :: rest)

/-- What the receiver knows of a message. -/
structure Received where
  header : NlHeader
  body : Bytes
  attributes : List Attribute
  deriving DecidableEq, Repr

def bodyLen (messageType : ℕ) : Option ℕ :=
  if messageType = rtmNewlink then some 16
  else if messageType = rtmNewaddr then some 8
  else if messageType = rtmNewroute then some 12
  else none

def readHeader (bytes : Bytes) : NlHeader where
  length := leValue (bytes.take 4)
  messageType := leValue ((bytes.drop 4).take 2)
  flags := leValue ((bytes.drop 6).take 2)
  sequence := BitVec.ofNat 32 (leValue ((bytes.drop 8).take 4))
  pid := leValue ((bytes.drop 12).take 4)

def readRequest (bytes : Bytes) : Option Received := do
  let header := readHeader bytes
  if bytes.length < nlHeaderLen ∨ header.length ≠ bytes.length then none
  let size ← bodyLen header.messageType
  let rest := bytes.drop nlHeaderLen
  let attributes ← readAttributes rest.length (rest.drop size)
  some ⟨header, rest.take size, attributes⟩

/-! ## Alignment -/

variable {bytes out value : Bytes} {n kind : ℕ}

theorem align_four (h : n + 3 < 2 ^ 64) : align n 4 = (n + 3) / 4 * 4 := by
  have hshift : (n + 3) / 4 * 4 = (n + 3) >>> 2 <<< 2 := by
    rw [Nat.shiftLeft_eq, Nat.shiftRight_eq_div_pow]
  have hmask : 2 ^ 64 - 1 - (4 - 1) = 2 ^ 64 - (3 + 1) := rfl
  unfold align
  rw [hshift, hmask]
  refine Nat.eq_of_testBit_eq fun i => ?_
  rw [Nat.testBit_and, Nat.testBit_two_pow_sub_succ (by omega), Nat.testBit_shiftLeft, Nat.testBit_shiftRight]
  have hthree : Nat.testBit 3 i = decide (i < 2) := Nat.testBit_two_pow_sub_one 2 i
  rw [hthree]
  rcases Nat.lt_or_ge i 2 with hlow | hhigh
  · simp [hlow, Nat.not_le.mpr hlow]
  · have hindex : 2 + (i - 2) = i := by omega
    rw [hindex]
    rcases Nat.lt_or_ge i 64 with hin | hout
    · simp [hhigh, hin, Nat.not_lt.mpr hhigh]
    · have hzero : (n + 3).testBit i = false := by
        refine Nat.testBit_lt_two_pow (h.trans_le ?_)
        exact Nat.pow_le_pow_right (by omega) hout
      simp [hzero]

theorem align_le (h : n + 3 < 2 ^ 64) : n ≤ align n 4 ∧ align n 4 < n + 4 ∧ align n 4 % 4 = 0 := by
  rw [align_four h]
  omega

theorem align_of_mod (h : n + 3 < 2 ^ 64) (hmod : n % 4 = 0) : align n 4 = n := by
  rw [align_four h]
  omega

/-- Padding behind whole units does not depend on them. -/
theorem pad_append (first second : Bytes) (hmod : first.length % 4 = 0)
    (hfirst : first.length + second.length + 3 < 2 ^ 64) : pad (first ++ second) 4 = first ++ pad second 4 := by
  unfold pad
  rw [List.length_append, align_four hfirst, align_four (by omega), List.append_assoc]
  congr 3
  omega

/-! ## Attributes -/

def attributeBytes (a : Attribute) : Bytes :=
  leBytes 2 (rtAttrLen + a.2.length) ++ (leBytes 2 a.1 ++ a.2)

def attributesBytes (attributes : List Attribute) : Bytes := attributes.flatMap fun a => pad (attributeBytes a) 4

theorem length_attributeBytes (a : Attribute) : (attributeBytes a).length = rtAttrLen + a.2.length := by
  simp only [attributeBytes, List.length_append, length_leBytes, rtAttrLen]
  omega

theorem length_pad (h : bytes.length + 3 < 2 ^ 64) : (pad bytes 4).length = align bytes.length 4 := by
  have hle := (align_le h).1
  unfold pad
  rw [List.length_append, List.length_replicate]
  omega

theorem appendAttr_ok {result : Bytes} (hmod : out.length % 4 = 0) (hout : out.length < 2 ^ 63)
    (h : appendAttr out kind value = .ok result) :
    rtAttrLen + value.length ≤ 65535 ∧ result = out ++ pad (attributeBytes (kind, value)) 4 := by
  unfold appendAttr at h
  dsimp only at h
  split at h
  · cases h
  · rename_i hshort
    have hlength : (attributeBytes (kind, value)).length = 4 + value.length := length_attributeBytes (kind, value)
    unfold rtAttrLen at hshort
    refine ⟨by unfold rtAttrLen; omega, ?_⟩
    rw [← pad_append out (attributeBytes (kind, value)) hmod (by omega)]
    injection h with h
    exact h.symm

theorem length_padded_attribute {a : Attribute} (h : rtAttrLen + a.2.length ≤ 65535) :
    (pad (attributeBytes a) 4).length % 4 = 0 ∧ rtAttrLen ≤ (pad (attributeBytes a) 4).length ∧
      (pad (attributeBytes a) 4).length < 65540 := by
  have hlength := length_attributeBytes a
  have hsmall : (attributeBytes a).length + 3 < 2 ^ 64 := by omega
  have halign := align_le hsmall
  rw [length_pad hsmall]
  refine ⟨halign.2.2, ?_, ?_⟩
  · omega
  · omega

theorem appendAttrs_ok {attributes : List Attribute} {result : Bytes} (hmod : out.length % 4 = 0)
    (hout : out.length + 65540 * attributes.length < 2 ^ 63) (h : appendAttrs out attributes = .ok result) :
    (∀ a ∈ attributes, rtAttrLen + a.2.length ≤ 65535) ∧ result = out ++ attributesBytes attributes := by
  induction attributes generalizing out with
  | nil =>
    cases h
    exact ⟨fun _ hmem => absurd hmem List.not_mem_nil, (List.append_nil _).symm⟩
  | cons a rest ih =>
    obtain ⟨kind, value⟩ := a
    rw [List.length_cons] at hout
    cases hfirst : appendAttr out kind value with
    | error e =>
      unfold appendAttrs at h
      rw [hfirst] at h
      cases h
    | ok next =>
      obtain ⟨hshort, rfl⟩ := appendAttr_ok hmod (by omega) hfirst
      unfold appendAttrs at h
      rw [hfirst] at h
      obtain ⟨hpad, _, hlt⟩ := length_padded_attribute (a := (kind, value)) hshort
      have hlength : (out ++ pad (attributeBytes (kind, value)) 4).length =
          out.length + (pad (attributeBytes (kind, value)) 4).length := List.length_append
      obtain ⟨hrest, rfl⟩ := ih (by omega) (by omega) h
      refine ⟨fun b hmem => ?_, ?_⟩
      · cases List.mem_cons.mp hmem with
        | inl hhead => exact hhead ▸ hshort
        | inr htail => exact hrest b htail
      · rw [List.append_assoc]
        rfl

theorem length_attributesBytes {attributes : List Attribute}
    (h : ∀ a ∈ attributes, rtAttrLen + a.2.length ≤ 65535) :
    (attributesBytes attributes).length % 4 = 0 ∧ attributes.length ≤ (attributesBytes attributes).length ∧
      (attributesBytes attributes).length ≤ 65540 * attributes.length := by
  induction attributes with
  | nil => exact ⟨rfl, Nat.le_refl _, Nat.le_refl _⟩
  | cons a rest ih =>
    obtain ⟨hmod, hmany, hfew⟩ := ih fun b hmem => h b (List.mem_cons_of_mem _ hmem)
    obtain ⟨hpad, hlong, hlt⟩ := length_padded_attribute (h a List.mem_cons_self)
    have hlength : (attributesBytes (a :: rest)).length =
        (pad (attributeBytes a) 4).length + (attributesBytes rest).length := List.length_append
    unfold rtAttrLen at hlong
    rw [hlength, List.length_cons]
    omega

theorem readAttributes_cons {a : Attribute} {rest : Bytes} {fuel : ℕ} (hkind : a.1 < 65536)
    (hshort : rtAttrLen + a.2.length ≤ 65535) :
    readAttributes (fuel + 1) (pad (attributeBytes a) 4 ++ rest) =
      (readAttributes fuel rest).map fun attributes => a :: attributes := by
  have hlength := length_attributeBytes a
  have hsmall : (attributeBytes a).length + 3 < 2 ^ 64 := by omega
  have hpadded := length_pad hsmall
  have halign := align_le hsmall
  have hfront : pad (attributeBytes a) 4 ++ rest =
      leBytes 2 (rtAttrLen + a.2.length) ++ (leBytes 2 a.1 ++ (a.2 ++
        (List.replicate (align (attributeBytes a).length 4 - (attributeBytes a).length) 0 ++ rest))) := by
    unfold pad attributeBytes
    simp only [List.append_assoc]
  have hvalue : leValue ((pad (attributeBytes a) 4 ++ rest).take 2) = rtAttrLen + a.2.length := by
    rw [hfront, List.take_left' (length_leBytes 2 _)]
    exact leValue_leBytes (by omega)
  have hkind' : leValue (((pad (attributeBytes a) 4 ++ rest).drop 2).take 2) = a.1 := by
    rw [hfront, List.drop_left' (length_leBytes 2 _), List.take_left' (length_leBytes 2 _)]
    exact leValue_leBytes (by omega)
  have htake : ((pad (attributeBytes a) 4 ++ rest).take (rtAttrLen + a.2.length)).drop rtAttrLen = a.2 := by
    have hwhole : (pad (attributeBytes a) 4 ++ rest).take (rtAttrLen + a.2.length) = attributeBytes a := by
      unfold pad
      rw [List.append_assoc, List.take_left' hlength]
    rw [hwhole]
    unfold attributeBytes
    rw [← List.append_assoc]
    exact List.drop_left' (by simp [rtAttrLen])
  have hdrop : (pad (attributeBytes a) 4 ++ rest).drop (align (rtAttrLen + a.2.length) rtaAlignto) = rest := by
    refine List.drop_left' ?_
    rw [hpadded, hlength]
    rfl
  have hlong : ¬ (pad (attributeBytes a) 4 ++ rest).length < rtAttrLen + a.2.length := by
    rw [List.length_append]
    omega
  have hcons : ∃ first others, pad (attributeBytes a) 4 ++ rest = first :: others := by
    refine List.exists_cons_of_ne_nil fun hnil => ?_
    rw [hnil] at hlong
    exact hlong (by unfold rtAttrLen; simp)
  obtain ⟨first, others, hbytes⟩ := hcons
  rw [hbytes] at hvalue hkind' htake hdrop hlong ⊢
  conv_lhs => unfold readAttributes
  simp only [hvalue, hkind', htake, hdrop]
  rw [if_neg (by omega)]
  cases readAttributes fuel rest with
  | none => rfl
  | some attributes => rfl

theorem readAttributes_bytes {attributes : List Attribute} {fuel : ℕ}
    (h : ∀ a ∈ attributes, a.1 < 65536 ∧ rtAttrLen + a.2.length ≤ 65535) (hfuel : attributes.length ≤ fuel) :
    readAttributes fuel (attributesBytes attributes) = some attributes := by
  induction attributes generalizing fuel with
  | nil =>
    cases fuel <;> rfl
  | cons a rest ih =>
    obtain ⟨fuel, rfl⟩ := Nat.exists_eq_add_of_le' (show 1 ≤ fuel by rw [List.length_cons] at hfuel; omega)
    obtain ⟨hkind, hshort⟩ := h a List.mem_cons_self
    rw [List.length_cons] at hfuel
    change readAttributes (fuel + 1) (pad (attributeBytes a) 4 ++ attributesBytes rest) = _
    rw [readAttributes_cons hkind hshort, ih (fun b hmem => h b (List.mem_cons_of_mem _ hmem)) (by omega)]
    rfl

/-! ## Whole messages -/

theorem length_headerBytes (h : NlHeader) : h.bytes.length = nlHeaderLen := by
  simp [NlHeader.bytes, nlHeaderLen]

theorem readHeader_bytes (h : NlHeader) (rest : Bytes) (hlength : h.length < 2 ^ 32) (htype : h.messageType < 65536)
    (hflags : h.flags < 65536) (hpid : h.pid < 2 ^ 32) : readHeader (h.bytes ++ rest) = h := by
  have hsplit : h.bytes ++ rest = leBytes 4 h.length ++ (leBytes 2 h.messageType ++ (leBytes 2 h.flags ++
      (leBytes 4 h.sequence.toNat ++ (leBytes 4 h.pid ++ rest)))) := by
    simp only [NlHeader.bytes, List.append_assoc]
  have h4 : (h.bytes ++ rest).drop 4 = leBytes 2 h.messageType ++ (leBytes 2 h.flags ++
      (leBytes 4 h.sequence.toNat ++ (leBytes 4 h.pid ++ rest))) := by
    rw [hsplit, List.drop_left' (length_leBytes 4 _)]
  have h6 : (h.bytes ++ rest).drop 6 =
      leBytes 2 h.flags ++ (leBytes 4 h.sequence.toNat ++ (leBytes 4 h.pid ++ rest)) := by
    rw [show 6 = 4 + 2 from rfl, ← List.drop_drop, h4, List.drop_left' (length_leBytes 2 _)]
  have h8 : (h.bytes ++ rest).drop 8 = leBytes 4 h.sequence.toNat ++ (leBytes 4 h.pid ++ rest) := by
    rw [show 8 = 6 + 2 from rfl, ← List.drop_drop, h6, List.drop_left' (length_leBytes 2 _)]
  have h12 : (h.bytes ++ rest).drop 12 = leBytes 4 h.pid ++ rest := by
    rw [show 12 = 8 + 4 from rfl, ← List.drop_drop, h8, List.drop_left' (length_leBytes 4 _)]
  unfold readHeader
  rw [h4, h6, h8, h12, hsplit, List.take_left' (length_leBytes 4 _), List.take_left' (length_leBytes 2 _),
    List.take_left' (length_leBytes 2 _), List.take_left' (length_leBytes 4 _), List.take_left' (length_leBytes 4 _),
    leValue_leBytes (by omega), leValue_leBytes (by omega), leValue_leBytes (by omega),
    leValue_leBytes h.sequence.isLt, leValue_leBytes (by omega), BitVec.ofNat_toNat, BitVec.setWidth_eq]

/-- Requests of the three kinds, with numbers that fit their fields. -/
structure Request.Sound (r : Request) : Prop where
  body : bodyLen r.messageType = some r.body.length
  flags : r.flags < 65536
  kinds : ∀ a ∈ r.attributes, a.1 < 65536
  count : r.attributes.length ≤ 65536

theorem Request.Sound.sizes {r : Request} (h : r.Sound) :
    r.messageType < 65536 ∧ r.body.length % 4 = 0 ∧ r.body.length ≤ 16 := by
  have hbody := h.body
  unfold bodyLen rtmNewlink rtmNewaddr rtmNewroute at hbody
  split at hbody
  · injection hbody with hbody
    omega
  split at hbody
  · injection hbody with hbody
    omega
  split at hbody
  · injection hbody with hbody
    omega
  · cases hbody

def Request.header (r : Request) (sequence : BitVec 32) (length : ℕ) : NlHeader :=
  ⟨length, r.messageType, nlmFRequest ||| nlmFAck ||| r.flags, sequence, 0⟩

theorem Request.packet_eq {r : Request} {sequence : BitVec 32} (hr : r.Sound) (h : r.packet sequence = .ok bytes) :
    (∀ a ∈ r.attributes, rtAttrLen + a.2.length ≤ 65535) ∧ bytes.length < 2 ^ 32 ∧
      bytes = (r.header sequence bytes.length).bytes ++ (r.body ++ attributesBytes r.attributes) := by
  obtain ⟨htype, hmod, hbody⟩ := hr.sizes
  have hcount := hr.count
  have hstart : ((r.header sequence 0).bytes ++ r.body).length = 16 + r.body.length := by
    rw [List.length_append, length_headerBytes]
    rfl
  unfold Request.packet at h
  cases hattrs : appendAttrs ((r.header sequence 0).bytes ++ r.body) r.attributes with
  | error e =>
    change (appendAttrs ((r.header sequence 0).bytes ++ r.body) r.attributes >>= _) = _ at h
    rw [hattrs] at h
    cases h
  | ok packet =>
    change (appendAttrs ((r.header sequence 0).bytes ++ r.body) r.attributes >>= _) = _ at h
    rw [hattrs] at h
    obtain ⟨hshort, rfl⟩ := appendAttrs_ok (by omega) (by omega) hattrs
    obtain ⟨hattributes, _, hfew⟩ := length_attributesBytes hshort
    have hlength : (((r.header sequence 0).bytes ++ r.body) ++ attributesBytes r.attributes).length =
        16 + r.body.length + (attributesBytes r.attributes).length := by
      rw [List.length_append, hstart]
    have hpadded : pad (((r.header sequence 0).bytes ++ r.body) ++ attributesBytes r.attributes) nlmsgAlignto =
        ((r.header sequence 0).bytes ++ r.body) ++ attributesBytes r.attributes := by
      unfold pad nlmsgAlignto
      rw [align_of_mod (by omega) (by omega), Nat.sub_self, List.replicate_zero, List.append_nil]
    change (if _ then _ else _) = _ at h
    rw [hpadded] at h
    split at h
    · cases h
    · rename_i hfits
      injection h with h
      have hdrop : (((r.header sequence 0).bytes ++ r.body) ++ attributesBytes r.attributes).drop 4 =
          leBytes 2 r.messageType ++ (leBytes 2 (nlmFRequest ||| nlmFAck ||| r.flags) ++
            (leBytes 4 sequence.toNat ++ (leBytes 4 0 ++ (r.body ++ attributesBytes r.attributes)))) := by
        simp only [Request.header, NlHeader.bytes, List.append_assoc]
        exact List.drop_left' (length_leBytes 4 _)
      have hsame : bytes.length =
          (((r.header sequence 0).bytes ++ r.body) ++ attributesBytes r.attributes).length := by
        rw [← h, List.length_append, length_leBytes, List.length_drop]
        omega
      refine ⟨hshort, by omega, ?_⟩
      rw [hsame]
      rw [← h, hdrop]
      simp only [Request.header, NlHeader.bytes, List.append_assoc]

/-- The receiver reads what the sender was asked to send. -/
theorem readRequest_packet {r : Request} {sequence : BitVec 32} (hr : r.Sound) (h : r.packet sequence = .ok bytes) :
    readRequest bytes = some ⟨r.header sequence bytes.length, r.body, r.attributes⟩ := by
  obtain ⟨hshort, hfits, hbytes⟩ := Request.packet_eq hr h
  obtain ⟨htype, hmod, hbody⟩ := hr.sizes
  have hflags : nlmFRequest ||| nlmFAck ||| r.flags < 65536 :=
    Nat.or_lt_two_pow (n := 16) (by decide) hr.flags
  have hheader : readHeader bytes = r.header sequence bytes.length := by
    conv_lhs => rw [hbytes]
    exact readHeader_bytes _ _ hfits htype hflags (Nat.two_pow_pos 32)
  have hlength : bytes.length = nlHeaderLen + (r.body ++ attributesBytes r.attributes).length := by
    conv_lhs => rw [hbytes]
    rw [List.length_append, length_headerBytes]
  have hrest : bytes.drop nlHeaderLen = r.body ++ attributesBytes r.attributes := by
    conv_lhs => rw [hbytes]
    exact List.drop_left' (length_headerBytes _)
  have hattributes : readAttributes (r.body ++ attributesBytes r.attributes).length (attributesBytes r.attributes) =
      some r.attributes := by
    refine readAttributes_bytes (fun a hmem => ⟨hr.kinds a hmem, hshort a hmem⟩) ?_
    rw [List.length_append]
    exact (length_attributesBytes hshort).2.1.trans (Nat.le_add_left _ _)
  have htaken : bodyLen (r.header sequence bytes.length).messageType = some r.body.length := hr.body
  have hwhole : ¬ (bytes.length < nlHeaderLen ∨ (r.header sequence bytes.length).length ≠ bytes.length) := by
    rw [not_or]
    exact ⟨by omega, not_not.mpr rfl⟩
  unfold readRequest
  simp only [hheader, hrest]
  rw [if_neg hwhole]
  simp only [htaken, bind, Option.bind, List.drop_left, List.take_left, hattributes]

end Yayatht.Netlink
