import Yayatht.DnsEngine
import Yayatht.WireBytes

set_option autoImplicit false

namespace Yayatht.Dns

/-- 1 to 63 octets. -/
structure Label where
  octets : Bytes
  pos : 0 < octets.length
  le : octets.length ≤ 63

def Label.wire (label : Label) : Bytes := UInt8.ofNat label.octets.length :: label.octets

/-- A name ends at the root or points to the rest of it. -/
inductive Ending where
  | root
  | pointer (high low : UInt8) (marked : high &&& 0xc0 = 0xc0)

def Ending.wire : Ending → Bytes
  | .root => [0]
  | .pointer high low _ => [high, low]

def labelsWire : List Label → Bytes
  | [] => []
  | label :: labels => label.wire ++ labelsWire labels

/-- The ending stands within 128 steps. -/
structure Name where
  labels : List Label
  ending : Ending
  labels_le : labels.length ≤ 127

def Name.wire (name : Name) : Bytes := labelsWire name.labels ++ name.ending.wire

structure Record where
  name : Name
  kind : UInt16
  recordClass : UInt16
  ttl : BitVec 32
  data : Bytes
  data_lt : data.length < 65536

def Record.fixed (record : Record) : Bytes :=
  wordBytes record.kind ++ wordBytes record.recordClass ++ beBytes 4 record.ttl ++
    wordBytes (UInt16.ofNat record.data.length)

def Record.wire (record : Record) : Bytes := record.name.wire ++ record.fixed ++ record.data

def recordsWire : List Record → Bytes
  | [] => []
  | record :: records => record.wire ++ recordsWire records

theorem Ending.length_wire_pos (ending : Ending) : 0 < ending.wire.length := by
  cases ending <;> exact Nat.succ_pos _

section Octets

theorem and_eq_zero_iff (byte : UInt8) : byte &&& 0xc0 = 0 ↔ byte.toNat ≤ 63 := by
  have hall : ∀ n < 256, UInt8.ofNat n &&& 0xc0 = 0 ↔ n ≤ 63 := by decide +kernel
  have hbyte := hall byte.toNat byte.toNat_lt
  rwa [UInt8.ofNat_toNat] at hbyte

theorem zero_not_pointer : ¬ (0 : UInt8) &&& 0xc0 = 0xc0 := by decide

theorem Label.toNat_length (label : Label) : (UInt8.ofNat label.octets.length).toNat = label.octets.length := by
  have hle := label.le
  rw [UInt8.toNat_ofNat']
  omega

theorem Label.length_ne_zero (label : Label) : UInt8.ofNat label.octets.length ≠ 0 := by
  intro hzero
  have hlength := label.toNat_length
  rw [hzero] at hlength
  have hpos := label.pos
  change 0 = _ at hlength
  omega

theorem Label.length_and (label : Label) : UInt8.ofNat label.octets.length &&& 0xc0 = 0 := by
  rw [and_eq_zero_iff, label.toNat_length]
  exact label.le

theorem toNat_wordAt {message : Bytes} {offset : ℕ} {high low : UInt8} {rest : Bytes}
    (h : message.drop offset = high :: low :: rest) : (wordAt message offset).toNat = beWord high low := by
  have hhigh : message[offset]? = some high := by rw [← List.head?_drop, h]; rfl
  have hlow : message[offset + 1]? = some low := by
    rw [← List.head?_drop, ← List.drop_drop, h]
    rfl
  unfold wordAt
  rw [List.getElem!_eq_getElem?_getD, List.getElem!_eq_getElem?_getD, hhigh, hlow]
  change (UInt16.ofNat (beWord high low)).toNat = _
  have hlt := beWord_lt high low
  rw [UInt16.toNat_ofNat']
  omega

theorem toNat_wordAt_wordBytes {message : Bytes} {offset : ℕ} {word : UInt16} {rest : Bytes}
    (h : message.drop offset = wordBytes word ++ rest) : (wordAt message offset).toNat = word.toNat := by
  have hlt := word.toNat_lt
  rw [toNat_wordAt h, Wire.beWord_be16]
  omega

end Octets

section Names

/-- A name stands at the front of the octets and takes `size` of them, with fewer labels than `steps`. -/
def NameAt (steps : ℕ) (octets : Bytes) (size : ℕ) : Prop :=
  ∃ labels ending rest, labels.length < steps ∧ octets = labelsWire labels ++ (Ending.wire ending ++ rest) ∧
    size = (labelsWire labels).length + ending.wire.length

variable {steps size : ℕ} {length : UInt8} {tail : Bytes}

theorem not_nameAt_nil : ¬NameAt steps [] size := by
  rintro ⟨labels, ending, rest, -, hwire, -⟩
  cases labels with
  | cons label labels => cases hwire
  | nil => cases ending <;> cases hwire

theorem NameAt.ending (h : NameAt steps (length :: tail) size) (hlength : length &&& 0xc0 ≠ 0 ∨ length = 0) :
    ∃ ending rest, length :: tail = Ending.wire ending ++ rest ∧ size = ending.wire.length := by
  obtain ⟨labels, ending, rest, -, hwire, rfl⟩ := h
  cases labels with
  | nil => exact ⟨ending, rest, hwire, Nat.zero_add _⟩
  | cons label labels =>
    have hlabel : length = UInt8.ofNat label.octets.length := (List.cons.inj hwire).1
    rcases hlength with hmarked | hzero
    · exact absurd label.length_and (hlabel ▸ hmarked)
    · exact absurd (hlabel.symm.trans hzero) label.length_ne_zero

theorem nameAt_root : NameAt (steps + 1) (0 :: tail) size ↔ size = 1 := by
  constructor
  · intro h
    obtain ⟨ending, rest, hwire, rfl⟩ := h.ending (.inr rfl)
    cases ending with
    | root => rfl
    | pointer high low marked =>
      rw [← (List.cons.inj hwire).1] at marked
      exact absurd marked zero_not_pointer
  · rintro rfl
    exact ⟨[], .root, tail, Nat.succ_pos _, rfl, rfl⟩

theorem nameAt_pointer (hpointer : length &&& 0xc0 = 0xc0) :
    NameAt (steps + 1) (length :: tail) size ↔ 0 < tail.length ∧ size = 2 := by
  constructor
  · intro h
    obtain ⟨ending, rest, hwire, rfl⟩ := h.ending (.inl (by rw [hpointer]; decide))
    cases ending with
    | root =>
      rw [(List.cons.inj hwire).1] at hpointer
      exact absurd hpointer zero_not_pointer
    | pointer high low marked =>
      rw [(List.cons.inj hwire).2]
      exact ⟨Nat.succ_pos _, rfl⟩
  · rintro ⟨hroom, rfl⟩
    obtain ⟨low, rest, rfl⟩ := List.exists_cons_of_length_pos hroom
    exact ⟨[], .pointer length low hpointer, rest, Nat.succ_pos _, rfl, rfl⟩

/-- The lengths between those of labels and of pointers are reserved. -/
theorem not_nameAt_reserved (hpointer : ¬length &&& 0xc0 = 0xc0) (hreserved : length &&& 0xc0 ≠ 0) :
    ¬NameAt steps (length :: tail) size := by
  intro h
  obtain ⟨ending, rest, hwire, rfl⟩ := h.ending (.inl hreserved)
  cases ending with
  | root =>
    rw [(List.cons.inj hwire).1] at hreserved
    exact absurd rfl hreserved
  | pointer high low marked =>
    rw [(List.cons.inj hwire).1] at hpointer
    exact absurd marked hpointer

theorem nameAt_label (hpos : 0 < length.toNat) (hle : length.toNat ≤ 63) :
    NameAt (steps + 1) (length :: tail) size ↔
      ∃ more, size = length.toNat + 1 + more ∧ NameAt steps (tail.drop length.toNat) more := by
  constructor
  · rintro ⟨labels, ending, rest, hlt, hwire, rfl⟩
    cases labels with
    | nil =>
      have hbyte : length &&& 0xc0 = 0 := (and_eq_zero_iff length).mpr hle
      cases ending with
      | root =>
        rw [(List.cons.inj hwire).1] at hpos
        exact absurd hpos (by decide)
      | pointer high low marked =>
        rw [(List.cons.inj hwire).1] at hbyte
        exact absurd (hbyte.symm.trans marked) (by decide)
    | cons label labels =>
      obtain ⟨hlength, hrest⟩ := List.cons.inj hwire
      have hsame : length.toNat = label.octets.length := by rw [hlength, label.toNat_length]
      refine ⟨_, ?_, labels, ending, rest, Nat.lt_of_succ_lt_succ hlt, ?_, rfl⟩
      · simp only [labelsWire, Label.wire, List.length_append, List.length_cons]
        omega
      · rw [hrest, hsame]
        change ((label.octets ++ labelsWire labels) ++ _).drop _ = _
        rw [List.append_assoc, List.drop_left]
  · rintro ⟨more, rfl, labels, ending, rest, hlt, hwire, rfl⟩
    have hroom : length.toNat ≤ tail.length := by
      have hlength := congrArg List.length hwire
      have hending := ending.length_wire_pos
      simp only [List.length_drop, List.length_append] at hlength
      omega
    have htake : (tail.take length.toNat).length = length.toNat := List.length_take_of_le hroom
    refine ⟨⟨tail.take length.toNat, by omega, by omega⟩ :: labels, ending, rest, Nat.succ_lt_succ hlt, ?_, ?_⟩
    · change _ = (UInt8.ofNat (tail.take length.toNat).length :: tail.take length.toNat ++ labelsWire labels) ++ _
      rw [htake, UInt8.ofNat_toNat, List.append_assoc, ← hwire, List.cons_append, List.take_append_drop]
    · simp only [labelsWire, Label.wire, List.length_append, List.length_cons, htake]
      omega

/-- A name is skipped as far as the grammar takes it. -/
theorem skipLabels_eq_some_iff (message : Bytes) (steps offset stop : ℕ) :
    skipLabels message steps offset = some stop ↔
      ∃ size, stop = offset + size ∧ NameAt steps (message.drop offset) size := by
  induction steps generalizing offset with
  | zero =>
    constructor
    · intro hskip
      cases hskip
    · rintro ⟨size, -, labels, ending, rest, hlt, -⟩
      omega
  | succ steps ih =>
    unfold skipLabels
    rw [← List.head?_drop]
    cases hd : message.drop offset with
    | nil => simp [not_nameAt_nil]
    | cons length tail =>
      have hsize : message.length = offset + (tail.length + 1) := by
        have hlength := congrArg List.length hd
        rw [List.length_drop, List.length_cons] at hlength
        omega
      rw [List.head?_cons]
      dsimp only
      by_cases hzero : length = 0
      · subst hzero
        simp [nameAt_root, eq_comm]
      rw [if_neg hzero]
      by_cases hpointer : length &&& 0xc0 = 0xc0
      · simp only [if_pos hpointer, nameAt_pointer hpointer]
        split
        · simp only [Option.some.injEq]
          exact ⟨fun hstop => ⟨2, hstop.symm, by omega, rfl⟩, fun ⟨size, hstop, _, htwo⟩ => by omega⟩
        · simp only [reduceCtorEq, false_iff, not_exists, not_and]
          omega
      rw [if_neg hpointer]
      by_cases hreserved : length &&& 0xc0 ≠ 0
      · simp [if_pos hreserved, not_nameAt_reserved hpointer hreserved]
      rw [if_neg hreserved, ih]
      have hle : length.toNat ≤ 63 := (and_eq_zero_iff length).mp (Decidable.not_not.mp hreserved)
      have hpos : 0 < length.toNat := Nat.pos_of_ne_zero fun h0 => hzero (UInt8.toNat_inj.mp h0)
      have hrest : message.drop (offset + length.toNat + 1) = tail.drop length.toNat := by
        rw [show offset + length.toNat + 1 = offset + (1 + length.toNat) by omega, ← List.drop_drop, hd,
          ← List.drop_drop]
        rfl
      rw [hrest]
      constructor
      · rintro ⟨more, rfl, hmore⟩
        exact ⟨_, by omega, (nameAt_label hpos hle).mpr ⟨more, rfl, hmore⟩⟩
      · rintro ⟨size, rfl, hname⟩
        obtain ⟨more, rfl, hmore⟩ := (nameAt_label hpos hle).mp hname
        exact ⟨more, by omega, hmore⟩

theorem skipName_eq_some_iff (message : Bytes) (offset stop : ℕ) :
    skipName message offset = some stop ↔
      ∃ (name : Name) (rest : Bytes), message.drop offset = name.wire ++ rest ∧ stop = offset + name.wire.length := by
  unfold skipName
  rw [skipLabels_eq_some_iff]
  constructor
  · rintro ⟨_, rfl, labels, ending, rest, hlt, hwire, rfl⟩
    refine ⟨⟨labels, ending, by omega⟩, rest, ?_, ?_⟩
    · rw [hwire, ← List.append_assoc]
      rfl
    · unfold Name.wire
      rw [List.length_append]
  · rintro ⟨name, rest, hwire, rfl⟩
    have hle := name.labels_le
    refine ⟨name.wire.length, rfl, name.labels, name.ending, rest, by omega, ?_, ?_⟩
    · rw [hwire]
      unfold Name.wire
      rw [List.append_assoc]
    · unfold Name.wire
      rw [List.length_append]

theorem questionSection_eq_some_iff {message : Bytes} (hlen : headerLen ≤ message.length) (question : Bytes) :
    questionSection message = some question ↔
      wordAt message 4 = 1 ∧ ∃ (name : Name) (fields rest : Bytes), fields.length = 4 ∧
        message.drop headerLen = name.wire ++ fields ++ rest ∧ question = name.wire ++ fields := by
  unfold questionSection
  by_cases hcount : wordAt message 4 = 1
  · rw [if_neg (by simp [hcount])]
    constructor
    · intro hquestion
      refine ⟨hcount, ?_⟩
      cases hskip : skipName message headerLen with
      | none =>
        rw [hskip] at hquestion
        cases hquestion
      | some nameEnd =>
        rw [hskip] at hquestion
        dsimp only at hquestion
        split at hquestion
        · cases hquestion
        rename_i hroom
        cases hquestion
        obtain ⟨name, rest, hwire, rfl⟩ := (skipName_eq_some_iff message headerLen nameEnd).mp hskip
        have hsize := congrArg List.length hwire
        rw [List.length_drop, List.length_append] at hsize
        refine ⟨name, rest.take 4, rest.drop 4, ?_, ?_, ?_⟩
        · rw [List.length_take]
          omega
        · rw [hwire, List.append_assoc, List.take_append_drop]
        · rw [List.drop_take, hwire, show headerLen + name.wire.length + 4 - headerLen = name.wire.length + 4 by omega,
            List.take_length_add_append]
    · rintro ⟨-, name, fields, rest, hfields, hwire, rfl⟩
      have hskip : skipName message headerLen = some (headerLen + name.wire.length) :=
        (skipName_eq_some_iff message headerLen _).mpr ⟨name, fields ++ rest, by rw [hwire, List.append_assoc], rfl⟩
      have hsize := congrArg List.length hwire
      rw [List.length_drop, List.length_append, List.length_append] at hsize
      rw [hskip]
      dsimp only
      rw [if_neg (by omega), List.drop_take, hwire,
        show headerLen + name.wire.length + 4 - headerLen = (name.wire ++ fields).length by
          rw [List.length_append]; omega, List.take_left]
  · rw [if_pos hcount]
    constructor
    · intro hquestion
      cases hquestion
    · rintro ⟨hone, -⟩
      exact absurd hone hcount

end Names

section Records

/-- The capacity the first OPT record of a message advertises. -/
def advertised (records : List Record) : ℕ :=
  match records.find? fun record => record.kind.toNat = optRecordType with
  | some record => max record.recordClass.toNat defaultUdpPayloadLimit
  | none => defaultUdpPayloadLimit

theorem Record.length_fixed (record : Record) : record.fixed.length = 10 := by
  simp [Record.fixed, wordBytes]

/-- The records from the scan's position on, no fewer than it looks at. -/
theorem scanRecords_eq {message : Bytes} {records : List Record} {offset : ℕ}
    (hwire : message.drop offset = recordsWire records) :
    scanRecords message records.length offset = advertised records := by
  induction records generalizing offset with
  | nil => rfl
  | cons record records ih =>
    have hcut : message.drop offset = record.name.wire ++ (record.fixed ++ (record.data ++ recordsWire records)) := by
      rw [hwire]
      simp only [recordsWire, Record.wire, List.append_assoc]
    have hskip : skipName message offset = some (offset + record.name.wire.length) :=
      (skipName_eq_some_iff message offset _).mpr ⟨record.name, _, hcut, rfl⟩
    have hfields : message.drop (offset + record.name.wire.length) =
        record.fixed ++ (record.data ++ recordsWire records) := by
      rw [← List.drop_drop, hcut, List.drop_left]
    have hsize : message.length = offset + (record.name.wire.length + (10 + (record.data.length +
        (recordsWire records).length))) := by
      have hlength := congrArg List.length hcut
      have hpos := record.name.ending.length_wire_pos
      simp only [List.length_drop, List.length_append, record.length_fixed, Name.wire] at hlength ⊢
      omega
    have hkind : (wordAt message (offset + record.name.wire.length)).toNat = record.kind.toNat := by
      apply toNat_wordAt_wordBytes
      rw [hfields]
      simp only [Record.fixed, List.append_assoc]
      rfl
    have hclass : (wordAt message (offset + record.name.wire.length + 2)).toNat = record.recordClass.toNat := by
      apply toNat_wordAt_wordBytes
      rw [← List.drop_drop, hfields]
      simp only [Record.fixed, List.append_assoc]
      rfl
    have hdata : (wordAt message (offset + record.name.wire.length + 10 - 2)).toNat = record.data.length := by
      have hword : (UInt16.ofNat record.data.length).toNat = record.data.length := by
        have hlt := record.data_lt
        rw [UInt16.toNat_ofNat']
        omega
      rw [show offset + record.name.wire.length + 10 - 2 = offset + record.name.wire.length + 8 by omega, ← hword]
      apply toNat_wordAt_wordBytes
      rw [← List.drop_drop, hfields]
      simp only [Record.fixed, List.append_assoc]
      rfl
    have hnext : message.drop (offset + record.name.wire.length + 10 + record.data.length) = recordsWire records := by
      rw [← List.drop_drop, ← List.drop_drop, hfields, ← record.length_fixed, List.drop_left, List.drop_left]
    rw [List.length_cons]
    unfold scanRecords
    rw [hskip]
    dsimp only
    rw [if_neg (by omega), hkind, hclass, hdata]
    unfold advertised
    by_cases hopt : record.kind.toNat = optRecordType
    · rw [if_pos hopt, List.find?_cons_of_pos (by simpa using hopt)]
    · rw [if_neg hopt, if_neg (by omega), List.find?_cons_of_neg (by simpa using hopt)]
      exact ih hnext

def announced (message : Bytes) : ℕ :=
  (wordAt message 6).toNat + (wordAt message 8).toNat + (wordAt message 10).toNat

theorem ednsPayloadLimit_eq {message : Bytes} {records : List Record} {offset : ℕ}
    (hwire : message.drop offset = recordsWire records) (hcount : announced message = records.length)
    (hle : records.length ≤ 32) : ednsPayloadLimit message offset = advertised records := by
  unfold ednsPayloadLimit
  change scanRecords message (min (announced message) 32) offset = _
  rw [hcount, Nat.min_eq_left hle]
  exact scanRecords_eq hwire

end Records

namespace Checked

/-- The scans once more with every index and slice checked, a panic where one leaves the message. -/
def questionSection (message : Bytes) : Except Error (Option Bytes) := do
  if (← Wire.wordAt message 4) ≠ 1 then pure none
  else
    match skipName message headerLen with
    | none => pure none
    | some nameEnd =>
      if nameEnd + 4 > message.length then pure none
      else some <$> Wire.range message headerLen (nameEnd + 4)

def scanRecords (message : Bytes) : ℕ → ℕ → Except Error ℕ
  | 0, _ => pure defaultUdpPayloadLimit
  | records + 1, offset =>
    match skipName message offset with
    | none => pure defaultUdpPayloadLimit
    | some nameEnd => do
      let fixedEnd := nameEnd + 10
      if fixedEnd > message.length then pure defaultUdpPayloadLimit
      else
        let recordType ← Wire.wordAt message nameEnd
        let recordClass ← Wire.wordAt message (nameEnd + 2)
        if recordType = optRecordType then pure (max recordClass defaultUdpPayloadLimit)
        else
          let next := fixedEnd + (← Wire.wordAt message (fixedEnd - 2))
          if next > message.length then pure defaultUdpPayloadLimit else scanRecords message records next

def ednsPayloadLimit (message : Bytes) (offset : ℕ) : Except Error ℕ := do
  let ancount ← Wire.wordAt message 6
  let nscount ← Wire.wordAt message 8
  let arcount ← Wire.wordAt message 10
  scanRecords message (min (ancount + nscount + arcount) 32) offset

theorem wordAt_eq {message : Bytes} {offset : ℕ} (h : offset + 2 ≤ message.length) :
    Wire.wordAt message offset = .ok (wordAt message offset).toNat := by
  obtain ⟨high, low, rest, hdrop⟩ : ∃ high low rest, message.drop offset = high :: low :: rest := by
    match hd : message.drop offset with
    | high :: low :: rest => exact ⟨high, low, rest, rfl⟩
    | [] | [_] =>
      have hlength := congrArg List.length hd
      simp only [List.length_drop, List.length_cons, List.length_nil] at hlength
      omega
  have hhigh : message[offset]? = some high := by rw [← List.head?_drop, hdrop]; rfl
  have hlow : message[offset + 1]? = some low := by
    rw [← List.head?_drop, ← List.drop_drop, hdrop]
    rfl
  rw [toNat_wordAt hdrop]
  unfold Wire.wordAt Wire.byteAt
  rw [hhigh, hlow]
  rfl

theorem skipName_bounds {message : Bytes} {offset stop : ℕ} (h : skipName message offset = some stop) :
    offset < stop ∧ stop ≤ message.length := by
  obtain ⟨name, rest, hwire, rfl⟩ := (skipName_eq_some_iff message offset stop).mp h
  have hlength := congrArg List.length hwire
  have hpos := name.ending.length_wire_pos
  simp only [List.length_drop, List.length_append, Name.wire] at hlength ⊢
  omega

theorem questionSection_eq {message : Bytes} (hlen : headerLen ≤ message.length) :
    questionSection message = .ok (Dns.questionSection message) := by
  unfold questionSection Dns.questionSection
  have hword : (wordAt message 4).toNat ≠ 1 ↔ wordAt message 4 ≠ 1 := by
    rw [ne_eq, ne_eq, ← UInt16.toNat_inj]
    rfl
  rw [wordAt_eq (by unfold headerLen at hlen; omega), Wire.ok_bind]
  by_cases hcount : wordAt message 4 = 1
  · rw [if_neg (by simp [hcount]), if_neg (by simp [hcount])]
    cases hskip : skipName message headerLen with
    | none => rfl
    | some nameEnd =>
      have hbounds := skipName_bounds hskip
      dsimp only
      split
      · rfl
      · rename_i hroom
        unfold Wire.range
        rw [if_pos (by omega), List.drop_take]
        rfl
  · rw [if_pos (hword.mpr hcount), if_pos hcount]
    rfl

theorem scanRecords_eq (message : Bytes) (records offset : ℕ) :
    scanRecords message records offset = .ok (Dns.scanRecords message records offset) := by
  induction records generalizing offset with
  | zero => rfl
  | succ records ih =>
    unfold scanRecords Dns.scanRecords
    cases hskip : skipName message offset with
    | none => rfl
    | some nameEnd =>
      dsimp only
      split
      · rfl
      · rename_i hroom
        rw [wordAt_eq (by omega), Wire.ok_bind, wordAt_eq (by omega), Wire.ok_bind]
        split
        · rfl
        · rw [wordAt_eq (by omega), Wire.ok_bind]
          split
          · rfl
          · exact ih _

theorem ednsPayloadLimit_eq {message : Bytes} (hlen : headerLen ≤ message.length) (offset : ℕ) :
    ednsPayloadLimit message offset = .ok (Dns.ednsPayloadLimit message offset) := by
  unfold headerLen at hlen
  unfold ednsPayloadLimit
  rw [wordAt_eq (by omega), Wire.ok_bind, wordAt_eq (by omega), Wire.ok_bind, wordAt_eq (by omega), Wire.ok_bind]
  exact scanRecords_eq message _ offset

end Checked

/-- The scans of a message follow its grammar and stay inside it. -/
theorem scans_match_grammar (message : Bytes) (hlen : headerLen ≤ message.length) :
    (∀ question, questionSection message = some question ↔
      wordAt message 4 = 1 ∧ ∃ (name : Name) (fields rest : Bytes), fields.length = 4 ∧
        message.drop headerLen = name.wire ++ fields ++ rest ∧ question = name.wire ++ fields) ∧
    (∀ question records, questionSection message = some question →
      message.drop (headerLen + question.length) = recordsWire records →
      announced message = records.length → records.length ≤ 32 →
      ednsPayloadLimit message (headerLen + question.length) =
        match records.find? fun record => record.kind.toNat = optRecordType with
        | some record => max 512 record.recordClass.toNat
        | none => 512) ∧
    Checked.questionSection message = .ok (questionSection message) ∧
    ∀ offset, Checked.ednsPayloadLimit message offset = .ok (ednsPayloadLimit message offset) := by
  refine ⟨fun question => questionSection_eq_some_iff hlen question, ?_, Checked.questionSection_eq hlen,
    Checked.ednsPayloadLimit_eq hlen⟩
  intro question records _ hwire hcount hle
  rw [ednsPayloadLimit_eq hwire hcount hle]
  unfold advertised
  split
  · exact Nat.max_comm _ _
  · rfl

def optRecord : Record := ⟨⟨[], .root, Nat.zero_le _⟩, 41, 4096, 0, [], by decide⟩

def optQuery : Bytes := [0, 7, 1, 0, 0, 1, 0, 0, 0, 0, 0, 1] ++ [0, 0, 1, 0, 1] ++ optRecord.wire

theorem optQuery_scanned :
    headerLen ≤ optQuery.length ∧ questionSection optQuery = some [0, 0, 1, 0, 1] ∧
      ednsPayloadLimit optQuery 17 = 4096 := by
  have hlen : headerLen ≤ optQuery.length := by decide
  have hquestion : questionSection optQuery = some [0, 0, 1, 0, 1] := by decide +kernel
  have hlimit := (scans_match_grammar optQuery hlen).2.1 _ [optRecord] hquestion rfl (by decide +kernel) (by decide)
  exact ⟨hlen, hquestion, hlimit⟩

end Yayatht.Dns
