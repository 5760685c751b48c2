import Yayatht.Addresses
import Yayatht.KeyedMap

set_option autoImplicit false

namespace Yayatht.Dns

def maxTransactions : ℕ := 512
def defaultUdpPayloadLimit : ℕ := 512
def maxQuestionBytes : ℕ := 512
def queryTimeout : Millis := 5000
def headerLen : ℕ := 12
def flagResponse : UInt16 := 0x8000
def flagTruncated : UInt16 := 0x0200
def flagRecursionDesired : UInt16 := 0x0100
def flagRecursionAvailable : UInt16 := 0x0080
def rcodeFormerr : UInt16 := 1
def rcodeServfail : UInt16 := 2
def optRecordType : ℕ := 41

/-- The namespace endpoint of a query and the gateway endpoint it was sent to,
both read from one IP header. -/
structure Endpoints where
  client : SocketAddr
  gateway : SocketAddr
  sameFamily : client.isIpv4 = gateway.isIpv4

structure Transaction where
  endpoints : Endpoints
  originalId : UInt16
  queryFlags : UInt16
  question : Bytes
  payloadLimit : ℕ
  deadline : Millis
  question_le : question.length ≤ maxQuestionBytes

inductive QueryDisposition where
  | forward (upstreamId : UInt16)
  | respond (reply : Bytes)
  | drop
  deriving DecidableEq, Repr

structure Reply where
  transaction : Transaction
  payload : Bytes
  truncated : Bool

structure Engine where
  transactions : KeyedMap UInt16 Transaction := {}
  nextId : UInt16 := 0
  queryTimeout : Millis := queryTimeout

def wordAt (message : Bytes) (offset : ℕ) : UInt16 :=
  UInt16.ofNat (beWord message[offset]! message[offset + 1]!)

def wordBytes (word : UInt16) : Bytes := [UInt8.ofNat (word.toNat / 256), UInt8.ofNat word.toNat]

def header (id flags questions : UInt16) : Bytes :=
  wordBytes id ++ wordBytes flags ++ wordBytes questions ++ [0, 0, 0, 0, 0, 0]

def synthesizeFailure (id queryFlags : UInt16) (question : Bytes) (rcode : UInt16) : Bytes :=
  let flags :=
    flagResponse ||| (queryFlags &&& flagRecursionDesired) ||| flagRecursionAvailable |||
      (rcode &&& 0x000f)
  header id flags (if question = [] then 0 else 1) ++ question

/-- Skips a possibly compressed name within `steps` labels. -/
def skipLabels (message : Bytes) : ℕ → ℕ → Option ℕ
  | 0, _ => none
  | steps + 1, offset =>
    match message[offset]? with
    | none => none
    | some length =>
      if length = 0 then some (offset + 1)
      else if length &&& 0xc0 = 0xc0 then
        if offset + 2 ≤ message.length then some (offset + 2) else none
      else if length &&& 0xc0 ≠ 0 then none
      else skipLabels message steps (offset + length.toNat + 1)

def skipName (message : Bytes) (offset : ℕ) : Option ℕ := skipLabels message 128 offset

def questionSection (message : Bytes) : Option Bytes :=
  if wordAt message 4 ≠ 1 then none
  else
    match skipName message headerLen with
    | none => none
    | some nameEnd =>
      if nameEnd + 4 > message.length then none
      else some ((message.take (nameEnd + 4)).drop headerLen)

def toAsciiLowercase (byte : UInt8) : UInt8 :=
  if 65 ≤ byte.toNat ∧ byte.toNat ≤ 90 then byte + 32 else byte

def questionMatches (stored received : Bytes) : Bool :=
  if stored.length ≠ received.length ∨ stored.length < 4 then false
  else
    let nameLen := stored.length - 4
    stored.drop nameLen == received.drop nameLen &&
      (stored.take nameLen).map toAsciiLowercase == (received.take nameLen).map toAsciiLowercase

def scanRecords (message : Bytes) : ℕ → ℕ → ℕ
  | 0, _ => defaultUdpPayloadLimit
  | records + 1, offset =>
    match skipName message offset with
    | none => defaultUdpPayloadLimit
    | some nameEnd =>
      let fixedEnd := nameEnd + 10
      if fixedEnd > message.length then defaultUdpPayloadLimit
      else if (wordAt message nameEnd).toNat = optRecordType then
        max (wordAt message (nameEnd + 2)).toNat defaultUdpPayloadLimit
      else
        let next := fixedEnd + (wordAt message (fixedEnd - 2)).toNat
        if next > message.length then defaultUdpPayloadLimit else scanRecords message records next

def ednsPayloadLimit (message : Bytes) (offset : ℕ) : ℕ :=
  let records :=
    (wordAt message 6).toNat + (wordAt message 8).toNat + (wordAt message 10).toNat
  scanRecords message (min records 32) offset

namespace Transaction

def servfail (t : Transaction) : Bytes :=
  synthesizeFailure t.originalId t.queryFlags t.question rcodeServfail

end Transaction

namespace Engine

/-- One pass over the identifier space, which holds more identifiers than transactions. -/
def allocateWithin (e : Engine) : ℕ → UInt16 → UInt16 × UInt16
  | 0, id => (id, id + 1)
  | tries + 1, id =>
    if e.transactions.contains id then allocateWithin e tries (id + 1) else (id, id + 1)

def allocateId (e : Engine) : Engine × UInt16 :=
  let (id, nextId) := e.allocateWithin 65536 e.nextId
  ({ e with nextId := nextId }, id)

def acceptQuery (e : Engine) (endpoints : Endpoints) (message : Bytes) (resolverAvailable : Bool)
    (now : Millis) : Engine × QueryDisposition :=
  if message.length < headerLen then (e, .drop)
  else
    let id := wordAt message 0
    let flags := wordAt message 2
    if flags &&& flagResponse ≠ 0 then (e, .drop)
    else
      match questionSection message with
      | none => (e, .respond (synthesizeFailure id flags [] rcodeFormerr))
      | some question =>
        if h : question.length > maxQuestionBytes then
          (e, .respond (synthesizeFailure id flags [] rcodeFormerr))
        else if resolverAvailable = false ∨ maxTransactions ≤ e.transactions.size then
          (e, .respond (synthesizeFailure id flags question rcodeServfail))
        else
          let (e, upstreamId) := e.allocateId
          let transaction : Transaction :=
            { endpoints := endpoints
              originalId := id
              queryFlags := flags
              question := question
              payloadLimit := ednsPayloadLimit message (headerLen + question.length)
              deadline := now + e.queryTimeout
              question_le := Nat.le_of_not_gt h }
          ({ e with transactions := e.transactions.insert upstreamId transaction }, .forward upstreamId)

def replyPayload (t : Transaction) (message question : Bytes) (flags : UInt16) (frameLimit : ℕ) :
    Bytes × Bool :=
  if message.length > min t.payloadLimit frameLimit then
    (header t.originalId (flags ||| flagTruncated) 1 ++ question, true)
  else (wordBytes t.originalId ++ message.drop 2, false)

def acceptResponse (e : Engine) (message : Bytes) (frameLimit : ℕ) : Engine × Option Reply :=
  if message.length < headerLen then (e, none)
  else
    let upstreamId := wordAt message 0
    let flags := wordAt message 2
    if flags &&& flagResponse = 0 then (e, none)
    else
      match questionSection message with
      | none => (e, none)
      | some question =>
        match e.transactions.find? upstreamId with
        | none => (e, none)
        | some t =>
          if questionMatches t.question question then
            let (payload, truncated) := replyPayload t message question flags frameLimit
            ({ e with transactions := e.transactions.erase upstreamId },
              some ⟨t, payload, truncated⟩)
          else (e, none)

def expire (e : Engine) (now : Millis) : Engine × List (Transaction × Bytes) :=
  let due := e.transactions.entries.filter fun entry => entry.2.deadline ≤ now
  ({ e with transactions := due.foldl (fun m entry => m.erase entry.1) e.transactions },
    due.map fun entry => (entry.2, entry.2.servfail))

def abort (e : Engine) (upstreamId : UInt16) : Engine × Option (Transaction × Bytes) :=
  match e.transactions.find? upstreamId with
  | none => (e, none)
  | some t => ({ e with transactions := e.transactions.erase upstreamId }, some (t, t.servfail))

def failAll (e : Engine) : Engine × List (Transaction × Bytes) :=
  ({ e with transactions := {} }, e.transactions.entries.map fun entry => (entry.2, entry.2.servfail))

def isIdle (e : Engine) : Bool := e.transactions.isEmpty

end Engine

theorem synthesizeFailure_length (id queryFlags rcode : UInt16) (question : Bytes) :
    (synthesizeFailure id queryFlags question rcode).length = headerLen + question.length := by
  simp [synthesizeFailure, header, wordBytes, headerLen]
  omega

theorem questionMatches_length {stored received : Bytes} (h : questionMatches stored received = true) :
    received.length = stored.length := by
  unfold questionMatches at h
  split at h
  · cases h
  · omega

theorem Engine.acceptQuery_length {e : Engine} {endpoints : Endpoints} {message : Bytes}
    {resolverAvailable : Bool} {now : Millis} {reply : Bytes}
    (h : (e.acceptQuery endpoints message resolverAvailable now).2 = .respond reply) :
    reply.length ≤ headerLen + maxQuestionBytes := by
  unfold Engine.acceptQuery at h
  split at h
  · cases h
  dsimp only at h
  split at h
  · cases h
  split at h
  · cases h
    rw [synthesizeFailure_length]
    exact Nat.add_le_add_left (Nat.zero_le _) _
  split at h
  · cases h
    rw [synthesizeFailure_length]
    exact Nat.add_le_add_left (Nat.zero_le _) _
  rename_i hle
  split at h
  · cases h
    rw [synthesizeFailure_length]
    omega
  · cases h

theorem Engine.acceptResponse_length {e e' : Engine} {message : Bytes} {frameLimit : ℕ} {r : Reply}
    (h : e.acceptResponse message frameLimit = (e', some r)) :
    r.payload.length ≤ max (headerLen + maxQuestionBytes) frameLimit := by
  unfold Engine.acceptResponse at h
  split at h
  · simp at h
  rename_i hlen
  dsimp only at h
  split at h
  · simp at h
  split at h
  · simp at h
  split at h
  · simp at h
  rename_i t _
  split at h
  · rename_i hm
    have hq := questionMatches_length hm
    have hle := t.question_le
    simp only [Prod.mk.injEq, Option.some.injEq] at h
    rw [← h.2]
    dsimp only [Engine.replyPayload]
    split
    · simp [header, wordBytes, headerLen]
      unfold maxQuestionBytes at hle ⊢
      omega
    · simp [wordBytes]
      unfold headerLen at hlen
      omega
  · simp at h

end Yayatht.Dns
