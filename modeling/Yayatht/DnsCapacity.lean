import Yayatht.DnsHistory

set_option autoImplicit false

namespace Yayatht.Dns

/-- What the engine keeps of a query that it forwards. -/
def Kept (query : Bytes) (t : Transaction) : Prop :=
  ∃ (e engine : Engine) (endpoints : Endpoints) (resolverAvailable : Bool) (now : Millis) (upstreamId : UInt16),
    e.acceptQuery endpoints query resolverAvailable now = (engine, .forward upstreamId) ∧
      engine.transactions.find? upstreamId = some t

theorem Kept.spec {query : Bytes} {t : Transaction} (hk : Kept query t) :
    t.originalId = wordAt query 0 ∧ questionSection query = some t.question ∧
      t.payloadLimit = ednsPayloadLimit query (headerLen + t.question.length) := by
  obtain ⟨e, engine, endpoints, resolverAvailable, now, upstreamId, hquery, hfind⟩ := hk
  unfold Engine.acceptQuery at hquery
  split at hquery
  · cases hquery
  dsimp only at hquery
  split at hquery
  · cases hquery
  split at hquery
  · cases hquery
  rename_i question hquestion
  split at hquery
  · cases hquery
  split at hquery
  · cases hquery
  cases hquery
  rw [KeyedMap.find?_insert_self] at hfind
  cases hfind
  exact ⟨rfl, hquestion, rfl⟩

theorem Engine.acceptResponse_eq_some {e engine : Engine} {response : Bytes} {frameLimit : ℕ} {reply : Reply}
    (h : e.acceptResponse response frameLimit = (engine, some reply)) :
    ∃ question, questionSection response = some question ∧
      e.transactions.find? (wordAt response 0) = some reply.transaction ∧
      questionMatches reply.transaction.question question = true ∧
      reply.payload = (replyPayload reply.transaction response question (wordAt response 2) frameLimit).1 ∧
      headerLen ≤ response.length := by
  unfold Engine.acceptResponse at h
  split at h
  · cases h
  rename_i hlen
  dsimp only at h
  split at h
  · cases h
  split at h
  · cases h
  rename_i question hquestion
  split at h
  · cases h
  rename_i t hfind
  split at h
  · rename_i hmatches
    cases h
    exact ⟨question, hquestion, hfind, hmatches, rfl, by omega⟩
  · cases h

theorem questionSection_length {message question : Bytes} (hlen : headerLen ≤ message.length)
    (h : questionSection message = some question) : headerLen + question.length ≤ message.length := by
  unfold questionSection at h
  split at h
  · cases h
  split at h
  · cases h
  split at h
  · cases h
  cases h
  rw [List.length_drop, List.length_take]
  omega

/-- Within the capacity, and cut to the question of the response where that is longer. -/
structure Capacious (query response : Bytes) (frameLimit : ℕ) (reply : Reply) : Prop where
  fits : reply.payload.length ≤ min reply.transaction.payloadLimit frameLimit
  cut : min reply.transaction.payloadLimit frameLimit < response.length →
    ∃ flags question, flags &&& flagTruncated ≠ 0 ∧ questionSection response = some question ∧
      reply.payload = header (wordAt query 0) flags 1 ++ question

theorem or_flagTruncated (flags : UInt16) : (flags ||| flagTruncated) &&& flagTruncated ≠ 0 := by
  have hand : (flags ||| flagTruncated) &&& flagTruncated = flagTruncated := by
    apply UInt16.toBitVec_inj.mp
    rw [UInt16.toBitVec_and, UInt16.toBitVec_or]
    ext i
    simp only [BitVec.getElem_and, BitVec.getElem_or]
    cases flagTruncated.toBitVec[i] <;> simp
  rw [hand]
  decide

theorem length_header (id flags questions : UInt16) : (header id flags questions).length = headerLen := rfl

/-- The header and the question of the query fit the capacity it advertises. -/
def QuestionFits (query : Bytes) : Prop :=
  ∃ question, questionSection query = some question ∧
    headerLen + question.length ≤ ednsPayloadLimit query (headerLen + question.length)

/-- A reply is within the capacity exactly when the question of its query is. -/
theorem capacious_iff_questionFits {query response : Bytes} {e engine : Engine} {frameLimit : ℕ} {reply : Reply}
    (hkept : Kept query reply.transaction) (hframe : 1232 ≤ frameLimit)
    (hreply : e.acceptResponse response frameLimit = (engine, some reply)) :
    Capacious query response frameLimit reply ↔ QuestionFits query := by
  obtain ⟨hid, hasked, hlimit⟩ := hkept.spec
  obtain ⟨question, hquestion, -, hmatches, hpayload, hlen⟩ := Engine.acceptResponse_eq_some hreply
  have hsame := questionMatches_length hmatches
  have hroom := questionSection_length hlen hquestion
  have hfits : QuestionFits query ↔
      headerLen + question.length ≤ min reply.transaction.payloadLimit frameLimit := by
    have hle := reply.transaction.question_le
    unfold maxQuestionBytes at hle
    rw [hsame, hlimit]
    unfold headerLen
    constructor
    · rintro ⟨other, hother, hother_le⟩
      rw [hasked] at hother
      cases hother
      unfold headerLen at hother_le
      omega
    · intro hmin
      exact ⟨_, hasked, by unfold headerLen; omega⟩
  rw [hfits]
  unfold Engine.replyPayload at hpayload
  by_cases hlong : response.length > min reply.transaction.payloadLimit frameLimit
  · rw [if_pos hlong] at hpayload
    have hsize : reply.payload.length = headerLen + question.length := by
      rw [hpayload, List.length_append, length_header]
    constructor
    · intro hc
      have := hc.fits
      omega
    · intro hle
      refine ⟨by omega, fun _ => ⟨_, question, or_flagTruncated (wordAt response 2), hquestion, ?_⟩⟩
      rw [hpayload, hid]
  · rw [if_neg hlong] at hpayload
    have hsize : reply.payload.length = response.length := by
      rw [hpayload, List.length_append, List.length_drop]
      unfold headerLen at hlen
      change 2 + _ = _
      omega
    constructor
    · intro _
      omega
    · intro _
      exact ⟨by omega, fun hn => absurd hn hlong⟩

def sampleEndpoints : Endpoints := ⟨.v4 0xc0000202#32 40000, .v4 0xc0000201#32 53, rfl⟩

def sampleQuestion (labels : List ℕ) : Bytes :=
  (labels.flatMap fun length => UInt8.ofNat length :: List.replicate length 97) ++ [0, 0, 1, 0, 1]

def sampleQuery (labels : List ℕ) : Bytes := [0, 9, 1, 0, 0, 1, 0, 0, 0, 0, 0, 0] ++ sampleQuestion labels

/-- A response with as many octets behind the question. -/
def sampleResponse (labels : List ℕ) (answer : ℕ) : Bytes :=
  [0, 0, 0x81, 0x80, 0, 1, 0, 1, 0, 0, 0, 0] ++ sampleQuestion labels ++ List.replicate answer 0xab

def sampleEngine (labels : List ℕ) : Engine :=
  (({} : Engine).acceptQuery sampleEndpoints (sampleQuery labels) true 0).1

theorem sample_reply {labels : List ℕ} {response : Bytes}
    (hquery : (({} : Engine).acceptQuery sampleEndpoints (sampleQuery labels) true 0).2 = .forward 0)
    (hid : wordAt response 0 = 0)
    (hsome : ((sampleEngine labels).acceptResponse response 1400).2.isSome = true) :
    ∃ engine reply, (sampleEngine labels).acceptResponse response 1400 = (engine, some reply) ∧
      Kept (sampleQuery labels) reply.transaction := by
  cases hresponse : (sampleEngine labels).acceptResponse response 1400 with
  | mk engine reply =>
    rw [hresponse] at hsome
    obtain ⟨reply, rfl⟩ := Option.isSome_iff_exists.mp hsome
    obtain ⟨-, -, hfind, -⟩ := Engine.acceptResponse_eq_some hresponse
    rw [hid] at hfind
    exact ⟨engine, reply, rfl, {}, sampleEngine labels, sampleEndpoints, true, 0, 0, Prod.ext rfl hquery, hfind⟩

theorem capacious_sample :
    ∃ engine reply, (sampleEngine [7, 3]).acceptResponse (sampleResponse [7, 3] 800) 1400 = (engine, some reply) ∧
      Capacious (sampleQuery [7, 3]) (sampleResponse [7, 3] 800) 1400 reply := by
  obtain ⟨engine, reply, hreply, hkept⟩ := @sample_reply [7, 3] (sampleResponse [7, 3] 800) (by decide +kernel)
    (by decide +kernel) (by decide +kernel)
  refine ⟨engine, reply, hreply, (capacious_iff_questionFits hkept (by omega) hreply).mpr ?_⟩
  exact ⟨sampleQuestion [7, 3], by decide +kernel, by decide +kernel⟩

/-- A name of 501 octets is forwarded, and its response is cut to 517. -/
def longLabels : List ℕ := [63, 63, 63, 63, 63, 63, 63, 51]

theorem long_question_not_capacious :
    ∃ engine reply, (sampleEngine longLabels).acceptResponse (sampleResponse longLabels 0) 1400 =
        (engine, some reply) ∧
      Kept (sampleQuery longLabels) reply.transaction ∧
      ¬ Capacious (sampleQuery longLabels) (sampleResponse longLabels 0) 1400 reply := by
  obtain ⟨engine, reply, hreply, hkept⟩ := @sample_reply longLabels (sampleResponse longLabels 0) (by decide +kernel)
    (by decide +kernel) (by decide +kernel)
  have hsizes : ((sampleEngine longLabels).acceptResponse (sampleResponse longLabels 0) 1400).2.map
      (fun reply => (reply.payload.length, reply.transaction.payloadLimit)) = some (517, 512) := by decide +kernel
  rw [hreply] at hsizes
  simp only [Option.map_some, Option.some.injEq, Prod.mk.injEq] at hsizes
  refine ⟨engine, reply, hreply, hkept, fun hc => ?_⟩
  have hfits := hc.fits
  omega

end Yayatht.Dns
