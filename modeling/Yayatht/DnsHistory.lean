import Yayatht.DnsEngine
import Mathlib.Data.List.Perm.Subperm
import Mathlib.Data.List.Nodup
import Mathlib.Data.Nat.Find

set_option autoImplicit false

namespace Yayatht.Dns

def nameLabels : ℕ → Bytes → Option (List Bytes)
  | 0, _ => none
  | _ + 1, [] => none
  | steps + 1, length :: rest =>
    if length = 0 then if rest = [] then some [] else none
    else if length.toNat < 64 ∧ length.toNat ≤ rest.length then
      (nameLabels steps (rest.drop length.toNat)).map fun labels => rest.take length.toNat :: labels
    else none

def lowercase (labels : List Bytes) : List Bytes := labels.map (List.map toAsciiLowercase)

/-- One type and one class, and for an uncompressed name the same labels up to ASCII case. -/
def SameQuestion (query response : Bytes) : Prop :=
  ∃ asked answered, questionSection query = some asked ∧ questionSection response = some answered ∧
    asked.length = answered.length ∧ 4 ≤ asked.length ∧
    asked.drop (asked.length - 4) = answered.drop (answered.length - 4) ∧
    ∀ labels, nameLabels 128 (asked.take (asked.length - 4)) = some labels →
      ∃ others, nameLabels 128 (answered.take (answered.length - 4)) = some others ∧
        lowercase others = lowercase labels

section Names

theorem toAsciiLowercase_eq {a b : UInt8} (h : toAsciiLowercase a = toAsciiLowercase b)
    (ha : a.toNat < 64) : b = a := by
  unfold toAsciiLowercase at h
  rw [if_neg (by omega)] at h
  split at h
  · rename_i hb
    have hsum := congrArg UInt8.toNat h
    rw [UInt8.toNat_add] at hsum
    have h32 : (32 : UInt8).toNat = 32 := rfl
    omega
  · exact h.symm

theorem nameLabels_lowercase (steps : ℕ) {asked answered : Bytes} {labels : List Bytes}
    (h : asked.map toAsciiLowercase = answered.map toAsciiLowercase)
    (hl : nameLabels steps asked = some labels) :
    ∃ others, nameLabels steps answered = some others ∧ lowercase others = lowercase labels := by
  induction steps generalizing asked answered labels with
  | zero => cases hl
  | succ steps ih =>
    cases asked with
    | nil => cases hl
    | cons length rest =>
      cases answered with
      | nil => cases h
      | cons length' rest' =>
        obtain ⟨hlength, hrest⟩ := List.cons.inj h
        have hsize : rest.length = rest'.length := by
          have := congrArg List.length hrest
          simpa using this
        unfold nameLabels at hl ⊢
        by_cases hzero : length = 0
        · subst hzero
          have he : length' = 0 := toAsciiLowercase_eq hlength (by decide)
          rw [if_pos rfl] at hl
          split at hl
          · rename_i hnil
            cases hl
            have hnil' : rest' = [] := List.length_eq_zero_iff.mp (by rw [← hsize, hnil]; rfl)
            exact ⟨[], by rw [if_pos he, if_pos hnil'], rfl⟩
          · cases hl
        · rw [if_neg hzero] at hl
          split at hl
          · rename_i hfits
            have he : length' = length := toAsciiLowercase_eq hlength hfits.1
            obtain ⟨tail, htail, rfl⟩ := Option.map_eq_some_iff.mp hl
            have hdrop : (rest.drop length.toNat).map toAsciiLowercase =
                (rest'.drop length.toNat).map toAsciiLowercase := by
              rw [List.map_drop, List.map_drop, hrest]
            obtain ⟨others, hothers, hlower⟩ := ih hdrop htail
            refine ⟨rest'.take length.toNat :: others, ?_, ?_⟩
            · rw [he, if_neg hzero, if_pos ⟨hfits.1, by omega⟩, hothers]
              rfl
            · change _ :: lowercase others = _ :: lowercase tail
              rw [hlower, List.map_take, List.map_take, hrest]
          · cases hl

theorem sameQuestion_of_matches {query response asked answered : Bytes}
    (hq : questionSection query = some asked) (hr : questionSection response = some answered)
    (h : questionMatches asked answered = true) : SameQuestion query response := by
  unfold questionMatches at h
  split at h
  · cases h
  rename_i hlength
  have hsame : asked.length = answered.length := by omega
  dsimp only at h
  rw [Bool.and_eq_true, beq_iff_eq, beq_iff_eq] at h
  refine ⟨asked, answered, hq, hr, hsame, by omega, ?_, fun labels hl => ?_⟩
  · rw [← hsame]
    exact h.1
  · rw [← hsame]
    exact nameLabels_lowercase 128 h.2 hl

end Names

section Words

theorem wordBytes_wordAt {message : Bytes} (h : headerLen ≤ message.length) :
    wordBytes (wordAt message 0) = message.take 2 := by
  match message, h with
  | a :: b :: rest, _ =>
    have ha := a.toNat_lt
    have hb := b.toNat_lt
    have hword : (wordAt (a :: b :: rest) 0).toNat = a.toNat * 256 + b.toNat := by
      change (UInt16.ofNat (beWord a b)).toNat = _
      rw [UInt16.toNat_ofNat']
      unfold beWord
      omega
    unfold wordBytes
    rw [hword]
    have h1 : UInt8.ofNat ((a.toNat * 256 + b.toNat) / 256) = a := by
      apply UInt8.toNat_inj.mp
      rw [UInt8.toNat_ofNat']
      omega
    have h2 : UInt8.ofNat (a.toNat * 256 + b.toNat) = b := by
      apply UInt8.toNat_inj.mp
      rw [UInt8.toNat_ofNat']
      omega
    rw [h1, h2]
    rfl
  | [_], h => exact absurd h (by simp [headerLen])
  | [], h => exact absurd h (by simp [headerLen])

theorem servfail_take (t : Transaction) : t.servfail.take 2 = wordBytes t.originalId := rfl

theorem replyPayload_take (t : Transaction) (message question : Bytes) (flags : UInt16) (frameLimit : ℕ) :
    (Engine.replyPayload t message question flags frameLimit).1.take 2 = wordBytes t.originalId := by
  unfold Engine.replyPayload
  split <;> rfl

end Words

section Allocation

variable (e : Engine)

/-- The first identifier that is not taken, found in round `round`. -/
structure Allocated (start : UInt16) (round : ℕ) : Prop where
  free : e.transactions.contains (start + UInt16.ofNat round) = false
  taken : ∀ earlier < round, e.transactions.contains (start + UInt16.ofNat earlier) = true

theorem allocateWithin_eq {start : UInt16} {round : ℕ} (h : Allocated e start round) (tries : ℕ)
    (hr : round ≤ tries) :
    e.allocateWithin tries start =
      (start + UInt16.ofNat round, start + UInt16.ofNat round + 1) := by
  induction round generalizing start tries with
  | zero =>
    have hzero : start + UInt16.ofNat 0 = start := UInt16.add_zero start
    have hfree := h.free
    rw [hzero] at hfree ⊢
    cases tries with
    | zero => rfl
    | succ tries =>
      unfold Engine.allocateWithin
      rw [hfree]
      rfl
  | succ round ih =>
    have hnext : ∀ n, start + UInt16.ofNat (n + 1) = start + 1 + UInt16.ofNat n := by
      intro n
      rw [UInt16.ofNat_add, UInt16.add_assoc, UInt16.add_comm (UInt16.ofNat n)]
      rfl
    have hrest : Allocated e (start + 1) round := by
      refine ⟨?_, fun earlier he => ?_⟩
      · rw [← hnext]
        exact h.free
      · rw [← hnext]
        exact h.taken (earlier + 1) (by omega)
    have hfirst := h.taken 0 (by omega)
    rw [show start + UInt16.ofNat 0 = start from UInt16.add_zero start] at hfirst
    cases tries with
    | zero => omega
    | succ tries =>
      unfold Engine.allocateWithin
      rw [hfirst, if_pos rfl, ih hrest tries (by omega), ← hnext]

theorem contains_iff_mem {κ α : Type} [DecidableEq κ] (m : KeyedMap κ α) (key : κ) :
    m.contains key = true ↔ key ∈ m.entries.map Prod.fst := by
  unfold KeyedMap.contains
  rw [Option.isSome_iff_ne_none, ne_eq, KeyedMap.find?_eq_none_iff]
  simp

theorem exists_allocated (hsize : e.transactions.size < 65536) (start : UInt16) :
    ∃ round ≤ e.transactions.size, Allocated e start round := by
  have hfree : ∃ round, e.transactions.contains (start + UInt16.ofNat round) = false ∧
      round ≤ e.transactions.size := by
    by_contra hall
    have htaken : ∀ round ≤ e.transactions.size,
        e.transactions.contains (start + UInt16.ofNat round) = true := by
      intro round hr
      by_contra hn
      exact hall ⟨round, by simpa using hn, hr⟩
    -- more distinct identifiers than entries
    have hnodup : ((List.range (e.transactions.size + 1)).map fun n => start + UInt16.ofNat n).Nodup := by
      refine List.Nodup.map_on ?_ List.nodup_range
      intro a ha b hb hab
      rw [List.mem_range] at ha hb
      have hsum := congrArg UInt16.toNat (UInt16.add_right_inj start |>.mp hab)
      rw [UInt16.toNat_ofNat', UInt16.toNat_ofNat'] at hsum
      omega
    have hsub : ((List.range (e.transactions.size + 1)).map fun n => start + UInt16.ofNat n) ⊆
        e.transactions.entries.map Prod.fst := by
      intro id hm
      obtain ⟨n, hn, rfl⟩ := List.mem_map.mp hm
      rw [List.mem_range] at hn
      exact (contains_iff_mem _ _).mp (htaken n (by omega))
    have hle := (List.subperm_of_subset hnodup hsub).length_le
    rw [List.length_map, List.length_map, List.length_range] at hle
    unfold KeyedMap.size at hle
    omega
  classical
  refine ⟨Nat.find hfree, (Nat.find_spec hfree).2, (Nat.find_spec hfree).1, fun earlier he => ?_⟩
  have hmin := Nat.find_min hfree he
  have hle := (Nat.find_spec hfree).2
  by_contra hn
  exact hmin ⟨by simpa using hn, by omega⟩

end Allocation

inductive Op where
  | acceptQuery (endpoints : Endpoints) (message : Bytes) (resolverAvailable : Bool) (now : Millis)
  | acceptResponse (message : Bytes) (frameLimit : ℕ)
  | expire (now : Millis)
  | abort (upstreamId : UInt16)
  | failAll

structure Query where
  number : ℕ
  upstreamId : UInt16
  endpoints : Endpoints
  message : Bytes

/-- The queries forwarded and what was yielded for them, newest first. -/
structure History where
  engine : Engine
  asked : List Query := []
  yields : List (Transaction × Bytes) := []

namespace History

def step (h : History) : Op → History
  | .acceptQuery endpoints message resolverAvailable now =>
    let (engine, disposition) := h.engine.acceptQuery endpoints message resolverAvailable now
    match disposition with
    | .forward upstreamId =>
      { h with engine := engine, asked := ⟨h.asked.length, upstreamId, endpoints, message⟩ :: h.asked }
    | _ => { h with engine := engine }
  | .acceptResponse message frameLimit =>
    let (engine, reply) := h.engine.acceptResponse message frameLimit
    { h with
      engine := engine
      yields := (reply.map fun reply => (reply.transaction, reply.payload)).toList ++ h.yields }
  | .expire now =>
    let (engine, failed) := h.engine.expire now
    { h with engine := engine, yields := failed ++ h.yields }
  | .abort upstreamId =>
    let (engine, aborted) := h.engine.abort upstreamId
    { h with engine := engine, yields := aborted.toList ++ h.yields }
  | .failAll =>
    let (engine, failed) := h.engine.failAll
    { h with engine := engine, yields := failed ++ h.yields }

def start (queryTimeout : Millis) : History := { engine := { queryTimeout := queryTimeout } }

def play (queryTimeout : Millis) (ops : List Op) : History := ops.foldl step (start queryTimeout)

end History

/-- The reply is for the client of the query and under its identifier. -/
def Serves (query : Query) (yield : Transaction × Bytes) : Prop :=
  yield.1.endpoints = query.endpoints ∧ yield.2.take 2 = query.message.take 2

/-- The transaction of a query that waits. -/
structure Waits (query : Query) (t : Transaction) : Prop where
  endpoints : t.endpoints = query.endpoints
  originalId : wordBytes t.originalId = query.message.take 2
  question : questionSection query.message = some t.question

/-- Every query asked was served or waits. -/
structure Accounted (h : History) (served : List (Query × (Transaction × Bytes)))
    (waiting : List (Query × Transaction)) : Prop where
  numbered : ∀ query ∈ h.asked, query.number < h.asked.length
  distinct : h.asked.Nodup
  split : h.asked.Perm (served.map Prod.fst ++ waiting.map Prod.fst)
  yielded : h.yields = served.map Prod.snd
  serves : ∀ pair ∈ served, Serves pair.1 pair.2
  outstanding : h.engine.transactions.entries = waiting.map fun pair => (pair.1.upstreamId, pair.2)
  waits : ∀ pair ∈ waiting, Waits pair.1 pair.2
  keys : h.engine.transactions.Distinct
  bounded : h.engine.transactions.size ≤ maxTransactions

namespace Accounted

variable {h : History} {served : List (Query × (Transaction × Bytes))}
  {waiting : List (Query × Transaction)}

theorem initial (queryTimeout : Millis) : Accounted (History.start queryTimeout) [] [] where
  numbered _ hq := by cases hq
  distinct := List.nodup_nil
  split := .refl _
  yielded := rfl
  serves _ hp := by cases hp
  outstanding := rfl
  waits _ hp := by cases hp
  keys := List.nodup_nil
  bounded := Nat.zero_le _

theorem serve (ha : Accounted h served waiting) {engine : Engine}
    (done : List (Query × (Transaction × Bytes))) {left : List (Query × Transaction)}
    (hsplit : waiting.Perm ((done.map fun pair => (pair.1, pair.2.1)) ++ left))
    (hpayload : ∀ pair ∈ done, pair.2.2.take 2 = wordBytes pair.2.1.originalId)
    (hleft : engine.transactions.entries = left.map fun pair => (pair.1.upstreamId, pair.2))
    (hkeys : engine.transactions.Distinct) :
    Accounted { h with engine := engine, yields := done.map Prod.snd ++ h.yields } (done ++ served) left where
  numbered := ha.numbered
  distinct := ha.distinct
  split := by
    have hmoved := hsplit.map Prod.fst
    rw [List.map_append, List.map_map] at hmoved
    change (waiting.map Prod.fst).Perm (done.map Prod.fst ++ left.map Prod.fst) at hmoved
    refine ha.split.trans ((hmoved.append_left _).trans ?_)
    rw [List.map_append, ← List.append_assoc]
    exact List.perm_append_comm.append_right _
  yielded := by
    dsimp only
    rw [List.map_append, ha.yielded]
  serves pair hp := by
    rcases List.mem_append.mp hp with hp | hp
    · have hw := hsplit.mem_iff.mpr (List.mem_append_left _ (List.mem_map_of_mem hp))
      have hwaits := ha.waits _ hw
      exact ⟨hwaits.endpoints, (hpayload pair hp).trans hwaits.originalId⟩
    · exact ha.serves pair hp
  outstanding := hleft
  waits pair hp := ha.waits pair (hsplit.mem_iff.mpr (List.mem_append_right _ hp))
  keys := hkeys
  bounded := by
    have hlen := hsplit.length_eq
    have hold := ha.bounded
    unfold KeyedMap.size at hold ⊢
    rw [ha.outstanding, List.length_map] at hold
    dsimp only
    rw [hleft, List.length_map]
    rw [List.length_append] at hlen
    omega

theorem find (ha : Accounted h served waiting) {id : UInt16} {t : Transaction}
    (hf : h.engine.transactions.find? id = some t) :
    ∃ query, (query, t) ∈ waiting ∧ query.upstreamId = id := by
  have hm : (id, t) ∈ h.engine.transactions.entries :=
    (ha.keys.perm_erase hf).mem_iff.mpr List.mem_cons_self
  rw [ha.outstanding] at hm
  obtain ⟨pair, hp, he⟩ := List.mem_map.mp hm
  obtain ⟨hid, ht⟩ := Prod.mk.inj he
  exact ⟨pair.1, by rw [← ht]; exact hp, hid⟩

theorem waiting_nodup (ha : Accounted h served waiting) :
    (waiting.map fun pair => pair.1.upstreamId).Nodup := by
  have hk := ha.keys
  unfold KeyedMap.Distinct at hk
  rw [ha.outstanding, List.map_map] at hk
  exact hk

theorem split_one (ha : Accounted h served waiting) {query : Query} {t : Transaction}
    (hw : (query, t) ∈ waiting) :
    waiting.Perm ([(query, t)] ++ waiting.filter fun pair => pair.1.upstreamId ≠ query.upstreamId) := by
  have hone : waiting.filter (fun pair => pair.1.upstreamId = query.upstreamId) = [(query, t)] := by
    have hpair : ∀ pair ∈ waiting, pair.1.upstreamId = query.upstreamId → pair = (query, t) := fun pair hp he =>
      List.inj_on_of_nodup_map ha.waiting_nodup hp hw he
    have hnodup : (waiting.filter fun pair => pair.1.upstreamId = query.upstreamId).Nodup :=
      (List.Nodup.of_map _ ha.waiting_nodup).filter _
    refine List.perm_singleton.mp ((List.perm_ext_iff_of_nodup hnodup (List.nodup_singleton _)).mpr ?_)
    intro pair
    rw [List.mem_filter, List.mem_singleton, decide_eq_true_eq]
    constructor
    · rintro ⟨hp, he⟩
      exact hpair pair hp he
    · rintro rfl
      exact ⟨hw, rfl⟩
  have hsplit := List.filter_append_perm (fun pair => decide (pair.1.upstreamId = query.upstreamId)) waiting
  rw [hone] at hsplit
  simpa using hsplit.symm

theorem entries_erase (ha : Accounted h served waiting) (id : UInt16) :
    (h.engine.transactions.erase id).entries =
      (waiting.filter fun pair => pair.1.upstreamId ≠ id).map fun pair => (pair.1.upstreamId, pair.2) := by
  unfold KeyedMap.erase
  dsimp only
  rw [ha.outstanding, List.filter_map]
  rfl

theorem serve_one (ha : Accounted h served waiting) {id : UInt16} {t : Transaction}
    (hf : h.engine.transactions.find? id = some t) (payload : Bytes)
    (hpayload : payload.take 2 = wordBytes t.originalId) :
    ∃ served waiting, Accounted
      { h with
        engine := { h.engine with transactions := h.engine.transactions.erase id }
        yields := (t, payload) :: h.yields } served waiting := by
  obtain ⟨query, hw, rfl⟩ := ha.find hf
  exact ⟨_, _, ha.serve [(query, (t, payload))] (ha.split_one hw)
    (fun pair hp => by rw [List.mem_singleton.mp hp]; exact hpayload)
    (ha.entries_erase query.upstreamId) (ha.keys.erase _)⟩

/-- A response is taken by the waiting query it is for, or by none. -/
theorem acceptResponse_cases (ha : Accounted h served waiting) (message : Bytes) (frameLimit : ℕ) :
    h.engine.acceptResponse message frameLimit = (h.engine, none) ∨
      ∃ query t payload truncated, (query, t) ∈ waiting ∧
        h.engine.transactions.find? query.upstreamId = some t ∧ wordAt message 0 = query.upstreamId ∧
        SameQuestion query.message message ∧ payload.take 2 = wordBytes t.originalId ∧
        (truncated = false → payload = wordBytes t.originalId ++ message.drop 2) ∧ 2 ≤ message.length ∧
        h.engine.acceptResponse message frameLimit =
          ({ h.engine with transactions := h.engine.transactions.erase query.upstreamId },
            some ⟨t, payload, truncated⟩) := by
  unfold Engine.acceptResponse
  split
  · exact .inl rfl
  rename_i hlength
  dsimp only
  split
  · exact .inl rfl
  split
  · exact .inl rfl
  rename_i question hquestion
  split
  · exact .inl rfl
  rename_i t hfind
  split
  · rename_i hmatch
    obtain ⟨query, hw, hid⟩ := ha.find hfind
    refine .inr ⟨query, t, _, _, hw, by rw [hid]; exact hfind, hid.symm,
      sameQuestion_of_matches (ha.waits _ hw).question hquestion hmatch,
      replyPayload_take t message question _ frameLimit, ?_, ?_, by rw [hid]⟩
    · unfold Engine.replyPayload
      split
      · intro hn
        cases hn
      · exact fun _ => rfl
    · unfold headerLen at hlength
      omega
  · exact .inl rfl

theorem respond (ha : Accounted h served waiting) (message : Bytes) (frameLimit : ℕ) :
    ∃ served waiting, Accounted (h.step (.acceptResponse message frameLimit)) served waiting := by
  dsimp only [History.step]
  rcases ha.acceptResponse_cases message frameLimit with hnone |
    ⟨query, t, payload, truncated, -, hfind, -, -, hpayload, -, -, hsome⟩
  · rw [hnone]
    exact ⟨_, _, ha⟩
  · rw [hsome]
    exact ha.serve_one hfind payload hpayload

theorem abort (ha : Accounted h served waiting) (upstreamId : UInt16) :
    ∃ served waiting, Accounted (h.step (.abort upstreamId)) served waiting := by
  dsimp only [History.step, Engine.abort]
  cases hfind : h.engine.transactions.find? upstreamId with
  | none => exact ⟨_, _, ha⟩
  | some t => exact ha.serve_one hfind t.servfail (servfail_take t)

theorem fail (ha : Accounted h served waiting) (p : Transaction → Bool) (engine : Engine)
    (hentries : engine.transactions.entries =
      h.engine.transactions.entries.filter fun entry => !p entry.2) :
    ∃ served waiting, Accounted
      { h with
        engine := engine
        yields := ((h.engine.transactions.entries.filter fun entry => p entry.2).map fun entry =>
          (entry.2, entry.2.servfail)) ++ h.yields } served waiting := by
  have hserve := @serve h served waiting ha engine
    ((waiting.filter fun pair => p pair.2).map fun pair => (pair.1, (pair.2, pair.2.servfail)))
    (waiting.filter fun pair => !p pair.2) ?_ ?_ ?_ ?_
  · rw [ha.outstanding, List.filter_map, List.map_map]
    rw [List.map_map] at hserve
    exact ⟨_, _, hserve⟩
  · rw [List.map_map]
    change waiting.Perm ((waiting.filter fun pair => p pair.2).map id ++ _)
    rw [List.map_id]
    exact (List.filter_append_perm (fun pair => p pair.2) waiting).symm
  · intro pair hp
    obtain ⟨w, -, rfl⟩ := List.mem_map.mp hp
    exact servfail_take w.2
  · rw [hentries, ha.outstanding, List.filter_map]
    rfl
  · unfold KeyedMap.Distinct
    rw [hentries]
    exact List.Nodup.sublist (List.filter_sublist.map Prod.fst) ha.keys

end Accounted

theorem entries_eraseAll {κ α : Type} [DecidableEq κ] {m : KeyedMap κ α} (hd : m.Distinct) (p : κ × α → Bool) :
    ((m.entries.filter p).foldl (fun m entry => m.erase entry.1) m).entries =
      m.entries.filter fun entry => !p entry := by
  have hloop : ∀ (due : List (κ × α)) (m : KeyedMap κ α),
      (due.foldl (fun m entry => m.erase entry.1) m).entries =
        m.entries.filter fun entry => decide (entry.1 ∉ due.map Prod.fst) := by
    intro due
    induction due with
    | nil => simp
    | cons entry due ih =>
      intro m
      rw [List.foldl_cons, ih]
      unfold KeyedMap.erase
      dsimp only
      rw [List.filter_filter]
      apply List.filter_congr
      intro other _
      simp only [List.map_cons, List.mem_cons, not_or, ne_eq, Bool.decide_and, Bool.and_comm]
  rw [hloop]
  apply List.filter_congr
  intro entry hm
  have hiff : entry.1 ∈ (m.entries.filter p).map Prod.fst ↔ p entry = true := by
    constructor
    · intro hk
      obtain ⟨other, ho, hkey⟩ := List.mem_map.mp hk
      obtain ⟨hmem, hp⟩ := List.mem_filter.mp ho
      rwa [← List.inj_on_of_nodup_map hd hmem hm hkey]
    · intro hp
      exact List.mem_map_of_mem (List.mem_filter.mpr ⟨hm, hp⟩)
  cases hp : p entry <;> simp [hiff, hp]

namespace Accounted

variable {h : History} {served : List (Query × (Transaction × Bytes))}
  {waiting : List (Query × Transaction)}

theorem expire (ha : Accounted h served waiting) (now : Millis) :
    ∃ served waiting, Accounted (h.step (.expire now)) served waiting := by
  dsimp only [History.step, Engine.expire]
  exact ha.fail (fun t => t.deadline ≤ now) _
    (entries_eraseAll ha.keys fun entry => decide (entry.2.deadline ≤ now))

theorem failAll (ha : Accounted h served waiting) :
    ∃ served waiting, Accounted (h.step .failAll) served waiting := by
  have hfail := ha.fail (fun _ => true) h.engine.failAll.1 (by simp [Engine.failAll])
  dsimp only [History.step, Engine.failAll]
  rw [List.filter_true] at hfail
  exact hfail

theorem acceptQuery_cases (e : Engine) (hsize : e.transactions.size ≤ maxTransactions) (endpoints : Endpoints)
    (message : Bytes) (resolverAvailable : Bool) (now : Millis) :
    (∃ disposition, e.acceptQuery endpoints message resolverAvailable now = (e, disposition) ∧
        ∀ upstreamId, disposition ≠ .forward upstreamId) ∨
      ∃ upstreamId t engine,
        e.acceptQuery endpoints message resolverAvailable now = (engine, .forward upstreamId) ∧
        engine.transactions = e.transactions.insert upstreamId t ∧
        e.transactions.find? upstreamId = none ∧ e.transactions.size < maxTransactions ∧
        t.endpoints = endpoints ∧ wordBytes t.originalId = message.take 2 ∧
        questionSection message = some t.question := by
  unfold Engine.acceptQuery
  split
  · exact .inl ⟨_, rfl, fun _ hn => by cases hn⟩
  rename_i hlength
  dsimp only
  split
  · exact .inl ⟨_, rfl, fun _ hn => by cases hn⟩
  split
  · exact .inl ⟨_, rfl, fun _ hn => by cases hn⟩
  rename_i question hquestion
  split
  · exact .inl ⟨_, rfl, fun _ hn => by cases hn⟩
  split
  · exact .inl ⟨_, rfl, fun _ hn => by cases hn⟩
  rename_i hroom
  unfold maxTransactions at hsize hroom
  obtain ⟨round, hround, hallocated⟩ := exists_allocated e (by omega) e.nextId
  have hid := allocateWithin_eq e hallocated 65536 (by omega)
  refine .inr ⟨_, _, _, rfl, rfl, ?_, by unfold maxTransactions; omega, rfl, ?_, hquestion⟩
  · have hfree := hallocated.free
    unfold Engine.allocateId
    rw [hid]
    unfold KeyedMap.contains at hfree
    simpa using hfree
  · exact wordBytes_wordAt (by omega)

theorem ask (ha : Accounted h served waiting) (endpoints : Endpoints) (message : Bytes)
    (resolverAvailable : Bool) (now : Millis) :
    ∃ served waiting,
      Accounted (h.step (.acceptQuery endpoints message resolverAvailable now)) served waiting := by
  dsimp only [History.step]
  rcases acceptQuery_cases h.engine ha.bounded endpoints message resolverAvailable now with
    ⟨disposition, heq, hnot⟩ | ⟨upstreamId, t, engine, heq, htransactions, hfind, hroom, hends, hid, hquestion⟩
  · rw [heq]
    cases disposition with
    | forward upstreamId => exact absurd rfl (hnot upstreamId)
    | respond reply => exact ⟨_, _, ha⟩
    | drop => exact ⟨_, _, ha⟩
  · rw [heq]
    have hentries : engine.transactions.entries = (upstreamId, t) :: h.engine.transactions.entries := by
      rw [htransactions]
      unfold KeyedMap.insert
      rw [KeyedMap.erase_of_absent hfind]
    refine ⟨served, (⟨h.asked.length, upstreamId, endpoints, message⟩, t) :: waiting, ?_, ?_, ?_, ha.yielded,
      ha.serves, ?_, ?_, ?_, ?_⟩
    · intro query hq
      rcases List.mem_cons.mp hq with rfl | hq
      · exact Nat.lt_succ_self _
      · exact Nat.lt_succ_of_lt (ha.numbered query hq)
    · refine List.nodup_cons.mpr ⟨fun hm => ?_, ha.distinct⟩
      exact Nat.lt_irrefl _ (ha.numbered _ hm)
    · exact (ha.split.cons _).trans List.perm_middle.symm
    · dsimp only
      rw [hentries, ha.outstanding]
      rfl
    · intro pair hp
      rcases List.mem_cons.mp hp with rfl | hp
      · exact ⟨hends, hid, hquestion⟩
      · exact ha.waits pair hp
    · change engine.transactions.Distinct
      rw [htransactions]
      exact ha.keys.insert upstreamId t
    · change engine.transactions.size ≤ maxTransactions
      rw [htransactions, KeyedMap.size_insert_of_absent hfind]
      exact hroom

theorem step (ha : Accounted h served waiting) (op : Op) :
    ∃ served waiting, Accounted (h.step op) served waiting := by
  cases op with
  | acceptQuery endpoints message resolverAvailable now => exact ha.ask endpoints message resolverAvailable now
  | acceptResponse message frameLimit => exact ha.respond message frameLimit
  | expire now => exact ha.expire now
  | abort upstreamId => exact ha.abort upstreamId
  | failAll => exact ha.failAll

theorem play (queryTimeout : Millis) (ops : List Op) :
    ∃ served waiting, Accounted (History.play queryTimeout ops) served waiting := by
  have hloop : ∀ (ops : List Op) (h : History), (∃ served waiting, Accounted h served waiting) →
      ∃ served waiting, Accounted (ops.foldl History.step h) served waiting := by
    intro ops
    induction ops with
    | nil => exact fun _ ha => ha
    | cons op ops ih =>
      rintro h ⟨served, waiting, ha⟩
      exact ih (h.step op) (ha.step op)
  exact hloop ops _ ⟨[], [], initial queryTimeout⟩

end Accounted

/-- What a history says about its queries. -/
structure Answers (h : History) (served : List (Query × (Transaction × Bytes)))
    (waiting : List (Query × Transaction)) : Prop where
  outstanding_le : h.engine.transactions.size ≤ maxTransactions
  allocates : ∃ round ≤ h.engine.transactions.size, Allocated h.engine h.engine.nextId round ∧
    h.engine.allocateId =
      ({ h.engine with nextId := h.engine.nextId + UInt16.ofNat round + 1 },
        h.engine.nextId + UInt16.ofNat round)
  asked_distinct : h.asked.Nodup
  asked_split : h.asked.Perm (served.map Prod.fst ++ waiting.map Prod.fst)
  yielded : h.yields = served.map Prod.snd
  outstanding : h.engine.transactions.entries = waiting.map fun pair => (pair.1.upstreamId, pair.2)
  served_right : ∀ query t payload, (query, (t, payload)) ∈ served →
    t.endpoints.client = query.endpoints.client ∧ t.endpoints.gateway = query.endpoints.gateway ∧
      payload.take 2 = query.message.take 2
  response_unmatched : ∀ message frameLimit, (h.engine.acceptResponse message frameLimit).2 = none →
    (h.engine.acceptResponse message frameLimit).1 = h.engine
  response_matched : ∀ message frameLimit reply,
    (h.engine.acceptResponse message frameLimit).2 = some reply →
      ∃ query, (query, reply.transaction) ∈ waiting ∧ wordAt message 0 = query.upstreamId ∧
        SameQuestion query.message message ∧
        (reply.truncated = false →
          reply.payload = query.message.take 2 ++ message.drop 2 ∧ reply.payload.length = message.length)

/-- Every query forwarded is answered at most once, and its own client is. -/
theorem History.play_answers (queryTimeout : Millis) (ops : List Op) :
    ∃ served waiting, Answers (History.play queryTimeout ops) served waiting := by
  obtain ⟨served, waiting, ha⟩ := Accounted.play queryTimeout ops
  refine ⟨served, waiting, ha.bounded, ?_, ha.distinct, ha.split, ha.yielded, ha.outstanding, ?_, ?_, ?_⟩
  · have hsize := ha.bounded
    unfold maxTransactions at hsize
    obtain ⟨round, hround, hallocated⟩ :=
      exists_allocated (History.play queryTimeout ops).engine (by omega)
        (History.play queryTimeout ops).engine.nextId
    refine ⟨round, hround, hallocated, ?_⟩
    unfold Engine.allocateId
    rw [allocateWithin_eq _ hallocated 65536 (by omega)]
  · intro query t payload hp
    obtain ⟨hends, hid⟩ := ha.serves _ hp
    dsimp only at hends
    rw [hends]
    exact ⟨rfl, rfl, hid⟩
  · intro message frameLimit hnone
    rcases ha.acceptResponse_cases message frameLimit with heq |
      ⟨_, _, _, _, -, -, -, -, -, -, -, heq⟩
    · rw [heq]
    · rw [heq] at hnone
      cases hnone
  · intro message frameLimit reply hsome
    rcases ha.acceptResponse_cases message frameLimit with heq |
      ⟨query, t, payload, truncated, hw, -, hid, hsame, -, hpayload, hlength, heq⟩
    · rw [heq] at hsome
      cases hsome
    · rw [heq] at hsome
      cases hsome
      refine ⟨query, hw, hid, hsame, fun ht => ?_⟩
      have horiginal := (ha.waits _ hw).originalId
      dsimp only at horiginal ⊢
      rw [hpayload ht, horiginal]
      refine ⟨rfl, ?_⟩
      rw [← horiginal, List.length_append, List.length_drop]
      unfold wordBytes
      simp only [List.length_cons, List.length_nil]
      omega

end Yayatht.Dns
