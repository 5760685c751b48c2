import Yayatht.SegmentTiles

set_option autoImplicit false

namespace Yayatht
open Sequence SerialArithmetic

/-- Positions in the first half of the number space compare like their numbers. -/
theorem after_position (origin : Seq) {x y : ℕ} (hx : x < 2 ^ 31) (hy : y < 2 ^ 31) :
    after (origin + BitVec.ofNat 32 y) (origin + BitVec.ofNat 32 x) = true ↔ x < y := by
  rw [after_iff_gap]
  rcases Nat.lt_or_ge y x with hlt | hle
  · have hgap : gap (origin + BitVec.ofNat 32 y) (origin + BitVec.ofNat 32 x) = x - y := by
      rw [gap_positions origin hlt.le, Nat.mod_eq_of_lt (by omega)]
    have hne : origin + BitVec.ofNat 32 y ≠ origin + BitVec.ofNat 32 x := fun heq => by
      rw [heq, gap_self] at hgap
      omega
    rw [gap_swap _ _ hne, hgap]
    omega
  · rw [gap_positions origin hle, Nat.mod_eq_of_lt (by omega)]
    omega

/-- The segments on record from a position on: first the SYN, then payload; no FIN among them. -/
inductive Outstanding (initial : Seq) : ℕ → List SentSegment → Prop
  | nothing (p : ℕ) : Outstanding initial p []
  | syn (s : SentSegment) (rest : List SentSegment) (hsequence : s.sequence = initial) (hsyn : s.syn = true)
      (hlength : s.payloadLen = 0) (hfin : s.fin = false) (hrest : Outstanding initial 1 rest) :
      Outstanding initial 0 (s :: rest)
  | payload (p : ℕ) (s : SentSegment) (rest : List SentSegment) (hp : 0 < p)
      (hsequence : s.sequence = initial + BitVec.ofNat 32 p) (hsyn : s.syn = false) (hlength : 0 < s.payloadLen)
      (hfin : s.fin = false) (hrest : Outstanding initial (p + s.payloadLen) rest) :
      Outstanding initial p (s :: rest)

def SentSegment.total (segments : List SentSegment) : ℕ := (segments.map SentSegment.size).sum

namespace Outstanding

variable {initial : Seq} {p : ℕ} {segments : List SentSegment}

theorem total_nil : SentSegment.total [] = 0 := rfl

theorem total_cons (s : SentSegment) (rest : List SentSegment) :
    SentSegment.total (s :: rest) = s.size + SentSegment.total rest := rfl

theorem total_append (first second : List SentSegment) :
    SentSegment.total (first ++ second) = SentSegment.total first + SentSegment.total second := by
  unfold SentSegment.total
  rw [List.map_append, List.sum_append]

theorem span_eq (segments : List SentSegment) :
    span (segments.map SentSegment.range) = SentSegment.total segments := by
  unfold span SentSegment.total
  rw [List.map_map]
  rfl

theorem payloadTotal_eq (h : Outstanding initial p segments) (hpos : 1 ≤ p + SentSegment.total segments) :
    payloadTotal segments = p + SentSegment.total segments - max p 1 := by
  induction h with
  | nothing p =>
    rw [total_nil] at hpos ⊢
    change 0 = _
    omega
  | syn s rest hsequence hsyn hlength hfin hrest ih =>
    have hsize : s.size = 1 := by
      unfold SentSegment.size
      rw [hlength, hsyn, hfin]
      rfl
    have hih := ih (by omega)
    change s.payloadLen + payloadTotal rest = _
    rw [total_cons, hsize, hlength, hih]
    omega
  | payload p s rest hp hsequence hsyn hlength hfin hrest ih =>
    have hsize : s.size = s.payloadLen := by
      unfold SentSegment.size
      rw [hsyn, hfin]
      rfl
    have hih := ih (by omega)
    change s.payloadLen + payloadTotal rest = _
    rw [total_cons, hsize, hih]
    omega

theorem append (h : Outstanding initial p segments) {s : SentSegment}
    (hs : Outstanding initial (p + SentSegment.total segments) [s]) : Outstanding initial p (segments ++ [s]) := by
  induction h with
  | nothing p =>
    rw [total_nil] at hs
    exact hs
  | syn t rest hsequence hsyn hlength hfin hrest ih =>
    have hsize : t.size = 1 := by
      unfold SentSegment.size
      rw [hlength, hsyn, hfin]
      rfl
    rw [total_cons, hsize, Nat.zero_add] at hs
    exact .syn t (rest ++ [s]) hsequence hsyn hlength hfin (ih hs)
  | payload p t rest hp hsequence hsyn hlength hfin hrest ih =>
    have hsize : t.size = t.payloadLen := by
      unfold SentSegment.size
      rw [hsyn, hfin]
      rfl
    rw [total_cons, hsize, ← Nat.add_assoc] at hs
    exact .payload p t (rest ++ [s]) hp hsequence hsyn hlength hfin (ih hs)

theorem of_layout (h : Outstanding initial p segments) {others : List SentSegment}
    (hlayout : others.map SentSegment.layout = segments.map SentSegment.layout) : Outstanding initial p others := by
  induction h generalizing others with
  | nothing p =>
    rw [List.map_nil, List.map_eq_nil_iff] at hlayout
    rw [hlayout]
    exact .nothing p
  | syn s rest hsequence hsyn hlength hfin hrest ih =>
    obtain ⟨t, others, rfl, ht, hothers⟩ := List.map_eq_cons_iff.mp hlayout
    simp only [SentSegment.layout, Prod.mk.injEq] at ht
    obtain ⟨h1, h2, h3, h4⟩ := ht
    exact .syn t others (h1.trans hsequence) (h3.trans hsyn) (h2.trans hlength) (h4.trans hfin) (ih hothers)
  | payload p s rest hp hsequence hsyn hlength hfin hrest ih =>
    obtain ⟨t, others, rfl, ht, hothers⟩ := List.map_eq_cons_iff.mp hlayout
    simp only [SentSegment.layout, Prod.mk.injEq] at ht
    obtain ⟨h1, h2, h3, h4⟩ := ht
    refine .payload p t others hp (h1.trans hsequence) (h3.trans hsyn) (by omega) (h4.trans hfin) ?_
    rw [h2]
    exact ih hothers

theorem total_of_layout {others : List SentSegment}
    (hlayout : others.map SentSegment.layout = segments.map SentSegment.layout) :
    SentSegment.total others = SentSegment.total segments := by
  have hsizes := congrArg (List.map fun l : Seq × ℕ × Bool × Bool => l.2.1 + l.2.2.1.toNat + l.2.2.2.toNat) hlayout
  rw [List.map_map, List.map_map] at hsizes
  exact congrArg List.sum hsizes

/-- A segment that begins before an acknowledgment is dropped or, inside it, trimmed. -/
theorem acknowledge_reached {s : SentSegment} {q : ℕ} (hsequence : s.sequence = initial + BitVec.ofNat 32 p)
    (hpq : p + s.size ≤ q) (hpos : 0 < s.size) (hsmall : q < 2 ^ 31) :
    (s.acknowledge (initial + BitVec.ofNat 32 q)).2 = true := by
  have hend : s.endSequence = initial + BitVec.ofNat 32 (p + s.size) := by
    have hlength : s.sequenceLen = BitVec.ofNat 32 s.size := rfl
    unfold SentSegment.endSequence
    rw [hsequence, hlength, BitVec.add_assoc, ← BitVec.ofNat_add]
  have hafter : after (initial + BitVec.ofNat 32 q) s.sequence = true := by
    rw [hsequence]
    exact (after_position initial (by omega) hsmall).mpr (by omega)
  have hbefore : before (initial + BitVec.ofNat 32 q) s.endSequence = false := by
    rw [Bool.eq_false_iff, hend]
    intro h
    have hlt := (after_position initial hsmall (show p + s.size < 2 ^ 31 by omega)).mp h
    omega
  unfold SentSegment.acknowledge
  rw [hafter, hbefore]
  rfl

theorem acknowledge_ahead {s : SentSegment} {q : ℕ} (hsequence : s.sequence = initial + BitVec.ofNat 32 p)
    (hqp : q ≤ p) (hsmall : p < 2 ^ 31) : s.acknowledge (initial + BitVec.ofNat 32 q) = (s, false) := by
  have hafter : after (initial + BitVec.ofNat 32 q) s.sequence = false := by
    rw [Bool.eq_false_iff, hsequence]
    intro h
    have hlt := (after_position initial hsmall (by omega)).mp h
    omega
  unfold SentSegment.acknowledge
  rw [hafter]
  rfl

theorem acknowledge_inside {s : SentSegment} {q : ℕ} (hsequence : s.sequence = initial + BitVec.ofNat 32 p)
    (hsyn : s.syn = false) (hfin : s.fin = false) (hpq : p < q) (hlt : q < p + s.payloadLen)
    (hsmall : p + s.payloadLen < 2 ^ 31) :
    s.acknowledge (initial + BitVec.ofNat 32 q) =
      ({ s with sequence := initial + BitVec.ofNat 32 q, payloadLen := s.payloadLen - (q - p) }, false) := by
  have hend : s.endSequence = initial + BitVec.ofNat 32 (p + s.payloadLen) := by
    unfold SentSegment.endSequence SentSegment.sequenceLen
    rw [hsequence, hsyn, hfin, BitVec.add_assoc, ← BitVec.ofNat_add]
    rfl
  have hafter : after (initial + BitVec.ofNat 32 q) s.sequence = true := by
    rw [hsequence]
    exact (after_position initial (by omega) (by omega)).mpr hpq
  have hbefore : before (initial + BitVec.ofNat 32 q) s.endSequence = true := by
    rw [hend]
    exact (after_position initial (by omega) hsmall).mpr hlt
  have hdistance : (distance s.sequence (initial + BitVec.ofNat 32 q)).toNat = q - p := by
    rw [distance_toNat, hsequence, gap_positions initial hpq.le, Nat.mod_eq_of_lt (by omega)]
  unfold SentSegment.acknowledge
  rw [hafter, hbefore, hdistance]
  simp only [Bool.not_true, Bool.false_eq_true, if_false, hsyn, hfin, Bool.false_and]
  rw [Nat.min_eq_left (by omega)]

theorem acknowledged (h : Outstanding initial p segments) {q : ℕ} (hpq : p ≤ q)
    (hle : q ≤ p + SentSegment.total segments) (hsmall : p + SentSegment.total segments < 2 ^ 31) :
    Outstanding initial q (acknowledgeSegments (initial + BitVec.ofNat 32 q) segments) ∧
      q + SentSegment.total (acknowledgeSegments (initial + BitVec.ofNat 32 q) segments) =
        p + SentSegment.total segments := by
  induction h with
  | nothing p =>
    rw [total_nil] at hle ⊢
    have heq : q = p := by omega
    subst heq
    exact ⟨.nothing q, rfl⟩
  | syn s rest hsequence hsyn hlength hfin hrest ih =>
    have hsize : s.size = 1 := by
      unfold SentSegment.size
      rw [hlength, hsyn, hfin]
      rfl
    have hzero : s.sequence = initial + BitVec.ofNat 32 0 := by
      rw [hsequence]
      exact (BitVec.add_zero initial).symm
    rw [total_cons, hsize] at hle hsmall ⊢
    unfold acknowledgeSegments
    rcases Nat.eq_zero_or_pos q with rfl | hq
    · rw [acknowledge_ahead hzero (Nat.le_refl _) (by omega)]
      refine ⟨.syn s rest hsequence hsyn hlength hfin hrest, ?_⟩
      rw [total_cons, hsize]
    · have hdone := acknowledge_reached hzero (q := q) (by omega) (by omega) (by omega)
      have hpair : s.acknowledge (initial + BitVec.ofNat 32 q) =
          ((s.acknowledge (initial + BitVec.ofNat 32 q)).1, true) := Prod.ext rfl hdone
      rw [hpair]
      obtain ⟨hleft, htotal⟩ := ih hq (by omega) (by omega)
      exact ⟨hleft, htotal.trans (by omega)⟩
  | payload p s rest hp hsequence hsyn hlength hfin hrest ih =>
    have hsize : s.size = s.payloadLen := by
      unfold SentSegment.size
      rw [hsyn, hfin]
      rfl
    rw [total_cons, hsize] at hle hsmall ⊢
    unfold acknowledgeSegments
    rcases Nat.eq_or_lt_of_le hpq with rfl | hlt
    · rw [acknowledge_ahead hsequence (Nat.le_refl _) (by omega)]
      refine ⟨.payload p s rest hp hsequence hsyn hlength hfin hrest, ?_⟩
      rw [total_cons, hsize]
    · rcases Nat.lt_or_ge q (p + s.payloadLen) with hin | hout
      · rw [acknowledge_inside hsequence hsyn hfin hlt hin (by omega)]
        dsimp only
        have hleft : q + (s.payloadLen - (q - p)) = p + s.payloadLen := by omega
        refine ⟨.payload q _ rest (by omega) rfl hsyn (by dsimp only; omega) hfin ?_, ?_⟩
        · dsimp only
          rw [hleft]
          exact hrest
        · rw [total_cons]
          unfold SentSegment.size
          dsimp only
          rw [hsyn, hfin]
          simp only [Bool.toNat_false]
          omega
      · have hdone := acknowledge_reached hsequence (q := q) (by omega) (by omega) (by omega)
        have hpair : s.acknowledge (initial + BitVec.ofNat 32 q) =
            ((s.acknowledge (initial + BitVec.ofNat 32 q)).1, true) := Prod.ext rfl hdone
        rw [hpair]
        obtain ⟨hleft, htotal⟩ := ih hout (by omega) (by omega)
        exact ⟨hleft, htotal.trans (by omega)⟩

theorem acknowledged_none (h : Outstanding initial p segments) (hsmall : p < 2 ^ 31) :
    acknowledgeSegments (initial + BitVec.ofNat 32 p) segments = segments := by
  cases h with
  | nothing => rfl
  | syn s rest hsequence =>
    have hzero : s.sequence = initial + BitVec.ofNat 32 0 := hsequence.trans (BitVec.add_zero initial).symm
    unfold acknowledgeSegments
    rw [acknowledge_ahead hzero (Nat.le_refl _) (by omega)]
  | payload _ s rest hp hsequence =>
    unfold acknowledgeSegments
    rw [acknowledge_ahead hsequence (Nat.le_refl _) hsmall]

end Outstanding

end Yayatht
