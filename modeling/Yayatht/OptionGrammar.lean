import Yayatht.CheckedDecoding
import Yayatht.TransportHeaders

set_option autoImplicit false

namespace Yayatht.Packet.Tcp
open Wire

inductive OptionItem where
  | nop
  | option (kind : UInt8) (value : Bytes)
  deriving DecidableEq, Repr

namespace OptionItem

def bytes : OptionItem → Bytes
  | .nop => [1]
  | .option kind value => kind :: UInt8.ofNat (value.length + 2) :: value

/-- Kinds zero and one have no length; the length counts itself and the kind. -/
def WellFormed : OptionItem → Prop
  | .nop => True
  | .option kind value => kind ≠ 0 ∧ kind ≠ 1 ∧ value.length + 2 < 256

def offers (wantedKind : UInt8) (wantedLen : ℕ) : OptionItem → Option Bytes
  | .nop => none
  | .option kind value => if kind = wantedKind ∧ value.length + 2 = wantedLen then some value else none

end OptionItem

/-- What cannot be walked: nothing, the end of the options, a kind without a length, a length
below two, or a value that runs past the area. -/
inductive Stops : Bytes → Prop
  | nothing : Stops []
  | endOfOptions (rest : Bytes) : Stops (0 :: rest)
  | bare {kind : UInt8} (hend : kind ≠ 0) (hnop : kind ≠ 1) : Stops [kind]
  | short {kind len : UInt8} (tail : Bytes) (hend : kind ≠ 0) (hnop : kind ≠ 1) (h : len.toNat < 2) :
      Stops (kind :: len :: tail)
  | overrun {kind len : UInt8} (tail : Bytes) (hend : kind ≠ 0) (hnop : kind ≠ 1)
      (h : tail.length < len.toNat - 2) : Stops (kind :: len :: tail)

structure Walk (area : Bytes) (items : List OptionItem) (rest : Bytes) : Prop where
  split : area = items.flatMap OptionItem.bytes ++ rest
  wellFormed : ∀ item ∈ items, item.WellFormed
  stops : Stops rest

section Walk

variable {area rest rest' more more' : Bytes} {items items' : List OptionItem} {item item' : OptionItem}

theorem toNat_length {value : Bytes} (h : value.length + 2 < 256) :
    (UInt8.ofNat (value.length + 2)).toNat = value.length + 2 := by
  rw [UInt8.toNat_ofNat']
  exact Nat.mod_eq_of_lt h

theorem Walk.cons (h : Walk area items rest) (hitem : item.WellFormed) :
    Walk (item.bytes ++ area) (item :: items) rest where
  split := by rw [List.flatMap_cons, List.append_assoc, ← h.split]
  wellFormed := List.forall_mem_cons.mpr ⟨hitem, h.wellFormed⟩
  stops := h.stops

theorem Walk.tail (h : Walk area (item :: items) rest) :
    ∃ more, area = item.bytes ++ more ∧ item.WellFormed ∧ Walk more items rest := by
  obtain ⟨hitem, hitems⟩ := List.forall_mem_cons.mp h.wellFormed
  exact ⟨_, by rw [h.split, List.flatMap_cons, List.append_assoc], hitem, rfl, hitems, h.stops⟩

theorem not_stops (h : item.WellFormed) : ¬ Stops (item.bytes ++ more) := by
  intro hstops
  cases item with
  | nop => cases hstops <;> contradiction
  | option kind value =>
    have hlen := toNat_length h.2.2
    cases hstops with
    | endOfOptions => exact h.1 rfl
    | short _ _ _ hshort => omega
    | overrun _ _ _ hlong =>
      have happend : (value ++ more).length = value.length + more.length := List.length_append
      change (value ++ more).length < _ at hlong
      omega

theorem bytes_inj (hitem : item.WellFormed) (hitem' : item'.WellFormed)
    (h : item.bytes ++ more = item'.bytes ++ more') : item = item' ∧ more = more' := by
  cases item with
  | nop =>
    cases item' with
    | nop => exact ⟨rfl, (List.cons.inj h).2⟩
    | option kind value => exact absurd (List.cons.inj h).1.symm hitem'.2.1
  | option kind value =>
    cases item' with
    | nop => exact absurd (List.cons.inj h).1 hitem.2.1
    | option kind' value' =>
      obtain ⟨hkind, h⟩ := List.cons.inj h
      obtain ⟨hlen, h⟩ := List.cons.inj h
      have hlength : value.length = value'.length := by
        have hsame := congrArg UInt8.toNat hlen
        rw [toNat_length hitem.2.2, toNat_length hitem'.2.2] at hsame
        omega
      obtain ⟨hvalue, hmore⟩ := List.append_inj h hlength
      rw [hkind, hvalue]
      exact ⟨rfl, hmore⟩

theorem Walk.unique (h : Walk area items rest) (h' : Walk area items' rest') : items = items' ∧ rest = rest' := by
  induction items generalizing area items' with
  | nil =>
    cases items' with
    | nil => exact ⟨rfl, h.split.symm.trans h'.split⟩
    | cons item' items' =>
      obtain ⟨more, hmore, hitem, -⟩ := h'.tail
      have hrest : area = rest := h.split
      exact absurd (hrest ▸ h.stops) (hmore ▸ not_stops hitem)
  | cons item items ih =>
    obtain ⟨more, hmore, hitem, hwalk⟩ := h.tail
    cases items' with
    | nil =>
      have hrest : area = rest' := h'.split
      exact absurd (hrest ▸ h'.stops) (hmore ▸ not_stops hitem)
    | cons item' items' =>
      obtain ⟨more', hmore', hitem', hwalk'⟩ := h'.tail
      obtain ⟨rfl, rfl⟩ := bytes_inj hitem hitem' (hmore.symm.trans hmore')
      obtain ⟨rfl, hrest⟩ := ih hwalk hwalk'
      exact ⟨rfl, hrest⟩

theorem exists_walk (area : Bytes) : ∃ items rest, Walk area items rest := by
  induction hn : area.length using Nat.strongRecOn generalizing area with
  | _ n ih =>
    have hstop : Stops area → ∃ items rest, Walk area items rest :=
      fun h => ⟨[], area, rfl, fun _ hm => (List.not_mem_nil hm).elim, h⟩
    have hstep : ∀ item more, area = OptionItem.bytes item ++ more → item.WellFormed →
        ∃ items rest, Walk area items rest := by
      intro item more harea hitem
      have hlt : more.length < n := by
        rw [← hn, harea, List.length_append]
        cases item <;> simp [OptionItem.bytes]
      obtain ⟨items, rest, hwalk⟩ := ih more.length hlt more rfl
      exact ⟨item :: items, rest, harea ▸ hwalk.cons hitem⟩
    cases area with
    | nil => exact hstop .nothing
    | cons kind after =>
      by_cases hend : kind = 0
      · exact hstop (hend ▸ .endOfOptions after)
      by_cases hnop : kind = 1
      · exact hstep .nop after (hnop ▸ rfl) trivial
      cases after with
      | nil => exact hstop (.bare hend hnop)
      | cons len tail =>
        by_cases hshort : len.toNat < 2
        · exact hstop (.short tail hend hnop hshort)
        by_cases hlong : tail.length < len.toNat - 2
        · exact hstop (.overrun tail hend hnop hlong)
        have hlt := len.toNat_lt
        have hvalue : (tail.take (len.toNat - 2)).length + 2 = len.toNat := by
          rw [List.length_take]
          omega
        refine hstep (.option kind (tail.take (len.toNat - 2))) (tail.drop (len.toNat - 2)) ?_
          ⟨hend, hnop, by omega⟩
        rw [OptionItem.bytes, hvalue, UInt8.ofNat_toNat, List.cons_append, List.cons_append, List.take_append_drop]

end Walk

section Scan

variable {area rest bytes : Bytes} {items : List OptionItem} {segment : Segment} {spec : HeaderSpec}
  {wantedKind : UInt8} {wantedLen rounds : ℕ}

theorem scanOptions_stops (h : Stops area) : Segment.scanOptions wantedKind wantedLen rounds area = none := by
  cases rounds with
  | zero => rfl
  | succ rounds =>
    cases h with
    | nothing => rfl
    | endOfOptions => rfl
    | bare hend hnop => simp [Segment.scanOptions, hend, hnop]
    | short tail hend hnop hshort => simp [Segment.scanOptions, hend, hnop, hshort]
    | overrun tail hend hnop hlong => simp [Segment.scanOptions, hend, hnop, hlong]

/-- The scan takes one round for every item that it passes. -/
theorem scanOptions_walk (h : Walk area items rest) (hrounds : area.length ≤ rounds) :
    Segment.scanOptions wantedKind wantedLen rounds area =
      items.findSome? (OptionItem.offers wantedKind wantedLen) := by
  induction items generalizing area rounds with
  | nil =>
    have hrest : area = rest := h.split
    exact scanOptions_stops (hrest ▸ h.stops)
  | cons item items ih =>
    obtain ⟨more, rfl, hitem, hwalk⟩ := h.tail
    rw [List.length_append] at hrounds
    cases item with
    | nop =>
      simp only [OptionItem.bytes, List.length_singleton] at hrounds
      obtain ⟨rounds, rfl⟩ : ∃ n, rounds = n + 1 := ⟨rounds - 1, by omega⟩
      have hnext := ih hwalk (by omega : more.length ≤ rounds)
      exact hnext
    | option kind value =>
      obtain ⟨hend, hnop, hlt⟩ := hitem
      have hlen := toNat_length hlt
      simp only [OptionItem.bytes, List.length_cons] at hrounds
      obtain ⟨rounds, rfl⟩ : ∃ n, rounds = n + 1 := ⟨rounds - 1, by omega⟩
      have hnext := ih hwalk (by omega : more.length ≤ rounds)
      have hfits : ¬ ((UInt8.ofNat (value.length + 2)).toNat < 2 ∨
          (UInt8.ofNat (value.length + 2)).toNat - 2 > (value ++ more).length) := by
        rw [hlen, List.length_append]
        omega
      rw [OptionItem.bytes, List.cons_append, List.cons_append, Segment.scanOptions, if_neg hend, if_neg hnop]
      rw [if_neg hfits, hlen, Nat.add_sub_cancel, List.take_left, List.drop_left, List.findSome?_cons]
      by_cases hfound : kind = wantedKind ∧ value.length + 2 = wantedLen
      · rw [if_pos hfound, OptionItem.offers, if_pos hfound]
      · rw [if_neg hfound, OptionItem.offers, if_neg hfound, hnext]

theorem segmented_of_parse (h : Checked.parseTcp bytes = .ok segment) : Checked.Segmented bytes segment := by
  obtain ⟨heq, hsafe⟩ := Checked.parseTcp_alike bytes
  rw [← heq, h] at hsafe
  exact hsafe

theorem length_of_offers {item : OptionItem} {value : Bytes} (h : item.offers wantedKind wantedLen = some value) :
    value.length + 2 = wantedLen := by
  cases item with
  | nop => cases h
  | option kind offered =>
    dsimp only [OptionItem.offers] at h
    by_cases hfound : kind = wantedKind ∧ offered.length + 2 = wantedLen
    · rw [if_pos hfound] at h
      cases h
      exact hfound.2
    · rw [if_neg hfound] at h
      cases h

theorem mss_walk (h : Checked.Segmented bytes segment)
    (harea : range segment.bytes tcpMinHeaderLen segment.headerLen = .ok area) (hwalk : Walk area items rest) :
    Checked.mss segment =
      .ok ((items.findSome? (OptionItem.offers 2 4)).map fun value => UInt16.ofNat (beValue value)) := by
  rw [(Checked.mss_alike h).1]
  unfold Segment.mss Segment.findOption
  rw [harea, ok_bind, scanOptions_walk hwalk (Nat.le_refl _)]
  cases hfound : items.findSome? (OptionItem.offers 2 4) with
  | none => rfl
  | some value =>
    obtain ⟨item, -, hoffer⟩ := List.exists_of_findSome?_eq_some hfound
    have hlength : value.length = 2 := by
      have hlen := length_of_offers hoffer
      omega
    match value, hlength with
    | [high, low], _ => simp [wordAt, byteAt, beWord, beValue, pure, Except.pure, bind, Except.bind]

theorem windowScale_walk (h : Checked.Segmented bytes segment)
    (harea : range segment.bytes tcpMinHeaderLen segment.headerLen = .ok area) (hwalk : Walk area items rest) :
    Checked.windowScale segment = .ok ((items.findSome? (OptionItem.offers 3 3)).bind List.head?) := by
  rw [(Checked.windowScale_alike h).1]
  unfold Segment.windowScale Segment.findOption
  rw [harea, ok_bind, scanOptions_walk hwalk (Nat.le_refl _)]
  cases hfound : items.findSome? (OptionItem.offers 3 3) with
  | none => rfl
  | some value =>
    obtain ⟨item, -, hoffer⟩ := List.exists_of_findSome?_eq_some hfound
    have hlength : value.length = 1 := by
      have hlen := length_of_offers hoffer
      omega
    match value, hlength with
    | [shift], _ => rfl

/-- The options of a header that was written are read back, whatever follows the header. -/
theorem options_written (out payload : Bytes) (hlong : headerLen spec.mss spec.windowScale ≤ out.length) :
    ∃ written segment, writeHeader out spec = .ok (written, headerLen spec.mss spec.windowScale) ∧
      Checked.parseTcp (written.take (headerLen spec.mss spec.windowScale) ++ payload) = .ok segment ∧
      Checked.mss segment = .ok spec.mss ∧ Checked.windowScale segment = .ok spec.windowScale := by
  obtain ⟨old, after, rfl, hold⟩ := exists_append out hlong
  have htake : (front spec ++ ([0, 0] ++ (back spec ++ after))).take (headerLen spec.mss spec.windowScale) =
      front spec ++ ([0, 0] ++ back spec) := by
    have hlength : (front spec ++ ([0, 0] ++ back spec)).length = headerLen spec.mss spec.windowScale := by
      have hback := length_back spec
      simp only [List.length_append, length_front, List.length_cons, List.length_nil]
      omega
    have hsplit : front spec ++ ([0, 0] ++ (back spec ++ after)) = (front spec ++ ([0, 0] ++ back spec)) ++ after := by
      simp
    rw [← hlength, hsplit, List.take_left]
  have hparse : Checked.parseTcp (segment spec 0 payload).bytes = .ok (segment spec 0 payload) := by
    rw [(Checked.parseTcp_alike _).1]
    exact parse_segment
  have hsegmented := segmented_of_parse hparse
  refine ⟨_, segment spec 0 payload, writeHeader_eq after hold, ?_, ?_, ?_⟩
  · rw [htake, ← hparse]
    simp [segment, be16]
  · rw [(Checked.mss_alike hsegmented).1]
    exact mss_segment
  · rw [(Checked.windowScale_alike hsegmented).1]
    exact windowScale_segment

/-- The options of every segment are read as the grammar says: an area is walked in exactly one
way, and the first option of the wanted kind and length gives the value. -/
theorem options_follow_grammar :
    (∀ area, ∃! walk : List OptionItem × Bytes, Walk area walk.1 walk.2) ∧
    (∀ bytes segment, Checked.parseTcp bytes = .ok segment →
      ∃ area, range segment.bytes tcpMinHeaderLen segment.headerLen = .ok area ∧
        ∀ items rest, Walk area items rest →
          Checked.mss segment =
            .ok ((items.findSome? (OptionItem.offers 2 4)).map fun value => UInt16.ofNat (beValue value)) ∧
          Checked.windowScale segment = .ok ((items.findSome? (OptionItem.offers 3 3)).bind List.head?)) ∧
    ∀ spec out payload, headerLen spec.mss spec.windowScale ≤ out.length →
      ∃ written segment, writeHeader out spec = .ok (written, headerLen spec.mss spec.windowScale) ∧
        Checked.parseTcp (written.take (headerLen spec.mss spec.windowScale) ++ payload) = .ok segment ∧
        Checked.mss segment = .ok spec.mss ∧ Checked.windowScale segment = .ok spec.windowScale := by
  refine ⟨fun area => ?_, fun bytes segment h => ?_, fun _ out payload hlong => options_written out payload hlong⟩
  · obtain ⟨items, rest, hwalk⟩ := exists_walk area
    refine ⟨(items, rest), hwalk, ?_⟩
    rintro ⟨items', rest'⟩ hwalk'
    obtain ⟨rfl, rfl⟩ := hwalk'.unique hwalk
    rfl
  · have hsegmented := segmented_of_parse h
    have harea : range segment.bytes tcpMinHeaderLen segment.headerLen =
        .ok ((segment.bytes.drop tcpMinHeaderLen).take (segment.headerLen - tcpMinHeaderLen)) := by
      refine if_pos ⟨hsegmented.header_ge, ?_⟩
      rw [hsegmented.bytes_eq]
      exact hsegmented.header_le
    refine ⟨_, harea, fun items rest hwalk => ⟨?_, ?_⟩⟩
    · exact mss_walk hsegmented harea hwalk
    · exact windowScale_walk hsegmented harea hwalk

end Scan

end Yayatht.Packet.Tcp
