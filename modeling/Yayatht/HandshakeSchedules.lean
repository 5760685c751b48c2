import Yayatht.Handshake
import Mathlib.Data.Nat.Find

set_option autoImplicit false

namespace Yayatht.Proxy

/-- A reader of replies that waits for a whole reply and takes nothing after it.
No reply is longer than an HTTP header may be. -/
structure Prefixed (h : Handshake) (read : Bytes → Handshake × Except Error ℕ) : Prop where
  idle : ∀ input, (read input).2 = .ok 0 → (read input).1 = h
  stable : ∀ input more, (read input).2 ≠ .ok 0 → read (input ++ more) = read input
  tight : ∀ input n, (read input).2 = .ok n → 0 < n →
    n ≤ input.length ∧ read (input.take n) = read input ∧ ∀ m < n, read (input.take m) = (h, .ok 0)
  decided : ∀ input, maxHttpHeader ≤ input.length → (read input).2 ≠ .ok 0

/-- Input from which the size of a reply is read once enough of it is there. -/
structure Sized (size : Bytes → Except Error (Option ℕ)) : Prop where
  kept : ∀ input more, size input ≠ .ok none → size (input ++ more) = size input
  pos : ∀ input n, size input = .ok (some n) → 0 < n
  full : ∀ input n, size input = .ok (some n) → n ≤ input.length → size (input.take n) = .ok (some n)
  early : ∀ input n m, size input = .ok (some n) → m < n →
    size (input.take m) = .ok none ∨ size (input.take m) = .ok (some n)
  known : ∀ input, maxHttpHeader ≤ input.length →
    size input ≠ .ok none ∧ ∀ n, size input = .ok (some n) → n ≤ maxHttpHeader

/-- Waits until a reply of the given size is there, then finishes with it. -/
def readSized (h : Handshake) (size : Bytes → Except Error (Option ℕ))
    (finish : Bytes → Handshake × Except Error ℕ) (input : Bytes) : Handshake × Except Error ℕ :=
  match size input with
  | .error e => (h, .error e)
  | .ok none => (h, .ok 0)
  | .ok (some n) => if input.length < n then (h, .ok 0) else finish (input.take n)

section Sized

variable {h : Handshake} {size : Bytes → Except Error (Option ℕ)}
  {finish : Bytes → Handshake × Except Error ℕ}

theorem readSized_short {input : Bytes} {n : ℕ} (hsize : size input = .ok none ∨ size input = .ok (some n))
    (hlt : input.length < n) : readSized h size finish input = (h, .ok 0) := by
  unfold readSized
  rcases hsize with hsize | hsize
  · rw [hsize]
  · rw [hsize]
    exact if_pos hlt

theorem readSized_full {input : Bytes} {n : ℕ} (hsize : size input = .ok (some n)) (hle : n ≤ input.length) :
    readSized h size finish input = finish (input.take n) := by
  unfold readSized
  rw [hsize]
  exact if_neg (Nat.not_lt.mpr hle)

theorem readSized_cases (h : Handshake) (size : Bytes → Except Error (Option ℕ))
    (finish : Bytes → Handshake × Except Error ℕ) (input : Bytes) :
    (∃ e, size input = .error e ∧ readSized h size finish input = (h, .error e)) ∨
      readSized h size finish input = (h, .ok 0) ∨
      ∃ n, size input = .ok (some n) ∧ n ≤ input.length ∧
        readSized h size finish input = finish (input.take n) := by
  cases hsize : size input with
  | error e => exact .inl ⟨e, rfl, by unfold readSized; rw [hsize]⟩
  | ok known =>
    cases known with
    | none => exact .inr (.inl (by unfold readSized; rw [hsize]))
    | some n =>
      by_cases hle : n ≤ input.length
      · exact .inr (.inr ⟨n, rfl, hle, readSized_full hsize hle⟩)
      · exact .inr (.inl (readSized_short (.inr hsize) (Nat.lt_of_not_le hle)))

theorem Sized.prefixed (hs : Sized size)
    (hfinish : ∀ input n k, size input = .ok (some n) → n ≤ input.length →
      (finish (input.take n)).2 = .ok k → k = n) : Prefixed h (readSized h size finish) := by
  have hpositive : ∀ input n, size input = .ok (some n) → n ≤ input.length →
      (finish (input.take n)).2 ≠ .ok 0 := by
    intro input n hsize hle hzero
    have hk := hfinish input n 0 hsize hle hzero
    have hpos := hs.pos input n hsize
    omega
  refine ⟨?_, ?_, ?_, ?_⟩
  · intro input hzero
    rcases readSized_cases h size finish input with ⟨e, -, he⟩ | hw | ⟨n, hsize, hle, he⟩
    · rw [he] at hzero
      cases hzero
    · rw [hw]
    · rw [he] at hzero
      exact absurd hzero (hpositive input n hsize hle)
  · intro input more hne
    rcases readSized_cases h size finish input with ⟨e, hsize, he⟩ | hw | ⟨n, hsize, hle, he⟩
    · have hmore := hs.kept input more (by rw [hsize]; simp)
      rw [he]
      unfold readSized
      rw [hmore, hsize]
    · exact absurd (by rw [hw]) hne
    · have hmore := hs.kept input more (by rw [hsize]; simp)
      rw [he, readSized_full (hmore.trans hsize) (by rw [List.length_append]; omega),
        List.take_append_of_le_length hle]
  · intro input n hn hpos
    rcases readSized_cases h size finish input with ⟨e, hsize, he⟩ | hw | ⟨k, hsize, hle, he⟩
    · rw [he] at hn
      cases hn
    · rw [hw] at hn
      cases hn
      omega
    · rw [he] at hn
      have hk : n = k := hfinish input k n hsize hle hn
      subst hk
      refine ⟨hle, ?_, fun m hm => ?_⟩
      · rw [he, readSized_full (hs.full input n hsize hle) (by rw [List.length_take]; omega), List.take_take,
          Nat.min_self]
      · refine readSized_short (hs.early input n m hsize hm) ?_
        rw [List.length_take]
        omega
  · intro input hlen hzero
    obtain ⟨hne, hbound⟩ := hs.known input hlen
    cases hsize : size input with
    | error e =>
      unfold readSized at hzero
      rw [hsize] at hzero
      cases hzero
    | ok known =>
      cases known with
      | none => exact hne hsize
      | some n =>
        have hle : n ≤ input.length := Nat.le_trans (hbound n hsize) hlen
        rw [readSized_full hsize hle] at hzero
        exact hpositive input n hsize hle hzero

end Sized

namespace Handshake

variable (h : Handshake)

section Pairs

def pairSize (input : Bytes) : Except Error (Option ℕ) := if input.length < 2 then .ok none else .ok (some 2)

theorem sized_pair : Sized pairSize := by
  refine ⟨?_, ?_, ?_, ?_, ?_⟩
  · intro input more hne
    unfold pairSize at hne ⊢
    rw [List.length_append]
    split at hne
    · exact absurd rfl hne
    · rw [if_neg (by omega), if_neg (by omega)]
  · intro input n hn
    unfold pairSize at hn
    split at hn
    · cases hn
    · cases hn
      omega
  · intro input n hn hle
    unfold pairSize at hn ⊢
    split at hn
    · cases hn
    · cases hn
      rw [if_neg (by rw [List.length_take]; omega)]
  · intro input n m hn hm
    unfold pairSize at hn ⊢
    split at hn
    · cases hn
    · cases hn
      exact .inl (if_pos (by rw [List.length_take]; omega))
  · intro input hlen
    unfold maxHttpHeader at hlen ⊢
    unfold pairSize
    rw [if_neg (by omega)]
    refine ⟨by simp, fun n hn => ?_⟩
    cases hn
    omega

theorem pairSize_some {input : Bytes} {n : ℕ} (hn : pairSize input = .ok (some n)) :
    ∃ a b rest, input = a :: b :: rest ∧ n = 2 := by
  unfold pairSize at hn
  split at hn
  · cases hn
  · rename_i hlen
    cases hn
    match input, hlen with
    | a :: b :: rest, _ => exact ⟨a, b, rest, rfl, rfl⟩
    | [_], hlen => exact absurd hlen (by simp)
    | [], hlen => exact absurd hlen (by simp)

theorem prefixed_pair {read : Bytes → Handshake × Except Error ℕ} (hnil : read [] = (h, .ok 0))
    (hone : ∀ a, read [a] = (h, .ok 0)) (hpair : ∀ a b rest, read (a :: b :: rest) = read [a, b])
    (htwo : ∀ a b k, (read [a, b]).2 = .ok k → k = 2) : Prefixed h read := by
  have hsized : read = readSized h pairSize read := by
    funext input
    unfold readSized pairSize
    match input with
    | [] => exact hnil
    | [a] => exact hone a
    | a :: b :: rest =>
      rw [if_neg (by simp)]
      dsimp only
      rw [if_neg (by simp), hpair]
      rfl
  rw [hsized]
  refine sized_pair.prefixed fun input n k hn _ hk => ?_
  obtain ⟨a, b, rest, rfl, rfl⟩ := pairSize_some hn
  exact htwo a b k hk

theorem prefixed_socksMethod : Prefixed h h.receiveSocksMethod := by
  refine h.prefixed_pair rfl (fun _ => rfl) (fun _ _ _ => rfl) ?_
  intro a b k hk
  unfold receiveSocksMethod at hk
  dsimp only at hk
  split at hk
  · cases hk
  split at hk
  · cases hk
    rfl
  split at hk
  · split at hk
    · cases hk
    · cases hk
      rfl
  · cases hk

theorem prefixed_socksAuth : Prefixed h h.receiveSocksAuth := by
  refine h.prefixed_pair rfl (fun _ => rfl) (fun _ _ _ => rfl) ?_
  intro a b k hk
  unfold receiveSocksAuth at hk
  dsimp only at hk
  split at hk
  · cases hk
  split at hk
  · cases hk
  · cases hk
    rfl

end Pairs

section Command

/-- The size of a command reply, from its first four or five octets. -/
def commandSize : Bytes → Except Error (Option ℕ)
  | version :: _ :: reserved :: kind :: rest =>
    if version ≠ 5 ∨ reserved ≠ 0 then .error (.invalidResponse "SOCKS5 command header")
    else socksReplyLength kind rest
  | _ => .ok none

def commandReply (reply : Bytes) : Handshake × Except Error ℕ :=
  match reply with
  | _ :: code :: _ =>
    if code ≠ 0 then (h, .error (.socksCommandFailed code))
    else
      match parseSocksAddress (reply.drop 3) with
      | .error e => (h, .error e)
      | .ok bound =>
        ({ h with boundAddress := some bound, state := .complete, credentials := none }, .ok reply.length)
  | _ => (h, .error .invalidState)

theorem socksReplyLength_cases (kind : UInt8) :
    (∃ e, ∀ rest, socksReplyLength kind rest = .error e) ∨
      (∃ n, 7 ≤ n ∧ n ≤ 262 ∧ ∀ rest, socksReplyLength kind rest = .ok (some n)) ∨
      ∀ rest, socksReplyLength kind rest = .ok (rest.head?.map fun length => 7 + length.toNat) := by
  unfold socksReplyLength
  by_cases h1 : kind = 1
  · exact .inr (.inl ⟨10, by omega, by omega, fun _ => if_pos h1⟩)
  by_cases h4 : kind = 4
  · exact .inr (.inl ⟨22, by omega, by omega, fun _ => by rw [if_neg h1, if_pos h4]⟩)
  by_cases h3 : kind = 3
  · exact .inr (.inr fun _ => by rw [if_neg h1, if_neg h4, if_pos h3])
  · exact .inl ⟨_, fun _ => by rw [if_neg h1, if_neg h4, if_neg h3]⟩

theorem commandSize_four (version code reserved kind : UInt8) :
    (∃ e, ∀ rest, commandSize (version :: code :: reserved :: kind :: rest) = .error e) ∨
      (∃ n, 7 ≤ n ∧ n ≤ 262 ∧
        ∀ rest, commandSize (version :: code :: reserved :: kind :: rest) = .ok (some n)) ∨
      ∀ rest, commandSize (version :: code :: reserved :: kind :: rest) =
        .ok (rest.head?.map fun length => 7 + length.toNat) := by
  unfold commandSize
  by_cases hheader : version ≠ 5 ∨ reserved ≠ 0
  · exact .inl ⟨_, fun _ => if_pos hheader⟩
  · simp only [if_neg hheader]
    exact socksReplyLength_cases kind

theorem commandSize_short {input : Bytes} (hlt : input.length < 4) : commandSize input = .ok none := by
  match input with
  | [] => rfl
  | [_] => rfl
  | [_, _] => rfl
  | [_, _, _] => rfl
  | _ :: _ :: _ :: _ :: rest =>
    simp only [List.length_cons] at hlt
    omega

theorem four_of_length {input : Bytes} (hle : ¬ input.length < 4) :
    ∃ version code reserved kind rest, input = version :: code :: reserved :: kind :: rest := by
  match input with
  | [] => exact absurd hle (by simp)
  | [_] => exact absurd hle (by simp)
  | [_, _] => exact absurd hle (by simp)
  | [_, _, _] => exact absurd hle (by simp)
  | version :: code :: reserved :: kind :: rest => exact ⟨version, code, reserved, kind, rest, rfl⟩

theorem four_of_size {input : Bytes} (hne : commandSize input ≠ .ok none) :
    ∃ version code reserved kind rest, input = version :: code :: reserved :: kind :: rest :=
  four_of_length fun hlt => hne (commandSize_short hlt)

theorem commandSize_bounds {input : Bytes} {n : ℕ} (hn : commandSize input = .ok (some n)) :
    7 ≤ n ∧ n ≤ 262 := by
  obtain ⟨version, code, reserved, kind, rest, rfl⟩ := four_of_size (by rw [hn]; simp)
  rcases commandSize_four version code reserved kind with ⟨e, he⟩ | ⟨k, h7, h262, hk⟩ | hhead
  · rw [he] at hn
    cases hn
  · rw [hk] at hn
    cases hn
    exact ⟨h7, h262⟩
  · rw [hhead] at hn
    cases rest with
    | nil => cases hn
    | cons length rest =>
      have hlt := length.toNat_lt
      simp only [List.head?_cons, Option.map_some, Except.ok.injEq, Option.some.injEq] at hn
      omega

theorem sized_command : Sized commandSize := by
  have htake : ∀ (version code reserved kind : UInt8) (rest : Bytes) (m : ℕ), 4 ≤ m →
      (version :: code :: reserved :: kind :: rest).take m =
        version :: code :: reserved :: kind :: rest.take (m - 4) := by
    intro version code reserved kind rest m hm
    obtain ⟨k, rfl⟩ : ∃ k, m = k + 4 := ⟨m - 4, by omega⟩
    rfl
  refine ⟨?_, ?_, ?_, ?_, ?_⟩
  · intro input more hne
    obtain ⟨version, code, reserved, kind, rest, rfl⟩ := four_of_size hne
    simp only [List.cons_append]
    rcases commandSize_four version code reserved kind with ⟨e, he⟩ | ⟨k, -, -, hk⟩ | hhead
    · rw [he, he]
    · rw [hk, hk]
    · rw [hhead] at hne
      rw [hhead, hhead]
      cases rest with
      | nil => exact absurd rfl hne
      | cons length rest => rfl
  · intro input n hn
    have := commandSize_bounds hn
    omega
  · intro input n hn hle
    have hbounds := commandSize_bounds hn
    obtain ⟨version, code, reserved, kind, rest, rfl⟩ := four_of_size (by rw [hn]; simp)
    rw [htake _ _ _ _ _ n (by omega)]
    rcases commandSize_four version code reserved kind with ⟨e, he⟩ | ⟨k, -, -, hk⟩ | hhead
    · rw [he] at hn
      cases hn
    · rw [hk] at hn ⊢
      exact hn
    · rw [hhead] at hn ⊢
      rw [List.head?_take, if_neg (by omega)]
      exact hn
  · intro input n m hn hm
    have hbounds := commandSize_bounds hn
    obtain ⟨version, code, reserved, kind, rest, rfl⟩ := four_of_size (by rw [hn]; simp)
    by_cases h4 : m < 4
    · exact .inl (commandSize_short (by rw [List.length_take]; omega))
    · rw [htake _ _ _ _ _ m (by omega)]
      rcases commandSize_four version code reserved kind with ⟨e, he⟩ | ⟨k, -, -, hk⟩ | hhead
      · rw [he] at hn
        cases hn
      · rw [hk] at hn ⊢
        exact .inr hn
      · rw [hhead] at hn ⊢
        rw [List.head?_take]
        split
        · exact .inl rfl
        · exact .inr hn
  · intro input hlen
    unfold maxHttpHeader at hlen ⊢
    refine ⟨fun hnone => ?_, fun n hn => ?_⟩
    · obtain ⟨version, code, reserved, kind, rest, rfl⟩ := @four_of_length input (by omega)
      rcases commandSize_four version code reserved kind with ⟨e, he⟩ | ⟨k, -, -, hk⟩ | hhead
      · rw [he] at hnone
        cases hnone
      · rw [hk] at hnone
        cases hnone
      · rw [hhead] at hnone
        cases rest with
        | nil => simp at hlen
        | cons length rest => cases hnone
    · have := commandSize_bounds hn
      omega

theorem receiveSocksCommand_eq : h.receiveSocksCommand = readSized h commandSize h.commandReply := by
  funext input
  by_cases hlt : input.length < 4
  · rw [readSized_short (n := 4) (.inl (commandSize_short hlt)) hlt]
    match input with
    | [] => rfl
    | [_] => rfl
    | [_, _] => rfl
    | [_, _, _] => rfl
    | _ :: _ :: _ :: _ :: rest =>
      simp only [List.length_cons] at hlt
      omega
  · obtain ⟨version, code, reserved, kind, rest, rfl⟩ := four_of_length hlt
    unfold receiveSocksCommand readSized
    by_cases hheader : version ≠ 5 ∨ reserved ≠ 0
    · simp only [commandSize, if_pos hheader]
    · simp only [commandSize, if_neg hheader]
      cases hl : socksReplyLength kind rest with
      | error e => rfl
      | ok known =>
        cases known with
        | none => rfl
        | some n =>
          dsimp only
          split
          · rfl
          · rename_i hle
            have hbounds := @commandSize_bounds (version :: code :: reserved :: kind :: rest) n
              (by simp only [commandSize, if_neg hheader]; exact hl)
            obtain ⟨k, rfl⟩ : ∃ k, n = k + 4 := ⟨n - 4, by omega⟩
            have hlength : ((version :: code :: reserved :: kind :: rest).take (k + 4)).length = k + 4 := by
              rw [List.length_take]
              omega
            unfold commandReply
            rw [show (version :: code :: reserved :: kind :: rest).take (k + 4) =
              version :: code :: reserved :: kind :: rest.take k from rfl] at hlength ⊢
            dsimp only
            rewrite [hlength]
            split
            · rfl
            · cases parseSocksAddress (List.drop 3 (version :: code :: reserved :: kind :: rest.take k)) <;> rfl

theorem prefixed_socksCommand : Prefixed h h.receiveSocksCommand := by
  rw [receiveSocksCommand_eq]
  refine sized_command.prefixed fun input n k hn hle hk => ?_
  unfold commandReply at hk
  split at hk
  · split at hk
    · cases hk
    · split at hk
      · cases hk
      · cases hk
        rw [List.length_take]
        omega
  · cases hk

end Command

section Http

def At (pattern input : Bytes) (i : ℕ) : Prop := (input.drop i).take pattern.length = pattern

variable {pattern : Bytes}

theorem At.le {input : Bytes} {i : ℕ} (hne : pattern ≠ []) (ha : At pattern input i) :
    i + pattern.length ≤ input.length := by
  have hlen := congrArg List.length ha
  rw [List.length_take, List.length_drop] at hlen
  have hpos := List.length_pos_iff.mpr hne
  omega

theorem at_append {input more : Bytes} {i : ℕ} (hle : i + pattern.length ≤ input.length) :
    At pattern (input ++ more) i ↔ At pattern input i := by
  unfold At
  rw [List.drop_append_of_le_length (by omega), List.take_append_of_le_length (by rw [List.length_drop]; omega)]

theorem at_take {input : Bytes} {i n : ℕ} (hle : i + pattern.length ≤ n) :
    At pattern (input.take n) i ↔ At pattern input i := by
  unfold At
  rw [List.drop_take, List.take_take, Nat.min_eq_left (by omega)]

theorem position_eq_some_iff (hne : pattern ≠ []) (input : Bytes) (i : ℕ) :
    position pattern input = some i ↔ At pattern input i ∧ ∀ j < i, ¬ At pattern input j := by
  induction input generalizing i with
  | nil =>
    constructor
    · intro hn
      cases hn
    · rintro ⟨ha, -⟩
      have hle := ha.le hne
      have hpos := List.length_pos_iff.mpr hne
      rw [List.length_nil] at hle
      omega
  | cons byte rest ih =>
    unfold position
    split
    · rename_i hzero
      constructor
      · rintro ⟨⟩
        exact ⟨hzero, fun j hj => by omega⟩
      · rintro ⟨-, hfirst⟩
        cases i with
        | zero => rfl
        | succ i => exact absurd hzero (hfirst 0 (by omega))
    · rename_i hzero
      rw [Option.map_eq_some_iff]
      constructor
      · rintro ⟨k, hk, rfl⟩
        obtain ⟨ha, hfirst⟩ := (ih k).mp hk
        refine ⟨ha, fun j hj => ?_⟩
        cases j with
        | zero => exact hzero
        | succ j => exact hfirst j (by omega)
      · rintro ⟨ha, hfirst⟩
        cases i with
        | zero => exact absurd ha hzero
        | succ i => exact ⟨i, (ih i).mpr ⟨ha, fun j hj => hfirst (j + 1) (by omega)⟩, rfl⟩

theorem position_eq_none_iff (hne : pattern ≠ []) (input : Bytes) :
    position pattern input = none ↔ ∀ i, ¬ At pattern input i := by
  constructor
  · intro hn i ha
    classical
    have hex : ∃ i, At pattern input i := ⟨i, ha⟩
    have hfound := (position_eq_some_iff hne input (Nat.find hex)).mpr
      ⟨Nat.find_spec hex, fun j hj => Nat.find_min hex hj⟩
    rw [hn] at hfound
    cases hfound
  · intro hall
    cases hp : position pattern input with
    | none => rfl
    | some i => exact absurd ((position_eq_some_iff hne input i).mp hp).1 (hall i)

theorem position_append (hne : pattern ≠ []) {input : Bytes} (more : Bytes) {i : ℕ}
    (hp : position pattern input = some i) : position pattern (input ++ more) = some i := by
  obtain ⟨ha, hfirst⟩ := (position_eq_some_iff hne input i).mp hp
  have hle := ha.le hne
  refine (position_eq_some_iff hne _ i).mpr ⟨(at_append hle).mpr ha, fun j hj hat => ?_⟩
  exact hfirst j hj ((at_append (by omega)).mp hat)

/-- The size of an HTTP reply, once its header has ended. -/
def httpSize (input : Bytes) : Except Error (Option ℕ) :=
  match position [13, 10, 13, 10] input with
  | none => if maxHttpHeader ≤ input.length then .error .httpHeaderTooLarge else .ok none
  | some index => if index + 4 > maxHttpHeader then .error .httpHeaderTooLarge else .ok (some (index + 4))

def httpReply (reply : Bytes) : Handshake × Except Error ℕ :=
  match position [13, 10] reply with
  | none => (h, .error (.invalidResponse "HTTP status line"))
  | some lineEnd =>
    match statusOf (reply.take lineEnd) with
    | .error e => (h, .error e)
    | .ok status =>
      if 200 ≤ status ∧ status < 300 then ({ h with state := .complete, credentials := none }, .ok reply.length)
      else (h, .error (.httpConnectFailed status))

theorem httpSize_some {input : Bytes} {n : ℕ} (hn : httpSize input = .ok (some n)) :
    ∃ i, position [13, 10, 13, 10] input = some i ∧ n = i + 4 ∧ n ≤ maxHttpHeader ∧ n ≤ input.length := by
  unfold httpSize at hn
  split at hn
  · split at hn <;> cases hn
  · rename_i i hi
    split at hn
    · cases hn
    · cases hn
      have hle := ((position_eq_some_iff (by simp) input i).mp hi).1.le (by simp)
      exact ⟨i, hi, rfl, by omega, hle⟩

theorem sized_http : Sized httpSize := by
  have hne : ([13, 10, 13, 10] : Bytes) ≠ [] := by simp
  refine ⟨?_, ?_, ?_, ?_, ?_⟩
  · intro input more hknown
    unfold httpSize at hknown ⊢
    cases hp : position [13, 10, 13, 10] input with
    | some i => rw [position_append hne more hp]
    | none =>
      rw [hp] at hknown
      dsimp only at hknown ⊢
      by_cases hlong : maxHttpHeader ≤ input.length
      · rw [if_pos hlong]
        cases hq : position [13, 10, 13, 10] (input ++ more) with
        | none => exact if_pos (by rw [List.length_append]; omega)
        | some i =>
          -- the end is found too late
          have hat := ((position_eq_some_iff hne _ i).mp hq).1
          have hlate : ¬ i + 4 ≤ input.length := fun hle =>
            (position_eq_none_iff hne input).mp hp i ((at_append hle).mp hat)
          exact if_pos (by omega)
      · rw [if_neg hlong] at hknown
        exact absurd rfl hknown
  · intro input n hn
    obtain ⟨i, -, rfl, -⟩ := httpSize_some hn
    omega
  · intro input n hn _
    obtain ⟨i, hi, rfl, hmax, hle⟩ := httpSize_some hn
    obtain ⟨ha, hfirst⟩ := (position_eq_some_iff hne input i).mp hi
    have hcut : position [13, 10, 13, 10] (input.take (i + 4)) = some i := by
      refine (position_eq_some_iff hne _ i).mpr ⟨(at_take (Nat.le_refl _)).mpr ha, fun j hj hat => ?_⟩
      exact hfirst j hj ((at_take (by simp; omega)).mp hat)
    unfold httpSize
    rw [hcut]
    exact if_neg (by omega)
  · intro input n m hn hm
    obtain ⟨i, hi, rfl, hmax, hle⟩ := httpSize_some hn
    obtain ⟨-, hfirst⟩ := (position_eq_some_iff hne input i).mp hi
    have hnone : position [13, 10, 13, 10] (input.take m) = none := by
      refine (position_eq_none_iff hne _).mpr fun j hat => ?_
      have hj := hat.le hne
      rw [List.length_take] at hj
      simp only [List.length_cons, List.length_nil] at hj
      exact hfirst j (by omega) ((at_take (by simp; omega)).mp hat)
    left
    unfold httpSize
    rw [hnone]
    exact if_neg (by rw [List.length_take]; omega)
  · intro input hlen
    refine ⟨fun hnone => ?_, fun n hn => ?_⟩
    · unfold httpSize at hnone
      split at hnone
      · rw [if_pos hlen] at hnone
        cases hnone
      · split at hnone <;> cases hnone
    · obtain ⟨-, -, -, hmax, -⟩ := httpSize_some hn
      exact hmax

theorem receiveHttp_eq : h.receiveHttp = readSized h httpSize h.httpReply := by
  funext input
  unfold receiveHttp readSized
  cases hp : position [13, 10, 13, 10] input with
  | none =>
    simp only [httpSize, hp]
    split <;> rfl
  | some i =>
    have hle := ((position_eq_some_iff (by simp) input i).mp hp).1.le (by simp)
    simp only [List.length_cons, List.length_nil] at hle
    simp only [httpSize, hp]
    split
    · rfl
    · dsimp only
      rw [if_neg (by omega)]
      unfold httpReply
      have hlength : (input.take (i + 4)).length = i + 4 := by
        rw [List.length_take]
        omega
      cases hline : position [13, 10] (input.take (i + 4)) with
      | none => rfl
      | some lineEnd =>
        have hend := ((position_eq_some_iff (by simp) _ lineEnd).mp hline).1.le (by simp)
        rw [hlength] at hend
        simp only [List.length_cons, List.length_nil] at hend
        dsimp only
        rewrite [List.take_take, Nat.min_eq_left (by omega), hlength]
        cases statusOf (input.take lineEnd) <;> rfl

theorem prefixed_http : Prefixed h h.receiveHttp := by
  rw [receiveHttp_eq]
  refine sized_http.prefixed fun input n k hn hle hk => ?_
  unfold httpReply at hk
  split at hk
  · cases hk
  · split at hk
    · cases hk
    · split at hk
      · cases hk
        rw [List.length_take]
        omega
      · cases hk

end Http

/-- In every state `receive` waits for a whole reply and takes nothing after it. -/
theorem prefixed_receive : Prefixed h h.receive := by
  unfold receive
  split
  · exact h.prefixed_socksMethod
  · exact h.prefixed_socksAuth
  · exact h.prefixed_socksCommand
  · exact h.prefixed_http
  · have hnever : ∀ n : ℕ, (Except.error Error.invalidState : Except Error ℕ) ≠ .ok n := by simp
    exact ⟨fun _ hn => absurd hn (hnever 0), fun _ _ _ => rfl, fun _ n hn => absurd hn (hnever n),
      fun _ _ => hnever 0⟩

end Handshake

/-- One turn of whoever drives a handshake: write some of the output, or show it some of the input. -/
inductive Turn where
  | write (length : ℕ)
  | read (length : ℕ)

/-- A handshake with what was emitted and consumed so far. -/
structure Progress where
  handshake : Handshake
  emitted : Bytes := []
  consumed : ℕ := 0
  failed : Option Error := none

inductive Outcome where
  | complete (boundAddress : Option SocksAddress)
  | failed (error : Error)
  | waiting
  deriving DecidableEq, Repr

namespace Progress

def turn (stream : Bytes) (p : Progress) : Turn → Progress
  | .write length =>
    if p.failed.isSome ∨ p.handshake.output = [] then p
    else
      let sent := min length p.handshake.output.length
      let emitted := p.emitted ++ p.handshake.output.take sent
      match p.handshake.advanceOutput sent with
      | (h, .ok ()) => { p with handshake := h, emitted := emitted }
      | (h, .error e) => { p with handshake := h, emitted := emitted, failed := some e }
  | .read length =>
    if p.failed.isSome ∨ p.handshake.wantsInput = false then p
    else
      match p.handshake.receive ((stream.drop p.consumed).take length) with
      | (h, .ok n) => { p with handshake := h, consumed := p.consumed + n }
      | (h, .error e) => { p with handshake := h, failed := some e }

def run (stream : Bytes) (h : Handshake) (turns : List Turn) : Progress :=
  turns.foldl (turn stream) { handshake := h }

def outcome (p : Progress) : Outcome :=
  match p.failed with
  | some e => .failed e
  | none => if p.handshake.isComplete then .complete p.handshake.boundAddress else .waiting

/-- No turn changes anything any more. -/
def Finished (stream : Bytes) (p : Progress) : Prop :=
  p.failed.isSome = true ∨ p.handshake.isComplete = true ∨
    (p.handshake.wantsInput = true ∧ p.handshake.receive (stream.drop p.consumed) = (p.handshake, .ok 0))

end Progress

namespace Handshake

/-- Output is pending in the states that write and in no other. -/
structure Tidy (h : Handshake) : Prop where
  reading : h.wantsInput = true ∨ h.isComplete = true → h.output = []
  writing : h.wantsInput = false → h.isComplete = false → h.output ≠ []
  room : h.outputOffset ≤ h.buffer.length

/-- What is left to emit, to come to and to consume, whatever the turns are. -/
inductive Concludes : Handshake → Bytes → Bytes → Outcome → ℕ → Prop
  | complete {h : Handshake} {rest : Bytes} (hc : h.isComplete = true) :
      Concludes h rest [] (.complete h.boundAddress) 0
  | waiting {h : Handshake} {rest : Bytes} (hw : h.wantsInput = true) (hr : h.receive rest = (h, .ok 0)) :
      Concludes h rest [] .waiting 0
  | failed {h g : Handshake} {rest : Bytes} {e : Error} (hw : h.wantsInput = true)
      (hr : h.receive rest = (g, .error e)) : Concludes h rest [] (.failed e) 0
  | received {h g : Handshake} {rest emitted : Bytes} {o : Outcome} {n consumed : ℕ}
      (hw : h.wantsInput = true) (hn : 0 < n) (hr : h.receive rest = (g, .ok n))
      (hg : Concludes g (rest.drop n) emitted o consumed) : Concludes h rest emitted o (n + consumed)
  | written {h g : Handshake} {rest emitted : Bytes} {o : Outcome} {consumed : ℕ}
      (hw : h.wantsInput = false) (hc : h.isComplete = false)
      (ha : h.advanceOutput h.output.length = (g, .ok ()))
      (hg : Concludes g rest emitted o consumed) : Concludes h rest (h.output ++ emitted) o consumed

theorem not_complete_of_wantsInput {h : Handshake} (hw : h.wantsInput = true) : h.isComplete = false := by
  unfold wantsInput at hw
  unfold isComplete
  cases hs : h.state <;> simp_all

theorem Concludes.unique {h : Handshake} {rest emitted emitted' : Bytes} {o o' : Outcome}
    {consumed consumed' : ℕ} (hc : Concludes h rest emitted o consumed)
    (hc' : Concludes h rest emitted' o' consumed') :
    emitted = emitted' ∧ o = o' ∧ consumed = consumed' := by
  induction hc generalizing emitted' o' consumed' with
  | complete hcomplete =>
    cases hc' with
    | complete _ => exact ⟨rfl, rfl, rfl⟩
    | waiting hw _ => rw [not_complete_of_wantsInput hw] at hcomplete; cases hcomplete
    | failed hw _ => rw [not_complete_of_wantsInput hw] at hcomplete; cases hcomplete
    | received hw _ _ _ => rw [not_complete_of_wantsInput hw] at hcomplete; cases hcomplete
    | written _ hn _ _ => rw [hn] at hcomplete; cases hcomplete
  | waiting hw hr =>
    cases hc' with
    | complete hcomplete => rw [not_complete_of_wantsInput hw] at hcomplete; cases hcomplete
    | waiting _ _ => exact ⟨rfl, rfl, rfl⟩
    | failed _ hr' => rw [hr] at hr'; cases hr'
    | received _ hn hr' _ => rw [hr] at hr'; cases hr'; omega
    | written hw' _ _ _ => rw [hw] at hw'; cases hw'
  | failed hw hr =>
    cases hc' with
    | complete hcomplete => rw [not_complete_of_wantsInput hw] at hcomplete; cases hcomplete
    | waiting _ hr' => rw [hr] at hr'; cases hr'
    | failed _ hr' => rw [hr] at hr'; cases hr'; exact ⟨rfl, rfl, rfl⟩
    | received _ _ hr' _ => rw [hr] at hr'; cases hr'
    | written hw' _ _ _ => rw [hw] at hw'; cases hw'
  | received hw hn hr _ ih =>
    cases hc' with
    | complete hcomplete => rw [not_complete_of_wantsInput hw] at hcomplete; cases hcomplete
    | waiting _ hr' => rw [hr] at hr'; cases hr'; omega
    | failed _ hr' => rw [hr] at hr'; cases hr'
    | received _ _ hr' hg' =>
      rw [hr] at hr'
      cases hr'
      obtain ⟨he, ho, hk⟩ := ih hg'
      exact ⟨he, ho, by rw [hk]⟩
    | written hw' _ _ _ => rw [hw] at hw'; cases hw'
  | written hw hn ha _ ih =>
    cases hc' with
    | complete hcomplete => rw [hn] at hcomplete; cases hcomplete
    | waiting hw' _ => rw [hw] at hw'; cases hw'
    | failed hw' _ => rw [hw] at hw'; cases hw'
    | received hw' _ _ _ => rw [hw] at hw'; cases hw'
    | written _ _ ha' hg' =>
      rw [ha] at ha'
      cases ha'
      obtain ⟨he, ho, hk⟩ := ih hg'
      exact ⟨by rw [he], ho, hk⟩

section Tidy

variable {h : Handshake}

/-- Replies a handshake can still wait for, counting writes too. -/
def rank (h : Handshake) : ℕ :=
  match h.state with
  | .socksGreetingWrite => 6
  | .socksMethodRead => 5
  | .socksAuthWrite => 4
  | .socksAuthRead => 3
  | .socksCommandWrite => 2
  | .socksCommandRead => 1
  | .httpWrite => 2
  | .httpRead => 1
  | .complete => 0

theorem tidy_writing {state : HandshakeState} {command : Command} {target : SocketAddr}
    {credentials : Option Credentials} {buffer : Bytes} {bound : Option SocksAddress} (hb : buffer ≠ [])
    (hw : wantsInput ⟨state, command, target, credentials, buffer, 0, bound⟩ = false)
    (hc : isComplete ⟨state, command, target, credentials, buffer, 0, bound⟩ = false) :
    Tidy ⟨state, command, target, credentials, buffer, 0, bound⟩ where
  reading hr := by
    rw [hw, hc] at hr
    rcases hr with hr | hr <;> cases hr
  writing _ _ := hb
  room := Nat.zero_le _

theorem tidy_new {protocol : Protocol} {command : Command} {target : SocketAddr}
    {credentials : Option Credentials} (hnew : new protocol command target credentials = .ok h) : Tidy h := by
  unfold new at hnew
  cases protocol with
  | socks5 =>
    cases hnew
    refine tidy_writing ?_ rfl rfl
    unfold socksGreeting
    split <;> simp
  | httpConnect =>
    dsimp only at hnew
    split at hnew
    · cases hnew
      refine tidy_writing ?_ rfl rfl
      simp [httpConnectRequest, ascii]
    · cases hnew

theorem tidy_requestCommand (h : Handshake) : Tidy h.requestCommand :=
  tidy_writing (by simp [setOutput, socksCommandRequest]) rfl rfl

theorem output_length (h : Handshake) : h.output.length = h.buffer.length - h.outputOffset := by
  unfold output
  rw [List.length_drop]

def drained (h : Handshake) : Handshake × Except Error Unit :=
  let h := { h with buffer := [], outputOffset := 0 }
  match h.state with
  | .socksGreetingWrite => ({ h with state := .socksMethodRead }, .ok ())
  | .socksAuthWrite => ({ h with state := .socksAuthRead }, .ok ())
  | .socksCommandWrite => ({ h with state := .socksCommandRead }, .ok ())
  | .httpWrite => ({ h with state := .httpRead }, .ok ())
  | _ => (h, .error .invalidState)

theorem advanceOutput_all (hne : h.output ≠ []) : h.advanceOutput h.output.length = h.drained := by
  have hlength := output_length h
  have hpos := List.length_pos_iff.mpr hne
  unfold advanceOutput
  rw [if_neg (by simp [hne])]
  dsimp only
  rw [if_neg (by omega)]
  rfl

theorem Tidy.advance_all (ht : Tidy h) (hw : h.wantsInput = false) (hc : h.isComplete = false) :
    ∃ g, h.advanceOutput h.output.length = (g, .ok ()) ∧ Tidy g ∧ g.rank < h.rank := by
  rw [advanceOutput_all (ht.writing hw hc)]
  unfold drained
  have htidy : ∀ state, Tidy { h with buffer := [], outputOffset := 0, state := state } ∨
      wantsInput { h with state := state } = false := by
    intro state
    cases hs : wantsInput { h with state := state } with
    | false => exact .inr rfl
    | true =>
      refine .inl ⟨fun _ => rfl, fun hn => ?_, Nat.le_refl _⟩
      exact absurd (hs.symm.trans hn) (by simp)
  unfold wantsInput at hw
  unfold isComplete at hc
  cases hs : h.state with
  | socksGreetingWrite => exact ⟨_, rfl, (htidy .socksMethodRead).resolve_right (by simp [wantsInput]), by
      simp [rank, hs]⟩
  | socksAuthWrite => exact ⟨_, rfl, (htidy .socksAuthRead).resolve_right (by simp [wantsInput]), by
      simp [rank, hs]⟩
  | socksCommandWrite => exact ⟨_, rfl, (htidy .socksCommandRead).resolve_right (by simp [wantsInput]), by
      simp [rank, hs]⟩
  | httpWrite => exact ⟨_, rfl, (htidy .httpRead).resolve_right (by simp [wantsInput]), by
      simp [rank, hs]⟩
  | socksMethodRead => simp [hs] at hw
  | socksAuthRead => simp [hs] at hw
  | socksCommandRead => simp [hs] at hw
  | httpRead => simp [hs] at hw
  | complete => simp [hs] at hc

theorem Tidy.advance_part (ht : Tidy h) (hw : h.wantsInput = false) (hc : h.isComplete = false) {n : ℕ}
    (hn : n < h.output.length) :
    ∃ g, h.advanceOutput n = (g, .ok ()) ∧ Tidy g ∧ g.output = h.output.drop n ∧
      g.wantsInput = false ∧ g.isComplete = false ∧
      g.advanceOutput g.output.length = h.advanceOutput h.output.length := by
  have hne := ht.writing hw hc
  have hroom := ht.room
  have hlength := output_length h
  have houtput : output { h with outputOffset := h.outputOffset + n } = h.output.drop n := by
    unfold output
    rw [List.drop_drop]
  refine ⟨{ h with outputOffset := h.outputOffset + n }, ?_, ?_, houtput, hw, hc, ?_⟩
  · unfold advanceOutput
    rw [if_neg (by simp [hne]; omega)]
    dsimp only
    rw [if_pos (by omega)]
  · refine ⟨fun hr => ?_, fun _ _ => ?_, ?_⟩
    · change h.wantsInput = true ∨ h.isComplete = true at hr
      rw [hw, hc] at hr
      rcases hr with hr | hr <;> cases hr
    · rw [houtput]
      apply List.length_pos_iff.mp
      rw [List.length_drop]
      omega
    · dsimp only
      omega
  · have hne' : output { h with outputOffset := h.outputOffset + n } ≠ [] := by
      rw [houtput]
      apply List.length_pos_iff.mp
      rw [List.length_drop]
      omega
    rw [advanceOutput_all hne', advanceOutput_all hne]
    rfl

theorem Tidy.receive (ht : Tidy h) (hw : h.wantsInput = true) (input : Bytes) :
    Tidy (h.receive input).1 ∧ ∀ n, 0 < n → (h.receive input).2 = .ok n → (h.receive input).1.rank < h.rank := by
  have hempty := ht.reading (.inl hw)
  have hcomplete : ∀ bound, Tidy { h with state := .complete, credentials := none, boundAddress := bound } :=
    fun bound => ⟨fun _ => hempty, fun _ hc => by simp [isComplete] at hc, ht.room⟩
  unfold Handshake.receive
  cases hs : h.state with
  | socksMethodRead =>
    dsimp only
    unfold receiveSocksMethod
    split
    · split
      · exact ⟨ht, fun _ _ hn => by cases hn⟩
      split
      · exact ⟨tidy_requestCommand h, fun _ _ _ => by simp [rank, hs, requestCommand]⟩
      split
      · split
        · exact ⟨ht, fun _ _ hn => by cases hn⟩
        · refine ⟨tidy_writing ?_ rfl rfl, fun _ _ _ => by simp [rank, hs]⟩
          simp [setOutput, socksAuthRequest]
      · exact ⟨ht, fun _ _ hn => by cases hn⟩
    · exact ⟨ht, fun n hn he => by cases he; omega⟩
  | socksAuthRead =>
    dsimp only
    unfold receiveSocksAuth
    split
    · split
      · exact ⟨ht, fun _ _ hn => by cases hn⟩
      split
      · exact ⟨ht, fun _ _ hn => by cases hn⟩
      · exact ⟨tidy_requestCommand h, fun _ _ _ => by simp [rank, hs, requestCommand]⟩
    · exact ⟨ht, fun n hn he => by cases he; omega⟩
  | socksCommandRead =>
    dsimp only
    unfold receiveSocksCommand
    split
    · split
      · exact ⟨ht, fun _ _ hn => by cases hn⟩
      split
      · exact ⟨ht, fun _ _ hn => by cases hn⟩
      · exact ⟨ht, fun n hn he => by cases he; omega⟩
      · split
        · exact ⟨ht, fun n hn he => by cases he; omega⟩
        split
        · exact ⟨ht, fun _ _ hn => by cases hn⟩
        split
        · exact ⟨ht, fun _ _ hn => by cases hn⟩
        · exact ⟨hcomplete _, fun _ _ _ => by simp [rank, hs]⟩
    · exact ⟨ht, fun n hn he => by cases he; omega⟩
  | httpRead =>
    dsimp only
    unfold receiveHttp
    split
    · split
      · exact ⟨ht, fun _ _ hn => by cases hn⟩
      · exact ⟨ht, fun n hn he => by cases he; omega⟩
    · dsimp only
      split
      · exact ⟨ht, fun _ _ hn => by cases hn⟩
      split
      · exact ⟨ht, fun _ _ hn => by cases hn⟩
      split
      · exact ⟨ht, fun _ _ hn => by cases hn⟩
      split
      · exact ⟨hcomplete _, fun _ _ _ => by simp [rank, hs]⟩
      · exact ⟨ht, fun _ _ hn => by cases hn⟩
  | socksGreetingWrite => simp [wantsInput, hs] at hw
  | socksAuthWrite => simp [wantsInput, hs] at hw
  | socksCommandWrite => simp [wantsInput, hs] at hw
  | httpWrite => simp [wantsInput, hs] at hw
  | complete => simp [wantsInput, hs] at hw

end Tidy

end Handshake

namespace Progress

variable {stream : Bytes} {p : Progress}

/-- The totals that a run ends with from here on. -/
def Totals (stream : Bytes) (p : Progress) (emitted : Bytes) (o : Outcome) (consumed : ℕ) : Prop :=
  match p.failed with
  | some e => emitted = p.emitted ∧ o = .failed e ∧ consumed = p.consumed
  | none => ∃ more left, Handshake.Concludes p.handshake (stream.drop p.consumed) more o left ∧
      emitted = p.emitted ++ more ∧ consumed = p.consumed + left

theorem Totals.unique {emitted emitted' : Bytes} {o o' : Outcome} {consumed consumed' : ℕ}
    (h : Totals stream p emitted o consumed) (h' : Totals stream p emitted' o' consumed') :
    emitted = emitted' ∧ o = o' ∧ consumed = consumed' := by
  unfold Totals at h h'
  cases hf : p.failed with
  | some e =>
    rw [hf] at h h'
    obtain ⟨rfl, rfl, rfl⟩ := h
    obtain ⟨rfl, rfl, rfl⟩ := h'
    exact ⟨rfl, rfl, rfl⟩
  | none =>
    rw [hf] at h h'
    obtain ⟨more, left, hc, rfl, rfl⟩ := h
    obtain ⟨more', left', hc', rfl, rfl⟩ := h'
    obtain ⟨rfl, rfl, rfl⟩ := hc.unique hc'
    exact ⟨rfl, rfl, rfl⟩

theorem totals_of_finished (h : Finished stream p) : Totals stream p p.emitted p.outcome p.consumed := by
  unfold Totals outcome
  cases hf : p.failed with
  | some e => exact ⟨rfl, rfl, rfl⟩
  | none =>
    rcases h with h | h | ⟨hw, hr⟩
    · rw [hf] at h
      cases h
    · dsimp only
      rw [if_pos h]
      exact ⟨[], 0, .complete h, (List.append_nil _).symm, rfl⟩
    · dsimp only
      rw [if_neg (by simp [Handshake.not_complete_of_wantsInput hw])]
      exact ⟨[], 0, .waiting hw hr, (List.append_nil _).symm, rfl⟩

theorem write_step (ht : p.handshake.Tidy) (length : ℕ) :
    (p.turn stream (.write length)).handshake.Tidy ∧
      ∀ emitted o consumed, Totals stream (p.turn stream (.write length)) emitted o consumed →
        Totals stream p emitted o consumed := by
  unfold turn
  dsimp only
  split
  · exact ⟨ht, fun _ _ _ h => h⟩
  rename_i hskip
  obtain ⟨hfailed, hne⟩ := not_or.mp hskip
  have hf : p.failed = none := by
    cases hp : p.failed with
    | none => rfl
    | some e => exact absurd (by rw [hp]; rfl) hfailed
  have hw : p.handshake.wantsInput = false := by
    cases hs : p.handshake.wantsInput with
    | false => rfl
    | true => exact absurd (ht.reading (.inl hs)) hne
  have hc : p.handshake.isComplete = false := by
    cases hs : p.handshake.isComplete with
    | false => rfl
    | true => exact absurd (ht.reading (.inr hs)) hne
  by_cases hall : p.handshake.output.length ≤ length
  · rw [Nat.min_eq_right hall, List.take_length]
    obtain ⟨g, hg, htg, -⟩ := ht.advance_all hw hc
    rw [hg]
    refine ⟨htg, fun emitted o consumed h => ?_⟩
    unfold Totals at h ⊢
    dsimp only at h
    rw [hf] at h ⊢
    obtain ⟨more, left, hconcludes, rfl, rfl⟩ := h
    exact ⟨_, left, .written hw hc hg hconcludes, List.append_assoc _ _ _, rfl⟩
  · have hlt : length < p.handshake.output.length := Nat.lt_of_not_le hall
    rw [Nat.min_eq_left (Nat.le_of_lt hlt)]
    obtain ⟨g, hg, htg, houtput, hgw, hgc, hsame⟩ := ht.advance_part hw hc hlt
    rw [hg]
    refine ⟨htg, fun emitted o consumed h => ?_⟩
    unfold Totals at h ⊢
    dsimp only at h
    rw [hf] at h ⊢
    obtain ⟨more, left, hconcludes, rfl, rfl⟩ := h
    -- what is left to write begins with the rest of this output
    cases hconcludes with
    | complete hn => rw [hgc] at hn; cases hn
    | waiting hn _ => rw [hgw] at hn; cases hn
    | failed hn _ => rw [hgw] at hn; cases hn
    | received hn _ _ _ => rw [hgw] at hn; cases hn
    | written _ _ ha hrest =>
      refine ⟨_, left, .written hw hc (hsame.symm.trans ha) hrest, ?_, rfl⟩
      rw [houtput, List.append_assoc, ← List.append_assoc (List.take length p.handshake.output),
        List.take_append_drop]

theorem read_step (ht : p.handshake.Tidy) (length : ℕ) :
    (p.turn stream (.read length)).handshake.Tidy ∧
      ∀ emitted o consumed, Totals stream (p.turn stream (.read length)) emitted o consumed →
        Totals stream p emitted o consumed := by
  unfold turn
  dsimp only
  split
  · exact ⟨ht, fun _ _ _ h => h⟩
  rename_i hskip
  obtain ⟨hfailed, hwants⟩ := not_or.mp hskip
  have hf : p.failed = none := by
    cases hp : p.failed with
    | none => rfl
    | some e => exact absurd (by rw [hp]; rfl) hfailed
  have hw : p.handshake.wantsInput = true := by simpa using hwants
  have hprefixed := p.handshake.prefixed_receive
  have htidy := (ht.receive hw ((stream.drop p.consumed).take length)).1
  have hrest : (stream.drop p.consumed).take length ++ (stream.drop p.consumed).drop length =
      stream.drop p.consumed := List.take_append_drop _ _
  split
  · rename_i g n hr
    rw [hr] at htidy
    refine ⟨htidy, fun emitted o consumed h => ?_⟩
    unfold Totals at h ⊢
    dsimp only at h
    rw [hf] at h ⊢
    obtain ⟨more, left, hconcludes, rfl, rfl⟩ := h
    rcases Nat.eq_zero_or_pos n with rfl | hpos
    · have hg := hprefixed.idle _ (by rw [hr])
      rw [hr] at hg
      dsimp only at hg
      rw [hg] at hconcludes
      exact ⟨more, left, hconcludes, rfl, rfl⟩
    · have hwhole := hprefixed.stable _ ((stream.drop p.consumed).drop length)
        (by rw [hr]; simp only [ne_eq, Except.ok.injEq]; omega)
      rw [hrest, hr] at hwhole
      refine ⟨more, n + left, .received hw hpos hwhole ?_, rfl, by omega⟩
      rw [List.drop_drop]
      exact hconcludes
  · rename_i g e hr
    rw [hr] at htidy
    refine ⟨htidy, fun emitted o consumed h => ?_⟩
    unfold Totals at h ⊢
    dsimp only at h
    rw [hf]
    obtain ⟨rfl, rfl, rfl⟩ := h
    have hwhole := hprefixed.stable _ ((stream.drop p.consumed).drop length) (by rw [hr]; simp)
    rw [hrest, hr] at hwhole
    exact ⟨[], 0, .failed hw hwhole, (List.append_nil _).symm, rfl⟩

theorem turn_step (ht : p.handshake.Tidy) (t : Turn) :
    (p.turn stream t).handshake.Tidy ∧
      ∀ emitted o consumed, Totals stream (p.turn stream t) emitted o consumed →
        Totals stream p emitted o consumed := by
  cases t with
  | write length => exact write_step ht length
  | read length => exact read_step ht length

/-- The totals of a run are those of its start. -/
theorem totals_of_run (ht : p.handshake.Tidy) (turns : List Turn) {emitted : Bytes} {o : Outcome}
    {consumed : ℕ} (h : Totals stream (turns.foldl (turn stream) p) emitted o consumed) :
    Totals stream p emitted o consumed := by
  induction turns generalizing p with
  | nil => exact h
  | cons t turns ih =>
    obtain ⟨htidy, hback⟩ := @turn_step stream _ ht t
    exact hback _ _ _ (ih htidy h)

theorem exists_finished (ht : p.handshake.Tidy) (hf : p.failed = none) :
    ∃ turns : List Turn, Finished stream (turns.foldl (turn stream) p) := by
  induction hrank : p.handshake.rank using Nat.strong_induction_on generalizing p with
  | _ rank ih =>
    by_cases hc : p.handshake.isComplete = true
    · exact ⟨[], .inr (.inl hc)⟩
    by_cases hw : p.handshake.wantsInput = true
    · -- show all there is
      have hall : (stream.drop p.consumed).take stream.length = stream.drop p.consumed := by
        apply List.take_of_length_le
        rw [List.length_drop]
        omega
      obtain ⟨htidy, hless⟩ := ht.receive hw (stream.drop p.consumed)
      have hturn : p.turn stream (.read stream.length) =
          match p.handshake.receive (stream.drop p.consumed) with
          | (h, .ok n) => { p with handshake := h, consumed := p.consumed + n }
          | (h, .error e) => { p with handshake := h, failed := some e } := by
        unfold turn
        dsimp only
        rw [if_neg (by simp [hf, hw]), hall]
      cases hr : p.handshake.receive (stream.drop p.consumed) with
      | mk g result =>
        rw [hr] at hturn htidy hless
        cases result with
        | error e =>
          refine ⟨[.read stream.length], .inl ?_⟩
          rw [List.foldl_cons, List.foldl_nil, hturn]
          rfl
        | ok n =>
          rcases Nat.eq_zero_or_pos n with rfl | hpos
          · have hidle := p.handshake.prefixed_receive.idle (stream.drop p.consumed) (by rw [hr])
            rw [hr] at hidle
            dsimp only at hidle
            exact ⟨[], .inr (.inr ⟨hw, by rw [List.foldl_nil, hr, hidle]⟩)⟩
          · have hlt : g.rank < p.handshake.rank := hless n hpos rfl
            obtain ⟨turns, hfinished⟩ := ih g.rank (by omega)
              (p := { p with handshake := g, consumed := p.consumed + n }) htidy hf rfl
            refine ⟨.read stream.length :: turns, ?_⟩
            rw [List.foldl_cons, hturn]
            exact hfinished
    · have hw' : p.handshake.wantsInput = false := by simpa using hw
      have hc' : p.handshake.isComplete = false := by simpa using hc
      have hne := ht.writing hw' hc'
      obtain ⟨g, hg, htg, hlt⟩ := ht.advance_all hw' hc'
      have hturn : p.turn stream (.write p.handshake.output.length) =
          { p with handshake := g, emitted := p.emitted ++ p.handshake.output } := by
        unfold turn
        dsimp only
        rw [if_neg (by simp [hf, hne]), Nat.min_self, List.take_length, hg]
      obtain ⟨turns, hfinished⟩ := ih g.rank (by omega)
        (p := { p with handshake := g, emitted := p.emitted ++ p.handshake.output }) htg hf rfl
      refine ⟨.write p.handshake.output.length :: turns, ?_⟩
      rw [List.foldl_cons, hturn]
      exact hfinished

end Progress

end Yayatht.Proxy
