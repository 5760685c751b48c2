import Mathlib.Data.List.TakeWhile
import Mathlib.Tactic.Common
import Yayatht.Handshake

set_option autoImplicit false

namespace Yayatht.Proxy

/-! ## Base64 -/

def base64Value (digit : UInt8) : Option ℕ :=
  if 65 ≤ digit.toNat ∧ digit.toNat ≤ 90 then some (digit.toNat - 65)
  else if 97 ≤ digit.toNat ∧ digit.toNat ≤ 122 then some (digit.toNat - 71)
  else if 48 ≤ digit.toNat ∧ digit.toNat ≤ 57 then some (digit.toNat + 4)
  else if digit = 43 then some 62
  else if digit = 47 then some 63
  else none

def firstByte (a b : ℕ) : UInt8 := UInt8.ofNat (a * 4 + b / 16)
def secondByte (b c : ℕ) : UInt8 := UInt8.ofNat (b % 16 * 16 + c / 4)
def thirdByte (c d : ℕ) : UInt8 := UInt8.ofNat (c % 4 * 64 + d)

/-- Four digits at a time; only the last four may end in padding. -/
def base64Decode : Bytes → Option Bytes
  | [] => some []
  | [a, b, c, d] => do
    let x ← base64Value a
    let y ← base64Value b
    if c = 61 ∧ d = 61 then some [firstByte x y]
    else do
      let z ← base64Value c
      if d = 61 then some [firstByte x y, secondByte y z]
      else do some [firstByte x y, secondByte y z, thirdByte z (← base64Value d)]
  | a :: b :: c :: d :: rest => do
    let x ← base64Value a
    let y ← base64Value b
    let z ← base64Value c
    let w ← base64Value d
    some (firstByte x y :: secondByte y z :: thirdByte z w :: (← base64Decode rest))
  | _ => none

theorem base64Value_digit {n : ℕ} (h : n < 64) : base64Value (base64Digit n) = some n := by
  have hall : ∀ i : Fin 64, base64Value (base64Digit i) = some i.val := by decide
  exact hall ⟨n, h⟩

theorem base64Digit_ne {n : ℕ} (h : n < 64) : base64Digit n ≠ 61 := by
  have hall : ∀ i : Fin 64, base64Digit i ≠ 61 := by decide
  exact hall ⟨n, h⟩

variable {a b c : UInt8} {raw rest : Bytes} {encode : Bytes → Bytes}

theorem firstByte_eq {n : ℕ} (h : n < 16) : firstByte (a.toNat / 4) (a.toNat % 4 * 16 + n) = a := by
  have ha := a.toNat_lt
  apply UInt8.toNat_inj.mp
  rw [firstByte, UInt8.toNat_ofNat']
  omega

theorem secondByte_eq {m n : ℕ} (h : n < 4) : secondByte (m * 16 + b.toNat / 16) (b.toNat % 16 * 4 + n) = b := by
  have hb := b.toNat_lt
  apply UInt8.toNat_inj.mp
  rw [secondByte, UInt8.toNat_ofNat']
  omega

theorem thirdByte_eq (m : ℕ) : thirdByte (m * 4 + c.toNat / 64) (c.toNat % 64) = c := by
  have hc := c.toNat_lt
  apply UInt8.toNat_inj.mp
  rw [thirdByte, UInt8.toNat_ofNat']
  omega

theorem base64_ne_nil (h : raw ≠ []) : base64 raw ≠ [] := by
  match raw with
  | [] => exact absurd rfl h
  | [a] => simp [base64]
  | [a, b] => simp [base64]
  | a :: b :: c :: rest => simp [base64]

theorem base64Decode_base64 (raw : Bytes) : base64Decode (base64 raw) = some raw := by
  match raw with
  | [] => rfl
  | [a] =>
    have ha := a.toNat_lt
    have hx : a.toNat / 4 < 64 := by omega
    have hy : a.toNat % 4 * 16 < 64 := by omega
    have hfirst := firstByte_eq (a := a) (by omega : 0 < 16)
    simp only [base64, base64Decode, base64Value_digit hx, base64Value_digit hy, Option.bind_eq_bind,
      Option.bind_some, and_self, if_true]
    rw [Nat.add_zero] at hfirst
    rw [hfirst]
  | [a, b] =>
    have ha := a.toNat_lt
    have hb := b.toNat_lt
    have hx : a.toNat / 4 < 64 := by omega
    have hy : a.toNat % 4 * 16 + b.toNat / 16 < 64 := by omega
    have hz : b.toNat % 16 * 4 < 64 := by omega
    have hfirst := firstByte_eq (a := a) (by omega : b.toNat / 16 < 16)
    have hsecond := secondByte_eq (b := b) (m := a.toNat % 4) (by omega : 0 < 4)
    rw [Nat.add_zero] at hsecond
    simp only [base64, base64Decode, base64Value_digit hx, base64Value_digit hy, base64Value_digit hz,
      Option.bind_eq_bind, Option.bind_some, base64Digit_ne hz, false_and, if_false, if_true, hfirst, hsecond]
  | a :: b :: c :: rest =>
    have ih := base64Decode_base64 rest
    have ha := a.toNat_lt
    have hb := b.toNat_lt
    have hc := c.toNat_lt
    have hx : a.toNat / 4 < 64 := by omega
    have hy : a.toNat % 4 * 16 + b.toNat / 16 < 64 := by omega
    have hz : b.toNat % 16 * 4 + c.toNat / 64 < 64 := by omega
    have hw : c.toNat % 64 < 64 := by omega
    have hfirst := firstByte_eq (a := a) (by omega : b.toNat / 16 < 16)
    have hsecond := secondByte_eq (b := b) (m := a.toNat % 4) (by omega : c.toNat / 64 < 4)
    have hthird := thirdByte_eq (c := c) (b.toNat % 16)
    cases hrest : base64 rest with
    | nil =>
      have hnil : rest = [] := by
        by_contra hne
        exact base64_ne_nil hne hrest
      subst hnil
      simp only [base64, List.append_nil, base64Decode, base64Value_digit hx, base64Value_digit hy,
        base64Value_digit hz, base64Value_digit hw, Option.bind_eq_bind, Option.bind_some,
        base64Digit_ne hw, and_false, if_false, hfirst, hsecond, hthird]
    | cons head tail =>
      rw [hrest] at ih
      simp only [base64, hrest, List.cons_append, List.nil_append, base64Decode, base64Value_digit hx,
        base64Value_digit hy, base64Value_digit hz, base64Value_digit hw, Option.bind_eq_bind,
        Option.bind_some, ih, hfirst, hsecond, hthird]

/-- A digit or padding. -/
def IsBase64 (byte : UInt8) : Prop := byte = 61 ∨ (base64Value byte).isSome

theorem isBase64_digit {n : ℕ} (h : n < 64) : IsBase64 (base64Digit n) := by
  refine .inr ?_
  rw [base64Value_digit h]
  rfl

theorem isBase64_padding : IsBase64 61 := .inl rfl

theorem IsBase64.graphic {byte : UInt8} (h : IsBase64 byte) : 33 ≤ byte.toNat := by
  rcases h with rfl | h
  · decide
  · unfold base64Value at h
    split_ifs at h with hupper hlower hdecimal hplus hslash
    · omega
    · omega
    · omega
    · subst hplus
      decide
    · subst hslash
      decide
    · simp at h

theorem base64_digits (raw : Bytes) : ∀ byte ∈ base64 raw, IsBase64 byte := by
  match raw with
  | [] => exact fun _ hm => (List.not_mem_nil hm).elim
  | [a] =>
    have ha := a.toNat_lt
    have hx := isBase64_digit (by omega : a.toNat / 4 < 64)
    have hy := isBase64_digit (by omega : a.toNat % 4 * 16 < 64)
    simp [base64, hx, hy, isBase64_padding]
  | [a, b] =>
    have ha := a.toNat_lt
    have hb := b.toNat_lt
    have hx := isBase64_digit (by omega : a.toNat / 4 < 64)
    have hy := isBase64_digit (by omega : a.toNat % 4 * 16 + b.toNat / 16 < 64)
    have hz := isBase64_digit (by omega : b.toNat % 16 * 4 < 64)
    simp [base64, hx, hy, hz, isBase64_padding]
  | a :: b :: c :: rest =>
    have ih := base64_digits rest
    have ha := a.toNat_lt
    have hb := b.toNat_lt
    have hc := c.toNat_lt
    have hx := isBase64_digit (by omega : a.toNat / 4 < 64)
    have hy := isBase64_digit (by omega : a.toNat % 4 * 16 + b.toNat / 16 < 64)
    have hz := isBase64_digit (by omega : b.toNat % 16 * 4 + c.toNat / 64 < 64)
    have hw := isBase64_digit (by omega : c.toNat % 64 < 64)
    simpa [base64, hx, hy, hz, hw] using ih

/-- What the requests rely on of the base64 crate: it writes standard digits and padding only, and a standard
decoder reads back what was encoded. -/
structure StandardBase64 (encode : Bytes → Bytes) : Prop where
  decode_encode : ∀ raw, base64Decode (encode raw) = some raw
  digits : ∀ raw, ∀ byte ∈ encode raw, IsBase64 byte

theorem standardBase64 : StandardBase64 base64 := ⟨base64Decode_base64, base64_digits⟩

/-! ## The request of SOCKS5 -/

/-- A version, and two fields that start with their lengths. -/
def decodeSocksAuth : Bytes → Option (Bytes × Bytes)
  | 1 :: length :: rest =>
    match rest.drop length.toNat with
    | length' :: password =>
      if password.length = length'.toNat then some (rest.take length.toNat, password) else none
    | [] => none
  | _ => none

theorem decodeSocksAuth_request (c : Credentials) :
    decodeSocksAuth (socksAuthRequest c) = some (c.username, c.password) := by
  have husername : (UInt8.ofNat c.username.length).toNat = c.username.length := by
    rw [UInt8.toNat_ofNat']
    exact Nat.mod_eq_of_lt (Nat.lt_succ_of_le c.username_le)
  have hpassword : (UInt8.ofNat c.password.length).toNat = c.password.length := by
    rw [UInt8.toNat_ofNat']
    exact Nat.mod_eq_of_lt (Nat.lt_succ_of_le c.password_le)
  have hrequest : socksAuthRequest c = 1 :: UInt8.ofNat c.username.length ::
      (c.username ++ UInt8.ofNat c.password.length :: c.password) := by
    simp [socksAuthRequest]
  rw [hrequest, decodeSocksAuth, husername, List.drop_left, List.take_left]
  dsimp only
  rw [if_pos hpassword.symm]

/-! ## The header of HTTP -/

def splitLines : Bytes → List Bytes
  | [] => [[]]
  | 13 :: 10 :: rest => [] :: splitLines rest
  | byte :: rest =>
    match splitLines rest with
    | [] => [[byte]]
    | line :: lines => (byte :: line) :: lines

def basicHeader : Bytes := ascii "Proxy-Authorization: Basic "

/-- What follows the first colon is the password. -/
def splitColon (bytes : Bytes) : Option (Bytes × Bytes) :=
  match bytes.dropWhile (· ≠ 58) with
  | _ :: password => some (bytes.takeWhile (· ≠ 58), password)
  | [] => none

def decodeHttpAuth (request : Bytes) : Option (Bytes × Bytes) := do
  let line ← (splitLines request).find? fun line => basicHeader.isPrefixOf line
  let raw ← base64Decode (line.drop basicHeader.length)
  splitColon raw

theorem splitLines_append {line : Bytes} (h : ∀ byte ∈ line, byte ≠ 13) (rest : Bytes) :
    splitLines (line ++ 13 :: 10 :: rest) = line :: splitLines rest := by
  induction line with
  | nil => rw [List.nil_append, splitLines]
  | cons byte line ih =>
    obtain ⟨hbyte, hline⟩ := List.forall_mem_cons.mp h
    rw [List.cons_append, splitLines]
    · rw [ih hline]
    · rintro rest' rfl
      exact absurd rfl hbyte

theorem splitColon_join {username : Bytes} (h : (58 : UInt8) ∉ username) (password : Bytes) :
    splitColon (username ++ 58 :: password) = some (username, password) := by
  have hall : ∀ byte ∈ username, decide (byte ≠ 58) = true := by
    intro byte hm
    rw [decide_eq_true_iff]
    rintro rfl
    exact h hm
  have hdrop : (username ++ 58 :: password).dropWhile (· ≠ 58) = 58 :: password := by
    rw [List.dropWhile_append_of_pos hall]
    simp
  have htake : (username ++ 58 :: password).takeWhile (· ≠ 58) = username := by
    rw [List.takeWhile_append_of_pos hall]
    simp
  unfold splitColon
  rw [hdrop, htake]

theorem not_mem_of_splitColon {username password : Bytes} (h : splitColon raw = some (username, password)) :
    (58 : UInt8) ∉ username := by
  unfold splitColon at h
  split at h
  · cases h
    intro hm
    have hne := List.mem_takeWhile_imp hm
    simp at hne
  · cases h

def Graphic (bytes : Bytes) : Prop := ∀ byte ∈ bytes, 33 ≤ byte.toNat

instance (bytes : Bytes) : Decidable (Graphic bytes) :=
  inferInstanceAs (Decidable (∀ byte ∈ bytes, 33 ≤ byte.toNat))

theorem Graphic.append {front : Bytes} (h : Graphic front) (h' : Graphic rest) : Graphic (front ++ rest) :=
  List.forall_mem_append.mpr ⟨h, h'⟩

theorem graphic_decimal (n : ℕ) : Graphic (decimal n) := by
  intro byte hm
  obtain ⟨char, hchar, rfl⟩ := List.mem_map.mp hm
  have hdigits : (toString n).toList = Nat.toDigits 10 n := Nat.toList_repr
  rw [hdigits] at hchar
  have hdigit := Char.isDigit_iff_toNat.mp (Nat.isDigit_of_mem_toDigits (by decide) (by decide) hchar)
  have hzero : '0'.toNat = 48 := rfl
  have hnine : '9'.toNat = 57 := rfl
  rw [UInt8.toNat_ofNat']
  omega

theorem graphic_hextet (n : ℕ) : Graphic (hextet n) := by
  have hdigit : ∀ k < 16, 33 ≤ (hexDigit k).toNat := by decide
  intro byte hm
  obtain ⟨k, hk, rfl⟩ := List.mem_map.mp hm
  apply hdigit
  have hmem : k ∈ [n / 4096 % 16, n / 256 % 16, n / 16 % 16, n % 16] := by
    rcases List.mem_append.mp hk with hk | hk
    · exact List.mem_of_mem_take ((List.dropWhile_sublist _).subset hk)
    · exact List.mem_of_mem_drop hk
  simp only [List.mem_cons, List.not_mem_nil, or_false] at hmem
  omega

theorem graphic_joinHextets (words : List ℕ) : Graphic (joinHextets words) := by
  have hcolon : Graphic (ascii ":") := by decide +kernel
  unfold joinHextets
  induction words with
  | nil => exact fun _ hm => (List.not_mem_nil hm).elim
  | cons word words ih =>
    cases words with
    | nil => simpa using graphic_hextet word
    | cons next words =>
      simp only [List.map_cons, List.intercalate_cons_cons] at ih ⊢
      exact ((graphic_hextet word).append hcolon).append ih

theorem graphic_formatIpv4 (ip : BitVec 32) : Graphic (formatIpv4 ip) := by
  have hdot : Graphic (ascii ".") := by decide +kernel
  unfold formatIpv4
  exact ((((((graphic_decimal _).append hdot).append (graphic_decimal _)).append hdot).append
    (graphic_decimal _)).append hdot).append (graphic_decimal _)

theorem graphic_formatIpv6 (ip : BitVec 128) : Graphic (formatIpv6 ip) := by
  have hmapped : Graphic (ascii "::ffff:") := by decide +kernel
  have hgap : Graphic (ascii "::") := by decide +kernel
  unfold formatIpv6
  split
  · exact hmapped.append (graphic_formatIpv4 _)
  · dsimp only
    split
    · exact ((graphic_joinHextets _).append hgap).append (graphic_joinHextets _)
    · exact graphic_joinHextets _

theorem graphic_authority (target : SocketAddr) : Graphic (authority target) := by
  have hcolon : Graphic (ascii ":") := by decide +kernel
  have hopen : Graphic (ascii "[") := by decide +kernel
  have hclose : Graphic (ascii "]:") := by decide +kernel
  cases target with
  | v4 ip port => exact ((graphic_formatIpv4 ip).append hcolon).append (graphic_decimal _)
  | v6 ip port => exact ((hopen.append (graphic_formatIpv6 ip)).append hclose).append (graphic_decimal _)

theorem ne_return {front : Bytes} (hfront : ∀ byte ∈ front, byte ≠ 13) (h : Graphic rest) :
    ∀ byte ∈ front ++ rest, byte ≠ 13 := by
  refine List.forall_mem_append.mpr ⟨hfront, ?_⟩
  rintro byte hm rfl
  exact absurd (h 13 hm) (by decide)

theorem splitLines_request (h : StandardBase64 encode) (target : SocketAddr) (c : Credentials) :
    splitLines (httpConnectRequest encode target (some c)) =
      [ascii "CONNECT " ++ authority target ++ ascii " HTTP/1.1", ascii "Host: " ++ authority target,
        basicHeader ++ encode (c.username ++ 58 :: c.password), [], []] := by
  have htarget := graphic_authority target
  have hconnect : ∀ byte ∈ ascii "CONNECT " ++ authority target ++ ascii " HTTP/1.1", byte ≠ 13 :=
    List.forall_mem_append.mpr ⟨ne_return (by decide +kernel) htarget, by decide +kernel⟩
  have hhost : ∀ byte ∈ ascii "Host: " ++ authority target, byte ≠ 13 := ne_return (by decide +kernel) htarget
  have hbasic : ∀ byte ∈ basicHeader ++ encode (c.username ++ 58 :: c.password), byte ≠ 13 :=
    ne_return (by decide +kernel) fun byte hm => (h.digits _ byte hm).graphic
  have hrequest : httpConnectRequest encode target (some c) =
      (ascii "CONNECT " ++ authority target ++ ascii " HTTP/1.1") ++ 13 :: 10 ::
        ((ascii "Host: " ++ authority target) ++ 13 :: 10 ::
          ((basicHeader ++ encode (c.username ++ 58 :: c.password)) ++ 13 :: 10 :: [13, 10])) := by
    have hstart : ascii " HTTP/1.1\r\nHost: " = ascii " HTTP/1.1" ++ 13 :: 10 :: ascii "Host: " := by decide
    have hend : ascii "\r\n" = [13, 10] := by decide
    have hcolon : ascii ":" = [58] := by decide
    unfold httpConnectRequest basicHeader
    dsimp only
    rw [hstart, hend, hcolon]
    simp
  rw [hrequest, splitLines_append hconnect, splitLines_append hhost, splitLines_append hbasic]
  rfl

theorem decodeHttpAuth_request (h : StandardBase64 encode) (target : SocketAddr) (c : Credentials) :
    decodeHttpAuth (httpConnectRequest encode target (some c)) = splitColon (c.username ++ 58 :: c.password) := by
  have hconnect : basicHeader.isPrefixOf (ascii "CONNECT " ++ authority target ++ ascii " HTTP/1.1") = false := rfl
  have hhost : basicHeader.isPrefixOf (ascii "Host: " ++ authority target) = false := rfl
  have hbasic : basicHeader.isPrefixOf (basicHeader ++ encode (c.username ++ 58 :: c.password)) = true :=
    List.isPrefixOf_iff_prefix.mpr (List.prefix_append _ _)
  unfold decodeHttpAuth
  rw [splitLines_request h, List.find?_cons_of_neg (by rw [hconnect]; decide),
    List.find?_cons_of_neg (by rw [hhost]; decide), List.find?_cons_of_pos hbasic, Option.bind_eq_bind,
    Option.bind_some, List.drop_left, h.decode_encode]
  rfl

/-! ## Credentials that arrive -/

section Encoder

variable (encode)

/-- Servers of both protocols read the credentials that were sent. -/
def Arrives (c : Credentials) : Prop :=
  decodeSocksAuth (socksAuthRequest c) = some (c.username, c.password) ∧
    ∀ target, decodeHttpAuth (httpConnectRequest encode target (some c)) = some (c.username, c.password)

/-- No request of one is a request of the other. -/
def Apart (c c' : Credentials) : Prop :=
  socksAuthRequest c ≠ socksAuthRequest c' ∧
    ∀ target target', httpConnectRequest encode target (some c) ≠ httpConnectRequest encode target' (some c')

end Encoder

theorem arrives_iff (h : StandardBase64 encode) (c : Credentials) : Arrives encode c ↔ (58 : UInt8) ∉ c.username := by
  constructor
  · intro harrives
    have hread := harrives.2 (.v4 0 0)
    rw [decodeHttpAuth_request h] at hread
    exact not_mem_of_splitColon hread
  · intro hcolon
    refine ⟨decodeSocksAuth_request c, fun target => ?_⟩
    rw [decodeHttpAuth_request h, splitColon_join hcolon]

theorem Credentials.eq_of_fields {c c' : Credentials}
    (h : (c.username, c.password) = (c'.username, c'.password)) : c = c' := by
  cases c
  cases c'
  cases h
  rfl

theorem apart_of_arrives {c c' : Credentials} (h : Arrives encode c) (h' : Arrives encode c') (hne : c ≠ c') :
    Apart encode c c' := by
  constructor
  · intro heq
    have hread := decodeSocksAuth_request c
    rw [heq, decodeSocksAuth_request c'] at hread
    exact hne (Credentials.eq_of_fields (Option.some.inj hread).symm)
  · intro target target' heq
    have hread := h.2 target
    rw [heq, h'.2 target'] at hread
    exact hne (Credentials.eq_of_fields (Option.some.inj hread).symm)

/-- With a standard encoder two credentials arrive intact and are told apart exactly when neither user name has a
colon. -/
theorem credentials_arrive_iff (hencode : StandardBase64 encode) (c c' : Credentials) :
    (Arrives encode c ∧ Arrives encode c' ∧ (c ≠ c' → Apart encode c c')) ↔
      (58 : UInt8) ∉ c.username ∧ (58 : UInt8) ∉ c'.username := by
  rw [← arrives_iff hencode, ← arrives_iff hencode]
  exact ⟨fun h => ⟨h.1, h.2.1⟩, fun h => ⟨h.1, h.2, apart_of_arrives h.1 h.2⟩⟩

/-- Two users whose credentials, run together, are the same. -/
theorem credentials_arrive_iff_standard :
    ∃ c c' : Credentials, Credentials.new (ascii "ab") (ascii "c") = .ok c ∧
      Credentials.new (ascii "a") (ascii "bc") = .ok c' ∧ Arrives base64 c ∧ Arrives base64 c' ∧ Apart base64 c c' := by
  have harrive {c c' : Credentials} (hne : c ≠ c') (h : (58 : UInt8) ∉ c.username) (h' : (58 : UInt8) ∉ c'.username) :
      Arrives base64 c ∧ Arrives base64 c' ∧ Apart base64 c c' := by
    obtain ⟨hread, hread', hapart⟩ := (credentials_arrive_iff standardBase64 c c').mpr ⟨h, h'⟩
    exact ⟨hread, hread', hapart hne⟩
  refine ⟨_, _, rfl, rfl, harrive ?_ (by decide) (by decide)⟩
  intro heq
  exact absurd (congrArg Credentials.username heq) (by decide)

/-- The user name "a:b" with the password "c" is sent and read as "a" with "b:c". -/
theorem colon_confuses :
    ∃ c c' : Credentials, Credentials.new (ascii "a:b") (ascii "c") = .ok c ∧
      Credentials.new (ascii "a") (ascii "b:c") = .ok c' ∧ c ≠ c' ∧
      (∀ target, httpConnectRequest base64 target (some c) = httpConnectRequest base64 target (some c')) ∧
      (∀ target, decodeHttpAuth (httpConnectRequest base64 target (some c)) = some (ascii "a", ascii "b:c")) ∧
      ¬ Arrives base64 c := by
  refine ⟨_, _, rfl, rfl, ?_, fun target => rfl, fun target => ?_, ?_⟩
  · intro h
    exact absurd (congrArg Credentials.username h) (by decide)
  · rw [decodeHttpAuth_request standardBase64]
    decide
  · rw [arrives_iff standardBase64]
    decide

end Yayatht.Proxy
