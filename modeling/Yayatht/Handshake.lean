import Yayatht.Addresses
import Mathlib.Data.List.Basic

set_option autoImplicit false

namespace Yayatht.Proxy

def maxCredentialComponent : ℕ := 255
def maxHttpHeader : ℕ := 8192

/-- User name and password are both present and fit a length octet. -/
structure Credentials where
  username : Bytes
  password : Bytes
  username_pos : username ≠ []
  password_pos : password ≠ []
  username_le : username.length ≤ maxCredentialComponent
  password_le : password.length ≤ maxCredentialComponent

inductive Protocol where
  | socks5
  | httpConnect
  deriving DecidableEq, Repr

inductive Command where
  | connect
  | udpAssociate
  deriving DecidableEq, Repr

def Command.socksCode : Command → UInt8
  | .connect => 1
  | .udpAssociate => 3

inductive SocksAddress where
  | socket (address : SocketAddr)
  | domain (name : Bytes) (port : UInt16)
  deriving DecidableEq, Repr

inductive Error where
  | invalidCredentials
  | invalidState
  | invalidResponse (what : String)
  | unsupportedCommand
  | unsupportedSocksMethod (method : UInt8)
  | socksAuthenticationRequired
  | socksAuthenticationFailed
  | socksCommandFailed (code : UInt8)
  | httpHeaderTooLarge
  | httpConnectFailed (status : ℕ)
  deriving DecidableEq, Repr

def Credentials.new (username password : Bytes) : Except Error Credentials :=
  if h : username ≠ [] ∧ password ≠ [] ∧ username.length ≤ maxCredentialComponent ∧
      password.length ≤ maxCredentialComponent then
    .ok ⟨username, password, h.1, h.2.1, h.2.2.1, h.2.2.2⟩
  else .error .invalidCredentials

inductive HandshakeState where
  | socksGreetingWrite
  | socksMethodRead
  | socksAuthWrite
  | socksAuthRead
  | socksCommandWrite
  | socksCommandRead
  | httpWrite
  | httpRead
  | complete
  deriving DecidableEq, Repr

def ascii (text : String) : Bytes := text.toList.map fun c => UInt8.ofNat c.toNat

def portBytes (port : UInt16) : Bytes := [UInt8.ofNat (port.toNat / 256), UInt8.ofNat port.toNat]

def socksGreeting (hasCredentials : Bool) : Bytes := if hasCredentials then [5, 2, 0, 2] else [5, 1, 0]

def socksAuthRequest (c : Credentials) : Bytes :=
  [1, UInt8.ofNat c.username.length] ++ c.username ++ [UInt8.ofNat c.password.length] ++ c.password

def socksCommandRequest (command : Command) (target : SocketAddr) : Bytes :=
  [5, command.socksCode, 0] ++
    (match target with
      | .v4 ip _ => 1 :: beBytes 4 ip
      | .v6 ip _ _ _ => 4 :: beBytes 16 ip) ++
    portBytes target.port

def ofBeBytes (w : ℕ) (bytes : Bytes) : BitVec w :=
  BitVec.ofNat w (bytes.foldl (fun acc byte => 256 * acc + byte.toNat) 0)

def parseSocksAddress (input : Bytes) : Except Error SocksAddress :=
  match input with
  | 1 :: rest =>
    if input.length = 7 then
      .ok (.socket (.v4 (ofBeBytes 32 (rest.take 4)) (UInt16.ofNat (beWord rest[4]! rest[5]!))))
    else .error (.invalidResponse "SOCKS5 bound address")
  | 4 :: rest =>
    if input.length = 19 then
      .ok (.socket (.v6 (ofBeBytes 128 (rest.take 16)) (UInt16.ofNat (beWord rest[16]! rest[17]!)) 0 0))
    else .error (.invalidResponse "SOCKS5 bound address")
  | 3 :: length :: rest =>
    if 4 ≤ input.length ∧ input.length = length.toNat + 4 then
      .ok (.domain (rest.take length.toNat)
        (UInt16.ofNat (beWord rest[length.toNat]! rest[length.toNat + 1]!)))
    else .error (.invalidResponse "SOCKS5 bound address")
  | _ => .error (.invalidResponse "SOCKS5 bound address")

def decimal (n : ℕ) : Bytes := ascii (toString n)

def hexDigit (n : ℕ) : UInt8 := UInt8.ofNat (if n < 10 then 48 + n else 87 + n)

/-- Lower-case hexadecimal without leading zeros. -/
def hextet (n : ℕ) : Bytes :=
  let digits := [n / 4096 % 16, n / 256 % 16, n / 16 % 16, n % 16]
  ((digits.take 3).dropWhile (· = 0) ++ digits.drop 3).map hexDigit

def formatIpv4 (ip : BitVec 32) : Bytes :=
  let octet := fun shift => decimal (ip.toNat / 2 ^ shift % 256)
  octet 24 ++ ascii "." ++ octet 16 ++ ascii "." ++ octet 8 ++ ascii "." ++ octet 0

def hextets (ip : BitVec 128) : List ℕ :=
  (List.range 8).map fun i => ip.toNat / 2 ^ (16 * (7 - i)) % 65536

/-- Start and length of the first longest run of zeros. -/
def longestZeroRun (words : List ℕ) : ℕ × ℕ :=
  let lengthFrom := fun i => ((words.drop i).takeWhile (· = 0)).length
  (List.range words.length).foldl
    (fun best i => if best.2 < lengthFrom i then (i, lengthFrom i) else best) (0, 0)

def joinHextets (words : List ℕ) : Bytes := (ascii ":").intercalate (words.map hextet)

def formatIpv6 (ip : BitVec 128) : Bytes :=
  if ip.toNat / 2 ^ 32 = 0xffff then ascii "::ffff:" ++ formatIpv4 (BitVec.ofNat 32 ip.toNat)
  else
    let words := hextets ip
    let run := longestZeroRun words
    if run.2 > 1 then
      joinHextets (words.take run.1) ++ ascii "::" ++ joinHextets (words.drop (run.1 + run.2))
    else joinHextets words

def authority : SocketAddr → Bytes
  | .v4 ip port => formatIpv4 ip ++ ascii ":" ++ decimal port.toNat
  | .v6 ip port _ _ => ascii "[" ++ formatIpv6 ip ++ ascii "]:" ++ decimal port.toNat

def base64Digit (n : ℕ) : UInt8 :=
  UInt8.ofNat
    (if n < 26 then 65 + n
    else if n < 52 then 71 + n
    else if n < 62 then n - 4
    else if n = 62 then 43
    else 47)

/-- What the `STANDARD` engine of the base64 crate computes: the standard alphabet with padding. -/
def base64 : Bytes → Bytes
  | [] => []
  | [a] =>
    [base64Digit (a.toNat / 4), base64Digit (a.toNat % 4 * 16), 61, 61]
  | [a, b] =>
    [base64Digit (a.toNat / 4), base64Digit (a.toNat % 4 * 16 + b.toNat / 16),
      base64Digit (b.toNat % 16 * 4), 61]
  | a :: b :: c :: rest =>
    [base64Digit (a.toNat / 4), base64Digit (a.toNat % 4 * 16 + b.toNat / 16),
      base64Digit (b.toNat % 16 * 4 + c.toNat / 64), base64Digit (c.toNat % 64)] ++ base64 rest

/-- `encode` is the encoder of the base64 crate. -/
def httpConnectRequest (encode : Bytes → Bytes) (target : SocketAddr) (credentials : Option Credentials) : Bytes :=
  ascii "CONNECT " ++ authority target ++ ascii " HTTP/1.1\r\nHost: " ++ authority target ++
    ascii "\r\n" ++
    (match credentials with
      | some c =>
        ascii "Proxy-Authorization: Basic " ++ encode (c.username ++ ascii ":" ++ c.password) ++
          ascii "\r\n"
      | none => []) ++
    ascii "\r\n"

structure Handshake where
  state : HandshakeState
  command : Command
  target : SocketAddr
  credentials : Option Credentials
  buffer : Bytes
  outputOffset : ℕ
  boundAddress : Option SocksAddress

namespace Handshake

def new (protocol : Protocol) (command : Command) (target : SocketAddr)
    (credentials : Option Credentials) : Except Error Handshake :=
  match protocol with
  | .socks5 =>
    .ok ⟨.socksGreetingWrite, command, target, credentials, socksGreeting credentials.isSome, 0, none⟩
  | .httpConnect =>
    if command = .connect then
      .ok ⟨.httpWrite, command, target, credentials, httpConnectRequest base64 target credentials, 0, none⟩
    else .error .unsupportedCommand

def output (h : Handshake) : Bytes := h.buffer.drop h.outputOffset

def wantsInput (h : Handshake) : Bool :=
  h.state = .socksMethodRead ∨ h.state = .socksAuthRead ∨ h.state = .socksCommandRead ∨
    h.state = .httpRead

def isComplete (h : Handshake) : Bool := h.state = .complete

/-- A failing call keeps what it wrote before it failed, so both outcomes carry the handshake. -/
def advanceOutput (h : Handshake) (length : ℕ) : Handshake × Except Error Unit :=
  if length > h.output.length ∨ h.output = [] then (h, .error .invalidState)
  else
    let h := { h with outputOffset := h.outputOffset + length }
    if h.outputOffset ≠ h.buffer.length then (h, .ok ())
    else
      let h := { h with buffer := [], outputOffset := 0 }
      match h.state with
      | .socksGreetingWrite => ({ h with state := .socksMethodRead }, .ok ())
      | .socksAuthWrite => ({ h with state := .socksAuthRead }, .ok ())
      | .socksCommandWrite => ({ h with state := .socksCommandRead }, .ok ())
      | .httpWrite => ({ h with state := .httpRead }, .ok ())
      | _ => (h, .error .invalidState)

def setOutput (h : Handshake) (output : Bytes) : Handshake :=
  { h with buffer := output, outputOffset := 0 }

def requestCommand (h : Handshake) : Handshake :=
  { h.setOutput (socksCommandRequest h.command h.target) with state := .socksCommandWrite }

def receiveSocksMethod (h : Handshake) (input : Bytes) : Handshake × Except Error ℕ :=
  match input with
  | version :: method :: _ =>
    if version ≠ 5 then (h, .error (.invalidResponse "SOCKS5 method version"))
    else if method = 0 then (h.requestCommand, .ok 2)
    else if method = 2 then
      match h.credentials with
      | none => (h, .error .socksAuthenticationRequired)
      | some c => ({ h.setOutput (socksAuthRequest c) with state := .socksAuthWrite }, .ok 2)
    else (h, .error (.unsupportedSocksMethod method))
  | _ => (h, .ok 0)

def receiveSocksAuth (h : Handshake) (input : Bytes) : Handshake × Except Error ℕ :=
  match input with
  | version :: status :: _ =>
    if version ≠ 1 then (h, .error (.invalidResponse "SOCKS5 authentication version"))
    else if status ≠ 0 then (h, .error .socksAuthenticationFailed)
    else (h.requestCommand, .ok 2)
  | _ => (h, .ok 0)

/-- Length of a command reply, `none` while the octet that decides it is missing. -/
def socksReplyLength (kind : UInt8) (rest : Bytes) : Except Error (Option ℕ) :=
  if kind = 1 then .ok (some 10)
  else if kind = 4 then .ok (some 22)
  else if kind = 3 then .ok (rest.head?.map fun length => 7 + length.toNat)
  else .error (.invalidResponse "SOCKS5 address type")

def receiveSocksCommand (h : Handshake) (input : Bytes) : Handshake × Except Error ℕ :=
  match input with
  | version :: code :: reserved :: kind :: rest =>
    if version ≠ 5 ∨ reserved ≠ 0 then (h, .error (.invalidResponse "SOCKS5 command header"))
    else
      match socksReplyLength kind rest with
      | .error e => (h, .error e)
      | .ok none => (h, .ok 0)
      | .ok (some length) =>
        if input.length < length then (h, .ok 0)
        else if code ≠ 0 then (h, .error (.socksCommandFailed code))
        else
          match parseSocksAddress ((input.take length).drop 3) with
          | .error e => (h, .error e)
          | .ok bound =>
            ({ h with boundAddress := some bound, state := .complete, credentials := none }, .ok length)
  | _ => (h, .ok 0)

def position (pattern : Bytes) : Bytes → Option ℕ
  | [] => none
  | byte :: rest =>
    if (byte :: rest).take pattern.length = pattern then some 0
    else (position pattern rest).map (· + 1)

def isAsciiWhitespace (byte : UInt8) : Bool :=
  byte = 32 ∨ byte = 9 ∨ byte = 10 ∨ byte = 12 ∨ byte = 13

def splitAsciiWhitespace (line : Bytes) : List Bytes :=
  (line.splitOnP isAsciiWhitespace).filter (· ≠ [])

def digitValue (byte : UInt8) : Option ℕ :=
  if 48 ≤ byte.toNat ∧ byte.toNat ≤ 57 then some (byte.toNat - 48) else none

/-- `str::parse::<u16>`: an optional plus sign and decimal digits, at most 65535. -/
def parseU16 (text : Bytes) : Option ℕ :=
  let digits := match text with
    | 43 :: rest => rest
    | _ => text
  if digits = [] then none
  else
    match digits.mapM digitValue with
    | none => none
    | some values =>
      let value := values.foldl (fun acc d => 10 * acc + d) 0
      if value < 65536 then some value else none

def statusOf (line : Bytes) : Except Error ℕ :=
  if (ByteArray.mk line.toArray).validateUTF8 then
    match splitAsciiWhitespace line with
    | [] => .error (.invalidResponse "HTTP version")
    | version :: fields =>
      if version ≠ ascii "HTTP/1.0" ∧ version ≠ ascii "HTTP/1.1" then
        .error (.invalidResponse "HTTP version")
      else
        match fields.head?.bind parseU16 with
        | some status => .ok status
        | none => .error (.invalidResponse "HTTP status")
  else .error (.invalidResponse "HTTP status encoding")

def receiveHttp (h : Handshake) (input : Bytes) : Handshake × Except Error ℕ :=
  match position [13, 10, 13, 10] input with
  | none => if maxHttpHeader ≤ input.length then (h, .error .httpHeaderTooLarge) else (h, .ok 0)
  | some index =>
    let stop := index + 4
    if stop > maxHttpHeader then (h, .error .httpHeaderTooLarge)
    else
      match position [13, 10] (input.take stop) with
      | none => (h, .error (.invalidResponse "HTTP status line"))
      | some lineEnd =>
        match statusOf (input.take lineEnd) with
        | .error e => (h, .error e)
        | .ok status =>
          if 200 ≤ status ∧ status < 300 then
            ({ h with state := .complete, credentials := none }, .ok stop)
          else (h, .error (.httpConnectFailed status))

def receive (h : Handshake) (input : Bytes) : Handshake × Except Error ℕ :=
  match h.state with
  | .socksMethodRead => h.receiveSocksMethod input
  | .socksAuthRead => h.receiveSocksAuth input
  | .socksCommandRead => h.receiveSocksCommand input
  | .httpRead => h.receiveHttp input
  | _ => (h, .error .invalidState)

end Handshake

end Yayatht.Proxy
