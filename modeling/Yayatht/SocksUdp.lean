import Yayatht.Handshake

set_option autoImplicit false

namespace Yayatht.SocksUdp
open Proxy

structure Datagram where
  destination : SocksAddress
  payload : Bytes
  deriving DecidableEq, Repr

inductive Error where
  | truncated
  | invalidReserved
  | unsupportedFragment (fragment : UInt8)
  | unsupportedAddress
  | invalidDomain
  | outputTooSmall
  deriving DecidableEq, Repr

def encodeAddress : SocksAddress → Except Error Bytes
  | .socket (.v4 ip port) => .ok (1 :: beBytes 4 ip ++ portBytes port)
  | .socket (.v6 ip port _ _) => .ok (4 :: beBytes 16 ip ++ portBytes port)
  | .domain name port =>
    if name = [] ∨ name.length > 255 then .error .invalidDomain
    else .ok ([3, UInt8.ofNat name.length] ++ name ++ portBytes port)

/-- The bytes written at the front of an output buffer of `capacity` bytes. -/
def encode (capacity : ℕ) (destination : SocksAddress) (payload : Bytes) : Except Error Bytes :=
  match encodeAddress destination with
  | .error e => .error e
  | .ok address =>
    let datagram := [0, 0, 0] ++ address ++ payload
    if capacity < datagram.length then .error .outputTooSmall else .ok datagram

def decode (input : Bytes) : Except Error Datagram :=
  match input with
  | r0 :: r1 :: fragment :: kind :: rest =>
    if r0 ≠ 0 ∨ r1 ≠ 0 then .error .invalidReserved
    else if fragment ≠ 0 then .error (.unsupportedFragment fragment)
    else if kind = 1 then
      if input.length < 10 then .error .truncated
      else
        .ok ⟨.socket (.v4 (ofBeBytes 32 (rest.take 4)) (UInt16.ofNat (beWord rest[4]! rest[5]!))),
          rest.drop 6⟩
    else if kind = 4 then
      if input.length < 22 then .error .truncated
      else
        .ok ⟨.socket (.v6 (ofBeBytes 128 (rest.take 16))
          (UInt16.ofNat (beWord rest[16]! rest[17]!)) 0 0), rest.drop 18⟩
    else if kind = 3 then
      match rest with
      | [] => .error .truncated
      | length :: name =>
        if length = 0 then .error .invalidDomain
        else if input.length < 5 + length.toNat + 2 then .error .truncated
        else
          .ok ⟨.domain (name.take length.toNat)
            (UInt16.ofNat (beWord name[length.toNat]! name[length.toNat + 1]!)),
            name.drop (length.toNat + 2)⟩
    else .error .unsupportedAddress
  | _ => .error .truncated

end Yayatht.SocksUdp
