import Mathlib.Algebra.Group.Nat.Defs

set_option autoImplicit false

namespace Yayatht

abbrev Bytes := List UInt8

/-- Instants and durations count milliseconds. -/
abbrev Millis := ℕ

inductive IpAddr where
  | v4 (octets : BitVec 32)
  | v6 (octets : BitVec 128)
  deriving DecidableEq, Repr

inductive SocketAddr where
  | v4 (ip : BitVec 32) (port : UInt16)
  | v6 (ip : BitVec 128) (port : UInt16) (flowinfo scope : UInt32)
  deriving DecidableEq, Repr

namespace SocketAddr

def isIpv4 : SocketAddr → Bool
  | .v4 .. => true
  | .v6 .. => false

def port : SocketAddr → UInt16
  | .v4 _ port => port
  | .v6 _ port _ _ => port

def ip : SocketAddr → IpAddr
  | .v4 ip _ => .v4 ip
  | .v6 ip _ _ _ => .v6 ip

def new : IpAddr → UInt16 → SocketAddr
  | .v4 ip, port => .v4 ip port
  | .v6 ip, port => .v6 ip port 0 0

def isUnspecified : SocketAddr → Bool
  | .v4 ip _ => ip == 0
  | .v6 ip _ _ _ => ip == 0

@[simp] theorem isIpv4_new_v4 (ip : BitVec 32) (port : UInt16) :
    (new (.v4 ip) port).isIpv4 = true := rfl

@[simp] theorem isIpv4_new_v6 (ip : BitVec 128) (port : UInt16) :
    (new (.v6 ip) port).isIpv4 = false := rfl

end SocketAddr

def localhostV4 : BitVec 32 := 0x7f000001#32
def localhostV6 : BitVec 128 := 1#128

def ipHeaderLen (address : SocketAddr) : ℕ := if address.isIpv4 then 20 else 40

/-- Big-endian octets of a fixed-width value. -/
def beBytes {w : ℕ} (count : ℕ) (value : BitVec w) : Bytes :=
  (List.range count).map fun i => UInt8.ofNat (value.toNat / 256 ^ (count - 1 - i))

def beWord (high low : UInt8) : ℕ := 256 * high.toNat + low.toNat

theorem beWord_lt (high low : UInt8) : beWord high low < 65536 := by
  have hh := high.toNat_lt
  have hl := low.toNat_lt
  unfold beWord
  omega

end Yayatht
