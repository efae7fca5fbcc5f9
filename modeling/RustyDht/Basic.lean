import Mathlib.Data.List.Sort
import Mathlib.Algebra.Group.Nat.Basic

/-! Addresses, ids, nodes and errors. `Id`, `Node` and `NodeWrapper` live outside the
modelled sources and follow the spec. Instants are whole seconds; instant 0 is the earliest
instant the platform can represent, so `checked_sub` fails exactly when the result would lie
before it. -/
namespace RustyDht

abbrev Instant := Nat

structure Ipv4Addr where
  a : UInt8
  b : UInt8
  c : UInt8
  d : UInt8
  deriving DecidableEq, Repr, Inhabited

def Ipv4Addr.octets (ip : Ipv4Addr) : List UInt8 := [ip.a, ip.b, ip.c, ip.d]

inductive IpAddr
  | v4 (ip : Ipv4Addr)
  | v6 (octets : List UInt8)
  deriving DecidableEq, Repr, Inhabited

def IpAddr.octets : IpAddr → List UInt8
  | .v4 ip => ip.octets
  | .v6 octets => octets

/- `SocketAddr` with the address and port that `ip()` and `port()` read. -/
structure SocketAddr where
  ip : IpAddr
  port : UInt16
  deriving DecidableEq, Repr, Inhabited

def SocketAddr.setPort (addr : SocketAddr) (port : UInt16) : SocketAddr := { addr with port }

def SocketAddr.isIpv4 (addr : SocketAddr) : Bool :=
  match addr.ip with
  | .v4 _ => true
  | .v6 _ => false

/-- A 160-bit id; `value` reads its twenty bytes big-endian. -/
structure Id where
  value : BitVec 160
  deriving DecidableEq, Repr, Inhabited

def Id.xor (a b : Id) : Id := ⟨a.value ^^^ b.value⟩

def Id.partialCmp (a b : Id) : Option Ordering := some (compare a.value.toNat b.value.toNat)

def Id.distance (a target : Id) : Nat := (a.xor target).value.toNat

theorem Id.partialCmp_isSome (a b : Id) : (a.partialCmp b).isSome := rfl

/-- Modelled from the spec: the BEP-42 methods of `Id`, the random id as last argument. -/
class Bep42 where
  isValidForIp : Id → IpAddr → Bool
  fromIp : IpAddr → Id → Id
  makeMutant : Id → Nat → Id → Id

structure Node where
  id : Id
  address : SocketAddr
  deriving DecidableEq, Repr, Inhabited

/- A routing-table entry as `get_all_verified` and `get_all_unverified` return it. -/
structure NodeWrapper where
  node : Node
  lastSeen : Instant
  lastVerified : Option Instant
  deriving DecidableEq, Repr

/-- `Instant::checked_sub(Duration::from_secs(secs))`. -/
def Instant.checkedSub (now : Instant) (secs : Nat) : Option Instant :=
  if secs ≤ now then some (now - secs) else none

theorem Instant.checkedSub_eq_none {now secs : Nat} :
    Instant.checkedSub now secs = none ↔ now < secs := by
  unfold Instant.checkedSub
  split <;> simp <;> omega

theorem Instant.checkedSub_eq_some {now secs t : Nat} :
    Instant.checkedSub now secs = some t ↔ secs ≤ now ∧ t = now - secs := by
  unfold Instant.checkedSub
  split <;> simp_all [eq_comm]

inductive RustyDHTError
  | generalError (msg : String)
  | packetParseError (msg : String)
  | conntrackError (msg : String)
  | timeoutError (msg : String)
  | shutdownError (msg : String)
  deriving DecidableEq, Repr

def RustyDHTError.isRecoverable : RustyDHTError → Bool
  | .packetParseError _ | .conntrackError _ => true
  | _ => false

def RustyDHTError.isShutdown : RustyDHTError → Bool
  | .shutdownError _ => true
  | _ => false

def RustyDHTError.isTimeout : RustyDHTError → Bool
  | .timeoutError _ => true
  | _ => false

theorem some_pair_eq {β γ : Type} {x : β × γ} {b : β} {c : γ} (h : some x = some (b, c)) :
    b = x.1 ∧ c = x.2 := by
  cases h; exact ⟨rfl, rfl⟩

end RustyDht
