/-
The keys of the test groups.

All signatures of one test group are made with one key pair, and its point is written into each
case.  Vector files come in groups, so it is enough to keep the key of the last group
(`KeyStore.slot`): a case of another group evicts it.  It is dropped before the next key is
made, so that a group never gets the key of another, even if no key can be made.

A store of keys is described by what it finds, what it drops to make room, and what it takes in
(`KeyStore`); `Session.fetch` is the one way to get a key from any of them.
-/
import EcdsaVectors.Codec
namespace EcdsaVectors

open Program

/-- The key pair of a test group, with its point as it is written into the cases. -/
structure GroupKey (V : Values) where
  group : UInt32
  pair : V.KeyPair
  qx : Octets
  qy : Octets

variable {V : Values} {κ σ α β : Type}

/-- Makes a key pair for a group. -/
def GroupKey.generate (group : UInt32) (curve : V.Curve) : Program V (GroupKey V) := do
  let pair ← query (.generateKeyPair curve) >>= ofAnswer
  let key ← query (.publicKey pair) >>= ofAnswer
  let (qx, qy) ← Codec.writePoint key
  report (.groupKeyGenerated group)
  pure ⟨group, pair, qx, qy⟩

/-- A store of group keys. -/
structure KeyStore (V : Values) (κ : Type) where
  /-- The key of a group. -/
  find? : κ → UInt32 → Option (GroupKey V)
  /-- What is left when the key of a group is about to be made, and the events that tell what
  is not. -/
  makeRoom : κ → UInt32 → κ × List Event
  /-- The store with one more key. -/
  insert : κ → GroupKey V → κ

/-- Room for a single key. -/
abbrev Slot (V : Values) := Option (GroupKey V)

namespace Slot

/-- The key of a group, if it is the one that is kept. -/
def find? (s : Slot V) (group : UInt32) : Option (GroupKey V) :=
  match s with
  | some k => if k.group = group then some k else none
  | none => none

/-- The empty slot, with the event that tells of the key that was in it. -/
def makeRoom (s : Slot V) (group : UInt32) : Slot V × List Event :=
  match s with
  | some k => (none, [.groupKeyEvicted k.group group])
  | none => (none, [])

/-- The empty slot, after the key in it has been released. -/
def release (s : Slot V) : Slot V × List Event :=
  match s with
  | some k => (none, [.groupKeyReleased k.group])
  | none => (none, [])

end Slot

/-- The store that keeps the key of the last group only. -/
def KeyStore.slot (V : Values) : KeyStore V (Slot V) where
  find? := Slot.find?
  makeRoom := Slot.makeRoom
  insert _ k := some k

/-- What lasts from one test case to the next: the keys, and the state of the backend. -/
structure Session (κ σ : Type) where
  keys : κ
  backend : σ

/-- A key from a store, and whether it was there before. -/
structure Fetched (V : Values) where
  reused : Bool
  key : GroupKey V

namespace Session

/-- Runs a program that leaves the keys alone. -/
def run (B : Backend V σ) (p : Program V α) (s : Session κ σ) : Outcome V (Session κ σ) α :=
  (p.run B s.backend).mapState ({ s with backend := · })

/-- The key of a group, made on the given curve if there is none. -/
def fetch (K : KeyStore V κ) (B : Backend V σ) (group : UInt32) (curve : V.Curve)
    (s : Session κ σ) : Outcome V (Session κ σ) (Fetched V) :=
  match K.find? s.keys group with
  | some key => ⟨.ok ⟨true, key⟩, s, [.event (.groupKeyReused group)]⟩
  | none =>
    -- the store makes room first, so it stays without the old key if no new one can be made
    let (rest, events) := K.makeRoom s.keys group
    let made := (run B (GroupKey.generate group curve) { s with keys := rest }).andThen fun key s =>
      ⟨.ok ⟨false, key⟩, { s with keys := K.insert s.keys key }, []⟩
    made.after (events.map .event)

end Session

end EcdsaVectors
