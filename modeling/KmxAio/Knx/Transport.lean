import KmxAio.Knx.Error
import KmxAio.Lib.Wire

/-!
# Transports and peers

A transport is known by its identity, and a peer by the octets of its socket
address, the first two of which are the address family.
-/

namespace KmxAio.Knx

open Lib.Wire

abbrev TransportId := Nat

/-- A socket address: the octets of its storage, and how many of them are the address. -/
structure TransportPeer where
  address : Octets
  length : Nat
  deriving DecidableEq

def TransportPeer.family (peer : TransportPeer) : UInt16 :=
  UInt16.ofNat ((octetAt peer.address 0).toNat + 256 * (octetAt peer.address 1).toNat)

def afInet : UInt16 := 2
def afInet6 : UInt16 := 10

def sameAddress (lhs rhs : TransportPeer) : Bool :=
  if lhs.family ≠ rhs.family then false
  else if lhs.family = afInet ∧ 16 ≤ lhs.length ∧ 16 ≤ rhs.length then
    readArray 4 4 lhs.address == readArray 4 4 rhs.address
  else if lhs.family = afInet6 ∧ 28 ≤ lhs.length ∧ 28 ≤ rhs.length then
    readArray 16 8 lhs.address == readArray 16 8 rhs.address
  else false

def samePeer (lhs rhs : TransportPeer) : Bool :=
  lhs.length == rhs.length && lhs.family == rhs.family &&
    lhs.address.take lhs.length == rhs.address.take lhs.length

end KmxAio.Knx
