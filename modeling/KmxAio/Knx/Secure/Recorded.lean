import KmxAio.Knx.Secure.Ccm

/-!
# A backend that plays back recorded answers

A recording holds answers of AES-128, SHA-256 and X25519 for the inputs of one
exchange, and the backend built on it fails on every other input. Counter mode is
recorded as its keystream, so that it decrypts what it encrypted.
-/

namespace KmxAio.Knx.Secure

open Lib.Wire

structure Recording where
  macs : List ((SecretKey × Octets) × Block)
  streams : List ((SecretKey × Block) × Octets)
  digests : List (Octets × OctetArray 32) := []
  agreements : List ((X25519PrivateKey × X25519PublicKey) × OctetArray 32) := []

/-- Octets under a keystream at least as long as they are. -/
def applyStream (stream octets : Octets) : Octets := List.zipWith (· ^^^ ·) octets stream

theorem applyStream_length {stream octets : Octets} (covered : octets.length ≤ stream.length) :
    (applyStream stream octets).length = octets.length := by
  simp [applyStream, covered]

theorem applyStream_twice {stream octets : Octets} (covered : octets.length ≤ stream.length) :
    applyStream stream (applyStream stream octets) = octets := by
  induction octets generalizing stream with
  | nil => rfl
  | cons octet rest ih =>
    cases stream with
    | nil => simp at covered
    | cons mask masks =>
      have tail := @ih masks (by simpa using covered)
      rw [applyStream, applyStream] at tail
      rw [applyStream, applyStream, List.zipWith_cons_cons, List.zipWith_cons_cons, tail,
        UInt8.xor_assoc, UInt8.xor_self, UInt8.xor_zero]

variable (recording : Recording)

def Recording.ctr (key : SecretKey) (counter0 : Block)
    (first second : Octets) : Option (Octets × Octets) :=
  match recording.streams.lookup (key, counter0) with
  | none => none
  | some stream =>
    if first.length + second.length ≤ stream.length then
      some (applyStream stream first, applyStream (stream.drop first.length) second)
    else none

theorem Recording.ctr_some {recording : Recording} {key : SecretKey} {counter0 : Block}
    {first second : Octets} {result : Octets × Octets}
    (answered : recording.ctr key counter0 first second = some result) :
    ∃ stream, recording.streams.lookup (key, counter0) = some stream ∧
      first.length + second.length ≤ stream.length ∧
      result = (applyStream stream first, applyStream (stream.drop first.length) second) := by
  unfold Recording.ctr at answered
  split at answered
  · cases answered
  rename_i stream found
  split at answered
  · rename_i covered
    exact ⟨stream, found, covered, (Option.some.inj answered).symm⟩
  · cases answered

def Recording.backend : CryptoBackend where
  cbcMac key blocks := recording.macs.lookup (key, blocks)
  ctr := recording.ctr
  sha256 input := recording.digests.lookup input
  x25519Derive privateKey peerPublicKey := recording.agreements.lookup (privateKey, peerPublicKey)
  ctr_length := by
    intro key counter0 first second result answered
    obtain ⟨stream, -, covered, rfl⟩ := Recording.ctr_some answered
    refine ⟨applyStream_length (by omega), applyStream_length ?_⟩
    rw [List.length_drop]
    omega

theorem Recording.backend_ctrInverse : recording.backend.CtrInverse := by
  intro key counter0 first second first' second' answered
  change recording.ctr key counter0 first' second' = some (first, second)
  obtain ⟨stream, found, covered, result⟩ := Recording.ctr_some answered
  obtain ⟨rfl, rfl⟩ := Prod.mk.inj result
  have firstLength : (applyStream stream first).length = first.length :=
    applyStream_length (by omega)
  have secondCovered : second.length ≤ (stream.drop first.length).length := by
    rw [List.length_drop]
    omega
  have firstAgain : applyStream stream (applyStream stream first) = first :=
    applyStream_twice (by omega)
  simp only [Recording.ctr, found, firstLength, applyStream_length secondCovered, if_pos covered,
    firstAgain, applyStream_twice secondCovered]

theorem CryptoBackend.computes_refl (backend : CryptoBackend) : backend.Computes backend :=
  ⟨fun answered => answered, fun answered => answered⟩

end KmxAio.Knx.Secure
