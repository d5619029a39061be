import KmxAio.Lib.Fallible
import KmxAio.Knx.Frame

/-!
# KNX authenticated encryption

KNX IP Secure composes a CBC-MAC over `B0 ‖ len16(A) ‖ A ‖ P`, zero padded as a
whole, with AES-128-CTR, whose first keystream block covers the MAC. The two
primitives come from a table of backend calls, any of which may fail. The table
is a parameter of everything built on it.
-/

namespace KmxAio.Knx.Secure

open Lib.Fallible Lib.Wire

abbrev SecretKey := OctetArray 16
abbrev Block := OctetArray 16
abbrev Mac := OctetArray 16
abbrev SequenceInformation := OctetArray 6
abbrev SerialNumber := OctetArray 6
abbrev MessageTag := OctetArray 2
abbrev X25519PublicKey := OctetArray 32
abbrev X25519PrivateKey := OctetArray 32

def secretEmpty {size : Nat} (secret : OctetArray size) : Bool :=
  secret.toList.all (· == 0)

def clearedSecret (size : Nat) : OctetArray size := zeroArray size

def maxSequence : Nat := 2 ^ 48 - 1

def encodeSequence (val : Nat) : SequenceInformation := numberArray 6 val

def decodeSequence (octets : SequenceInformation) : Nat := arrayNumber octets

def validSerialNumber (val : SerialNumber) : Bool := val.toList.any (· != 0)

theorem decodeSequence_encodeSequence {val : Nat} (fits : val ≤ maxSequence) :
    decodeSequence (encodeSequence val) = val := by
  apply ofBigEndian_toBigEndian_of_lt
  unfold maxSequence at fits
  omega

/-- The backend calls KNX Secure uses; `none` is a call that reported failure. The counter mode
works in place, so what it leaves has the length of what it was given. -/
structure CryptoBackend where
  cbcMac : SecretKey → Octets → Option Block
  ctr : SecretKey → Block → Octets → Octets → Option (Octets × Octets)
  sha256 : Octets → Option (OctetArray 32)
  x25519Derive : X25519PrivateKey → X25519PublicKey → Option (OctetArray 32)
  ctr_length : ∀ key counter first second result,
    ctr key counter first second = some result →
      result.1.length = first.length ∧ result.2.length = second.length

def maxMacInputSize : Nat := 2048

/-- The octets a MAC is computed over: everything it covers, zero padded as one run. -/
def macInput (block0 : Block) (associatedData payload : Octets) : Octets :=
  let unpadded := block0.toList ++ (toBigEndian 2 associatedData.length ++ (associatedData ++ payload))
  unpadded ++ List.replicate ((unpadded.length + 15) / 16 * 16 - unpadded.length) 0

variable (backend : CryptoBackend) (key : SecretKey)

def cbcMac (block0 : Block) (associatedData payload : Octets) : Expected Block :=
  let unpadded := 16 + 2 + associatedData.length + payload.length
  let padded := (unpadded + 15) / 16 * 16
  if padded > maxMacInputSize ∨ associatedData.length > 0xFFFF then refuse .invalidLength
  else
    match backend.cbcMac key (macInput block0 associatedData payload) with
    | none => refuse .cryptoFailure
    | some mac => .ok mac

def ctr (counter0 : Block) (mac payload : Octets) : Expected (Octets × Octets) :=
  match backend.ctr key counter0 mac payload with
  | none => refuse .cryptoFailure
  | some result => .ok result

structure Message where
  block0 : Block
  counter0 : Block
  associatedData : Octets
  payload : Octets

def sealMessage (val : Message) : Expected (Mac × Octets) :=
  match cbcMac backend key val.block0 val.associatedData val.payload with
  | .error why => .error why
  | .ok mac =>
    match ctr backend key val.counter0 mac.toList val.payload with
    | .error why => .error why
    | .ok (encryptedMac, encrypted) => .ok (readArray 16 0 encryptedMac, encrypted)

def openMessage (val : Message) (mac : Mac) : Expected Octets :=
  match ctr backend key val.counter0 mac.toList val.payload with
  | .error why => .error why
  | .ok (receivedMac, plain) =>
    match cbcMac backend key val.block0 val.associatedData plain with
    | .error why => .error why
    | .ok expectedMac =>
      if receivedMac = expectedMac.toList then .ok plain
      else refuse .secureAuthenticationFailed

def wrapperBlock0 (seq : SequenceInformation) (serialNumber : SerialNumber)
    (messageTag : MessageTag) (payloadLength : UInt16) : Block :=
  ⟨seq.toList ++ (serialNumber.toList ++ (messageTag.toList ++ u16Octets payloadLength)),
    by simp⟩

def wrapperCounter0 (seq : SequenceInformation) (serialNumber : SerialNumber)
    (messageTag : MessageTag) : Block :=
  ⟨seq.toList ++ (serialNumber.toList ++ (messageTag.toList ++ [0xFF, 0x00])), by simp⟩

def handshakeCounter0 : Block := ⟨List.replicate 14 0 ++ [0xFF, 0x00], rfl⟩

def deriveSessionKey (privateKey : X25519PrivateKey)
    (peerPublicKey : X25519PublicKey) : Expected SecretKey :=
  match backend.x25519Derive privateKey peerPublicKey with
  | none => refuse .cryptoFailure
  | some shared =>
    match backend.sha256 shared.toList with
    | none => refuse .cryptoFailure
    | some digest => .ok (readArray 16 0 digest.toList)

/-! ## What the primitives are known to do -/

/-- Wherever a table answers, it answers what the reference primitives compute: its calls may only
fail. -/
structure CryptoBackend.Computes (backend reference : CryptoBackend) : Prop where
  cbcMac : ∀ {key blocks mac}, backend.cbcMac key blocks = some mac →
    reference.cbcMac key blocks = some mac
  ctr : ∀ {key counter first second result}, backend.ctr key counter first second = some result →
    reference.ctr key counter first second = some result

def CryptoBackend.CtrInverse (reference : CryptoBackend) : Prop :=
  ∀ {key counter first second first' second'},
    reference.ctr key counter first second = some (first', second') →
      reference.ctr key counter first' second' = some (first, second)

variable {backend} {key}

theorem ctr_ok {counter0 : Block} {mac payload : Octets} {result : Octets × Octets}
    (succeeded : ctr backend key counter0 mac payload = .ok result) :
    backend.ctr key counter0 mac payload = some result := by
  unfold ctr at succeeded
  cases answer : backend.ctr key counter0 mac payload with
  | none => simp [answer, refuse] at succeeded
  | some val =>
    rw [answer] at succeeded
    simpa using succeeded

theorem cbcMac_computes {reference : CryptoBackend} {block0 mac : Block}
    {associatedData payload : Octets} (computes : backend.Computes reference)
    (succeeded : cbcMac backend key block0 associatedData payload = .ok mac) :
    cbcMac reference key block0 associatedData payload = .ok mac := by
  unfold cbcMac at succeeded ⊢
  dsimp only at succeeded ⊢
  split at succeeded
  · cases succeeded
  rename_i fits
  rw [if_neg fits]
  split at succeeded
  · cases succeeded
  rename_i answered
  cases succeeded
  rw [computes.cbcMac answered]

theorem sealMessage_ok {val : Message} {mac : Mac} {encrypted : Octets}
    (succeeded : sealMessage backend key val = .ok (mac, encrypted)) :
    ∃ plainMac : Block,
      cbcMac backend key val.block0 val.associatedData val.payload = .ok plainMac ∧
        backend.ctr key val.counter0 plainMac.toList val.payload =
          some (mac.toList, encrypted) := by
  unfold sealMessage at succeeded
  cases computed : cbcMac backend key val.block0 val.associatedData val.payload with
  | error why => simp [computed] at succeeded
  | ok plainMac =>
    rw [computed] at succeeded
    cases applied : ctr backend key val.counter0 plainMac.toList val.payload with
    | error why => simp [applied] at succeeded
    | ok result =>
      obtain ⟨encryptedMac, encrypted'⟩ := result
      simp only [applied, Except.ok.injEq, Prod.mk.injEq] at succeeded
      obtain ⟨rfl, rfl⟩ := succeeded
      refine ⟨plainMac, rfl, ?_⟩
      have answered := ctr_ok applied
      have size : encryptedMac.length = 16 := by
        simpa using (backend.ctr_length _ _ _ _ _ answered).1
      have whole : (readArray 16 0 encryptedMac).toList = encryptedMac := by
        show List.takeD 16 encryptedMac 0 = encryptedMac
        rw [List.takeD_eq_take _ (by omega), List.take_of_length_le (by omega)]
      rw [whole]
      exact answered

theorem openMessage_ok {val : Message} {mac : Mac} {plain : Octets}
    (succeeded : openMessage backend key val mac = .ok plain) :
    ∃ plainMac : Block, cbcMac backend key val.block0 val.associatedData plain = .ok plainMac ∧
      backend.ctr key val.counter0 mac.toList val.payload = some (plainMac.toList, plain) := by
  unfold openMessage at succeeded
  cases applied : ctr backend key val.counter0 mac.toList val.payload with
  | error why => simp [applied] at succeeded
  | ok result =>
    obtain ⟨receivedMac, decrypted⟩ := result
    simp only [applied] at succeeded
    split at succeeded
    · cases succeeded
    rename_i plainMac computed
    split at succeeded
    · rename_i same
      cases succeeded
      exact ⟨plainMac, computed, same ▸ ctr_ok applied⟩
    · cases succeeded

/-! ## The ways the composition fails -/

/-- What the composition fails with before it compares a MAC. -/
def CompositionFailure (why : ErrorCode) : Prop :=
  why = .knx .invalidLength ∨ why = .knx .cryptoFailure

theorem CompositionFailure.ne_authentication {why : ErrorCode}
    (failure : CompositionFailure why) : why ≠ .knx .secureAuthenticationFailed := by
  rintro rfl
  rcases failure with impossible | impossible <;> cases impossible

theorem cbcMac_fails (backend : CryptoBackend) (key : SecretKey) (block0 : Block)
    (associatedData payload : Octets) :
    FailsOnlyWith CompositionFailure (cbcMac backend key block0 associatedData payload) := by
  unfold cbcMac
  dsimp only
  split
  · exact (failsOnlyWith_error _ _).mpr (.inl rfl)
  split
  · exact (failsOnlyWith_error _ _).mpr (.inr rfl)
  · exact failsOnlyWith_ok _ _

theorem ctr_fails (backend : CryptoBackend) (key : SecretKey) (counter0 : Block)
    (mac payload : Octets) :
    FailsOnlyWith CompositionFailure (ctr backend key counter0 mac payload) := by
  unfold ctr
  split
  · exact (failsOnlyWith_error _ _).mpr (.inr rfl)
  · exact failsOnlyWith_ok _ _

end KmxAio.Knx.Secure
