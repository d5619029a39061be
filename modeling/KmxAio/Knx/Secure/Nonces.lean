import KmxAio.Knx.Secure.ServerRun
import KmxAio.Knx.Secure.Recorded

/-!
# Sequence numbers of secure sessions

Every reset of a sequence counter also discards the session key, on the client
and in the server's table, so a number is never spent twice under one key. What
one party puts on the wire under one key is numbered `0, 1, 2, …`.
-/

namespace KmxAio.Knx.Secure

open Lib.Wire Lib.Sequenced Lib.Run Knx.Frame Connection

/-- The numbers a party's wrappers carry under one key, in the order they were produced. -/
def numbersUnder (key : SecretKey) (produced : List Produced) : List Nat :=
  (produced.filter (fun wrap => wrap.key = key)).map (fun wrap => wireSequence wrap.packet)

/-- No number is used twice under a key, none is skipped, and every one fits its field. -/
structure UniqueNonces (produced : List Produced) : Prop where
  distinct : produced.Pairwise (fun earlier later =>
    earlier.key = later.key → wireSequence earlier.packet ≠ wireSequence later.packet)
  gapless : ∀ key, ∃ count, numbersUnder key produced = List.range count
  bounded : ∀ wrapper ∈ produced, wireSequence wrapper.packet ≤ 2 ^ 48 - 1

theorem pairwise_of_numbersUnder {produced : List Produced}
    (distinct : ∀ key, (numbersUnder key produced).Nodup) :
    produced.Pairwise (fun earlier later =>
      earlier.key = later.key → wireSequence earlier.packet ≠ wireSequence later.packet) := by
  induction produced with
  | nil => exact List.Pairwise.nil
  | cons wrap rest ih =>
    refine List.pairwise_cons.mpr ⟨?_, ih ?_⟩
    · intro later present sameKey sameNumber
      have numbers := distinct wrap.key
      simp only [numbersUnder, List.filter_cons, decide_true, if_true, List.map_cons,
        List.nodup_cons] at numbers
      apply numbers.1
      rw [sameNumber]
      exact List.mem_map_of_mem (List.mem_filter.mpr ⟨present, by simp [sameKey]⟩)
    · intro key
      refine List.Nodup.sublist ?_ (distinct key)
      exact ((List.sublist_cons_self wrap rest).filter _).map _

theorem uniqueNonces_of_consistent {party : Party SecretKey Octets} {produced : List Produced}
    (consistent : party.Consistent maxSequence)
    (sent : party.sent = produced.map Produced.numbered) : UniqueNonces produced := by
  have numbers : ∀ key, ∃ count, count ≤ maxSequence + 1 ∧
      numbersUnder key produced = List.range count := by
    intro key
    obtain ⟨count, small, range⟩ := consistent.sent_range key
    refine ⟨count, small, Eq.trans ?_ range⟩
    simp only [sent, numbersUnder, ofKey, List.filter_map, List.map_map]
    rfl
  refine ⟨pairwise_of_numbersUnder ?_, ?_, ?_⟩
  · intro key
    obtain ⟨count, -, range⟩ := numbers key
    rw [range]
    exact List.nodup_range
  · intro key
    obtain ⟨count, -, range⟩ := numbers key
    exact ⟨count, range⟩
  · intro wrap present
    obtain ⟨count, small, range⟩ := numbers wrap.key
    have member : wireSequence wrap.packet ∈ numbersUnder wrap.key produced :=
      List.mem_map_of_mem (List.mem_filter.mpr ⟨present, by simp⟩)
    rw [range, List.mem_range] at member
    unfold maxSequence at small
    omega

/-- In every run of a client session and in every run of a server's session table, in which each
session key taken into use is new, the wrappers produced have unique nonces. -/
theorem session_nonces_unique :
    (∀ credentials events,
      Admissible ClientHistory.step ClientHistory.FreshKey (.initial credentials) events →
        UniqueNonces (run ClientHistory.step (.initial credentials) events).produced) ∧
      ∀ config events,
        Admissible ServerHistory.step ServerHistory.FreshKey (.initial config) events →
          UniqueNonces (run ServerHistory.step (.initial config) events).produced := by
  constructor
  · intro credentials events fresh
    have sound := invariant_run ClientHistory.step_sound
      (ClientHistory.initial_sound credentials) fresh
    exact uniqueNonces_of_consistent sound.consistent rfl
  · intro config events fresh
    have sound := invariant_run ServerHistory.step_sound
      (ServerHistory.initial_sound config) fresh
    exact uniqueNonces_of_consistent sound.consistent rfl

/-! ## One recorded exchange

A handshake between one client and one server and a frame each way, with the answers AES-128,
SHA-256 and X25519 give for it. -/

def exchangeClientPair : X25519KeyPair where
  privateKey := ⟨[47, 168, 82, 59, 194, 115, 87, 111, 27, 43, 58, 113, 70, 54, 94, 127, 144, 86,
    112, 101, 192, 233, 236, 100, 124, 120, 51, 65, 138, 196, 250, 74], rfl⟩
  publicKey := ⟨[25, 149, 10, 208, 168, 254, 25, 180, 234, 181, 183, 154, 133, 41, 229, 83, 195,
    166, 69, 146, 40, 75, 109, 96, 247, 104, 195, 151, 64, 133, 75, 11], rfl⟩

def exchangeServerPair : X25519KeyPair where
  privateKey := ⟨[237, 3, 245, 130, 181, 53, 55, 79, 16, 27, 7, 174, 70, 93, 247, 4, 17, 230, 202,
    32, 117, 232, 252, 114, 157, 207, 124, 59, 110, 39, 129, 165], rfl⟩
  publicKey := ⟨[73, 169, 51, 218, 192, 116, 209, 161, 134, 169, 225, 120, 158, 168, 183, 88, 17,
    71, 167, 5, 43, 38, 159, 234, 78, 134, 61, 249, 23, 7, 237, 11], rfl⟩

def exchangeDeviceCode : SecretKey :=
  ⟨[3, 2, 72, 215, 151, 114, 87, 98, 252, 252, 173, 216, 224, 192, 116, 160], rfl⟩

def exchangePasswordKey : SecretKey :=
  ⟨[53, 43, 0, 225, 178, 189, 56, 57, 70, 219, 94, 154, 150, 132, 12, 195], rfl⟩

def exchangeKey : SecretKey :=
  ⟨[83, 175, 107, 25, 208, 180, 90, 145, 141, 167, 105, 185, 124, 241, 110, 125], rfl⟩

def exchangeAgreement : OctetArray 32 :=
  ⟨[162, 218, 199, 251, 3, 15, 146, 44, 180, 137, 75, 26, 170, 66, 19, 240, 255, 228, 119, 227, 101,
    61, 156, 98, 211, 101, 78, 223, 145, 1, 66, 64], rfl⟩

def exchangeDigest : OctetArray 32 :=
  ⟨[83, 175, 107, 25, 208, 180, 90, 145, 141, 167, 105, 185, 124, 241, 110, 125, 167, 179, 13, 10,
    227, 235, 229, 132, 59, 125, 61, 41, 220, 82, 239, 148], rfl⟩

def exchangeResponseMac : Mac :=
  ⟨[125, 104, 140, 30, 215, 33, 207, 70, 23, 254, 40, 123, 255, 9, 80, 247], rfl⟩

theorem exchangeSerial_length (unit : UInt8) :
    ([0x00, 0xFA, 0x00, 0x00, 0x00, unit] : Octets).length = 6 := rfl

def exchangeClientSerial : SerialNumber :=
  ⟨[0x00, 0xFA, 0x00, 0x00, 0x00, 0x01], exchangeSerial_length 0x01⟩

def exchangeServerSerial : SerialNumber :=
  ⟨[0x00, 0xFA, 0x00, 0x00, 0x00, 0x02], exchangeSerial_length 0x02⟩

variable (serialNumber : SerialNumber) (num : Nat)

/-- The fields of the wrapper with this sequence number from the sender with this serial number. -/
def exchangeFields : WrapperFields :=
  ⟨1, encodeSequence num, serialNumber, tunnellingMessageTag⟩

def exchangeAuthenticate : Octets :=
  [6, 16, 9, 83, 0, 24, 0, 2, 146, 29, 29, 55, 7, 90, 142, 222, 60, 112, 251, 168, 249, 151, 80, 2]

def exchangeStatus : Octets := [0x06, 0x10, 0x09, 0x54, 0x00, 0x08, 0x00, 0x00]

def exchangeRequest : Octets :=
  [6, 16, 4, 32, 0, 21, 4, 1, 0, 0, 17, 0, 188, 224, 0, 0, 9, 1, 1, 0, 129]

def exchangeAck : Octets := [0x06, 0x10, 0x04, 0x21, 0x00, 0x0A, 0x04, 0x01, 0x00, 0x00]

def exchangeWrapperMac (plain : Octets) (mac : Block) : (SecretKey × Octets) × Block :=
  let msg := wrapperMessage (exchangeFields serialNumber num) plain
  ((exchangeKey, macInput msg.block0 msg.associatedData plain), mac)

def exchangeWrapperStream (stream : Octets) : (SecretKey × Block) × Octets :=
  ((exchangeKey, wrapperCounter0 (encodeSequence num) serialNumber tunnellingMessageTag), stream)

def exchangeRecording : Recording where
  macs :=
    [((exchangeDeviceCode, macInput (zeroArray 16)
        (headerOctets sessionResponseService 56 ++ (u16Octets 1 ++
          publicKeysXor exchangeClientPair.publicKey exchangeServerPair.publicKey)) []),
        ⟨[190, 47, 88, 114, 189, 33, 50, 142, 55, 58, 113, 239, 234, 79, 76, 46], rfl⟩),
      ((exchangePasswordKey, macInput (zeroArray 16)
        (headerOctets sessionAuthenticateService 24 ++ ([0x00, 0x02] ++
          publicKeysXor exchangeClientPair.publicKey exchangeServerPair.publicKey)) []),
        ⟨[197, 193, 41, 151, 44, 255, 60, 106, 65, 211, 251, 129, 231, 63, 57, 106], rfl⟩),
      exchangeWrapperMac exchangeClientSerial 0 exchangeAuthenticate
        ⟨[209, 103, 58, 163, 77, 197, 60, 253, 225, 19, 227, 153, 68, 182, 184, 159], rfl⟩,
      exchangeWrapperMac exchangeServerSerial 0 exchangeStatus
        ⟨[26, 138, 203, 230, 189, 218, 163, 12, 155, 194, 47, 171, 169, 60, 217, 136], rfl⟩,
      exchangeWrapperMac exchangeClientSerial 1 exchangeRequest
        ⟨[128, 217, 169, 65, 140, 43, 211, 77, 161, 88, 245, 232, 4, 36, 204, 61], rfl⟩,
      exchangeWrapperMac exchangeServerSerial 1 exchangeAck
        ⟨[129, 220, 2, 169, 120, 201, 170, 23, 20, 37, 17, 57, 188, 69, 120, 177], rfl⟩]
  streams :=
    [((exchangeDeviceCode, handshakeCounter0), [195, 71, 212, 108, 106, 0, 253, 200, 32, 196, 89,
      148, 21, 70, 28, 217]),
      ((exchangePasswordKey, handshakeCounter0), [87, 220, 52, 160, 43, 165, 178, 180, 125, 163, 0,
        41, 30, 168, 105, 104]),
      exchangeWrapperStream exchangeClientSerial 0
        [181, 243, 122, 92, 177, 215, 43, 112, 35, 150, 199, 223, 156, 216, 146, 103, 50, 142, 223,
          88, 179, 223, 24, 214, 19, 235, 134, 5, 220, 19, 104, 129, 153, 135, 134, 185, 93, 70,
          65, 101],
      exchangeWrapperStream exchangeServerSerial 0
        [90, 11, 122, 144, 121, 14, 1, 208, 175, 71, 160, 79, 248, 175, 26, 172, 107, 73, 140, 212,
          228, 178, 161, 253],
      exchangeWrapperStream exchangeClientSerial 1
        [226, 174, 138, 110, 112, 176, 75, 174, 253, 225, 178, 228, 99, 49, 217, 139, 186, 132, 45,
          164, 10, 13, 221, 47, 242, 215, 60, 239, 78, 26, 6, 185, 219, 90, 122, 88, 56],
      exchangeWrapperStream exchangeServerSerial 1
        [82, 71, 230, 96, 139, 161, 156, 82, 179, 190, 172, 228, 174, 194, 164, 250, 168, 233, 106,
          236, 52, 25, 159, 44, 107, 29]]
  digests := [(exchangeAgreement.toList, exchangeDigest)]
  agreements :=
    [((exchangeClientPair.privateKey, exchangeServerPair.publicKey), exchangeAgreement),
      ((exchangeServerPair.privateKey, exchangeClientPair.publicKey), exchangeAgreement)]

def exchangeAuthenticatePacket : Octets :=
  [6, 16, 9, 80, 0, 62, 0, 1, 0, 0, 0, 0, 0, 0, 0, 250, 0, 0, 0, 1, 0, 0, 52, 158, 214, 11, 179,
    199, 24, 212, 129, 246, 155, 50, 219, 73, 230, 95, 165, 247, 125, 17, 164, 209, 17, 103, 100,
    148, 64, 255, 252, 18, 23, 141, 194, 133, 36, 70, 216, 110, 42, 248]

def exchangeStatusPacket : Octets :=
  [6, 16, 9, 80, 0, 46, 0, 1, 0, 0, 0, 0, 0, 0, 0, 250, 0, 0, 0, 2, 0, 0, 109, 89, 133, 128, 228,
    186, 161, 253, 64, 129, 177, 118, 196, 212, 162, 220, 52, 133, 143, 228, 81, 147, 195, 36]

def exchangeRequestPacket : Octets :=
  [6, 16, 9, 80, 0, 59, 0, 1, 0, 0, 0, 0, 0, 1, 0, 250, 0, 0, 0, 1, 0, 0, 188, 148, 41, 132, 10, 24,
    217, 46, 242, 215, 45, 239, 242, 250, 6, 185, 210, 91, 123, 88, 185, 98, 119, 35, 47, 252, 155,
    152, 227, 92, 185, 71, 12, 103, 21, 21, 182]

def exchangeAckPacket : Octets :=
  [6, 16, 9, 80, 0, 48, 0, 1, 0, 0, 0, 0, 0, 1, 0, 250, 0, 0, 0, 2, 0, 0, 174, 249, 110, 205, 52,
    19, 155, 45, 107, 29, 211, 155, 228, 201, 243, 104, 54, 69, 167, 155, 189, 221, 18, 135, 220,
    75]

def wrapperOfPacket (pkt : Octets) : WrapperFrame :=
  match decodeWrapperPacket pkt with
  | .ok wrap => wrap
  | .error _ => ⟨⟨0, zeroArray 6, zeroArray 6, zeroArray 2⟩, [], zeroArray 16⟩

def exchangeCredentials : TunnellingCredentials :=
  ⟨2, exchangePasswordKey, exchangeDeviceCode, false, exchangeClientSerial⟩

def exchangeConfiguration : ServerConfiguration :=
  ⟨exchangeDeviceCode, [⟨2, exchangePasswordKey, [0x1101]⟩], exchangeServerSerial, 16, 2, 10000⟩

def exchangeOrigin : ClientOrigin :=
  ⟨7, ⟨[2, 0, 195, 80, 192, 168, 1, 10, 0, 0, 0, 0, 0, 0, 0, 0], 16⟩⟩

def exchangeClientEvents : List ClientEvent :=
  [.begin (.ok exchangeClientPair) 1472 ⟨⟨zeroArray 4, 0⟩, 0x02⟩ 0,
    .onSessionResponse exchangeRecording.backend
      ⟨1, exchangeServerPair.publicKey, exchangeResponseMac⟩ 1472 1,
    .openFrame exchangeRecording.backend (wrapperOfPacket exchangeStatusPacket) 1472 2,
    .sealTunnel exchangeRecording.backend exchangeRequest 1472 3,
    .openFrame exchangeRecording.backend (wrapperOfPacket exchangeAckPacket) 1472 4]

def exchangeServerEvents : List ServerEvent :=
  [.onSessionRequest exchangeRecording.backend (.ok exchangeServerPair) exchangeOrigin
      ⟨⟨⟨zeroArray 4, 0⟩, 0x02⟩, exchangeClientPair.publicKey⟩ 0,
    .openFrame exchangeRecording.backend exchangeOrigin
      (wrapperOfPacket exchangeAuthenticatePacket) 1472 1,
    .sealStatus exchangeRecording.backend 7 1 .authenticationSuccess 1472,
    .openFrame exchangeRecording.backend exchangeOrigin
      (wrapperOfPacket exchangeRequestPacket) 1472 3,
    .sealTunnel exchangeRecording.backend 7 1 exchangeAck 1472]

/-- Both sides of the recorded exchange, which seal two wrappers each. -/
theorem session_nonces_unique_exchange :
    numbersUnder exchangeKey
        (run ClientHistory.step (.initial exchangeCredentials) exchangeClientEvents).produced =
          [0, 1] ∧
      numbersUnder exchangeKey
        (run ServerHistory.step (.initial exchangeConfiguration) exchangeServerEvents).produced =
          [0, 1] ∧
      UniqueNonces
        (run ClientHistory.step (.initial exchangeCredentials) exchangeClientEvents).produced ∧
      UniqueNonces
        (run ServerHistory.step (.initial exchangeConfiguration) exchangeServerEvents).produced :=
  ⟨by decide +kernel, by decide +kernel,
    session_nonces_unique.1 exchangeCredentials exchangeClientEvents (by decide +kernel),
    session_nonces_unique.2 exchangeConfiguration exchangeServerEvents (by decide +kernel)⟩

end KmxAio.Knx.Secure
