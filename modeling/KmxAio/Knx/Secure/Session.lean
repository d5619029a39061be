import KmxAio.Knx.Connection
import KmxAio.Knx.Secure.Wrapper

/-!
# Secure session services

The codecs of SESSION_REQUEST, SESSION_RESPONSE, SESSION_AUTHENTICATE and
SESSION_STATUS, and the two handshake MACs, which cover the exclusive or of both
public keys.
-/

namespace KmxAio.Knx.Secure

open Lib.Wire Knx.Frame Connection

/-- What a secure endpoint has refused, and what it has done. -/
structure Statistics where
  authenticationFailures : Nat := 0
  replays : Nat := 0
  duplicates : Nat := 0
  missingKeys : Nat := 0
  unencryptedRefused : Nat := 0
  refusedServices : Nat := 0
  sessionsOpened : Nat := 0
  sessionsClosed : Nat := 0
  sessionsTimedOut : Nat := 0
  timerNotificationsSent : Nat := 0
  timerAdjustments : Nat := 0
  deriving DecidableEq

inductive FailureCounter where
  | authenticationFailures
  | replays
  | duplicates
  | missingKeys
  | unencryptedRefused
  | refusedServices
  deriving DecidableEq

def Statistics.count (counters : Statistics) : FailureCounter → Statistics
  | .authenticationFailures =>
    { counters with authenticationFailures := counters.authenticationFailures + 1 }
  | .replays => { counters with replays := counters.replays + 1 }
  | .duplicates => { counters with duplicates := counters.duplicates + 1 }
  | .missingKeys => { counters with missingKeys := counters.missingKeys + 1 }
  | .unencryptedRefused => { counters with unencryptedRefused := counters.unencryptedRefused + 1 }
  | .refusedServices => { counters with refusedServices := counters.refusedServices + 1 }

def sessionRequestService : UInt16 := 0x0951
def sessionResponseService : UInt16 := 0x0952
def sessionAuthenticateService : UInt16 := 0x0953
def sessionStatusService : UInt16 := 0x0954
def sessionRequestSize : Nat := 46
def sessionResponseSize : Nat := 56
def sessionAuthenticateSize : Nat := 24
def sessionStatusSize : Nat := 8

inductive SessionStatus where
  | authenticationSuccess
  | authenticationFailed
  | unauthenticated
  | timeout
  | keepalive
  | close
  deriving DecidableEq

def SessionStatus.toOctet : SessionStatus → UInt8
  | .authenticationSuccess => 0
  | .authenticationFailed => 1
  | .unauthenticated => 2
  | .timeout => 3
  | .keepalive => 4
  | .close => 5

def SessionStatus.ofOctet (val : UInt8) : Option SessionStatus :=
  [SessionStatus.authenticationSuccess, .authenticationFailed, .unauthenticated, .timeout,
    .keepalive, .close].find? (fun status => status.toOctet == val)

structure SessionRequestFrame where
  controlEndpoint : Hpai
  clientPublicKey : X25519PublicKey
  deriving DecidableEq

structure SessionResponseFrame where
  sessionId : UInt16
  serverPublicKey : X25519PublicKey
  mac : Mac
  deriving DecidableEq

structure SessionAuthenticateFrame where
  userId : UInt8
  mac : Mac
  deriving DecidableEq

structure X25519KeyPair where
  privateKey : X25519PrivateKey
  publicKey : X25519PublicKey
  deriving DecidableEq

variable (pkt : Octets) (backend : CryptoBackend)

def checkHeader (service : UInt16) (size : Nat) : Expected Unit :=
  match decodeCommunicationHeader pkt with
  | .error why => .error why
  | .ok header =>
    if header.serviceType ≠ service then refuse .unsupportedService
    else if header.protocolVersion ≠ 0x10 ∨ header.totalLength.toNat ≠ size ∨
        pkt.length ≠ size then refuse .malformedFrame
    else .ok ()

variable (room : Nat)

def encodeSessionRequestPacket (val : SessionRequestFrame) : Expected Octets :=
  if ¬ knownProtocol val.controlEndpoint.protocol then refuse .unsupportedHpai
  else if room < sessionRequestSize then refuse .invalidLength
  else .ok (framed sessionRequestService
    (encodeHpai val.controlEndpoint ++ val.clientPublicKey.toList))

def decodeSessionRequestPacket : Expected SessionRequestFrame :=
  match checkHeader pkt sessionRequestService sessionRequestSize with
  | .error why => .error why
  | .ok _ =>
    if octetAt pkt 6 ≠ 8 then refuse .malformedFrame
    else if ¬ knownProtocol (octetAt pkt 7) then refuse .unsupportedHpai
    else .ok ⟨⟨⟨readArray 4 8 pkt, readU16 pkt 12⟩, octetAt pkt 7⟩, readArray 32 14 pkt⟩

def encodeSessionResponsePacket (val : SessionResponseFrame) : Expected Octets :=
  if room < sessionResponseSize then refuse .invalidLength
  else .ok (framed sessionResponseService
    (u16Octets val.sessionId ++ (val.serverPublicKey.toList ++ val.mac.toList)))

def decodeSessionResponsePacket : Expected SessionResponseFrame :=
  match checkHeader pkt sessionResponseService sessionResponseSize with
  | .error why => .error why
  | .ok _ => .ok ⟨readU16 pkt 6, readArray 32 8 pkt, readArray 16 40 pkt⟩

def encodeSessionAuthenticatePacket (val : SessionAuthenticateFrame) : Expected Octets :=
  if room < sessionAuthenticateSize then refuse .invalidLength
  else .ok (framed sessionAuthenticateService ([0x00, val.userId] ++ val.mac.toList))

def decodeSessionAuthenticatePacket : Expected SessionAuthenticateFrame :=
  match checkHeader pkt sessionAuthenticateService sessionAuthenticateSize with
  | .error why => .error why
  | .ok _ =>
    if octetAt pkt 6 ≠ 0x00 then refuse .malformedFrame
    else .ok ⟨octetAt pkt 7, readArray 16 8 pkt⟩

def encodeSessionStatusPacket (status : SessionStatus) : Expected Octets :=
  if room < sessionStatusSize then refuse .invalidLength
  else .ok (framed sessionStatusService [status.toOctet, 0x00])

def decodeSessionStatusPacket : Expected SessionStatus :=
  match checkHeader pkt sessionStatusService sessionStatusSize with
  | .error why => .error why
  | .ok _ =>
    match SessionStatus.ofOctet (octetAt pkt 6) with
    | none => refuse .malformedFrame
    | some status => .ok status

/-! ## Handshake MACs -/

def publicKeysXor (clientPublicKey serverPublicKey : X25519PublicKey) : Octets :=
  List.zipWith (· ^^^ ·) clientPublicKey.toList serverPublicKey.toList

def handshakeMac (key : SecretKey) (associatedData : Octets) :
    Expected Mac :=
  match cbcMac backend key (zeroArray 16) associatedData [] with
  | .error why => .error why
  | .ok mac =>
    match ctr backend key handshakeCounter0 mac.toList [] with
    | .error why => .error why
    | .ok (encryptedMac, _) => .ok (readArray 16 0 encryptedMac)

/-- Over the response's header, the session id and the exclusive or of the public keys. -/
def sessionResponseMac (deviceAuthenticationCode : SecretKey) (sid : UInt16)
    (clientPublicKey serverPublicKey : X25519PublicKey) : Expected Mac :=
  handshakeMac backend deviceAuthenticationCode
    (headerOctets sessionResponseService (UInt16.ofNat sessionResponseSize) ++
      (u16Octets sid ++ publicKeysXor clientPublicKey serverPublicKey))

def verifySessionResponse (deviceAuthenticationCode : SecretKey) (resp : SessionResponseFrame)
    (clientPublicKey : X25519PublicKey) : Expected Unit :=
  match sessionResponseMac backend deviceAuthenticationCode resp.sessionId clientPublicKey
      resp.serverPublicKey with
  | .error why => .error why
  | .ok expected => if expected = resp.mac then .ok () else refuse .secureAuthenticationFailed

/-- Over the authentication's header, a zero octet, the user id and the exclusive or of the keys. -/
def sessionAuthenticateMac (userPasswordKey : SecretKey) (userId : UInt8)
    (clientPublicKey serverPublicKey : X25519PublicKey) : Expected Mac :=
  handshakeMac backend userPasswordKey
    (headerOctets sessionAuthenticateService (UInt16.ofNat sessionAuthenticateSize) ++
      ([0x00, userId] ++ publicKeysXor clientPublicKey serverPublicKey))

def verifySessionAuthenticate (userPasswordKey : SecretKey) (val : SessionAuthenticateFrame)
    (clientPublicKey serverPublicKey : X25519PublicKey) :
    Expected Unit :=
  match sessionAuthenticateMac backend userPasswordKey val.userId clientPublicKey
      serverPublicKey with
  | .error why => .error why
  | .ok expected => if expected = val.mac then .ok () else refuse .secureAuthenticationFailed

end KmxAio.Knx.Secure
