import KmxAio.Knx.Secure.Session

/-!
# The client side of a secure session

A client session runs the handshake, then seals what the tunnel sends and opens
what it receives. It is a state machine over five phases; every way out of a
session forgets the session key together with both sequence counters. Key pairs
come from an entropy source outside the session and are part of the event.
-/

namespace KmxAio.Knx.Secure

open Lib.Wire Connection

def sessionTimeoutMs : UInt64 := 60000
def tunnellingMessageTag : MessageTag := zeroArray 2

structure TunnellingCredentials where
  userId : UInt8
  userPasswordKey : SecretKey
  deviceAuthenticationCode : SecretKey
  skipDeviceAuthentication : Bool
  serialNumber : SerialNumber
  deriving DecidableEq

inductive ClientSessionPhase where
  | idle
  | requested
  | authenticating
  | established
  | closed
  deriving DecidableEq

/-- A wrapper a call produced. The source returns the packet; the key it was sealed under and the
frame inside are kept beside it. -/
structure Produced where
  packet : Octets
  key : SecretKey
  plainFrame : Octets
  deriving DecidableEq

/-- A frame a wrapper held, and whether the tunnel gets it. -/
structure OpenedFrame where
  plain : Octets
  forTunnel : Bool
  deriving DecidableEq

structure ClientSession where
  credentials : TunnellingCredentials
  phase : ClientSessionPhase := .idle
  keyPair : X25519KeyPair := ⟨zeroArray 32, zeroArray 32⟩
  sessionKey : SecretKey := zeroArray 16
  sessionId : UInt16 := 0
  nextSequence : Nat := 0
  lastReceivedSequence : Option Nat := none
  lastSentMs : UInt64 := 0
  lastReceivedMs : UInt64 := 0
  counters : Statistics := {}
  deriving DecidableEq

/-- User 0 is reserved, ids above 127 name no user, and an all-zero serial number identifies nobody. -/
def TunnellingCredentials.validate (credentials : TunnellingCredentials) : Expected Unit :=
  if credentials.userId = 0 ∨ credentials.userId > 127 ∨
      ¬ validSerialNumber credentials.serialNumber then refuse .invalidConfiguration
  else .ok ()

namespace ClientSession

def established (sess : ClientSession) : Bool := sess.phase == .established

variable (sess : ClientSession)

def noteUnauthenticated : ClientSession :=
  { sess with counters.authenticationFailures := sess.counters.authenticationFailures + 1 }

def noteUnencrypted : ClientSession :=
  { sess with counters.unencryptedRefused := sess.counters.unencryptedRefused + 1 }

def noteRefusedService : ClientSession :=
  { sess with counters.refusedServices := sess.counters.refusedServices + 1 }

def forget : ClientSession :=
  { sess with
    sessionKey := clearedSecret 16
    keyPair := { sess.keyPair with privateKey := clearedSecret 32 }
    sessionId := 0
    nextSequence := 0
    lastReceivedSequence := none }

def close : ClientSession :=
  let counted :=
    if sess.established then
      { sess with counters.sessionsClosed := sess.counters.sessionsClosed + 1 }
    else sess
  { counted.forget with phase := .closed }

def fail {α : Type} (sess : ClientSession) (why : ErrorCode) : ClientSession × Expected α :=
  (sess.close, .error why)

def begin (generated : Expected X25519KeyPair) (room : Nat) (controlEndpoint : Hpai)
    (nowMs : UInt64) : ClientSession × Expected Octets :=
  if sess.phase ≠ .idle ∧ sess.phase ≠ .closed then (sess, refuse .invalidConfiguration)
  else
    match sess.credentials.validate with
    | .error why => (sess, .error why)
    | .ok _ =>
      match generated with
      | .error why => (sess, .error why)
      | .ok keyPair =>
        match encodeSessionRequestPacket room ⟨controlEndpoint, keyPair.publicKey⟩ with
        | .error why => (sess, .error why)
        | .ok pkt =>
          ({ sess.forget with
              keyPair := keyPair
              phase := .requested
              lastSentMs := nowMs
              lastReceivedMs := nowMs }, .ok pkt)

variable (nowMs : UInt64) (backend : CryptoBackend)

def verifyResponse (sess : ClientSession)
    (resp : SessionResponseFrame) : ClientSession × Expected Unit :=
  if resp.sessionId = 0 then (sess, refuse .secureSessionRejected)
  else if sess.credentials.skipDeviceAuthentication then (sess, .ok ())
  else
    match verifySessionResponse backend sess.credentials.deviceAuthenticationCode resp
        sess.keyPair.publicKey with
    | .ok _ => (sess, .ok ())
    | .error why =>
      (if why = .knx .secureAuthenticationFailed then sess.noteUnauthenticated else sess,
        .error why)

/-- Seals under the next sequence number, which is spent only on a wrapper that was produced. -/
def sealFrame (sess : ClientSession) (plainFrame : Octets)
    (room : Nat) (nowMs : UInt64) : ClientSession × Expected Produced :=
  if sess.nextSequence > maxSequence then (sess, refuse .secureSessionClosed)
  else
    match sealWrapper backend room sess.sessionKey
        { sessionId := sess.sessionId
          sequence := encodeSequence sess.nextSequence
          serialNumber := sess.credentials.serialNumber
          messageTag := tunnellingMessageTag } plainFrame with
    | .error why => (sess, .error why)
    | .ok pkt =>
      ({ sess with nextSequence := sess.nextSequence + 1, lastSentMs := nowMs },
        .ok ⟨pkt, sess.sessionKey, plainFrame⟩)

/-- Takes the session key into use and seals SESSION_AUTHENTICATE, the session's first wrapper. -/
def authenticate (sess : ClientSession)
    (resp : SessionResponseFrame) (room : Nat) (nowMs : UInt64) :
    ClientSession × Expected Produced :=
  match deriveSessionKey backend sess.keyPair.privateKey resp.serverPublicKey with
  | .error why => (sess, .error why)
  | .ok key =>
    match sessionAuthenticateMac backend sess.credentials.userPasswordKey
        sess.credentials.userId sess.keyPair.publicKey resp.serverPublicKey with
    | .error why => (sess, .error why)
    | .ok mac =>
      match encodeSessionAuthenticatePacket sessionAuthenticateSize
          ⟨sess.credentials.userId, mac⟩ with
      | .error why => (sess, .error why)
      | .ok plain =>
        { sess with
          sessionKey := key
          sessionId := resp.sessionId
          keyPair := { sess.keyPair with privateKey := clearedSecret 32 }
        }.sealFrame backend plain room nowMs

def onSessionResponse (sess : ClientSession)
    (resp : SessionResponseFrame) (room : Nat) (nowMs : UInt64) :
    ClientSession × Expected Produced :=
  if sess.phase ≠ .requested then (sess, refuse .invalidConfiguration)
  else
    match sess.verifyResponse backend resp with
    | (verified, .error why) => verified.fail why
    | (verified, .ok _) =>
      match verified.authenticate backend resp room nowMs with
      | (attempted, .error why) => attempted.fail why
      | (sealed, .ok produced) =>
        ({ sealed with phase := .authenticating, lastReceivedMs := nowMs }, .ok produced)

/-- Before any key exists a server can only refuse in the clear. -/
def onUnwrappedStatus (_status : SessionStatus) :
    ClientSession × Expected Unit :=
  if sess.phase ≠ .requested then (sess.noteUnencrypted, refuse .secureFrameRequired)
  else sess.fail (.knx .secureSessionRejected)

def authenticateWrapper (sess : ClientSession) (wrap : WrapperFrame)
    (room : Nat) : ClientSession × Expected Octets :=
  if secretEmpty sess.sessionKey ∨ wrap.sessionId ≠ sess.sessionId then
    (sess.noteUnauthenticated, refuse .secureAuthenticationFailed)
  else
    match openWrapper backend room sess.sessionKey wrap with
    | .ok plain => (sess, .ok plain)
    | .error why =>
      (if why = .knx .secureAuthenticationFailed then sess.noteUnauthenticated else sess,
        .error why)

/-- With the MAC verified the sequence number can be believed, and it has to move forward. -/
def admitWrapper (wrap : WrapperFrame) (plain : Octets) :
    ClientSession × Expected Unit :=
  let seq := decodeSequence wrap.sequence
  if ∃ last ∈ sess.lastReceivedSequence, seq ≤ last then
    ({ sess with counters.replays := sess.counters.replays + 1 }, refuse .secureReplay)
  else
    match checkWrappedFrame plain with
    | .error why => (sess.noteRefusedService, .error why)
    | .ok _ => ({ sess with lastReceivedSequence := some seq }, .ok ())

/-- Anything but a status is the tunnel's, and only an established session carries the tunnel. -/
def apply (plain : Octets) : ClientSession × Expected OpenedFrame :=
  match decodeSessionStatusPacket plain with
  | .error _ =>
    if sess.established then (sess, .ok ⟨plain, true⟩)
    else (sess.noteRefusedService, refuse .unsupportedService)
  | .ok status =>
    if sess.phase = .authenticating then
      if status ≠ .authenticationSuccess then sess.fail (.knx .secureSessionRejected)
      else
        ({ sess with
            phase := .established
            counters.sessionsOpened := sess.counters.sessionsOpened + 1 }, .ok ⟨plain, false⟩)
    else if status = .close ∨ status = .timeout ∨ status = .unauthenticated then
      sess.fail (.knx .secureSessionClosed)
    else (sess, .ok ⟨plain, false⟩)

/-- `open` of the source: verifies a wrapper, checks its sequence number, and applies its frame. -/
def openFrame (sess : ClientSession) (wrap : WrapperFrame)
    (room : Nat) (nowMs : UInt64) : ClientSession × Expected OpenedFrame :=
  match sess.authenticateWrapper backend wrap room with
  | (refused, .error why) => (refused, .error why)
  | (verified, .ok plain) =>
    match verified.admitWrapper wrap plain with
    | (refused, .error why) => (refused, .error why)
    | (admitted, .ok _) => { admitted with lastReceivedMs := nowMs }.apply plain

/-- What a call outside an established session is refused with. -/
def notEstablished : Error :=
  if sess.phase = .closed then .secureSessionClosed else .invalidConfiguration

def sealTunnel (sess : ClientSession) (plainFrame : Octets)
    (room : Nat) (nowMs : UInt64) : ClientSession × Expected Produced :=
  if sess.phase ≠ .established then (sess, refuse sess.notEstablished)
  else sess.sealFrame backend plainFrame room nowMs

def sealStatus (sess : ClientSession) (status : SessionStatus)
    (room : Nat) (nowMs : UInt64) : ClientSession × Expected Produced :=
  match encodeSessionStatusPacket sessionStatusSize status with
  | .error why => (sess, .error why)
  | .ok plain => sess.sealFrame backend plain room nowMs

def prepareKeepAlive (sess : ClientSession) (room : Nat)
    (nowMs : UInt64) : ClientSession × Expected Produced :=
  if sess.phase ≠ .established then (sess, refuse sess.notEstablished)
  else sess.sealStatus backend .keepalive room nowMs

def prepareClose (sess : ClientSession) (room : Nat)
    (nowMs : UInt64) : ClientSession × Expected Produced :=
  if secretEmpty sess.sessionKey then (sess, refuse .invalidConfiguration)
  else
    let (attempted, sealed) := sess.sealStatus backend .close room nowMs
    (attempted.close, sealed)

def checkTimeout : ClientSession × Expected Unit :=
  let live := sess.phase = .requested ∨ sess.phase = .authenticating ∨ sess.established
  if ¬ live ∨ nowMs < max sess.lastSentMs sess.lastReceivedMs + sessionTimeoutMs then
    (sess, .ok ())
  else
    ({ sess.forget with
        phase := .closed
        counters.sessionsTimedOut := sess.counters.sessionsTimedOut + 1 },
      refuse .secureSessionClosed)

end ClientSession

/-! ## Events -/

/-- Every call a client session takes. Each carries the backend that serves it, which may fail. -/
inductive ClientEvent where
  | begin (generated : Expected X25519KeyPair) (capacity : Nat) (controlEndpoint : Hpai)
      (nowMs : UInt64)
  | onSessionResponse (backend : CryptoBackend) (response : SessionResponseFrame) (capacity : Nat)
      (nowMs : UInt64)
  | onUnwrappedStatus (status : SessionStatus)
  | openFrame (backend : CryptoBackend) (wrapper : WrapperFrame) (capacity : Nat) (nowMs : UInt64)
  | sealTunnel (backend : CryptoBackend) (plainFrame : Octets) (capacity : Nat) (nowMs : UInt64)
  | prepareKeepAlive (backend : CryptoBackend) (capacity : Nat) (nowMs : UInt64)
  | prepareClose (backend : CryptoBackend) (capacity : Nat) (nowMs : UInt64)
  | checkTimeout (nowMs : UInt64)
  | noteUnauthenticated
  | noteUnencrypted
  | close

/-- What a call leaves behind for the world: a wrapper it produced, or a frame it opened. -/
inductive Outcome where
  | quiet
  | produced (wrapper : Produced)
  | opened (frame : OpenedFrame)
  deriving DecidableEq

def Outcome.ofProduced : Expected Produced → Outcome
  | .error _ => .quiet
  | .ok wrap => .produced wrap

def Outcome.ofOpened : Expected OpenedFrame → Outcome
  | .error _ => .quiet
  | .ok frame => .opened frame

def ClientSession.step (sess : ClientSession) : ClientEvent → ClientSession × Outcome
  | .begin generated room controlEndpoint nowMs =>
    ((sess.begin generated room controlEndpoint nowMs).1, .quiet)
  | .onSessionResponse backend resp room nowMs =>
    (sess.onSessionResponse backend resp room nowMs).map id Outcome.ofProduced
  | .onUnwrappedStatus status => ((sess.onUnwrappedStatus status).1, .quiet)
  | .openFrame backend wrap room nowMs =>
    (sess.openFrame backend wrap room nowMs).map id Outcome.ofOpened
  | .sealTunnel backend plainFrame room nowMs =>
    (sess.sealTunnel backend plainFrame room nowMs).map id Outcome.ofProduced
  | .prepareKeepAlive backend room nowMs =>
    (sess.prepareKeepAlive backend room nowMs).map id Outcome.ofProduced
  | .prepareClose backend room nowMs =>
    (sess.prepareClose backend room nowMs).map id Outcome.ofProduced
  | .checkTimeout nowMs => ((sess.checkTimeout nowMs).1, .quiet)
  | .noteUnauthenticated => (sess.noteUnauthenticated, .quiet)
  | .noteUnencrypted => (sess.noteUnencrypted, .quiet)
  | .close => (sess.close, .quiet)

end KmxAio.Knx.Secure
