import KmxAio.Knx.Secure.ClientSession
import KmxAio.Knx.Transport

/-!
# The sessions of a secure server

The table holds every secure session of a server: the connection and peer a
session was opened on, its key, its user once authenticated, and both sequence
counters. A session leaves the table together with its key.
-/

namespace KmxAio.Knx.Secure

open Lib.Wire Connection

def maxServerSessions : Nat := 255

structure TunnellingUser where
  userId : UInt8
  passwordKey : SecretKey
  tunnelAddresses : List IndividualAddress
  deriving DecidableEq

structure ServerConfiguration where
  deviceAuthenticationCode : SecretKey
  users : List TunnellingUser
  serialNumber : SerialNumber
  maxSessions : UInt16
  maxUnauthenticatedPerPeer : UInt8
  unauthenticatedLifetimeMs : UInt32
  deriving DecidableEq

inductive ServerFrameKind where
  | tunnel
  | authenticated
  | refusedAuthentication
  | keepAlive
  | closed
  deriving DecidableEq

/-- What a wrapper held: the frame itself only when it is the tunnel's. -/
structure ServerOpenedFrame where
  sessionId : UInt16
  plain : Octets
  kind : ServerFrameKind
  deriving DecidableEq

/-- Where a frame came from: its connection, and the peer at the other end. -/
structure ClientOrigin where
  connection : TransportId
  peer : TransportPeer
  deriving DecidableEq

structure SessionEntry where
  sessionId : UInt16
  connection : TransportId
  peer : TransportPeer
  clientPublicKey : X25519PublicKey
  serverPublicKey : X25519PublicKey
  sessionKey : SecretKey
  user : Option TunnellingUser := none
  createdMs : UInt64
  lastReceivedMs : UInt64
  nextSequence : Nat := 0
  lastReceivedSequence : Option Nat := none
  deriving DecidableEq

def SessionEntry.spend (entry : SessionEntry) : SessionEntry :=
  { entry with nextSequence := entry.nextSequence + 1 }

structure ServerSessionTable where
  configuration : ServerConfiguration
  sessions : List SessionEntry := []
  nextSessionId : UInt16 := 1
  counters : Statistics := {}
  deriving DecidableEq

def modifySession (sid : UInt16) (change : SessionEntry → SessionEntry) :
    List SessionEntry → List SessionEntry
  | [] => []
  | entry :: rest =>
    if entry.sessionId = sid then change entry :: rest
    else entry :: modifySession sid change rest

namespace ServerSessionTable

def find (table : ServerSessionTable) (sid : UInt16) : Option SessionEntry :=
  table.sessions.find? (fun entry => entry.sessionId == sid)

variable (table : ServerSessionTable)

def findUser (userId : UInt8) : Option TunnellingUser :=
  table.configuration.users.find? (fun user => user.userId == userId)

variable (sid : UInt16) (backend : CryptoBackend)

def modify (change : SessionEntry → SessionEntry) : ServerSessionTable :=
  { table with sessions := modifySession sid change table.sessions }

def noteUnauthenticated : ServerSessionTable :=
  { table with counters.authenticationFailures := table.counters.authenticationFailures + 1 }

def noteRefusedService : ServerSessionTable :=
  { table with counters.refusedServices := table.counters.refusedServices + 1 }

def noteUnencrypted : ServerSessionTable :=
  { table with counters.unencryptedRefused := table.counters.unencryptedRefused + 1 }

def sessionLimit : Nat :=
  min table.configuration.maxSessions.toNat maxServerSessions

/-- One peer cannot take every session with handshakes it never finishes. -/
def admitRequest (peer : TransportPeer) : Expected Unit :=
  let unauthenticated := table.sessions.countP
    (fun entry => entry.user.isNone && sameAddress entry.peer peer)
  if table.sessions.length ≥ table.sessionLimit then refuse .sendQueueFull
  else if unauthenticated ≥ table.configuration.maxUnauthenticatedPerPeer.toNat then
    refuse .sendQueueFull
  else .ok ()

def followingId : UInt16 := if sid = 0xFFFF then 1 else sid + 1

/-- The loop over candidates: the first id no live session holds, and the id to start from next. -/
def searchSessionId (sessions : List SessionEntry) : Nat → UInt16 → Option (UInt16 × UInt16)
  | 0, _ => none
  | fuel + 1, candidate =>
    if sessions.any (fun entry => entry.sessionId == candidate) then
      searchSessionId sessions fuel (followingId candidate)
    else some (candidate, followingId candidate)

/-- As many candidates are tried as there are ids; the table never holds that many sessions. -/
def allocateSessionId : Option (UInt16 × UInt16) :=
  searchSessionId table.sessions 65535 table.nextSessionId

def onSessionRequest (table : ServerSessionTable)
    (generated : Expected X25519KeyPair) (origin : ClientOrigin) (req : SessionRequestFrame)
    (nowMs : UInt64) : ServerSessionTable × Expected SessionResponseFrame :=
  if ¬ validSerialNumber table.configuration.serialNumber then
    (table, refuse .invalidConfiguration)
  else
    match table.admitRequest origin.peer with
    | .error why => (table, .error why)
    | .ok _ =>
      match generated with
      | .error why => (table, .error why)
      | .ok keyPair =>
        match deriveSessionKey backend keyPair.privateKey req.clientPublicKey with
        | .error why => (table, .error why)
        | .ok sessionKey =>
          match table.allocateSessionId with
          | none => (table, refuse .internalError)
          | some (sid, nextSessionId) =>
            match sessionResponseMac backend table.configuration.deviceAuthenticationCode
                sid req.clientPublicKey keyPair.publicKey with
            | .error why =>
              ({ table with nextSessionId := nextSessionId }, .error why)
            | .ok mac =>
              ({ table with
                  nextSessionId := nextSessionId
                  sessions := table.sessions ++
                    [{ sessionId := sid
                       connection := origin.connection
                       peer := origin.peer
                       clientPublicKey := req.clientPublicKey
                       serverPublicKey := keyPair.publicKey
                       sessionKey := sessionKey
                       createdMs := nowMs
                       lastReceivedMs := nowMs }] },
                .ok ⟨sid, keyPair.publicKey, mac⟩)

/-! ## Opening -/

/-- Checks a verified wrapper's sequence number and the frame inside. -/
def admitWrapper (sess : SessionEntry) (wrap : WrapperFrame) (plain : Octets) :
    ServerSessionTable × Expected Unit :=
  let seq := decodeSequence wrap.sequence
  if ∃ last ∈ sess.lastReceivedSequence, seq ≤ last then
    ({ table with counters.replays := table.counters.replays + 1 }, refuse .secureReplay)
  else
    match checkWrappedFrame plain with
    | .error why => (table.noteRefusedService, .error why)
    | .ok _ =>
      (table.modify sess.sessionId
        (fun entry => { entry with lastReceivedSequence := some seq }), .ok ())

def erase : ServerSessionTable :=
  { table with sessions := table.sessions.filter (fun entry => entry.sessionId != sid) }

/-- An unknown user and a wrong password are refused alike. -/
def authenticate (table : ServerSessionTable) (sess : SessionEntry)
    (val : SessionAuthenticateFrame) : ServerSessionTable × ServerOpenedFrame :=
  let refused := (table.noteUnauthenticated,
    ServerOpenedFrame.mk sess.sessionId [] .refusedAuthentication)
  match table.findUser val.userId with
  | none => refused
  | some user =>
    match verifySessionAuthenticate backend user.passwordKey val sess.clientPublicKey
        sess.serverPublicKey with
    | .error _ => refused
    | .ok _ =>
      ({ table.modify sess.sessionId (fun entry => { entry with user := some user }) with
          counters.sessionsOpened := table.counters.sessionsOpened + 1 },
        ⟨sess.sessionId, [], .authenticated⟩)

/-- Close, timeout and unauthenticated end a session; the rest are the server's to send. -/
def applyStatus (sess : SessionEntry) (status : SessionStatus) :
    ServerSessionTable × Expected ServerOpenedFrame :=
  if status = .keepalive then (table, .ok ⟨sess.sessionId, [], .keepAlive⟩)
  else if status ≠ .close ∧ status ≠ .timeout ∧ status ≠ .unauthenticated then
    (table.noteRefusedService, refuse .unsupportedService)
  else
    ({ table with counters.sessionsClosed := table.counters.sessionsClosed + 1 }.erase
        sess.sessionId, .ok ⟨sess.sessionId, [], .closed⟩)

def apply (table : ServerSessionTable) (sess : SessionEntry)
    (plain : Octets) : ServerSessionTable × Expected ServerOpenedFrame :=
  match decodeSessionStatusPacket plain with
  | .ok status => table.applyStatus sess status
  | .error _ =>
    if sess.user.isSome then (table, .ok ⟨sess.sessionId, plain, .tunnel⟩)
    else
      match decodeSessionAuthenticatePacket plain with
      | .error _ => (table.noteRefusedService, refuse .unsupportedService)
      | .ok authentication =>
        let (after, opened) := table.authenticate backend sess authentication
        (after, .ok opened)

/-- `open` of the source: a session belongs to the connection and peer it was opened on. -/
def openFrame (table : ServerSessionTable) (origin : ClientOrigin)
    (wrap : WrapperFrame) (room : Nat) (nowMs : UInt64) :
    ServerSessionTable × Expected ServerOpenedFrame :=
  match table.find wrap.sessionId with
  | none => (table.noteUnauthenticated, refuse .secureAuthenticationFailed)
  | some sess =>
    if sess.connection ≠ origin.connection ∨ ¬ samePeer sess.peer origin.peer then
      (table.noteUnauthenticated, refuse .secureAuthenticationFailed)
    else
      match openWrapper backend room sess.sessionKey wrap with
      | .error why =>
        (if why = .knx .secureAuthenticationFailed then table.noteUnauthenticated else table,
          .error why)
      | .ok plain =>
        match table.admitWrapper sess wrap plain with
        | (refused, .error why) => (refused, .error why)
        | (admitted, .ok _) =>
          (admitted.modify sess.sessionId
            (fun entry => { entry with lastReceivedMs := nowMs })).apply backend sess plain

/-! ## Sealing -/

structure SealRequest where
  connection : TransportId
  sessionId : UInt16
  plainFrame : Octets
  capacity : Nat
  authenticatedOnly : Bool

/-- A sequence number is spent only on a wrapper that was produced. -/
def sealLocked (table : ServerSessionTable) (req : SealRequest) :
    ServerSessionTable × Expected Produced :=
  match table.find req.sessionId with
  | none => (table, refuse .secureSessionClosed)
  | some sess =>
    if sess.connection ≠ req.connection ∨ sess.nextSequence > maxSequence ∨
        (req.authenticatedOnly ∧ sess.user.isNone) then (table, refuse .secureSessionClosed)
    else
      match sealWrapper backend req.capacity sess.sessionKey
          { sessionId := req.sessionId
            sequence := encodeSequence sess.nextSequence
            serialNumber := table.configuration.serialNumber
            messageTag := tunnellingMessageTag } req.plainFrame with
      | .error why => (table, .error why)
      | .ok pkt =>
        (table.modify req.sessionId SessionEntry.spend, .ok ⟨pkt, sess.sessionKey, req.plainFrame⟩)

def sealTunnel (table : ServerSessionTable) (conn : TransportId)
    (sid : UInt16) (plainFrame : Octets) (room : Nat) :
    ServerSessionTable × Expected Produced :=
  table.sealLocked backend ⟨conn, sid, plainFrame, room, true⟩

def sealStatus (table : ServerSessionTable) (conn : TransportId)
    (sid : UInt16) (status : SessionStatus) (room : Nat) :
    ServerSessionTable × Expected Produced :=
  match encodeSessionStatusPacket sessionStatusSize status with
  | .error why => (table, .error why)
  | .ok plain => table.sealLocked backend ⟨conn, sid, plain, room, false⟩

/-! ## Queries, and the ways a session ends -/

def tunnelAddresses (table : ServerSessionTable) (sid : UInt16) : List IndividualAddress :=
  match table.find sid with
  | none => []
  | some sess =>
    match sess.user with
    | none => []
    | some user => user.tunnelAddresses

def alive : Bool := (table.find sid).isSome

def hasSessions (conn : TransportId) : Bool :=
  table.sessions.any (fun entry => entry.connection == conn)

def close : ServerSessionTable :=
  table.erase sid

def closeConnection (conn : TransportId) : ServerSessionTable :=
  { table with sessions := table.sessions.filter (fun entry => entry.connection != conn) }

def expired (nowMs : UInt64) (entry : SessionEntry) : Bool :=
  (entry.user.isNone &&
      entry.createdMs + table.configuration.unauthenticatedLifetimeMs.toUInt64 ≤ nowMs) ||
    entry.lastReceivedMs + sessionTimeoutMs ≤ nowMs

def reap (nowMs : UInt64) : ServerSessionTable × Nat :=
  let ended := table.sessions.countP (table.expired nowMs)
  ({ table with
      sessions := table.sessions.filter (fun entry => !table.expired nowMs entry)
      counters.sessionsTimedOut := table.counters.sessionsTimedOut + ended }, ended)

end ServerSessionTable

/-! ## Events -/

inductive ServerEvent where
  | onSessionRequest (backend : CryptoBackend) (generated : Expected X25519KeyPair)
      (origin : ClientOrigin) (request : SessionRequestFrame) (nowMs : UInt64)
  | openFrame (backend : CryptoBackend) (origin : ClientOrigin) (wrapper : WrapperFrame)
      (capacity : Nat) (nowMs : UInt64)
  | sealTunnel (backend : CryptoBackend) (connection : TransportId) (sessionId : UInt16)
      (plainFrame : Octets) (capacity : Nat)
  | sealStatus (backend : CryptoBackend) (connection : TransportId) (sessionId : UInt16)
      (status : SessionStatus) (capacity : Nat)
  | close (sessionId : UInt16)
  | closeConnection (connection : TransportId)
  | reap (nowMs : UInt64)
  | noteUnencrypted

inductive ServerOutcome where
  | quiet
  | responded (response : SessionResponseFrame)
  | produced (wrapper : Produced)
  | opened (frame : ServerOpenedFrame)
  deriving DecidableEq

def ServerOutcome.ofExpected {α : Type} (outcome : α → ServerOutcome) : Expected α → ServerOutcome
  | .error _ => .quiet
  | .ok val => outcome val

def ServerSessionTable.step (table : ServerSessionTable) :
    ServerEvent → ServerSessionTable × ServerOutcome
  | .onSessionRequest backend generated origin req nowMs =>
    (table.onSessionRequest backend generated origin req nowMs).map id
      (ServerOutcome.ofExpected .responded)
  | .openFrame backend origin wrap room nowMs =>
    (table.openFrame backend origin wrap room nowMs).map id
      (ServerOutcome.ofExpected .opened)
  | .sealTunnel backend conn sid plainFrame room =>
    (table.sealTunnel backend conn sid plainFrame room).map id
      (ServerOutcome.ofExpected .produced)
  | .sealStatus backend conn sid status room =>
    (table.sealStatus backend conn sid status room).map id
      (ServerOutcome.ofExpected .produced)
  | .close sid => (table.close sid, .quiet)
  | .closeConnection conn => (table.closeConnection conn, .quiet)
  | .reap nowMs => ((table.reap nowMs).1, .quiet)
  | .noteUnencrypted => (table.noteUnencrypted, .quiet)

end KmxAio.Knx.Secure
