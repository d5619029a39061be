import KmxAio.Knx.GenericServer
import KmxAio.Lib.Run

/-!
# The secure half of the tunnelling server

A secure server serves each connection on its own: a session request opens a session
and a link for it, a wrapper is opened in the session it names, and what it carried
is handled as a frame from that session's link. A connection that ends takes its
sessions and their channels with it.
-/

namespace KmxAio.Knx

open Lib.Wire Knx.Frame
open KmxAio.Knx.Secure (ServerSessionTable SessionRequestFrame SessionStatus WrapperFrame
  encodeSessionResponsePacket encodeSessionStatusPacket sessionResponseSize sessionStatusSize)

def sessionsPerConnection : Nat := 16

/-- What a frame of a connection came to: whether the connection is served on, and the frame handed
to the application. -/
structure FrameOutcome where
  step : Expected Bool
  handed : Option ServerEvent := none
  deriving DecidableEq

/-- A connection survives the failures that concern one frame only. -/
def stepOf {α : Type} : Expected α → Expected Bool
  | .ok _ => .ok true
  | .error why => if recoverable why then .ok true else .error why

namespace GenericServer

/-! ## Connections and their links -/

variable (srv : GenericServer) (world : Conditions)

variable (state : SecureConnection) (table : ServerSessionTable) (conn : TransportId)
  (sid : UInt16)

def modifyConnection (change : SecureConnection → SecureConnection) : GenericServer :=
  { srv with
    connections := srv.connections.map (fun state =>
      if state.connection = conn then change state else state) }

def sessionLink : Option Nat :=
  (srv.findConnection conn).bind
    (fun state => state.links.findIdx? (fun link => link == sid))

def withSessions : GenericServer :=
  { srv with sessions := some table }

/-- Channels go first, then the sessions, and with them the links. -/
def endSecureConnection : GenericServer :=
  let released := (List.range state.links.length).foldl
    (fun srv spot => srv.releaseChannelsOf (.link state.connection spot)) srv
  { released with
    sessions := released.sessions.map (·.closeConnection state.connection)
    connections := released.connections.filter (fun other => other.connection != state.connection) }

/-- A connection that has carried no session for as long as a handshake may take is closed. -/
def connectionIdle : GenericServer × Bool :=
  match srv.sessions with
  | none => (srv, false)
  | some table =>
    let last :=
      if table.hasSessions state.connection then world.secureNowMs else state.lastSessionMs
    (srv.modifyConnection state.connection (fun other => { other with lastSessionMs := last }),
      world.secureNowMs ≥ last + table.configuration.unauthenticatedLifetimeMs.toUInt64)

/-! ## Session requests -/

/-- Sends a frame in the clear, which ends the connection when it fails. -/
def sendInClear (encoded : Expected Octets) (conn : TransportId) :
    GenericServer × FrameOutcome :=
  match encoded with
  | .error why => (srv, ⟨.error why, none⟩)
  | .ok pkt =>
    match srv.sendDatagram world pkt (.connection conn) with
    | (after, .error why) => (after, ⟨.error why, none⟩)
    | (after, .ok _) => (after, ⟨.ok true, none⟩)

/-- No key exists to seal the answer under, so it goes in the clear. -/
def refuseSession : GenericServer × FrameOutcome :=
  srv.sendInClear world (encodeSessionStatusPacket sessionStatusSize .unauthenticated)
    conn

/-- A client that opens session after session on one connection is cut off. -/
def answerSessionRequest
    (req : SessionRequestFrame) (peer : TransportPeer) : GenericServer × FrameOutcome :=
  if state.links.length ≥ sessionsPerConnection then (srv, ⟨.ok false, none⟩)
  else
    match table.onSessionRequest world.backend world.generated ⟨state.connection, peer⟩
        req world.secureNowMs with
    | (after, .error _) =>
      (srv.withSessions after).refuseSession world state.connection
    | (after, .ok resp) =>
      ((srv.withSessions after).modifyConnection state.connection
        (fun other => { other with links := other.links ++ [resp.sessionId] })).sendInClear
        world (encodeSessionResponsePacket sessionResponseSize resp) state.connection

/-! ## Wrappers -/

/-- A status goes out sealed under its session; nothing depends on whether it could be sent. -/
def sendStatus (status : SessionStatus) : GenericServer :=
  srv.withSessions
    (table.sealStatus world.backend conn sid status maxDatagramSize).1

def serveSessionFrame (spot : Nat) (sid : UInt16) (pkt : Octets) (peer : TransportPeer) :
    GenericServer × FrameOutcome :=
  match srv.handleReceived world pkt ⟨.link conn spot, peer, sid⟩ with
  | (after, .error why) => (after, ⟨stepOf (.error why : Expected Unit), none⟩)
  | (after, .ok event) =>
    (after, ⟨.ok true, if event.cemiBytes = [] then none else some event⟩)

/-- A wrapper that does not authenticate, repeats an older one or carries what it may not is read
past. -/
def acceptWrapper (wrap : WrapperFrame) (peer : TransportPeer) : GenericServer × FrameOutcome :=
  match table.openFrame world.backend ⟨state.connection, peer⟩ wrap maxDatagramSize
      world.secureNowMs with
  | (after, .error _) => (srv.withSessions after, ⟨.ok true, none⟩)
  | (after, .ok opened) =>
    let received := srv.withSessions after
    match state.links.findIdx? (fun link => link == opened.sessionId) with
    | none => (received, ⟨.ok true, none⟩)
    | some spot =>
      match opened.kind with
      | .tunnel =>
        received.serveSessionFrame world state.connection spot opened.sessionId
          opened.plain peer
      | .authenticated =>
        (received.sendStatus world after state.connection opened.sessionId
          .authenticationSuccess, ⟨.ok true, none⟩)
      | .refusedAuthentication =>
        let told := received.sendStatus world after state.connection opened.sessionId
          .authenticationFailed
        ({ told with sessions := told.sessions.map (·.close opened.sessionId) }, ⟨.ok true, none⟩)
      | .closed =>
        (received.releaseChannelsOf (.link state.connection spot), ⟨.ok true, none⟩)
      | .keepAlive => (received, ⟨.ok true, none⟩)

/-- Discovery is answered in the clear, and the rest of what arrives unencrypted is refused. -/
def routeSecureFrame (pkt : Octets) (peer : TransportPeer) : GenericServer × FrameOutcome :=
  match decodeDatagram pkt with
  | .error why => (srv, ⟨stepOf (.error why : Expected Unit), none⟩)
  | .ok val =>
    match val.payload with
    | .sessionRequest req =>
      srv.answerSessionRequest world state table req peer
    | .secureWrapper wrap => srv.acceptWrapper world state table wrap peer
    | _ =>
      match srv.dispatch world val ⟨.connection state.connection, peer, 0⟩ with
      | (after, result) => (after, ⟨stepOf result, none⟩)

/-! ## Serving a connection -/

/-- The loop over a connection is left, and the connection with everything on it ends. -/
def finish : GenericServer :=
  match srv.findConnection conn with
  | none => srv
  | some state => srv.endSecureConnection state

/-- A connection is taken on; its transport is a live object, so no other connection has its
identity. -/
def takeOn : GenericServer :=
  if (srv.findConnection conn).isSome then srv
  else
    { srv with
      connections := srv.connections ++
        [{ connection := conn, lastSessionMs := world.secureNowMs }] }

def servePass (stopRequested : Bool) : GenericServer :=
  if srv.stopped ∨ stopRequested then srv.finish state.connection
  else
    match srv.poll world with
    | (polled, .error _) => polled.finish state.connection
    | (polled, .ok _) =>
      match polled.connectionIdle world state with
      | (looked, true) => looked.finish state.connection
      | (looked, false) => looked

def serveReceived (received : Expected (Octets × TransportPeer)) : GenericServer × FrameOutcome :=
  match received with
  | .error why =>
    if why = .knx .timeout then (srv, ⟨.ok true, none⟩)
    else
      (srv.finish state.connection, ⟨if why = .knx .shutdown then .ok false else .error why, none⟩)
  | .ok (pkt, peer) =>
    if pkt.length = 0 ∨ pkt.length > maxDatagramSize then
      (srv.finish state.connection, ⟨refuse .invalidLength, none⟩)
    else
      match srv.routeSecureFrame world state table pkt peer with
      | (after, outcome) =>
        (if outcome.step = .ok true then after else after.finish state.connection, outcome)

end GenericServer

/-! ## Runs -/

inductive SecureEvent where
  | connect (connection : TransportId) (conditions : Conditions)
  | pass (connection : TransportId) (conditions : Conditions) (stopRequested : Bool)
  | receive (connection : TransportId) (conditions : Conditions)
      (received : Expected (Octets × TransportPeer))
  | datagram (conditions : Conditions) (packet : Octets) (peer : TransportPeer)
  | poll (conditions : Conditions)
  | send (conditions : Conditions) (channelId : UInt8) (cemiBytes : Octets)
  | disconnect (channelId : UInt8)
  | shutdown
  | reset

def GenericServer.step (srv : GenericServer) : SecureEvent → GenericServer
  | .connect conn world => srv.takeOn world conn
  | .pass conn world stopRequested =>
    match srv.findConnection conn with
    | none => srv
    | some state => srv.servePass world state stopRequested
  | .receive conn world received =>
    match srv.findConnection conn, srv.sessions with
    | some state, some table => (srv.serveReceived world state table received).1
    | _, _ => srv
  | .datagram world pkt peer =>
    (srv.handleReceived world pkt ⟨.socket, peer, 0⟩).1
  | .poll world => (srv.poll world).1
  | .send world chan cemiBytes => (srv.send world chan cemiBytes).1
  | .disconnect chan => (srv.disconnect chan).1
  | .shutdown => srv.shutdown
  | .reset => srv.reset

def isWrapper (pkt : Octets) : Bool :=
  match decodeDatagram pkt with
  | .ok ⟨_, .secureWrapper _⟩ => true
  | _ => false

def isSessionRequest (pkt : Octets) : Bool :=
  match decodeDatagram pkt with
  | .ok ⟨_, .sessionRequest _⟩ => true
  | _ => false

/-- The frames that arrive in the clear: all on the socket, and on a connection all but wrappers. -/
def SecureEvent.inClear : SecureEvent → Bool
  | .datagram _ _ _ => true
  | .receive _ _ (.ok (pkt, _)) => !isWrapper pkt
  | _ => false

end KmxAio.Knx
