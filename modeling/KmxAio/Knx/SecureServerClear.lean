import KmxAio.Knx.SecureServerRun
import KmxAio.Knx.Secure.Nonces

/-!
# What arrives in the clear at a secure server

A frame that arrives outside a session opens no channel and uses none. It can only
release channels, and only by ending the connection it arrived on.
-/

namespace KmxAio.Knx

open Lib.Run Lib.Wire Lib.Fallible Knx.Frame Connection Secure

/-- A description the server cannot give concerns the one request. -/
def GenericServer.Describes (srv : GenericServer) (payload : DatagramPayload) (origin : Origin) :
    Prop :=
  ∀ why, srv.config.discovery payload origin = .error why → recoverable why = true

def Conditions.TakesAll (world : Conditions) : Prop :=
  ∀ pkt, world.sent pkt = .ok pkt.length

/-- The connection a frame in the clear arrives on is served on after it. -/
def SecureEvent.Outlived (srv : GenericServer) : SecureEvent → Prop
  | .receive conn world (.ok (pkt, peer)) =>
    pkt ≠ [] ∧ pkt.length ≤ maxDatagramSize ∧
      decodeDatagram pkt ≠ refuse .unsupportedMessageCode ∧
      (∀ val, decodeDatagram pkt = .ok val →
        srv.Describes val.payload ⟨.connection conn, peer, 0⟩) ∧
      (isSessionRequest pkt = true → ∀ state, srv.findConnection conn = some state →
        state.links.length < sessionsPerConnection) ∧
      world.TakesAll
  | _ => True

def Recovers {α : Type} (result : Expected α) : Prop :=
  FailsOnlyWith (fun why => recoverable why = true) result

theorem recovers_error {α : Type} {why : ErrorCode} (survived : recoverable why = true) :
    Recovers (.error why : Expected α) :=
  (failsOnlyWith_error _ why).mpr survived

theorem stepOf_recovers {α : Type} {result : Expected α} (recovers : Recovers result) :
    stepOf result = .ok true := by
  cases result with
  | ok val => rfl
  | error why => simp [stepOf, recovers why rfl]

namespace GenericServer

variable {srv : GenericServer} {world : Conditions} {table : ServerSessionTable}

/-! ## Answers that can be sent -/

section

variable (takes : world.TakesAll) (pkt : Octets) (conn : TransportId)

include takes pkt conn

theorem sendDatagram_takesAll :
    srv.sendDatagram world pkt (.connection conn) = (srv, .ok ()) := by
  simp [sendDatagram, transportSend, takes pkt]

theorem proceed_takesAll (peer : TransportPeer) (result : Expected ServerEvent) :
    (srv.proceed world (.sending pkt (.report result)) ⟨.connection conn, peer, 0⟩).2 = result := by
  simp [proceed, finishHandling, sendDatagram_takesAll takes]

theorem sendInClear_takesAll :
    srv.sendInClear world (.ok pkt) conn = (srv, ⟨.ok true, none⟩) := by
  simp [sendInClear, sendDatagram_takesAll takes]

end

section Refusals

variable (conn : TransportId) (peer : TransportPeer)

theorem answerDiscovery_recovers (takes : world.TakesAll) {payload : DatagramPayload}
    (describes : srv.Describes payload ⟨.connection conn, peer, 0⟩) :
    Recovers (srv.proceed world (srv.answerDiscovery payload ⟨.connection conn, peer, 0⟩)
      ⟨.connection conn, peer, 0⟩).2 := by
  unfold answerDiscovery
  split
  · rename_i why failed
    exact recovers_error (describes why failed)
  · exact recovers_error rfl
  · rw [proceed_takesAll takes]
    exact recovers_error rfl

theorem dispatch_recovers (present : srv.sessions = some table) (takes : world.TakesAll)
    {val : Datagram} (describes : srv.Describes val.payload ⟨.connection conn, peer, 0⟩) :
    Recovers (srv.dispatch world val ⟨.connection conn, peer, 0⟩).2 := by
  have refused := refusesInClear_secured present (.connection conn) peer
  unfold dispatch beginHandling
  split
  · exact answerDiscovery_recovers conn peer takes describes
  · exact answerDiscovery_recovers conn peer takes describes
  · exact answerDiscovery_recovers conn peer takes describes
  · rw [openIpv6Channel, if_pos refused]
    split
    · exact recovers_error rfl
    · rw [refuseIpv6Connect, encodeIpv6ConnectResponsePacket, if_neg (Nat.lt_irrefl _),
        if_neg (by simp), HandlerStage.awaiting, proceed_takesAll takes]
      exact recovers_error rfl
  · rw [openChannel, if_pos refused]
    split
    · exact recovers_error rfl
    · have tcp : knownProtocol tcpHpai.protocol = true := by decide
      rw [refuseConnect, encodeConnectResponsePacket, if_neg (Nat.lt_irrefl _),
        if_neg (by simpa [ServerTransport.streamOriented] using tcp), HandlerStage.awaiting,
        proceed_takesAll takes]
      exact recovers_error rfl
  · rw [dispatchOnChannel, if_pos refused]
    exact recovers_error rfl

end Refusals

/-! ## Frames of a connection -/

section Routing

variable {state : SecureConnection} {pkt : Octets} (peer : TransportPeer)

theorem routeSecureFrame_channels (present : srv.sessions = some table)
    (clear : isWrapper pkt = false) :
    (srv.routeSecureFrame world state table pkt peer).1.channels = srv.channels := by
  unfold routeSecureFrame
  cases decoded : decodeDatagram pkt with
  | error why => rfl
  | ok val =>
    obtain ⟨serviceType, payload⟩ := val
    dsimp only
    split
    · unfold answerSessionRequest
      split
      · rfl
      split <;> exact (sendInClear_same _ world _ _).channels
    · simp [isWrapper, decoded] at clear
    · exact (srv.dispatch_inClear world ⟨serviceType, payload⟩
        (refusesInClear_secured present (.connection state.connection) peer)).channels

theorem routeSecureFrame_served (present : srv.sessions = some table)
    (clear : isWrapper pkt = false) (known : decodeDatagram pkt ≠ refuse .unsupportedMessageCode)
    (describes : ∀ val, decodeDatagram pkt = .ok val →
      srv.Describes val.payload ⟨.connection state.connection, peer, 0⟩)
    (room : isSessionRequest pkt = true → state.links.length < sessionsPerConnection)
    (takes : world.TakesAll) :
    (srv.routeSecureFrame world state table pkt peer).2.step = .ok true := by
  unfold routeSecureFrame
  cases decoded : decodeDatagram pkt with
  | error why =>
    have survived : recoverable why = true := by
      have unreadable := decodeDatagram_unreadable pkt why decoded
      simp only [Unreadable, List.mem_cons, List.not_mem_nil, or_false] at unreadable
      rcases unreadable with rfl | rfl | rfl | rfl | rfl | rfl
      case inr.inr.inr.inl => exact absurd decoded known
      all_goals rfl
    exact stepOf_recovers (recovers_error survived : Recovers (.error why : Expected Unit))
  | ok val =>
    obtain ⟨serviceType, payload⟩ := val
    dsimp only
    split
    · have within := room (by simp [isSessionRequest, decoded])
      rw [answerSessionRequest, if_neg (Nat.not_le.mpr within)]
      split
      · rw [refuseSession, encodeSessionStatusPacket, if_neg (Nat.lt_irrefl _),
          sendInClear_takesAll takes]
      · rw [encodeSessionResponsePacket, if_neg (Nat.lt_irrefl _), sendInClear_takesAll takes]
    · simp [isWrapper, decoded] at clear
    · exact stepOf_recovers (dispatch_recovers state.connection peer present takes
        (describes _ decoded))

end Routing

/-! ## Ends of connections -/

def OnlyReleases (before after : GenericServer) : Prop :=
  ∀ id, after.channels id = before.channels id ∨ after.channels id = {}

theorem OnlyReleases.of_channels {before after : GenericServer}
    (same : after.channels = before.channels) : OnlyReleases before after :=
  fun id => .inl (congrFun same id)

theorem OnlyReleases.trans {first second third : GenericServer} (left : OnlyReleases first second)
    (right : OnlyReleases second third) : OnlyReleases first third := by
  intro id
  rcases right id with same | released
  · rw [same]
    exact left id
  · exact .inr released

theorem releaseWhere_onlyReleases (srv : GenericServer) (condition : Channel → Bool) :
    OnlyReleases srv (srv.releaseWhere condition) := by
  intro id
  unfold releaseWhere
  dsimp only
  split
  · exact .inr rfl
  · exact .inl rfl

theorem finish_onlyReleases (srv : GenericServer) (conn : TransportId) :
    OnlyReleases srv (srv.finish conn) := by
  unfold finish
  split
  · exact .of_channels rfl
  · rename_i state known
    clear known
    unfold endSecureConnection
    induction List.range state.links.length generalizing srv with
    | nil => exact .of_channels rfl
    | cons first rest ih => exact (srv.releaseWhere_onlyReleases _).trans (ih _)

/-! ## Steps in the clear -/

theorem step_outlived (present : srv.sessions = some table) {event : SecureEvent}
    (clear : event.inClear = true) (outlived : event.Outlived srv) :
    (srv.step event).channels = srv.channels := by
  match event, clear, outlived with
  | .datagram world pkt peer, _, _ =>
    exact (srv.handleReceived_inClear world pkt
      (refusesInClear_secured present .socket peer)).channels
  | .receive conn world (.ok (pkt, peer)), clear,
      ⟨nonempty, fits, known, describes, room, takes⟩ =>
      have plain : isWrapper pkt = false := by simpa [SecureEvent.inClear] using clear
      dsimp only [step]
      rw [present]
      cases found : srv.findConnection conn with
      | none => rfl
      | some state =>
        have named : state.connection = conn := by simpa using List.find?_some found
        have served := @routeSecureFrame_served srv world table state pkt peer present
          plain known (named.symm ▸ describes) (fun asked => room asked state found) takes
        have readable : ¬ (pkt.length = 0 ∨ pkt.length > maxDatagramSize) := by
          rintro (empty | large)
          · exact nonempty (List.length_eq_zero_iff.mp empty)
          · exact absurd fits (Nat.not_le.mpr large)
        dsimp only [serveReceived]
        rw [if_neg readable]
        rw [if_pos served]
        exact routeSecureFrame_channels peer present plain

/-- In every run of a secure server each channel belongs to an authenticated session that is alive,
over that session's link and under an address of its own. A frame in the clear opens and uses none
of them, and releases none as long as its connection outlives it. -/
theorem channels_belong_to_sessions (config : ServerConfig) (hasSocket : Bool)
    (configuration : ServerConfiguration) (events : List SecureEvent) :
    let srv := run step (create config hasSocket (some configuration)) events
    (∃ table, srv.sessions = some table ∧
      ∀ id, (srv.channels id).active = true → srv.InSession table (srv.channels id)) ∧
    (∀ first second, (srv.channels first).active = true →
      (srv.channels second).active = true →
      (srv.channels first).assignedAddress = (srv.channels second).assignedAddress →
      first = second) ∧
    ∀ event : SecureEvent, event.inClear = true →
      OnlyReleases srv (srv.step event) ∧
        (event.Outlived srv → (srv.step event).channels = srv.channels) := by
  intro srv
  have owned : srv.Owned := run_owned config hasSocket configuration events
  obtain ⟨table, owned⟩ := owned
  refine ⟨⟨table, owned.present, owned.inSession⟩, owned.distinct, fun event clear => ?_⟩
  have stepInClear : OnlyReleases srv (srv.step event) := by
    match event, clear with
    | .datagram world pkt peer, _ =>
      exact .of_channels (srv.handleReceived_inClear world pkt
        (refusesInClear_secured owned.present .socket peer)).channels
    | .receive conn world (.ok (pkt, peer)), clear =>
      have plain : isWrapper pkt = false := by simpa [SecureEvent.inClear] using clear
      dsimp only [step]
      rw [owned.present]
      cases found : srv.findConnection conn with
      | none => exact .of_channels rfl
      | some state =>
        have routed : OnlyReleases srv
            (srv.routeSecureFrame world state table pkt peer).1 :=
          .of_channels (routeSecureFrame_channels peer owned.present plain)
        dsimp only [serveReceived]
        split
        · exact srv.finish_onlyReleases state.connection
        split
        · exact routed
        · exact routed.trans (finish_onlyReleases _ state.connection)
  exact ⟨stepInClear, step_outlived owned.present clear⟩

/-! ## A channel opened in a session

The client of the recorded exchange asks for a channel once it is authenticated. -/

def connectSessionRequest : Octets :=
  [0x06, 0x10, 0x09, 0x51, 0x00, 0x2E, 0x08, 0x02, 0x00, 0x00, 0x00, 0x00, 0x00, 0x00] ++
    exchangeClientPair.publicKey.toList

def connectRequest : Octets :=
  [6, 16, 2, 5, 0, 26, 8, 2, 0, 0, 0, 0, 0, 0, 8, 2, 0, 0, 0, 0, 0, 0, 4, 4, 2, 0]

def connectResponse : Octets :=
  [6, 16, 2, 6, 0, 20, 1, 0, 8, 2, 0, 0, 0, 0, 0, 0, 4, 4, 17, 1]

def connectPacket : Octets :=
  [6, 16, 9, 80, 0, 64, 0, 1, 0, 0, 0, 0, 0, 1, 0, 250, 0, 0, 0, 1, 0, 0, 188, 148, 47, 161, 10, 23,
    213, 45, 242, 215, 60, 239, 78, 26, 14, 187, 219, 90, 122, 88, 56, 133, 90, 247, 171, 61, 6,
    172, 252, 244, 243, 77, 69, 91, 102, 112, 105, 92, 21, 199, 202, 170]

def connectRecording : Recording :=
  { exchangeRecording with
    macs := exchangeRecording.macs ++
      [exchangeWrapperMac exchangeClientSerial 1 connectRequest
        ⟨[228, 2, 118, 154, 131, 253, 14, 245, 155, 145, 219, 184, 118, 246, 19, 33], rfl⟩,
      exchangeWrapperMac exchangeServerSerial 1 connectResponse
        ⟨[37, 149, 75, 197, 39, 238, 27, 6, 26, 77, 136, 92, 37, 56, 6, 168], rfl⟩]
    -- the same keystreams as in the exchange, read further
    streams :=
      [exchangeWrapperStream exchangeClientSerial 1
        [226, 174, 138, 110, 112, 176, 75, 174, 253, 225, 178, 228, 99, 49, 217, 139, 186, 132, 45,
          164, 10, 13, 221, 47, 242, 215, 60, 239, 78, 26, 6, 185, 219, 90, 122, 88, 56, 133, 94,
          243, 169, 61],
      exchangeWrapperStream exchangeServerSerial 1
        [82, 71, 230, 96, 139, 161, 156, 82, 179, 190, 172, 228, 174, 194, 164, 250, 168, 233, 106,
          236, 52, 25, 159, 44, 107, 29, 191, 102, 99, 231, 148, 183, 5, 90, 228,
          141]] ++ exchangeRecording.streams }

def connectConditions : Conditions :=
  { backend := connectRecording.backend, generated := .ok exchangeServerPair }

def connectFrame (pkt : Octets) : SecureEvent :=
  .receive 7 connectConditions (.ok (pkt, exchangeOrigin.peer))

def connectEvents : List SecureEvent :=
  [.connect 7 connectConditions, connectFrame connectSessionRequest,
    connectFrame exchangeAuthenticatePacket, connectFrame connectPacket]

def clearDisconnect : Octets :=
  [6, 16, 2, 9, 0, 16, 1, 0, 8, 2, 0, 0, 0, 0, 0, 0]

def clearPropertyWrite : Octets :=
  [6, 16, 4, 32, 0, 21, 4, 1, 0, 0, 246, 0, 0, 1, 52, 16, 1, 0, 0, 0, 0]

def connectConfig : ServerConfig := {}

def connectServer : GenericServer :=
  run step (create connectConfig true (some exchangeConfiguration)) connectEvents

/-- The channel opened in the session is in it, and a disconnect request outside the session leaves
it open. -/
theorem channels_belong_to_sessions_connected :
    (connectServer.channels 1).active = true ∧
      (∃ table, connectServer.sessions = some table ∧
        connectServer.InSession table (connectServer.channels 1)) ∧
      (connectServer.step (connectFrame clearDisconnect)).channels = connectServer.channels := by
  have active : (connectServer.channels 1).active = true := by decide +kernel
  have clear : (connectFrame clearDisconnect).inClear = true := by decide +kernel
  have outlived : (connectFrame clearDisconnect).Outlived connectServer := by
    refine ⟨by decide, by decide +kernel, by decide +kernel, ?_, fun asked => ?_, fun _ => rfl⟩
    · intro val decoded why failed
      have described : (decodeDatagram clearDisconnect).toOption.all (fun val =>
          (connectServer.config.discovery val.payload
            ⟨.connection 7, exchangeOrigin.peer, 0⟩).isOk) = true := by
        decide +kernel
      rw [decoded, Except.toOption, Option.all_some, failed] at described
      cases described
    · exact absurd asked (by decide +kernel)
  unfold connectServer at active outlived ⊢
  obtain ⟨⟨table, present, inSession⟩, -, inClear⟩ :=
    channels_belong_to_sessions connectConfig true exchangeConfiguration connectEvents
  exact ⟨active, ⟨table, present, inSession 1 active⟩, (inClear _ clear).2 outlived⟩

/-- A tunnelling request in the clear with a message code the server does not know releases the
channel of the session. -/
theorem channel_released_in_clear :
    (connectServer.channels 1).active = true ∧
      (connectFrame clearPropertyWrite).inClear = true ∧
      ((connectServer.step (connectFrame clearPropertyWrite)).channels 1).active = false := by
  decide +kernel

end GenericServer

end KmxAio.Knx
