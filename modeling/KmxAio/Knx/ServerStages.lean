import KmxAio.Knx.SecureServer

/-!
# The stages of a handler

A handler runs to the point where it sends its answer, and goes on once that is
sent. In between the server serves others: the table of channels it finds then need
not be the one it left.
-/

namespace KmxAio.Knx

open Lib.Wire Knx.Frame Connection

/-- The endpoint a datagram has to come from: the data endpoint for a tunnelled frame, the control
endpoint for all others. -/
def Datagram.fromDataEndpoint (val : Datagram) : Bool :=
  match val.payload with
  | .tunnellingRequest _ => true
  | _ => false

/-- Whether a handler has ended with an event of a channel. -/
def HandlerStage.endsOn (id : UInt8) : HandlerStage → Bool
  | .ended (.ok event) => event.channelId == id
  | _ => false

namespace GenericServer

variable {srv : GenericServer} {world : Conditions} {origin : Origin} {dataEndpoint : Bool}

/-! ## How far a handler comes -/

/-- A stage at which the rest of the handler is to report a result without a frame. -/
def OnlyReports : HandlerStage → Prop
  | .ended result => ∀ event, result ≠ .ok event
  | .sending _ (.report result) => ∀ event, result = .ok event → event.cemiBytes = []
  | .sending _ _ => False

/-- What a handler has made of the server when it comes to its send, or to its end, and where it
then stands. It gets further than a report only with a client that is let in and holds the channel. -/
inductive ComesTo (srv : GenericServer) (world : Conditions) (origin : Origin)
    (dataEndpoint : Bool) : GenericServer × HandlerStage → Prop where
  | reported {stage : HandlerStage} (reports : OnlyReports stage) :
      ComesTo srv world origin dataEndpoint (srv, stage)
  | counted {stage : HandlerStage} (reports : OnlyReports stage) :
      ComesTo srv world origin dataEndpoint (srv.noteUnencrypted, stage)
  | offered {stage : HandlerStage} (inside : srv.refusesInClear origin = false)
      (request : ConnectRequestFrame) (reports : OnlyReports stage) :
      ComesTo srv world origin dataEndpoint
        ((srv.offerTo world request origin).1, stage)
  | offeredIpv6 {stage : HandlerStage} (inside : srv.refusesInClear origin = false)
      (datagrams : origin.transport.streamOriented = false) (dataPeer : TransportPeer)
      (reports : OnlyReports stage) :
      ComesTo srv world origin dataEndpoint
        ((srv.offerChannel world origin none dataPeer Hpai.default).1, stage)
  | answering (inside : srv.refusesInClear origin = false) {event : ServerEvent}
      (holds : srv.holdsChannel event.channelId origin dataEndpoint = true)
      (encoded : Expected Octets) :
      ComesTo srv world origin dataEndpoint (srv, .awaiting encoded (.note event))
  | leaving (inside : srv.refusesInClear origin = false) (control : dataEndpoint = false)
      (channelId : UInt8) (encoded : Expected Octets) :
      ComesTo srv world origin dataEndpoint
        (srv, .awaiting encoded (.release channelId))
  | noted (inside : srv.refusesInClear origin = false) {event : ServerEvent}
      (holds : srv.holdsChannel event.channelId origin dataEndpoint = true) :
      ComesTo srv world origin dataEndpoint
        (srv.noteActivity world event.channelId, .ended (.ok event))
  | received (inside : srv.refusesInClear origin = false) {event : ServerEvent}
      (holds : srv.holdsChannel event.channelId origin dataEndpoint = true)
      (sequence : UInt8) (encoded : Expected Octets) :
      ComesTo srv world origin dataEndpoint
        (srv.setChannel event.channelId
          { srv.channels event.channelId with
            incomingSequenceValid := true
            lastIncomingSequence := sequence
            nextIncomingSequence := sequence + 1 }, .awaiting encoded (.note event))

theorem onlyReports_awaiting {encoded : Expected Octets} {result : Expected ServerEvent}
    (bare : ∀ event, result = .ok event → event.cemiBytes = []) :
    OnlyReports (.awaiting encoded (.report result)) := by
  cases encoded with
  | error why => exact fun _ ok => by cases ok
  | ok pkt => exact bare

theorem onlyReports_refused (encoded : Expected Octets) (why : ErrorCode) :
    OnlyReports (.awaiting encoded (.report (.error why))) :=
  onlyReports_awaiting (fun _ ok => by cases ok)

theorem openChannel_comesTo (req : ConnectRequestFrame) (serviceType : UInt16) :
    srv.ComesTo world origin dataEndpoint (srv.openChannel world req serviceType origin) := by
  unfold openChannel
  split
  · exact .reported (fun _ ok => by cases ok)
  split
  · exact .counted (onlyReports_refused _ _)
  rename_i inside
  dsimp only
  cases validateConnectRequest req.controlEndpoint req.dataEndpoint
      origin.transport.streamOriented with
  | error why => exact .reported (onlyReports_refused _ _)
  | ok _ =>
    dsimp only
    split
    · exact .reported (onlyReports_refused _ _)
    · refine .offered (by simpa using inside) req (onlyReports_awaiting ?_)
      intro event reported
      split_ifs at reported
      · cases reported
      · cases reported
      · cases reported
        rfl

/-- Over a stream a connect request with an IPv6 endpoint is not valid. -/
theorem openIpv6Channel_comesTo (req : Ipv6ConnectRequestFrame) (serviceType : UInt16) :
    srv.ComesTo world origin dataEndpoint
      (srv.openIpv6Channel world req serviceType origin) := by
  unfold openIpv6Channel
  split
  · exact .reported (fun _ ok => by cases ok)
  split
  · exact .counted (onlyReports_refused _ _)
  rename_i inside
  cases valid : validateIpv6ConnectRequest req.controlEndpoint req.dataEndpoint
      origin.transport.streamOriented with
  | error why => exact .reported (onlyReports_refused _ _)
  | ok _ =>
    have datagrams : origin.transport.streamOriented = false := by
      cases stream : origin.transport.streamOriented with
      | false => rfl
      | true =>
        rw [stream, validateIpv6ConnectRequest, if_pos (.inl rfl)] at valid
        cases valid
    refine .offeredIpv6 (by simpa using inside) datagrams _ (onlyReports_awaiting ?_)
    intro event reported
    split_ifs at reported
    · cases reported
      rfl
    · cases reported

theorem acceptTunnelled_comesTo (inside : srv.refusesInClear origin = false)
    (req : TunnellingRequestFrame) :
    srv.ComesTo world origin true (srv.acceptTunnelled world req origin) := by
  unfold acceptTunnelled classifyIndication
  by_cases foreign : srv.holdsChannel req.channelId origin true = false
  · rw [if_pos foreign]
    exact .reported (fun _ ok => by cases ok)
  have holds : srv.holdsChannel req.channelId origin true = true := by simpa using foreign
  rw [if_neg foreign]
  by_cases stream : origin.transport.streamOriented = true
  · simp only [stream, if_true]
    exact @ComesTo.noted _ _ _ _ inside ⟨req.channelId, _⟩ holds
  simp only [if_neg stream]
  split_ifs with again outOfTurn
  · exact @ComesTo.answering _ _ _ _ inside ⟨req.channelId, _⟩ holds _
  · exact .reported (fun _ ok => by cases ok)
  · exact @ComesTo.received _ _ _ _ inside ⟨req.channelId, _⟩ holds _ _

theorem answerDiscovery_reports (payload : DatagramPayload) :
    OnlyReports (srv.answerDiscovery payload origin) := by
  unfold answerDiscovery
  rcases srv.config.discovery payload origin with why | _ | ⟨pkt, _⟩ <;>
    exact fun _ ok => by cases ok

theorem dispatchOnChannel_comesTo {letIn : GenericServer × HandlerStage}
    (comes : srv.refusesInClear origin = false → srv.ComesTo world origin dataEndpoint letIn) :
    srv.ComesTo world origin dataEndpoint
      (if srv.refusesInClear origin then
        (srv.noteUnencrypted, .ended (refuse .secureFrameRequired))
      else letIn) := by
  split_ifs with refused
  · exact .counted (fun _ ok => by cases ok)
  · exact comes (by simpa using refused)

theorem beginHandling_comesTo (srv : GenericServer) (world : Conditions) (val : Datagram)
    (origin : Origin) :
    srv.ComesTo world origin val.fromDataEndpoint (srv.beginHandling world val origin) := by
  obtain ⟨service, payload⟩ := val
  cases payload with
  | searchRequest req | extendedSearchRequest req | descriptionRequest req =>
    exact .reported (answerDiscovery_reports _)
  | ipv6ConnectRequest req => exact openIpv6Channel_comesTo req service
  | connectRequest req => exact openChannel_comesTo req service
  | connectionstateRequest req =>
    refine dispatchOnChannel_comesTo fun inside => ?_
    dsimp only [answerConnectionstate]
    split_ifs with foreign
    · exact .reported (onlyReports_refused _ _)
    · have holds : srv.holdsChannel req.channelId origin false = true := by simpa using foreign
      exact @ComesTo.answering _ _ _ _ inside ⟨req.channelId, []⟩ holds _
  | disconnectRequest req =>
    refine dispatchOnChannel_comesTo fun inside => ?_
    dsimp only [answerDisconnect]
    split_ifs with foreign
    · exact .reported (onlyReports_refused _ _)
    · exact .leaving inside rfl req.channelId _
  | tunnellingRequest req =>
    exact dispatchOnChannel_comesTo fun inside => acceptTunnelled_comesTo inside req
  | _ => exact dispatchOnChannel_comesTo fun _ => .reported (fun _ ok => by cases ok)

end GenericServer

end KmxAio.Knx
