import KmxAio.Knx.TunnellingSend

/-!
# The data endpoint of a tunnel

The client adopts the data endpoint a CONNECT_RESPONSE names before its session
judges the response. So the tunnel is redirected by a response the session rejects
as well, unless it names the endpoint that is in use already.
-/

namespace KmxAio.Knx

open Lib.Wire Knx.Frame Connection

def connectAnswer (val : Datagram) : Option (UInt8 × ConnectStatus) :=
  match val.payload with
  | .connectResponse resp => some (resp.channelId, resp.status)
  | .ipv6ConnectResponse resp => some (resp.channelId, resp.status)
  | _ => none

/-- The session waits for a connection, and the datagram gives it one. -/
def TunnellingSession.Awaits (sess : TunnellingSession) (val : Datagram) : Prop :=
  (sess.state = .idle ∨ sess.state = .connecting) ∧
    val.serviceType = connectResponseService ∧
    ∃ chan, chan ≠ 0 ∧ connectAnswer val = some (chan, .noError)

theorem TunnellingSession.onConnectResponse_ok_iff (sess : TunnellingSession) (chan : UInt8)
    (status : ConnectStatus) (assignedAddress : IndividualAddress) :
    (sess.onConnectResponse chan status assignedAddress).2 = .ok () ↔
      (sess.state = .idle ∨ sess.state = .connecting) ∧ status = .noError ∧ chan ≠ 0 := by
  unfold onConnectResponse
  split
  · rename_i elsewhere
    exact iff_of_false (by simp [refuse]) (fun awaited => by simp_all)
  · rename_i awaited
    have ready : sess.state = .idle ∨ sess.state = .connecting := by
      by_contra elsewhere
      exact awaited (not_or.mp elsewhere)
    split
    · rename_i refused
      exact iff_of_false (by simp [refuse]) (fun granted => refused granted.2.1)
    · rename_i granted
      split
      · rename_i zero
        exact iff_of_false (by simp [refuse]) (fun named => named.2.2 zero)
      · rename_i named
        exact iff_of_true rfl ⟨ready, not_not.mp granted, named⟩

/-- Of a CONNECT_RESPONSE, the session accepts exactly what it waits for. -/
theorem TunnellingSession.dispatch_connectAnswer {sess : TunnellingSession} {val : Datagram}
    {chan : UInt8} {status : ConnectStatus}
    (answer : connectAnswer val = some (chan, status)) (nowMs : UInt32) :
    (sess.dispatchSessionDatagram val nowMs).2 = .ok () ↔ sess.Awaits val := by
  have judged : ∃ assignedAddress, sess.onDatagram val =
      sess.underService val connectResponseService
        (sess.onConnectResponse chan status assignedAddress) := by
    obtain ⟨service, payload⟩ := val
    cases payload <;> cases answer <;> exact ⟨_, rfl⟩
  obtain ⟨assignedAddress, judged⟩ := judged
  have accepted : (sess.dispatchSessionDatagram val nowMs).2 = .ok () ↔
      (sess.onDatagram val).2 = .ok () := by
    unfold dispatchSessionDatagram
    cases given : sess.onDatagram val with
    | mk after result =>
      cases result with
      | error reason => exact Iff.rfl
      | ok done => exact iff_of_true rfl rfl
  have waited : sess.Awaits val ↔ (sess.state = .idle ∨ sess.state = .connecting) ∧
      val.serviceType = connectResponseService ∧ chan ≠ 0 ∧ status = .noError := by
    unfold Awaits
    rw [answer]
    simp only [Option.some.injEq, Prod.mk.injEq]
    constructor
    · rintro ⟨ready, served, channel, named, rfl, granted⟩
      exact ⟨ready, served, named, granted⟩
    · rintro ⟨ready, served, named, granted⟩
      exact ⟨ready, served, chan, named, rfl, granted⟩
  rw [accepted, judged, waited]
  unfold underService
  split
  · rename_i other
    exact iff_of_false (by simp [refuse]) (fun taken => other taken.2.1)
  · rename_i served
    rw [onConnectResponse_ok_iff]
    constructor
    · rintro ⟨ready, granted, named⟩
      exact ⟨ready, not_not.mp served, named, granted⟩
    · rintro ⟨ready, -, named, granted⟩
      exact ⟨ready, granted, named⟩

namespace TunnellingClient

variable (client : TunnellingClient)

/-- Where the client sends tunnelling traffic and takes it from, and whether it does. -/
def dataEndpoint : TransportPeer × Bool :=
  (client.dataPeer, client.dataPeerValid)

def namedIpv4Endpoint (endpoint : Hpai) : Option (TransportPeer × Bool) :=
  if endpoint.protocol ≠ (if client.streamOriented then tcpProtocol else udpProtocol) then none
  else if client.streamOriented ∨ routeBack endpoint then
    some (client.peer, client.configuredPeerValid)
  else if endpoint.endpoint.port = 0 then none
  else some (client.adoptDataPeer endpoint.endpoint).dataEndpoint

def namedEndpoint (val : Datagram) : Option (TransportPeer × Bool) :=
  match val.payload with
  | .connectResponse resp =>
    if resp.status = .noError then client.namedIpv4Endpoint resp.dataEndpoint else none
  | .ipv6ConnectResponse resp =>
    if resp.dataEndpoint.protocol ≠ udpProtocol ∨ resp.dataEndpoint.endpoint.port = 0 then
      none
    else some (client.adoptIpv6DataPeer resp.dataEndpoint.endpoint).dataEndpoint
  | _ => none

theorem adoptDataEndpoint_named (val : Datagram) :
    (client.adoptDataEndpoint val).1.dataEndpoint =
        (client.namedEndpoint val).getD client.dataEndpoint ∧
      ((client.namedEndpoint val).isSome → (client.adoptDataEndpoint val).2 = .ok ()) := by
  obtain ⟨service, payload⟩ := val
  unfold adoptDataEndpoint namedEndpoint
  cases payload with
  | connectResponse resp =>
    by_cases granted : resp.status = .noError
    · simp only [if_pos granted]
      unfold adoptIpv4DataEndpoint namedIpv4Endpoint
      by_cases foreign : resp.dataEndpoint.protocol ≠
          (if client.streamOriented then tcpProtocol else udpProtocol)
      · rw [if_pos foreign, if_pos foreign]
        exact ⟨rfl, by simp⟩
      · rw [if_neg foreign, if_neg foreign]
        by_cases same : client.streamOriented ∨ routeBack resp.dataEndpoint
        · rw [if_pos same, if_pos same]
          exact ⟨rfl, fun _ => rfl⟩
        · rw [if_neg same, if_neg same]
          split
          · exact ⟨rfl, by simp⟩
          · exact ⟨rfl, fun _ => rfl⟩
    · simp only [if_neg granted]
      exact ⟨rfl, fun _ => trivial⟩
  | ipv6ConnectResponse resp =>
    by_cases unusable : resp.dataEndpoint.protocol ≠ udpProtocol ∨
        resp.dataEndpoint.endpoint.port = 0
    · simp only [if_pos unusable]
      exact ⟨rfl, by simp⟩
    · simp only [if_neg unusable]
      exact ⟨rfl, fun _ => trivial⟩
  | _ => exact ⟨rfl, fun _ => rfl⟩

variable {client}

theorem connectAnswer_of_named {val : Datagram} {named : TransportPeer × Bool}
    (names : client.namedEndpoint val = some named) :
    ∃ chan status, connectAnswer val = some (chan, status) := by
  unfold namedEndpoint at names
  unfold connectAnswer
  split at names
  · exact ⟨_, _, rfl⟩
  · exact ⟨_, _, rfl⟩
  · cases names

theorem receiveIntoSession_readable {kind : EndpointKind} {received : Reception} {val : Datagram}
    (readable : client.Readable kind received val) (nowMs : UInt32) :
    (client.receiveIntoSession kind received nowMs).1.dataEndpoint =
        (client.namedEndpoint val).getD client.dataEndpoint ∧
      ((client.namedEndpoint val).isSome →
        (client.receiveIntoSession kind received nowMs).2 =
          (client.session.dispatchSessionDatagram val nowMs).2) := by
  obtain ⟨endpoint, named⟩ := client.adoptDataEndpoint_named val
  rcases receiveIntoSession_adopting readable nowMs with
    ⟨adopted, adopts, given⟩ | ⟨adopted, adopts, given⟩
  · rw [adopts] at endpoint named
    rw [given]
    exact ⟨endpoint, fun usable => absurd (named usable) (by simp [refuse])⟩
  · rw [adopts] at endpoint
    rw [given]
    exact ⟨endpoint, fun _ => rfl⟩

/-- A datagram the session rejects leaves the data endpoint alone, unless it is a readable
CONNECT_RESPONSE that names another usable endpoint while the session awaits none, or none of that
channel or status. -/
theorem rejected_never_redirects_iff (client : TunnellingClient) (kind : EndpointKind)
    (received : Reception) (nowMs : UInt32) :
    ((client.receiveIntoSession kind received nowMs).2 ≠ .ok () →
        (client.receiveIntoSession kind received nowMs).1.dataEndpoint = client.dataEndpoint) ↔
      ∀ val named, client.Readable kind received val →
        client.namedEndpoint val = some named → named ≠ client.dataEndpoint →
        client.session.Awaits val := by
  constructor
  · intro kept val named readable names different
    obtain ⟨chan, status, answer⟩ := connectAnswer_of_named names
    obtain ⟨adopted, judged⟩ := receiveIntoSession_readable readable nowMs
    rw [names] at adopted judged
    by_contra rejected
    have refused := mt (TunnellingSession.dispatch_connectAnswer answer nowMs).mp rejected
    rw [← judged rfl] at refused
    exact different (adopted.symm.trans (kept refused))
  · intro awaited refused
    by_cases readable : ∃ val, client.Readable kind received val
    · obtain ⟨val, readable⟩ := readable
      obtain ⟨adopted, judged⟩ := receiveIntoSession_readable readable nowMs
      cases names : client.namedEndpoint val with
      | none => rw [adopted, names, Option.getD_none]
      | some named =>
        rw [names] at adopted judged
        obtain ⟨chan, status, answer⟩ := connectAnswer_of_named names
        rw [adopted, Option.getD_some]
        by_contra different
        apply refused
        rw [judged rfl]
        exact (TunnellingSession.dispatch_connectAnswer answer nowMs).mpr
          (awaited val named readable names different)
    · obtain ⟨reason, unread, -⟩ := receiveIntoSession_unreadable (not_exists.mp readable) nowMs
      rw [unread]

def redirectingResponse (status : UInt8) : Octets :=
  [0x06, 0x10, 0x02, 0x06, 0x00, 0x14, 0x02, status, 0x08, 0x01, 10, 0, 0, 9, 0x0F, 0xA0,
    0x04, 0x04, 0x11, 0x05]

/-- A refusal that names an endpoint is reported and names it in vain. -/
theorem rejected_never_redirects_iff_refusal :
    (sampleClient.receiveIntoSession .control (.ok (samplePeer, redirectingResponse 0x24)) 7).2 ≠
        .ok () ∧
      (sampleClient.receiveIntoSession .control (.ok (samplePeer, redirectingResponse 0x24))
        7).1.dataEndpoint = sampleClient.dataEndpoint := by
  have refused : (sampleClient.receiveIntoSession .control
      (.ok (samplePeer, redirectingResponse 0x24)) 7).2 ≠ .ok () := by decide +kernel
  refine ⟨refused, (rejected_never_redirects_iff _ _ _ _).mpr ?_ refused⟩
  rintro val named ⟨peer, octets, received, -, -, decoded⟩ names
  cases received
  have unnamed : ((decodeDatagram (redirectingResponse 0x24)).toOption.bind
      sampleClient.namedEndpoint) = none := by decide +kernel
  rw [decoded] at unnamed
  cases names.symm.trans unnamed

/-- A connected session rejects the response, and the tunnel is redirected by it. -/
theorem second_response_redirects :
    (sampleClient.receiveIntoSession .control (.ok (samplePeer, redirectingResponse 0x00)) 7).2 =
        refuse .invalidConfiguration ∧
      sampleClient.dataEndpoint = (samplePeer, true) ∧
      (sampleClient.receiveIntoSession .control (.ok (samplePeer, redirectingResponse 0x00))
        7).1.dataEndpoint =
          (⟨[2, 0, 0x0F, 0xA0, 10, 0, 0, 9, 0, 0, 0, 0, 0, 0, 0, 0], 16⟩, true) := by
  decide +kernel

end TunnellingClient

end KmxAio.Knx
