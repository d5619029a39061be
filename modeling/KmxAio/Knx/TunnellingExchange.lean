import KmxAio.Knx.ServerDelivery
import KmxAio.Knx.TunnellingRequests
import KmxAio.Lib.StopAndWait

/-!
# Tunnelling from a session to a channel

The sender of a tunnelling session and the channel of a server, over two
first-in first-out channels that may lose and duplicate datagrams. What is under
way are the octets themselves, numbered modulo 256. They stand for the unbounded
numbers of an exchange by stop and wait, which is sound in every state reached.
-/

namespace KmxAio.Knx

open Lib Lib.Run Lib.Wire Knx.Frame

/-! ## The sender -/

namespace TunnellingSession

def outstanding (sess : TunnellingSession) (chan : UInt8) (pkt : Octets)
    (deadlineMs : UInt32) : TunnellingSession :=
  { sess with
    requestPacket := pkt
    channelId := chan.toUInt16
    expectedSequence := sess.nextSequence.toUInt16
    nextSequence := sess.nextSequence + 1
    pending := true
    state := .waitingAck
    lastDeadlineMs := deadlineMs }

end TunnellingSession

/-! ## The exchange -/

/-- Both parties, the datagrams under way, and what came of the requests so far. -/
structure Tunnel where
  session : TunnellingSession
  server : GenericServer
  requests : List Octets := []
  acks : List Octets := []
  requested : List Octets := []
  acknowledged : List Octets := []
  fresh : List Octets := []

inductive TunnelEvent where
  | request (cemiBytes : Octets) (deadlineMs : UInt32)
  | timeout
  | retry
  | faultyRequest (fault : ChannelFault)
  | faultyAck (fault : ChannelFault)
  | serverReceives
  | clientReceives
  /-- The server does other work. -/
  | meanwhile (after : GenericServer)

namespace Tunnel

variable (room : Nat) (chan : UInt8) (client : TransportPeer)

variable (tunnel : Tunnel)

def receiveRequest (req : TunnellingRequestFrame) : Tunnel :=
  match tunnel.server.classifyIndication req ⟨.socket, client, 0⟩ with
  | (after, .refused) => { tunnel with server := after }
  | (after, verdict) =>
    { tunnel with
      server := after
      acks := tunnel.acks ++
        (encodeTunnellingAckPacket (communicationHeaderSize + tunnellingAckSize)
          req.channelId req.sequenceNumber 0).toOption.toList
      fresh :=
        if verdict = .fresh then tunnel.fresh ++ [req.cemiBytes] else tunnel.fresh }

def receiveAck (val : Datagram) : Tunnel :=
  match tunnel.session.onDatagram val with
  | (after, .error _) => { tunnel with session := after }
  | (after, .ok _) =>
    { tunnel with
      session := after
      acknowledged := tunnel.acknowledged ++ tunnel.requested.getLast?.toList }

def step : TunnelEvent → Tunnel
  | .request cemiBytes deadlineMs =>
    match tunnel.session.prepareRequestPacket room chan cemiBytes deadlineMs with
    | (after, .error _) => { tunnel with session := after }
    | (after, .ok pkt) =>
      { tunnel with
        session := after
        requests := tunnel.requests ++ [pkt]
        requested := tunnel.requested ++ [cemiBytes] }
  | .timeout => { tunnel with session := tunnel.session.onTimeout.1 }
  | .retry =>
    match tunnel.session.prepareRetryPacket room with
    | .error _ => tunnel
    | .ok pkt => { tunnel with requests := tunnel.requests ++ [pkt] }
  | .faultyRequest fault => { tunnel with requests := suffer tunnel.requests fault }
  | .faultyAck fault => { tunnel with acks := suffer tunnel.acks fault }
  | .serverReceives =>
    match tunnel.requests with
    | [] => tunnel
    | pkt :: later =>
      match decodeDatagram pkt with
      | .ok ⟨_, .tunnellingRequest req⟩ =>
        { tunnel with requests := later }.receiveRequest client req
      | _ => { tunnel with requests := later }
  | .clientReceives =>
    match tunnel.acks with
    | [] => tunnel
    | pkt :: later =>
      match decodeDatagram pkt with
      | .error _ => { tunnel with acks := later }
      | .ok val => { tunnel with acks := later }.receiveAck val
  | .meanwhile after =>
    if Delivery.keepsTurn chan client tunnel.server after then
      { tunnel with server := after }
    else tunnel

/-! ## What the octets stand for -/

def RequestOf (requested : List Octets) (pkt : Octets) (index : Nat) : Prop :=
  ∃ cemiBytes, requested[index]? = some cemiBytes ∧
    encodeTunnellingRequestPacket room chan (sequenceOf 0 index) cemiBytes = .ok pkt

def AckOf (pkt : Octets) (index : Nat) : Prop :=
  encodeTunnellingAckPacket (communicationHeaderSize + tunnellingAckSize) chan
    (sequenceOf 0 index) 0 = .ok pkt

/-- The session waits for the acknowledgement of the first request not acknowledged yet, or takes
the next request, or is closed. -/
structure Sends (requested : List Octets) (exchange : Exchange) (session : TunnellingSession) :
    Prop where
  datagrams : session.stream = false
  next : session.nextSequence = sequenceOf 0 exchange.made
  pending : session.pending = true →
    exchange.made = exchange.acknowledged + 1 ∧ session.channelId = chan.toUInt16 ∧
      session.expectedSequence = (sequenceOf 0 exchange.acknowledged).toUInt16 ∧
      RequestOf room chan requested session.requestPacket exchange.acknowledged
  free : session.pending = false →
    exchange.made = exchange.acknowledged ∨ session.state = .closing ∨ session.state = .closed

structure Represents (tunnel : Tunnel) (exchange : Exchange) : Prop where
  made : tunnel.requested.length = exchange.made
  acknowledged : tunnel.acknowledged = tunnel.requested.take exchange.acknowledged
  fresh : tunnel.fresh = tunnel.requested.take exchange.taken
  requests : List.Forall₂ (RequestOf room chan tunnel.requested) tunnel.requests
    exchange.requests
  acks : List.Forall₂ (AckOf chan) tunnel.acks exchange.acks
  sends : Sends room chan tunnel.requested exchange tunnel.session
  turn : tunnel.server.Turn 0 chan client exchange.taken

def Sound : Prop :=
  ∃ exchange : Exchange, exchange.Sound ∧ Represents room chan client tunnel exchange

variable {room chan client}

theorem RequestOf.append {requested : List Octets} {pkt : Octets} {index : Nat}
    (req : RequestOf room chan requested pkt index) (more : List Octets) :
    RequestOf room chan (requested ++ more) pkt index := by
  obtain ⟨cemiBytes, found, encoded⟩ := req
  have within := (List.getElem?_eq_some_iff.mp found).1
  exact ⟨cemiBytes, by rw [List.getElem?_append_left within, found], encoded⟩

section Steps

variable {tunnel} {exchange : Exchange}

section

variable (sound : exchange.Sound)
  (models : Represents room chan client tunnel exchange)

include sound models

theorem request_sound (cemiBytes : Octets) (deadlineMs : UInt32) :
    (tunnel.step room chan client (.request cemiBytes deadlineMs)).Sound room chan client := by
  dsimp only [step]
  rcases tunnel.session.prepareRequestPacket_begun room chan cemiBytes deadlineMs
      with ⟨why, refused⟩ | ⟨pkt, ready, -, encoded, begins⟩
  · rw [refused]
    exact ⟨exchange, sound, models⟩
  · have started : tunnel.session.begun chan.toUInt16 tunnel.session.nextSequence.toUInt16 pkt
        deadlineMs = tunnel.session.outstanding chan pkt deadlineMs := by
      simp [TunnellingSession.outstanding, TunnellingSession.begun, models.sends.datagrams]
    rw [begins, started]
    have idle : exchange.made = exchange.acknowledged := by
      rcases models.sends.free ready.free with idle | closing | closed
      · exact idle
      · exact absurd closing ready.staying
      · exact absurd closed ready.opened
    have made := models.made
    rw [models.sends.next, ← made] at encoded
    have last : RequestOf room chan (tunnel.requested ++ [cemiBytes]) pkt
        tunnel.requested.length := ⟨cemiBytes, by simp, encoded⟩
    have within : exchange.taken ≤ tunnel.requested.length := made ▸ sound.taken_le
    refine ⟨exchange.request, sound.request idle, ?_⟩
    exact
      { made := by simp [Exchange.request, made]
        acknowledged := by
          rw [models.acknowledged]
          exact (List.take_append_of_le_length (sound.acknowledged_le.trans within)).symm
        fresh := by
          rw [models.fresh]
          exact (List.take_append_of_le_length within).symm
        requests := forall₂_snoc (models.requests.imp fun _ _ req => req.append _)
          (made ▸ last)
        acks := models.acks
        sends :=
          { datagrams := models.sends.datagrams
            next := by
              rw [Exchange.request, sequenceOf_succ, ← models.sends.next]
              rfl
            pending := by
              intro _
              refine ⟨by simp [Exchange.request, idle], rfl, ?_, ?_⟩
              · rw [Exchange.request, ← idle, ← models.sends.next]
                rfl
              · rw [Exchange.request, ← idle, ← made]
                exact last
            free := fun free => by cases free }
        turn := models.turn }

theorem retry_sound : (tunnel.step room chan client .retry).Sound room chan client := by
  dsimp only [step]
  cases prepared : tunnel.session.prepareRetryPacket room with
  | error why => exact ⟨exchange, sound, models⟩
  | ok pkt =>
    unfold TunnellingSession.prepareRetryPacket at prepared
    split at prepared
    · cases prepared
    rename_i outstanding
    split at prepared <;> cases prepared
    obtain ⟨waiting, -, -, req⟩ :=
      models.sends.pending (by simpa using fun free => outstanding (.inl free))
    exact ⟨exchange.resend, sound.resend waiting,
      { models with
        requests := forall₂_snoc models.requests req
        sends := { models.sends with } }⟩

end

variable {pkt : Octets} {later : List Octets}

section

variable (sound : exchange.Sound)
  (models : Represents room chan client tunnel exchange)

include sound models

theorem drop_request (front : tunnel.requests = pkt :: later) :
    { tunnel with requests := later }.Sound room chan client := by
  have rest := forall₂_suffer models.requests (.lose 0)
  rw [front] at rest
  exact ⟨_, sound.sufferRequests (.lose 0),
    { models with requests := rest, sends := { models.sends with } }⟩

theorem receiveRequest_sound {index : Nat} {indices : List Nat} {req : TunnellingRequestFrame}
    (front : tunnel.requests = pkt :: later) (numbers : exchange.requests = index :: indices)
    (rest : List.Forall₂ (RequestOf room chan tunnel.requested) later indices)
    (sent : RequestOf room chan tunnel.requested pkt index)
    (read : decodeTunnellingRequestPacket pkt = .ok req) :
    ({ tunnel with requests := later }.receiveRequest client req).Sound room chan
      client := by
  obtain ⟨cemiBytes, found, encoded⟩ := sent
  obtain ⟨channel, numbered, octets⟩ := decodeTunnellingRequestPacket_encoded encoded read
  subst channel octets
  obtain ⟨ack, acknowledged⟩ : ∃ ack, AckOf req.channelId ack index := by
    have named := encodeTunnellingRequestPacket_named encoded
    exact ⟨_, by rw [AckOf, encodeTunnellingAckPacket, if_neg named]; rfl⟩
  have answered : (encodeTunnellingAckPacket (communicationHeaderSize + tunnellingAckSize)
      req.channelId req.sequenceNumber 0).toOption.toList = [ack] := by
    rw [numbered, acknowledged]
    rfl
  have turn := models.turn
  unfold receiveRequest
  cases held : tunnel.server.holdsChannel req.channelId ⟨.socket, client, 0⟩ true with
  | false =>
    have dropped := drop_request sound models front
    rwa [GenericServer.classifyIndication_refused held]
  | true =>
    rcases sound.front_request numbers with rfl | behind
    · rw [GenericServer.classifyIndication_fresh held (turn held) numbered]
      refine ⟨exchange.take indices, sound.take numbers, ?_⟩
      exact
        { models with
          fresh := by simp [models.fresh, Exchange.take, List.take_add_one, found]
          requests := rest
          acks := by
            rw [answered]
            exact forall₂_snoc models.acks acknowledged
          sends := { models.sends with }
          turn := GenericServer.Turn.take exchange.taken }
    · rw [GenericServer.classifyIndication_repeated held (behind ▸ turn held) numbered]
      refine ⟨exchange.repeatAck index indices, sound.repeatAck numbers behind, ?_⟩
      exact
        { models with
          requests := rest
          acks := by
            rw [answered]
            exact forall₂_snoc models.acks acknowledged
          sends := { models.sends with } }

theorem serverReceives_sound :
    (tunnel.step room chan client .serverReceives).Sound room chan client := by
  dsimp only [step]
  cases front : tunnel.requests with
  | nil => exact ⟨exchange, sound, models⟩
  | cons pkt later =>
    have carried := models.requests
    rw [front] at carried
    obtain ⟨index, indices, sent, rest, numbers⟩ := List.forall₂_cons_left_iff.mp carried
    have dropped := drop_request sound models front
    obtain ⟨cemiBytes, -, encoded⟩ := id sent
    dsimp only
    rw [decodeDatagram_encodedRequest encoded]
    cases read : decodeTunnellingRequestPacket pkt with
    | error why => exact dropped
    | ok req => exact receiveRequest_sound sound models front numbers rest sent read

theorem clientReceives_sound :
    (tunnel.step room chan client .clientReceives).Sound room chan client := by
  dsimp only [step]
  cases front : tunnel.acks with
  | nil => exact ⟨exchange, sound, models⟩
  | cons pkt later =>
    have carried := models.acks
    rw [front] at carried
    obtain ⟨index, indices, sent, rest, numbers⟩ := List.forall₂_cons_left_iff.mp carried
    have dropped : { tunnel with acks := later }.Sound room chan client := by
      have rest := forall₂_suffer models.acks (.lose 0)
      rw [front] at rest
      exact ⟨_, sound.sufferAcks (.lose 0),
        { models with acks := rest, sends := { models.sends with } }⟩
    dsimp only
    rw [decodeDatagram_encodedAck sent]
    dsimp only [receiveAck]
    simp only [TunnellingSession.onDatagram, TunnellingSession.onResponseDatagram,
      TunnellingSession.underService, TunnellingSession.onAckFrame, ne_eq, not_true, ite_false,
      TunnellingSession.onAck]
    cases pending : tunnel.session.pending with
    | false =>
      exact dropped
    | true =>
      rw [if_neg (by decide)]
      obtain ⟨waiting, channel, expected, -⟩ := models.sends.pending pending
      rcases sound.front_ack numbers waiting with rfl | behind
      · rw [if_neg (by simp [channel, expected])]
        have count : tunnel.requested.length - 1 = exchange.acknowledged := by
          rw [models.made, waiting, Nat.add_sub_cancel]
        refine ⟨exchange.acknowledge indices, sound.acknowledge numbers, ?_⟩
        exact
          { models with
            acknowledged := by
              simp only [Exchange.acknowledge]
              rw [List.take_add_one, ← models.acknowledged, List.getLast?_eq_getElem?, count]
            acks := rest
            sends :=
              { datagrams := models.sends.datagrams
                next := models.sends.next
                pending := fun still => nomatch still
                free := fun _ => .inl waiting } }
      · have other : tunnel.session.expectedSequence ≠ (sequenceOf 0 index).toUInt16 := by
          rw [expected, ← behind]
          exact fun same => sequenceOf_succ_ne 0 index (UInt8.toUInt16_inj.mp same)
        rw [if_pos (.inr other)]
        exact dropped

end

theorem step_sound (tunnel : Tunnel) (event : TunnelEvent)
    (tunnelSound : tunnel.Sound room chan client) :
    (tunnel.step room chan client event).Sound room chan client := by
  obtain ⟨exchange, sound, models⟩ := tunnelSound
  cases event with
  | request cemiBytes deadlineMs => exact request_sound sound models cemiBytes deadlineMs
  | timeout =>
    refine ⟨exchange, sound, { models with sends := ?_ }⟩
    have sends := models.sends
    dsimp only [step]
    rcases tunnel.session.onTimeout_cases with ⟨-, unchanged⟩ | ⟨pending, gaveUp | ⟨-, retried⟩⟩
    · rw [unchanged]
      exact sends
    · rw [gaveUp]
      exact
        { datagrams := sends.datagrams
          next := sends.next
          pending := nofun
          free := fun _ => .inr (.inr rfl) }
    · rw [retried]
      exact
        { datagrams := sends.datagrams
          next := sends.next
          pending := sends.pending
          free := fun free => by rw [pending] at free; cases free }
  | retry => exact retry_sound sound models
  | faultyRequest fault =>
    exact ⟨_, sound.sufferRequests fault,
      { models with
        requests := forall₂_suffer models.requests fault
        sends := { models.sends with } }⟩
  | faultyAck fault =>
    exact ⟨_, sound.sufferAcks fault,
      { models with
        acks := forall₂_suffer models.acks fault
        sends := { models.sends with } }⟩
  | serverReceives => exact serverReceives_sound sound models
  | clientReceives => exact clientReceives_sound sound models
  | meanwhile after =>
    dsimp only [step]
    split
    · rename_i keeps
      exact ⟨exchange, sound, { models with turn := Delivery.keepsTurn_turn keeps models.turn }⟩
    · exact ⟨exchange, sound, models⟩

end Steps

end Tunnel

/-- From a fresh connection, whatever the channels lose and duplicate: what the server took as fresh
is what was requested, in order and without a gap, and what the sender saw acknowledged is what the
server took as fresh, up to some point. -/
theorem fresh_prefix_requested (room : Nat) (chan : UInt8) (client : TransportPeer)
    (sess : TunnellingSession) (srv : GenericServer) (events : List TunnelEvent)
    (datagrams : sess.stream = false) (free : sess.pending = false) (first : sess.nextSequence = 0)
    (unused : (srv.channels chan).incomingSequenceValid = false) :
    let tunnel := run (Tunnel.step room chan client)
      { session := sess, server := srv } events
    tunnel.fresh <+: tunnel.requested ∧ tunnel.acknowledged <+: tunnel.fresh := by
  have initially : Tunnel.Sound room chan client { session := sess, server := srv } :=
    ⟨{}, Exchange.sound_initially,
      { made := rfl
        acknowledged := rfl
        fresh := rfl
        requests := .nil
        acks := .nil
        sends :=
          { datagrams := datagrams
            next := first
            pending := fun pending => by rw [free] at pending; cases pending
            free := fun _ => .inl rfl }
        turn := fun _ => unused }⟩
  intro tunnel
  obtain ⟨exchange, sound, models⟩ : tunnel.Sound room chan client :=
    invariant_run (fun state event invariant _ => Tunnel.step_sound state event invariant) initially
      (admissible_of_events (fun _ _ => trivial))
  rw [models.fresh, models.acknowledged]
  exact ⟨List.take_prefix _ _, List.take_prefix_take_left sound.acknowledged_le⟩

def connectedSession : TunnellingSession :=
  (TunnellingSession.onConnectResponse {} 1 .noError 0x1101).1

/-- The first request is doubled and one acknowledgement of it lost, the second request is lost once
and arrives as a repetition whose acknowledgement is still under way. -/
def faultyEvents : List TunnelEvent :=
  [.request (deliveryCemi 0x81) 1000, .faultyRequest (.duplicate 0), .serverReceives,
    .serverReceives, .faultyAck (.lose 0), .clientReceives, .request (deliveryCemi 0x80) 2000,
    .faultyRequest (.lose 0), .timeout, .retry, .serverReceives]

theorem fresh_prefix_requested_faulty :
    let tunnel := run (Tunnel.step maxDatagramSize 1 deliveryPeer)
      { session := connectedSession, server := deliveryServer } faultyEvents
    tunnel.requested = [deliveryCemi 0x81, deliveryCemi 0x80] ∧
      tunnel.acknowledged = [deliveryCemi 0x81] ∧
      tunnel.fresh = [deliveryCemi 0x81, deliveryCemi 0x80] ∧
      tunnel.fresh <+: tunnel.requested ∧ tunnel.acknowledged <+: tunnel.fresh :=
  ⟨by decide +kernel, by decide +kernel, by decide +kernel,
    fresh_prefix_requested maxDatagramSize 1 deliveryPeer connectedSession deliveryServer faultyEvents
      rfl rfl rfl rfl⟩

end KmxAio.Knx
