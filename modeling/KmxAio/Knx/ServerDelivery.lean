import KmxAio.Knx.GenericServer
import KmxAio.Knx.Secure.Recorded
import KmxAio.Lib.Run

/-!
# Delivery on a channel of the server

A client numbers its requests on a channel one after another, modulo 256, and
sends each until it is acknowledged. The server takes in the number of a request
before it sends the acknowledgement, and hands the frame to the application only
when that send succeeded.
-/

namespace KmxAio.Knx

open Lib.Run Lib.Wire Knx.Frame

/-! ## What a channel expects -/

/-- The number of a request, where the first one has the number `first`. -/
def sequenceOf (first : UInt8) (index : Nat) : UInt8 := first + UInt8.ofNat index

theorem sequenceOf_succ (first : UInt8) (index : Nat) :
    sequenceOf first (index + 1) = sequenceOf first index + 1 := by
  simp [sequenceOf, UInt8.add_assoc]

theorem sequenceOf_succ_ne (first : UInt8) (index : Nat) :
    sequenceOf first (index + 1) ≠ sequenceOf first index := by
  simp [sequenceOf_succ]

variable (channel : Channel) (first : UInt8)

def Channel.Expects : Nat → Prop
  | 0 => channel.incomingSequenceValid = false
  | taken + 1 =>
    channel.incomingSequenceValid = true ∧ channel.lastIncomingSequence = sequenceOf first taken ∧
      channel.nextIncomingSequence = sequenceOf first (taken + 1)

def Channel.take (sequenceNumber : UInt8) : Channel :=
  { channel with
    incomingSequenceValid := true
    lastIncomingSequence := sequenceNumber
    nextIncomingSequence := sequenceNumber + 1 }

theorem Channel.Expects.take (index : Nat) :
    (channel.take (sequenceOf first index)).Expects first (index + 1) :=
  ⟨rfl, rfl, (sequenceOf_succ first index).symm⟩

def Conditions.acknowledgement (world : Conditions) (chan sequenceNumber : UInt8) :
    Expected Unit :=
  match encodeTunnellingAckPacket (communicationHeaderSize + tunnellingAckSize) chan
      sequenceNumber 0 with
  | .error why => .error why
  | .ok pkt =>
    match world.sent pkt with
    | .error why => .error why
    | .ok count => if count ≠ pkt.length then refuse .connectionFailed else .ok ()

namespace GenericServer

variable {first : UInt8}

section Classification

variable {srv : GenericServer} {req : TunnellingRequestFrame} {peer : TransportPeer}
  {taken : Nat}

theorem classifyIndication_refused {origin : Origin}
    (unheld : srv.holdsChannel req.channelId origin true = false) :
    srv.classifyIndication req origin = (srv, .refused) := by
  rw [classifyIndication, if_pos unheld]

theorem classifyIndication_fresh
    (held : srv.holdsChannel req.channelId ⟨.socket, peer, 0⟩ true = true)
    (expects : (srv.channels req.channelId).Expects first taken)
    (numbered : req.sequenceNumber = sequenceOf first taken) :
    srv.classifyIndication req ⟨.socket, peer, 0⟩ =
      (srv.setChannel req.channelId
        ((srv.channels req.channelId).take (sequenceOf first taken)), .fresh) := by
  rw [classifyIndication, if_neg (by simp [held]),
    if_neg (by simp [ServerTransport.streamOriented]), numbered]
  cases taken with
  | zero =>
    have unset : (srv.channels req.channelId).incomingSequenceValid = false := expects
    simp [unset, Channel.take]
  | succ before =>
    obtain ⟨-, last, next⟩ := expects
    simp [last, next, sequenceOf_succ_ne, Channel.take]

theorem classifyIndication_repeated
    (held : srv.holdsChannel req.channelId ⟨.socket, peer, 0⟩ true = true)
    (expects : (srv.channels req.channelId).Expects first (taken + 1))
    (numbered : req.sequenceNumber = sequenceOf first taken) :
    srv.classifyIndication req ⟨.socket, peer, 0⟩ = (srv, .repeated) := by
  obtain ⟨valid, last, -⟩ := expects
  rw [classifyIndication, if_neg (by simp [held]), if_neg (by simp [ServerTransport.streamOriented])]
  simp [valid, last, numbered]

end Classification

/-! ## Acknowledgements over the socket -/

theorem proceed_acknowledging (srv : GenericServer) (world : Conditions) (chan sequenceNumber : UInt8)
    (event : ServerEvent) (client : TransportPeer) :
    srv.proceed world (.awaiting (encodeTunnellingAckPacket
        (communicationHeaderSize + tunnellingAckSize) chan sequenceNumber 0) (.note event))
        ⟨.socket, client, 0⟩ =
      match world.acknowledgement chan sequenceNumber with
      | .error why => (srv, .error why)
      | .ok _ => (srv.noteActivity world event.channelId, .ok event) := by
  unfold Conditions.acknowledgement HandlerStage.awaiting proceed sendDatagram transportSend
  cases encodeTunnellingAckPacket (communicationHeaderSize + tunnellingAckSize) chan
      sequenceNumber 0 with
  | error why => rfl
  | ok pkt =>
    dsimp only
    cases world.sent pkt with
    | error why => rfl
    | ok count =>
      by_cases whole : count ≠ pkt.length
      · simp only [if_pos whole]
        rfl
      · simp only [if_neg whole]
        rfl

/-! ## Whose turn it is -/

/-- As long as the client holds the channel, the channel expects the request after those taken in. -/
def Turn (srv : GenericServer) (first chan : UInt8) (client : TransportPeer) (taken : Nat) :
    Prop :=
  srv.holdsChannel chan ⟨.socket, client, 0⟩ true = true → (srv.channels chan).Expects first taken

section Turns

variable {srv other : GenericServer} {chan : UInt8} {client : TransportPeer} {taken : Nat}

theorem Turn.of_row (turn : srv.Turn first chan client taken)
    (row : other.channels chan = {} ∨ other.channels chan = srv.channels chan) :
    other.Turn first chan client taken := by
  intro held
  rcases row with released | same
  · simp [holdsChannel, channelOpen, released] at held
  · rw [holdsChannel, channelOpen, same] at held
    rw [same]
    exact turn held

theorem releaseWhere_row (srv : GenericServer) (condition : Channel → Bool) (chan : UInt8) :
    (srv.releaseWhere condition).channels chan = {} ∨
      (srv.releaseWhere condition).channels chan = srv.channels chan := by
  unfold releaseWhere
  dsimp only
  split
  · exact .inl rfl
  · exact .inr rfl

theorem reapSessions_row (srv : GenericServer) (world : Conditions) (chan : UInt8) :
    (srv.reapSessions world).channels chan = {} ∨
      (srv.reapSessions world).channels chan = srv.channels chan := by
  unfold reapSessions
  split
  · exact .inr rfl
  dsimp only
  split
  · exact releaseWhere_row _ _ chan
  · exact .inr rfl

theorem poll_row (srv : GenericServer) (world : Conditions) (chan : UInt8) :
    (srv.poll world).1.channels chan = {} ∨
      (srv.poll world).1.channels chan = srv.channels chan := by
  unfold poll
  split
  · exact .inr rfl
  split
  · exact reapSessions_row srv world chan
  rcases releaseWhere_row (srv.reapSessions world)
    (inactiveFor srv.config.inactivityTimeoutMs world.nowMs) chan
    with released | kept
  · exact .inl released
  · rcases reapSessions_row srv world chan with released | same
    · exact .inl (kept.trans released)
    · exact .inr (kept.trans same)

theorem Turn.poll (turn : srv.Turn first chan client taken) (world : Conditions) :
    (srv.poll world).1.Turn first chan client taken :=
  turn.of_row (poll_row srv world chan)

theorem Turn.noteActivity (turn : srv.Turn first chan client taken) (world : Conditions) :
    (srv.noteActivity world chan).Turn first chan client taken := by
  unfold GenericServer.noteActivity
  split
  · intro held
    have before : srv.holdsChannel chan ⟨.socket, client, 0⟩ true = true := by
      simpa [holdsChannel, channelOpen, setChannel, peerMatches] using held
    cases taken <;> simpa [setChannel, Channel.Expects] using turn before
  · exact turn

theorem Turn.take (index : Nat) :
    (srv.setChannel chan ((srv.channels chan).take (sequenceOf first index))).Turn
      first chan client (index + 1) := by
  intro _
  simpa [setChannel] using Channel.Expects.take (srv.channels chan) first index

end Turns

/-- What may come of the request with an index on a channel that has taken in so many: it fails, or
it repeats the one before and brings nothing, or it is the next and brings its frame. -/
inductive Taken (first channelId : UInt8) (client : TransportPeer) (taken index : Nat)
    (cemiBytes : Octets) : GenericServer × Expected ServerEvent → Prop where
  | failed {after : GenericServer} {reason : ErrorCode}
      (turn : after.Turn first channelId client taken) :
      Taken first channelId client taken index cemiBytes (after, .error reason)
  | repeated {after : GenericServer} (behind : index + 1 = taken)
      (turn : after.Turn first channelId client taken) :
      Taken first channelId client taken index cemiBytes (after, .ok ⟨channelId, []⟩)
  | fresh {after : GenericServer} (next : index = taken)
      (turn : after.Turn first channelId client (taken + 1)) :
      Taken first channelId client taken index cemiBytes (after, .ok ⟨channelId, cemiBytes⟩)

section Requests

variable {srv : GenericServer} {world : Conditions} {client : TransportPeer}
  {taken index : Nat}

theorem acceptTunnelled_taken {req : TunnellingRequestFrame}
    (turn : srv.Turn first req.channelId client taken)
    (numbered : req.sequenceNumber = sequenceOf first index)
    (window : index = taken ∨ index + 1 = taken)
    (acknowledged : (srv.classifyIndication req ⟨.socket, client, 0⟩).2 = .fresh →
      world.acknowledgement req.channelId req.sequenceNumber = .ok ()) :
    Taken first req.channelId client taken index req.cemiBytes
      ((srv.acceptTunnelled world req ⟨.socket, client, 0⟩).1.proceed world
        (srv.acceptTunnelled world req ⟨.socket, client, 0⟩).2 ⟨.socket, client, 0⟩) := by
  unfold acceptTunnelled
  cases held : srv.holdsChannel req.channelId ⟨.socket, client, 0⟩ true with
  | false =>
    rw [classifyIndication_refused held]
    exact .failed turn
  | true =>
    rcases window with rfl | rfl
    · rw [classifyIndication_fresh held (turn held) numbered] at acknowledged ⊢
      simp only [ServerTransport.streamOriented, Bool.false_eq_true, if_false]
      rw [proceed_acknowledging, acknowledged rfl]
      exact .fresh rfl ((Turn.take index).noteActivity world)
    · rw [classifyIndication_repeated held (turn held) numbered]
      simp only [ServerTransport.streamOriented, Bool.false_eq_true, if_false]
      rw [proceed_acknowledging]
      cases world.acknowledgement req.channelId req.sequenceNumber with
      | error why => exact .failed turn
      | ok sent => exact .repeated rfl (turn.noteActivity world)

theorem serveOnce_taken {room : Nat} {chan : UInt8} {cemiBytes pkt : Octets}
    (turn : srv.Turn first chan client taken)
    (encoded : encodeTunnellingRequestPacket room chan (sequenceOf first index) cemiBytes =
      .ok pkt) (window : index = taken ∨ index + 1 = taken)
    (acknowledged : ∀ req, decodeTunnellingRequestPacket pkt = .ok req →
      ((srv.poll world).1.classifyIndication req ⟨.socket, client, 0⟩).2 = .fresh →
        world.acknowledgement chan req.sequenceNumber = .ok ()) :
    Taken first chan client taken index cemiBytes (srv.serveOnce world (.ok (pkt, client))) := by
  have polled := turn.poll world
  unfold serveOnce
  split
  · exact .failed turn
  split
  · exact .failed turn
  dsimp only
  split
  · exact .failed polled
  rw [handleReceived, decodeDatagram_encodedRequest encoded]
  cases read : decodeTunnellingRequestPacket pkt with
  | error why => exact .failed polled
  | ok req =>
    obtain ⟨channel, numbered, octets⟩ := decodeTunnellingRequestPacket_encoded encoded read
    subst channel octets
    dsimp only [asDatagram, Except.map, dispatch, beginHandling, dispatchOnChannel]
    split
    · exact .failed (polled.of_row (.inr rfl))
    · exact acceptTunnelled_taken polled numbered window (acknowledged req read)

end Requests

end GenericServer

/-! ## Runs -/

/-- A channel's traffic: the requests its client has made and the number of the first, how many of
them have had an acknowledgement sent, and the frames handed to the application. -/
structure Delivery where
  server : GenericServer
  first : UInt8
  requested : List Octets := []
  acknowledged : Nat := 0
  handed : List Octets := []

inductive DeliveryEvent where
  /-- The client, its last request acknowledged, makes the next one. -/
  | request (cemiBytes : Octets)
  /-- The client's current request reaches the server, for the first time or again. -/
  | arrive (conditions : Conditions)
  /-- The server does other work. -/
  | meanwhile (after : GenericServer)

namespace Delivery

variable (chan : UInt8) (client : TransportPeer)

variable (delivery : Delivery)

def packet : Option Octets :=
  delivery.requested.getLast?.bind (fun cemiBytes =>
    (encodeTunnellingRequestPacket maxDatagramSize chan
      (sequenceOf delivery.first (delivery.requested.length - 1)) cemiBytes).toOption)

/-- Other work on the server leaves the turn on this channel alone, or releases the channel. -/
def keepsTurn (before after : GenericServer) : Bool :=
  let origin : Origin := ⟨.socket, client, 0⟩
  !after.holdsChannel chan origin true ||
    (before.holdsChannel chan origin true &&
      (before.channels chan).incomingSequenceValid ==
        (after.channels chan).incomingSequenceValid &&
      (before.channels chan).lastIncomingSequence ==
        (after.channels chan).lastIncomingSequence &&
      (before.channels chan).nextIncomingSequence ==
        (after.channels chan).nextIncomingSequence)

/-- An event comes back from the server exactly when the acknowledgement has been sent. -/
def step : DeliveryEvent → Delivery
  | .request cemiBytes =>
    if delivery.acknowledged = delivery.requested.length then
      { delivery with requested := delivery.requested ++ [cemiBytes] }
    else delivery
  | .arrive world =>
    match delivery.packet chan with
    | none => delivery
    | some pkt =>
      match delivery.server.serveOnce world (.ok (pkt, client)) with
      | (after, .error _) => { delivery with server := after }
      | (after, .ok event) =>
        { delivery with
          server := after
          acknowledged := delivery.requested.length
          handed :=
            if event.cemiBytes = [] then delivery.handed
            else delivery.handed ++ [event.cemiBytes] }
  | .meanwhile after =>
    if keepsTurn chan client delivery.server after then { delivery with server := after }
    else delivery

def arriving : Option TunnellingRequestFrame :=
  (delivery.packet chan).bind (fun pkt => (decodeTunnellingRequestPacket pkt).toOption)

/-- No acknowledgement of a request that the channel takes as fresh fails to be sent. -/
def FreshAcknowledged : DeliveryEvent → Prop
  | .arrive world =>
    ∀ req ∈ delivery.arriving chan,
      ((delivery.server.poll world).1.classifyIndication req
          ⟨.socket, client, 0⟩).2 = .fresh →
        world.acknowledgement chan req.sequenceNumber = .ok ()
  | .request _ => True
  | .meanwhile _ => True

instance (delivery : Delivery) :
    (event : DeliveryEvent) → Decidable (delivery.FreshAcknowledged chan client event)
  | .arrive world =>
    inferInstanceAs (Decidable (∀ req ∈ delivery.arriving chan,
      ((delivery.server.poll world).1.classifyIndication req
          ⟨.socket, client, 0⟩).2 = .fresh →
        world.acknowledgement chan req.sequenceNumber = .ok ()))
  | .request _ => .isTrue trivial
  | .meanwhile _ => .isTrue trivial

/-- What has been handed to the application is what has been acknowledged, and the server's turn is
the request after it. -/
structure InTurn (delivery : Delivery) : Prop where
  handed : delivery.handed = delivery.requested.take delivery.acknowledged
  acknowledged_le : delivery.acknowledged ≤ delivery.requested.length
  requested_le : delivery.requested.length ≤ delivery.acknowledged + 1
  turn : delivery.server.Turn delivery.first chan client delivery.acknowledged

variable {chan client}

theorem keepsTurn_turn {before after : GenericServer} {first : UInt8} {taken : Nat}
    (keeps : keepsTurn chan client before after = true)
    (turn : before.Turn first chan client taken) : after.Turn first chan client taken := by
  intro held
  simp only [keepsTurn, held, Bool.not_true, Bool.false_or, Bool.and_eq_true, beq_iff_eq] at keeps
  obtain ⟨⟨⟨heldBefore, valid⟩, last⟩, next⟩ := keeps
  have expects := turn heldBefore
  cases taken with
  | zero => exact valid.symm.trans expects
  | succ taken =>
    exact ⟨valid.symm.trans expects.1, last.symm.trans expects.2.1, next.symm.trans expects.2.2⟩

theorem arrive_inTurn {delivery : Delivery} {world : Conditions}
    (inTurn : delivery.InTurn chan client)
    (allowed : delivery.FreshAcknowledged chan client (.arrive world)) :
    (delivery.step chan client (.arrive world)).InTurn chan client := by
  dsimp only [step]
  cases current : delivery.packet chan with
  | none => exact inTurn
  | some pkt =>
    obtain ⟨before, cemiBytes, requested, encoded⟩ : ∃ before cemiBytes, delivery.requested = before
        ++ [cemiBytes] ∧ encodeTunnellingRequestPacket maxDatagramSize chan
          (sequenceOf delivery.first before.length) cemiBytes = .ok pkt := by
      obtain ⟨cemiBytes, last, encoded⟩ := Option.bind_eq_some_iff.mp current
      obtain ⟨before, requested⟩ := List.getLast?_eq_some_iff.mp last
      refine ⟨before, cemiBytes, requested, ?_⟩
      rw [requested, List.length_append, List.length_singleton, Nat.add_sub_cancel] at encoded
      cases outcome : encodeTunnellingRequestPacket maxDatagramSize chan
          (sequenceOf delivery.first before.length) cemiBytes with
      | error why =>
        rw [outcome] at encoded
        cases encoded
      | ok octets =>
        rw [outcome] at encoded
        cases encoded
        rfl
    have count : delivery.requested.length = before.length + 1 := by simp [requested]
    have acknowledged_le := inTurn.acknowledged_le
    have requested_le := inTurn.requested_le
    have window : before.length = delivery.acknowledged ∨
        before.length + 1 = delivery.acknowledged := by omega
    have taken := GenericServer.serveOnce_taken inTurn.turn encoded window
      (fun req read => allowed req (by simp [arriving, current, read, Except.toOption]))
    dsimp only
    generalize delivery.server.serveOnce world (.ok (pkt, client)) = served at taken
    cases taken with
    | failed turn => exact { inTurn with turn := turn }
    | repeated behind turn =>
      have all : delivery.requested.length = delivery.acknowledged := by omega
      exact
        { handed := by simpa [all] using inTurn.handed
          acknowledged_le := le_refl _
          requested_le := Nat.le_succ _
          turn := by simpa only [all] using turn }
    | fresh next turn =>
      have all : delivery.requested.length = delivery.acknowledged + 1 := by omega
      have carried := encodeTunnellingRequestPacket_carries encoded
      have earlier : delivery.handed = before := by
        rw [inTurn.handed, requested, ← next, List.take_left']
        rfl
      exact
        { handed := by simp [carried, earlier, requested]
          acknowledged_le := le_refl _
          requested_le := Nat.le_succ _
          turn := by simpa only [all] using turn }

theorem step_inTurn (delivery : Delivery) (event : DeliveryEvent)
    (inTurn : delivery.InTurn chan client)
    (allowed : delivery.FreshAcknowledged chan client event) :
    (delivery.step chan client event).InTurn chan client := by
  cases event with
  | arrive world => exact arrive_inTurn inTurn allowed
  | request cemiBytes =>
    dsimp only [step]
    split
    · rename_i all
      exact
        { handed := by rw [inTurn.handed, List.take_append_of_le_length inTurn.acknowledged_le]
          acknowledged_le := by simp [all]
          requested_le := by simp [all]
          turn := inTurn.turn }
    · exact inTurn
  | meanwhile after =>
    dsimp only [step]
    split
    · rename_i keeps
      exact { inTurn with turn := keepsTurn_turn keeps inTurn.turn }
    · exact inTurn

end Delivery

/-- In every run on a channel that has taken in no request yet, in which no acknowledgement of a
fresh request fails to be sent, the application has been handed each acknowledged request once, in
request order. -/
theorem acknowledged_handed_once (first chan : UInt8) (client : TransportPeer)
    (srv : GenericServer) (events : List DeliveryEvent)
    (unused : (srv.channels chan).incomingSequenceValid = false)
    (freshAcknowledged : Admissible (Delivery.step chan client)
      (Delivery.FreshAcknowledged chan client) { server := srv, first } events) :
    (run (Delivery.step chan client) { server := srv, first } events).handed =
      (run (Delivery.step chan client) { server := srv, first } events).requested.take
        (run (Delivery.step chan client) { server := srv, first } events).acknowledged := by
  have initially : Delivery.InTurn chan client { server := srv, first } :=
    { handed := rfl
      acknowledged_le := le_refl _
      requested_le := Nat.zero_le _
      turn := fun _ => unused }
  exact (invariant_run Delivery.step_inTurn initially freshAcknowledged).handed

/-! A client behind the address 192.168.1.10, port 3671, that writes to a group address. -/

def deliveryPeer : TransportPeer :=
  ⟨[2, 0, 14, 87, 192, 168, 1, 10, 0, 0, 0, 0, 0, 0, 0, 0], 16⟩

def deliveryCemi (val : UInt8) : Octets :=
  [0x11, 0x00, 0xBC, 0xE0, 0x00, 0x00, 0x0A, 0x03, 0x01, 0x00, val]

def deliveryConditions (sent : Octets → Expected Nat) : Conditions :=
  { backend := (Secure.Recording.mk [] [] [] []).backend
    sent := sent }

def deliveryServer : GenericServer :=
  (GenericServer.offerChannel {} (deliveryConditions (fun pkt => .ok pkt.length))
    ⟨.socket, deliveryPeer, 0⟩ none deliveryPeer Connection.Hpai.default).1

def deliveryEvents (sent : List (Octets → Expected Nat)) : List DeliveryEvent :=
  .request (deliveryCemi 0x81) :: sent.map (fun outcome => .arrive (deliveryConditions outcome))

theorem acknowledged_handed_once_repeat :
    let events := deliveryEvents
        [fun pkt => .ok pkt.length, fun _ => .error (.system 11), fun pkt => .ok pkt.length] ++
      [.request (deliveryCemi 0x80), .arrive (deliveryConditions (fun pkt => .ok pkt.length))]
    let delivery :=
      run (Delivery.step 1 deliveryPeer) { server := deliveryServer, first := 255 } events
    delivery.acknowledged = 2 ∧ delivery.requested = [deliveryCemi 0x81, deliveryCemi 0x80] ∧
      delivery.handed = delivery.requested.take delivery.acknowledged :=
  ⟨by decide +kernel, by decide +kernel,
    acknowledged_handed_once 255 1 deliveryPeer deliveryServer _ rfl (by decide +kernel)⟩

/-- The acknowledgement of a first request is not sent, that of its repetition is: the request is
acknowledged and its frame never handed over. -/
theorem acknowledged_never_handed :
    let delivery := run (Delivery.step 1 deliveryPeer) { server := deliveryServer, first := 0 }
      (deliveryEvents [fun _ => .error (.system 11), fun pkt => .ok pkt.length])
    delivery.acknowledged = 1 ∧ delivery.requested = [deliveryCemi 0x81] ∧ delivery.handed = [] ∧
      delivery.handed ≠ delivery.requested.take delivery.acknowledged := by
  decide +kernel

end KmxAio.Knx
