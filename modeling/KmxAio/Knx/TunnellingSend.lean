import KmxAio.Knx.TunnellingClient
import KmxAio.Knx.TunnellingRequests
import KmxAio.Knx.Unreadable

/-!
# Sends over UDP

A request waits in the session until it is acknowledged or given up. Of all that
can arrive while it waits, only a positive acknowledgement and a timeout are
taken as part of the exchange; anything else ends the send and leaves the
request outstanding.
-/

namespace KmxAio.Knx

open Lib.Wire Lib.Fallible Lib.Retry Knx.Frame Connection

namespace TunnellingSession

def Waiting (sess : TunnellingSession) : Prop :=
  sess.pending = true ∧ sess.state = .waitingAck

/-- No request is outstanding, and the session takes the next one or is closed. -/
def Released (sess : TunnellingSession) : Prop :=
  sess.pending = false ∧ (sess.state = .connected ∨ sess.state = .closed)

instance (sess : TunnellingSession) : Decidable sess.Released :=
  inferInstanceAs (Decidable (_ ∧ _))

variable {sess : TunnellingSession} {payload : DatagramPayload}

theorem Waiting.not_released (waiting : sess.Waiting) : ¬ sess.Released := by
  rintro ⟨free, -⟩
  rw [waiting.1] at free
  cases free

/-- A frame that is a positive acknowledgement, whatever request it names. -/
def PositiveAck (val : Datagram) : Prop :=
  ∃ ack : TunnellingAckFrame, val = ⟨tunnellingAckService, .tunnellingAck ack⟩ ∧ ack.status = 0

theorem not_positiveAck {service : UInt16} (other : ∀ ack, payload ≠ .tunnellingAck ack) :
    ¬ PositiveAck ⟨service, payload⟩ := by
  rintro ⟨ack, same, -⟩
  exact other ack (Datagram.mk.inj same).2

theorem onDatagram_waiting_other (waiting : sess.Waiting) {service : UInt16}
    (other : ∀ ack, payload ≠ .tunnellingAck ack) :
    ∃ why, sess.onDatagram ⟨service, payload⟩ = (sess, refuse why) ∧
      why ≠ .sequenceError ∧ why ≠ .timeout := by
  have state := waiting.2
  cases payload with
  | tunnellingAck ack => exact absurd rfl (other ack)
  | connectResponse | ipv6ConnectResponse | connectionstateResponse | disconnectResponse
  | tunnellingRequest | connectionstateRequest | disconnectRequest =>
    refine ⟨.invalidConfiguration, ?_, by decide, by decide⟩
    simp [onDatagram, onResponseDatagram, onRequestDatagram, underService, onConnectResponse,
      onConnectionstateResponse, onDisconnectResponse, onIndication, onConnectionstateRequest,
      onDisconnectRequest, state]
  | _ => exact ⟨.unsupportedService, rfl, by decide, by decide⟩

/-- What a waiting session makes of a datagram. -/
inductive Judges (sess : TunnellingSession) (val : Datagram) :
    TunnellingSession × Expected Unit → Prop where
  | releases {after : TunnellingSession} (positive : PositiveAck val)
    (free : after.pending = false) (connected : after.state = .connected) :
    Judges sess val (after, .ok ())
  | mismatches (positive : PositiveAck val) : Judges sess val (sess, refuse .sequenceError)
  | rejects {why : Error} (other : ¬ PositiveAck val) (num : why ≠ .sequenceError)
    (time : why ≠ .timeout) : Judges sess val (sess, refuse why)

theorem onDatagram_judges (waiting : sess.Waiting) (val : Datagram) :
    Judges sess val (sess.onDatagram val) := by
  obtain ⟨service, payload⟩ := val
  by_cases acknowledgement : ∃ ack, payload = .tunnellingAck ack
  · obtain ⟨ack, rfl⟩ := acknowledgement
    have dispatched : sess.onDatagram ⟨service, .tunnellingAck ack⟩ =
        sess.underService ⟨service, .tunnellingAck ack⟩ tunnellingAckService
          (sess.onAckFrame ack) := rfl
    rw [dispatched]
    unfold underService onAckFrame onAck
    by_cases named : service = tunnellingAckService
    · subst named
      by_cases positive : ack.status = 0
      · simp only [ne_eq, not_true_eq_false, if_false, positive]
        rw [if_neg (by simp [waiting.1])]
        split
        · exact .mismatches ⟨ack, rfl, positive⟩
        · exact .releases ⟨ack, rfl, positive⟩ rfl rfl
      · rw [if_neg (not_not.mpr rfl), if_pos positive]
        refine .rejects ?_ (by decide) (by decide)
        rintro ⟨other, same, zero⟩
        cases same
        exact positive zero
    · rw [if_pos named]
      refine .rejects ?_ (by decide) (by decide)
      rintro ⟨other, same, -⟩
      exact named (Datagram.mk.inj same).1
  · have other : ∀ ack, payload ≠ .tunnellingAck ack := by
      intro ack same
      exact acknowledgement ⟨ack, same⟩
    obtain ⟨why, rejected, num, time⟩ := onDatagram_waiting_other waiting other
    rw [rejected]
    exact .rejects (not_positiveAck other) num time

theorem dispatchSessionDatagram_judges (waiting : sess.Waiting) (val : Datagram)
    (nowMs : UInt32) : Judges sess val (sess.dispatchSessionDatagram val nowMs) := by
  have judged := onDatagram_judges waiting val
  unfold dispatchSessionDatagram
  generalize sess.onDatagram val = call at judged ⊢
  cases judged with
  | releases positive free connected =>
    refine .releases positive ?_ ?_ <;> simp [noteActivity, connected, free]
  | mismatches positive => exact .mismatches positive
  | rejects other num time => exact .rejects other num time

end TunnellingSession

namespace TunnellingClient

open TunnellingSession

variable (client : TunnellingClient)

def Reachable : Prop :=
  client.configuredPeerValid = true ∧ client.dataPeerValid = true ∧ 0 < client.dataPeer.length ∧
    client.dataPeer.length ≤ socketStorageSize

instance (client : TunnellingClient) : Decidable client.Reachable :=
  inferInstanceAs (Decidable (_ ∧ _))

def ackStatus (octets : Octets) : Option UInt8 :=
  match decodeDatagram octets with
  | .ok ⟨service, .tunnellingAck ack⟩ =>
    if service = tunnellingAckService then some ack.status else none
  | _ => none

/-- What belongs to the exchange of a request: a timeout, or a positive acknowledgement from the
data peer. A transport that reports a sequence error is taken like an acknowledgement of another
request. -/
def Expectable : Reception → Prop
  | .error why => why = .knx .timeout ∨ why = .knx .sequenceError
  | .ok (peer, octets) =>
    client.peerMatches peer .data = true ∧ octets.length ≤ maxDatagramSize ∧
      ackStatus octets = some 0

instance (client : TunnellingClient) : (received : Reception) → Decidable (client.Expectable received)
  | .error _ => inferInstanceAs (Decidable (_ ∨ _))
  | .ok _ => inferInstanceAs (Decidable (_ ∧ _))

/-- A pass that is undisturbed: nobody asks for a stop, the transport takes the whole request, and
what arrives belongs to the exchange. -/
def Undisturbed (pkt : Octets) (attempt : Attempt) : Prop :=
  attempt.stopRequested = false ∧ client.Reachable ∧ attempt.sent = .ok pkt.length ∧
    client.Expectable attempt.received

instance (client : TunnellingClient) (pkt : Octets) (attempt : Attempt) :
    Decidable (client.Undisturbed pkt attempt) :=
  inferInstanceAs (Decidable (_ ∧ _))

theorem sendPacket_ok_iff (pkt : Octets) (sent : Expected Nat) :
    client.sendPacket pkt .data sent = .ok () ↔ client.Reachable ∧ sent = .ok pkt.length := by
  unfold sendPacket Reachable
  dsimp only [expectedPeer]
  constructor
  · intro accepted
    split at accepted
    · cases accepted
    rename_i usable
    cases sent with
    | error why => cases accepted
    | ok count =>
      dsimp only at accepted
      split at accepted
      · cases accepted
      rename_i whole
      simp only [ne_eq, not_not] at whole
      subst whole
      simp only [true_and, not_or, Bool.not_eq_false, Nat.not_lt] at usable
      obtain ⟨configured, nonzero, bounded, valid⟩ := usable
      exact ⟨⟨configured, valid, Nat.pos_of_ne_zero nonzero, bounded⟩, rfl⟩
  · rintro ⟨⟨configured, valid, positive, bounded⟩, rfl⟩
    have nonzero : client.dataPeer.length ≠ 0 := by omega
    have fits : ¬ client.dataPeer.length > socketStorageSize := by omega
    simp [configured, valid, nonzero, fits]

theorem positiveAck_iff_ackStatus {octets : Octets} {val : Datagram}
    (decoded : decodeDatagram octets = .ok val) :
    PositiveAck val ↔ ackStatus octets = some 0 := by
  obtain ⟨service, payload⟩ := val
  unfold ackStatus
  rw [decoded]
  constructor
  · rintro ⟨ack, same, zero⟩
    cases same
    simp [zero]
  · intro status
    split at status
    · rename_i ack same
      split at status
      · rename_i named
        cases same
        exact ⟨ack, by rw [named], Option.some.inj status⟩
      · cases status
    · cases status

theorem adoptDataEndpoint_session (val : Datagram) :
    (client.adoptDataEndpoint val).1.session = client.session := by
  unfold adoptDataEndpoint
  split
  · split
    · unfold adoptIpv4DataEndpoint
      repeat' split
      all_goals rfl
    · rfl
  · split <;> rfl
  · rfl

variable {client} {pkt : Octets} {attempt : Attempt} {sess : TunnellingSession}

/-- A datagram that reaches the session: received from the right peer, whole and readable. -/
def Readable (client : TunnellingClient) (kind : EndpointKind) (received : Reception)
    (val : Datagram) : Prop :=
  ∃ peer octets, received = .ok (peer, octets) ∧ client.peerMatches peer kind = true ∧
    octets.length ≤ maxDatagramSize ∧ decodeDatagram octets = .ok val

/-- What is not readable changes nothing, and is a timeout or a sequence error only when the
transport reports one. -/
theorem receiveIntoSession_unreadable {kind : EndpointKind} {received : Reception}
    (unreadable : ∀ val, ¬ client.Readable kind received val) (nowMs : UInt32) :
    ∃ reason, client.receiveIntoSession kind received nowMs = (client, .error reason) ∧
      (received = .error reason ∨ reason ≠ .knx .sequenceError ∧ reason ≠ .knx .timeout) := by
  unfold receiveIntoSession
  cases received with
  | error reason => exact ⟨reason, rfl, .inl rfl⟩
  | ok reception =>
    obtain ⟨peer, octets⟩ := reception
    dsimp only
    split
    · exact ⟨_, rfl, .inr ⟨by decide, by decide⟩⟩
    rename_i matching
    split
    · exact ⟨_, rfl, .inr ⟨by decide, by decide⟩⟩
    rename_i whole
    cases decoded : decodeDatagram octets with
    | error reason =>
      have why := decodeDatagram_unreadable octets reason decoded
      refine ⟨reason, rfl, .inr ⟨?_, ?_⟩⟩ <;>
        · rintro rfl
          revert why
          decide
    | ok val =>
      exact absurd ⟨peer, octets, rfl, Bool.not_eq_false _ ▸ matching, Nat.not_lt.mp whole,
        decoded⟩ (unreadable val)

/-- A readable datagram is judged by the session once the endpoint it names is adopted. -/
theorem receiveIntoSession_adopting {kind : EndpointKind} {received : Reception} {val : Datagram}
    (readable : client.Readable kind received val) (nowMs : UInt32) :
    (∃ adopted, client.adoptDataEndpoint val = (adopted, refuse .unsupportedHpai) ∧
        client.receiveIntoSession kind received nowMs = (adopted, refuse .unsupportedHpai)) ∨
      ∃ adopted, client.adoptDataEndpoint val = (adopted, .ok ()) ∧
        client.receiveIntoSession kind received nowMs =
          ({ adopted with session := (client.session.dispatchSessionDatagram val nowMs).1 },
            (client.session.dispatchSessionDatagram val nowMs).2) := by
  obtain ⟨peer, octets, rfl, matching, whole, decoded⟩ := readable
  have kept := client.adoptDataEndpoint_session val
  simp only [receiveIntoSession, matching, decoded, Bool.true_eq_false, if_false,
    Nat.not_lt.mpr whole]
  cases adoption : client.adoptDataEndpoint val with
  | mk adopted result =>
    rw [adoption] at kept
    cases result with
    | error why =>
      obtain rfl : why = .knx .unsupportedHpai := by
        unfold adoptDataEndpoint adoptIpv4DataEndpoint at adoption
        repeat' split at adoption
        all_goals cases adoption
        all_goals rfl
      exact .inl ⟨adopted, rfl, rfl⟩
    | ok done =>
      dsimp only
      rw [kept]
      exact .inr ⟨adopted, rfl, rfl⟩

/-- What belongs to the exchange releases a waiting session or lets the loop go on; anything else
ends the loop with the session as it was. -/
theorem receiveIntoSession_waiting (waiting : client.session.Waiting) (received : Reception)
    (nowMs : UInt32) :
    client.Expectable received ∧
        ((∃ after, client.receiveIntoSession .data received nowMs = (after, .ok ()) ∧
            after.session.Released) ∨
          ∃ why, (why = .sequenceError ∨ why = .timeout) ∧
            client.receiveIntoSession .data received nowMs = (client, refuse why)) ∨
      ¬ client.Expectable received ∧
        ∃ after why, client.receiveIntoSession .data received nowMs = (after, .error why) ∧
          after.session = client.session ∧ why ≠ .knx .sequenceError ∧ why ≠ .knx .timeout := by
  by_cases readable : ∃ val, client.Readable .data received val
  · obtain ⟨val, readable⟩ := readable
    have adopting := receiveIntoSession_adopting readable nowMs
    have kept := client.adoptDataEndpoint_session val
    have judged := dispatchSessionDatagram_judges waiting val nowMs
    obtain ⟨peer, octets, rfl, matching, whole, decoded⟩ := readable
    have belongs : client.Expectable (.ok (peer, octets)) ↔ PositiveAck val :=
      ⟨fun expectable => (positiveAck_iff_ackStatus decoded).mpr expectable.2.2,
        fun positive => ⟨matching, whole, (positiveAck_iff_ackStatus decoded).mp positive⟩⟩
    rw [belongs]
    rcases adopting with ⟨adopted, adopts, given⟩ | ⟨adopted, adopts, given⟩
    · rw [adopts] at kept
      refine .inr ⟨?_, adopted, _, given, kept, by decide, by decide⟩
      rintro ⟨ack, rfl, -⟩
      cases adopts
    rw [given]
    generalize client.session.dispatchSessionDatagram val nowMs = call at judged ⊢
    cases judged with
    | releases positive free connected =>
      exact .inl ⟨positive, .inl ⟨_, rfl, free, .inl connected⟩⟩
    | mismatches positive =>
      refine .inl ⟨positive, .inr ⟨_, .inl rfl, ?_⟩⟩
      -- an acknowledgement names no endpoint
      obtain ⟨ack, rfl, -⟩ := positive
      cases adopts
      rfl
    | rejects other num time =>
      exact .inr ⟨other, _, _, rfl, rfl, by simpa using num, by simpa using time⟩
  · obtain ⟨why, given, reported⟩ := receiveIntoSession_unreadable (not_exists.mp readable) nowMs
    rw [given]
    by_cases belongs : client.Expectable received
    · refine .inl ⟨belongs, .inr ?_⟩
      cases received with
      | error reason =>
        cases given
        rcases belongs with rfl | rfl
        · exact ⟨.timeout, .inr rfl, rfl⟩
        · exact ⟨.sequenceError, .inl rfl, rfl⟩
      | ok delivery =>
        obtain ⟨matching, whole, status⟩ := belongs
        unfold ackStatus at status
        split at status
        · rename_i decoded
          exact absurd ⟨_, _, _, rfl, matching, whole, decoded⟩ readable
        · cases status
    · refine .inr ⟨belongs, client, why, rfl, rfl, ?_⟩
      rcases reported with rfl | kind
      · exact (not_or.mp belongs).symm
      · exact kind

/-- How a loop that used these passes ended: undisturbed passes release the session, a disturbed one
leaves the request outstanding. -/
def Ended (client : TunnellingClient) (pkt : Octets) (used : List Attempt)
    (sess : TunnellingSession) : Prop :=
  (∀ attempt ∈ used, client.Undisturbed pkt attempt) ∧ sess.Released ∨
    (∃ attempt ∈ used, ¬ client.Undisturbed pkt attempt) ∧ sess.Waiting

theorem Ended.cons {used : List Attempt} (undisturbed : client.Undisturbed pkt attempt)
    (ended : client.Ended pkt used sess) : client.Ended pkt (attempt :: used) sess := by
  rcases ended with ⟨all, released⟩ | ⟨⟨later, present, disturbed⟩, waiting⟩
  · exact .inl ⟨List.forall_mem_cons.mpr ⟨undisturbed, all⟩, released⟩
  · exact .inr ⟨⟨later, List.mem_cons_of_mem _ present, disturbed⟩, waiting⟩

theorem Ended.disturbed (disturbed : ¬ client.Undisturbed pkt attempt)
    (waiting : sess.Waiting) : client.Ended pkt [attempt] sess :=
  .inr ⟨⟨attempt, List.mem_singleton_self attempt, disturbed⟩, waiting⟩

theorem Ended.released (undisturbed : client.Undisturbed pkt attempt)
    (released : sess.Released) : client.Ended pkt [attempt] sess :=
  .inl ⟨by simpa using undisturbed, released⟩

theorem Ended.append {earlier used : List Attempt} (ended : client.Ended pkt used sess)
    (undisturbed : ∀ attempt ∈ earlier, client.Undisturbed pkt attempt) :
    client.Ended pkt (earlier ++ used) sess := by
  induction earlier with
  | nil => exact ended
  | cons attempt earlier ih =>
    obtain ⟨first, others⟩ := List.forall_mem_cons.mp undisturbed
    exact (ih others).cons first

/-! ## The passes of a send -/

theorem requestPass_cases (client : TunnellingClient) (waiting : client.session.Waiting)
    (pkt : Octets) (attempt : Attempt) :
    (∃ sess, requestPass pkt client attempt = .again { client with session := sess } ∧
        sess.Waiting ∧ client.Undisturbed pkt attempt) ∨
      ∃ after result, requestPass pkt client attempt = .done after result ∧
        client.Ended pkt [attempt] after.session := by
  unfold requestPass
  split_ifs with stop
  · refine .inr ⟨_, _, rfl, .disturbed ?_ waiting⟩
    rintro ⟨go, -⟩
    rw [stop] at go
    cases go
  cases sending : client.sendPacket pkt .data attempt.sent with
  | error why =>
    refine .inr ⟨_, _, rfl, .disturbed ?_ waiting⟩
    rintro ⟨-, reachable, sent, -⟩
    rw [(sendPacket_ok_iff _ pkt attempt.sent).mpr ⟨reachable, sent⟩] at sending
    cases sending
  | ok _ =>
    obtain ⟨reachable, sent⟩ := (sendPacket_ok_iff client pkt attempt.sent).mp sending
    rcases receiveIntoSession_waiting waiting attempt.received attempt.nowMs with
      ⟨expectable, outcome⟩ | ⟨unexpected, left, why, rejected, sess, notSequence, notTimeout⟩
    · have undisturbed : client.Undisturbed pkt attempt :=
        ⟨by simpa using stop, reachable, sent, expectable⟩
      rcases outcome with ⟨released, accepted, free⟩ | ⟨why, rfl | rfl, given⟩
      · rw [accepted]
        exact .inr ⟨_, _, rfl, .released undisturbed free⟩
      · rw [given]
        exact .inl ⟨client.session, if_pos rfl, waiting, undisturbed⟩
      · rw [given]
        dsimp only [refuse]
        rcases client.session.onTimeout_cases with ⟨free, -⟩ | ⟨-, gaveUp | ⟨-, again⟩⟩
        · cases waiting.1.symm.trans free
        · rw [gaveUp]
          exact .inr ⟨_, _, rfl, .released undisturbed ⟨rfl, .inr rfl⟩⟩
        · rw [again]
          exact .inl ⟨_, rfl, ⟨waiting.1, rfl⟩, undisturbed⟩
    · rw [rejected]
      dsimp only
      rw [if_neg notSequence, if_pos notTimeout]
      refine .inr ⟨_, _, rfl, .disturbed ?_ (by rw [sess]; exact waiting)⟩
      rintro ⟨-, -, -, belongs⟩
      exact unexpected belongs

/-- The loop over the passes it used. The invariant is that the session waits and the peers, on which
alone being undisturbed depends, stay the same. -/
theorem retryRequest_ended {after : TunnellingClient} {attempts rest : List Attempt}
    {result : Expected Unit} (waiting : client.session.Waiting)
    (returned : client.retryRequest pkt attempts = some (after, result, rest)) :
    ∃ used, attempts = used ++ rest ∧ client.Ended pkt used after.session := by
  have goesOn : ∀ state attempt next,
      (∃ sess, state = { client with session := sess } ∧ sess.Waiting) →
      requestPass pkt state attempt = .again next →
      (∃ sess, next = { client with session := sess } ∧ sess.Waiting) ∧
        client.Undisturbed pkt attempt := by
    rintro _ attempt next ⟨sess, rfl, still⟩ again
    rcases requestPass_cases { client with session := sess } still pkt attempt with
      ⟨later, gone, waits, undisturbed⟩ | ⟨after, result, ended, -⟩
    · cases again.symm.trans gone
      exact ⟨⟨later, rfl, waits⟩, undisturbed⟩
    · cases again.symm.trans ended
  obtain ⟨earlier, attempt, _, whole, undisturbed, ⟨sess, rfl, still⟩, done⟩ :=
    loop_ends goesOn ⟨client.session, rfl, waiting⟩ returned
  refine ⟨earlier ++ [attempt], by rw [whole, List.append_assoc]; rfl, ?_⟩
  rcases requestPass_cases { client with session := sess } still pkt attempt with
    ⟨_, gone, -⟩ | ⟨_, _, final, ended⟩
  · cases done.symm.trans gone
  · cases done.symm.trans final
    exact Ended.append ended undisturbed

end TunnellingClient

theorem TunnellingSession.prepareRequestPacket_waiting {sess after : TunnellingSession}
    {room : Nat} {chan : UInt8} {cemiBytes pkt : Octets} {deadlineMs : UInt32}
    (datagrams : sess.stream = false)
    (prepared : sess.prepareRequestPacket room chan cemiBytes deadlineMs =
      (after, .ok pkt)) : after.Waiting ∧ after.config = sess.config := by
  obtain ⟨why, refused⟩ | ⟨octets, -, -, -, begins⟩ :=
    sess.prepareRequestPacket_begun room chan cemiBytes deadlineMs
  · rw [refused] at prepared
    cases prepared
  · rw [begins, begun, datagrams] at prepared
    cases prepared
    exact ⟨⟨rfl, rfl⟩, rfl⟩

namespace TunnellingClient

theorem prepareSend_ok {client waiting : TunnellingClient} {cemiBytes pkt : Octets}
    {stopRequested : Bool} {nowMs : UInt32}
    (prepared : client.prepareSend cemiBytes stopRequested nowMs = (waiting, .ok pkt)) :
    client.session.prepareRequestPacket maxDatagramSize client.session.channelId.toUInt8 cemiBytes
        (nowMs + client.session.config.ackTimeoutMs) = (waiting.session, .ok pkt) ∧
      waiting = { client with session := waiting.session } := by
  unfold prepareSend at prepared
  split at prepared
  · cases prepared
  split at prepared
  · cases prepared
  split at prepared
  · cases prepared
  · obtain ⟨rfl, outcome⟩ := Prod.mk.inj prepared
    exact ⟨Prod.ext rfl outcome, rfl⟩

end TunnellingClient

open TunnellingClient

/-- A send that starts on a free session leaves it free exactly when every pass it used was
undisturbed. -/
theorem send_releases_iff_undisturbed (client waiting after : TunnellingClient)
    (cemiBytes pkt : Octets) (stopRequested : Bool) (nowMs : UInt32)
    (attempts rest : List Attempt) (result : Expected Unit)
    (datagrams : client.session.stream = false)
    (started : client.prepareSend cemiBytes stopRequested nowMs = (waiting, .ok pkt))
    (returned : client.send cemiBytes stopRequested nowMs attempts = some (after, result, rest)) :
    ∃ used, attempts = used ++ rest ∧
      (after.session.Released ↔ ∀ attempt ∈ used, client.Undisturbed pkt attempt) := by
  obtain ⟨requested, onlySession⟩ := prepareSend_ok started
  have outstanding := (TunnellingSession.prepareRequestPacket_waiting datagrams requested).1
  unfold send at returned
  rw [started] at returned
  obtain ⟨used, split, ended⟩ := retryRequest_ended outstanding returned
  refine ⟨used, split, ?_⟩
  have samePeers : ∀ attempt, waiting.Undisturbed pkt attempt ↔
      client.Undisturbed pkt attempt := by
    intro attempt
    rw [onlySession]
    rfl
  rcases ended with ⟨all, released⟩ | ⟨⟨attempt, present, disturbed⟩, stillWaiting⟩
  · refine iff_of_true released ?_
    intro attempt present
    exact (samePeers attempt).mp (all attempt present)
  · refine iff_of_false stillWaiting.not_released ?_
    intro all
    exact disturbed ((samePeers attempt).mpr (all attempt present))

def samplePeer : TransportPeer :=
  ⟨[2, 0, 14, 87, 192, 168, 1, 20, 0, 0, 0, 0, 0, 0, 0, 0], 16⟩

def sampleClient : TunnellingClient :=
  { peer := samplePeer
    configuredPeerValid := true
    dataPeer := samplePeer
    dataPeerValid := true
    session := { state := .connected, channelId := 1 } }

def sampleWrite (code : UInt8) : Octets :=
  [code, 0x00, 0xBC, 0xE0, 0x11, 0x05, 0x09, 0x01, 0x01, 0x00, 0x81]

def sampleAttempt (octets : Octets) : Attempt :=
  ⟨false, .ok 21, .ok (samplePeer, octets), 7⟩

/-- A lost request, then an acknowledgement of another one, then the awaited one. -/
theorem send_releases_iff_undisturbed_sample :
    let attempts : List Attempt :=
      [⟨false, .ok 21, refuse .timeout, 5⟩,
        sampleAttempt [0x06, 0x10, 0x04, 0x21, 0x00, 0x0A, 0x04, 0x01, 0x09, 0x00],
        sampleAttempt [0x06, 0x10, 0x04, 0x21, 0x00, 0x0A, 0x04, 0x01, 0x00, 0x00]]
    ∃ waiting pkt after, sampleClient.prepareSend (sampleWrite 0x11) false 0 =
        (waiting, .ok pkt) ∧
      sampleClient.send (sampleWrite 0x11) false 0 attempts = some (after, .ok (), []) ∧
      after.session.Released ∧
      ∃ used, attempts = used ++ [] ∧
        (after.session.Released ↔ ∀ attempt ∈ used, sampleClient.Undisturbed pkt attempt) := by
  refine ⟨_, _, _, rfl, rfl, by decide, ?_⟩
  exact send_releases_iff_undisturbed sampleClient _ _ (sampleWrite 0x11) _ false 0 _ [] (.ok ())
    rfl rfl rfl

/-- An indication from the bus that arrives before the acknowledgement ends the send and leaves its
request outstanding; the next send is refused for it. -/
theorem indication_wedges_send :
    sampleClient.session.Released ∧
      ∃ after, sampleClient.send (sampleWrite 0x11) false 0
          [sampleAttempt ([0x06, 0x10, 0x04, 0x20, 0x00, 0x15, 0x04, 0x01, 0x00, 0x00] ++
            sampleWrite 0x29)] = some (after, refuse .invalidConfiguration, []) ∧
        after.session.state = .waitingAck ∧ ¬ after.session.Released ∧
        after.send (sampleWrite 0x11) false 9 [] = some (after, refuse .sendQueueFull, []) := by
  refine ⟨by decide, _, rfl, rfl, by decide, rfl⟩

end KmxAio.Knx
