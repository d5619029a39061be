import KmxAio.Knx.TunnellingRedirect

/-!
# What ends a heartbeat

The heartbeat loop hands every datagram from the control peer to the session and
takes any it accepts for the answer. A connected session accepts the answer, and
requests of the server as well.
-/

namespace KmxAio.Knx

open Lib.Wire Lib.Retry Knx.Frame Connection

namespace TunnellingSession

variable (sess : TunnellingSession)

def incoming : Bool × UInt8 × UInt8 :=
  (sess.incomingSequenceValid, sess.lastIncomingSequence, sess.nextIncomingSequence)

/-- What a datagram is to a connected session: the answer to a heartbeat, something else that is
taken, something with a channel or a sequence number out of place, or nothing it can use. -/
inductive Reading where
  | confirms
  | intrudes
  | misnumbered
  | unusable
  deriving DecidableEq

/-- Reads a control request, of which only the channel counts. -/
def readControl (chan : UInt8) : Reading :=
  if chan.toUInt16 ≠ sess.channelId then .misnumbered else .intrudes

def readAck (ack : TunnellingAckFrame) : Reading :=
  if ack.status ≠ 0 then .unusable
  else if sess.pending = false ∨ sess.channelId ≠ ack.channelId.toUInt16 ∨
      sess.expectedSequence ≠ ack.sequenceNumber.toUInt16 then .misnumbered
  else .intrudes

def readRequest (req : TunnellingRequestFrame) : Reading :=
  if req.channelId.toUInt16 ≠ sess.channelId then .misnumbered
  else if req.cemiBytes = [] then .unusable
  else if sess.duplicateIndication req ∨ sess.outOfOrderIndication req then
    .misnumbered
  else .intrudes

def readAnswer (resp : ControlResponseFrame) : Reading :=
  if resp.channelId.toUInt16 ≠ sess.channelId then .misnumbered
  else if resp.status ≠ .noError then .unusable
  else .confirms

def reading (val : Datagram) : Reading :=
  let under (service : UInt16) (read : Reading) : Reading :=
    if val.serviceType ≠ service then .unusable else read
  match val.payload with
  | .connectionstateResponse resp =>
    under connectionstateResponseService (sess.readAnswer resp)
  | .tunnellingAck ack => under tunnellingAckService (sess.readAck ack)
  | .tunnellingRequest req => under tunnellingRequestService (sess.readRequest req)
  | .connectionstateRequest req =>
    under connectionstateRequestService (sess.readControl req.channelId)
  | .disconnectRequest req =>
    under disconnectRequestService (sess.readControl req.channelId)
  | _ => .unusable

def Reads (result : TunnellingSession × Expected Unit) : Reading → Prop
  | .confirms => result.2 = .ok () ∧ result.1.incoming = sess.incoming
  | .intrudes => result.2 = .ok ()
  | .misnumbered => result = (sess, refuse .sequenceError)
  | .unusable =>
    result.1.incoming = sess.incoming ∧
      ∃ why, result.2 = .error why ∧ why ≠ .knx .sequenceError ∧ why ≠ .knx .timeout

variable {sess}

theorem reads_refuse (why : Error) (num : why ≠ .sequenceError) (time : why ≠ .timeout) :
    sess.Reads (sess, refuse why) .unusable :=
  ⟨rfl, .knx why, rfl, fun same => num (ErrorCode.knx.inj same),
    fun same => time (ErrorCode.knx.inj same)⟩

theorem reads_ite {condition : Prop} [Decidable condition]
    {first second : TunnellingSession × Expected Unit} {read other : Reading}
    (holds : condition → sess.Reads first read) (fails : ¬ condition → sess.Reads second other) :
    sess.Reads (if condition then first else second) (if condition then read else other) := by
  split_ifs with given
  · exact holds given
  · exact fails given

variable {val : Datagram} {act : TunnellingSession × Expected Unit}

theorem underService_refused {service : UInt16}
    (refused : act = (sess, refuse .invalidConfiguration)) :
    sess.Reads (sess.underService val service act) .unusable := by
  unfold underService
  rw [refused]
  split <;> exact reads_refuse _ (by decide) (by decide)

theorem underService_reads {service : UInt16} {read : Reading} (reads : sess.Reads act read) :
    sess.Reads (sess.underService val service act)
      (if val.serviceType ≠ service then .unusable else read) :=
  reads_ite (fun _ => reads_refuse _ (by decide) (by decide)) (fun _ => reads)

theorem failHeartbeat_cases (sess : TunnellingSession) :
    ∃ failures : UInt8, failures.toNat = min (sess.heartbeatFailures.toNat + 1) 255 ∧
      ((sess.config.heartbeatFailureLimit = 0 ∨
            sess.config.heartbeatFailureLimit.toNat ≤ failures.toNat) ∧
          sess.failHeartbeat =
            ({ sess with heartbeatFailures := failures, state := .closed },
              refuse .heartbeatFailed) ∨
        failures.toNat < sess.config.heartbeatFailureLimit.toNat ∧
          sess.failHeartbeat =
            ({ sess with heartbeatFailures := failures }, refuse .connectionFailed)) := by
  have octet : sess.heartbeatFailures.toNat < 256 := sess.heartbeatFailures.toNat_lt
  refine ⟨if sess.heartbeatFailures < 0xFF then sess.heartbeatFailures + 1
    else sess.heartbeatFailures, ?_, ?_⟩
  · split
    · rename_i below
      have small : sess.heartbeatFailures.toNat < 255 := UInt8.lt_iff_toNat_lt.mp below
      rw [UInt8.toNat_add, UInt8.toNat_one]
      omega
    · rename_i full
      have large : ¬ sess.heartbeatFailures.toNat < 255 :=
        fun below => full (UInt8.lt_iff_toNat_lt.mpr below)
      omega
  · unfold failHeartbeat
    by_cases given : sess.config.heartbeatFailureLimit = 0 ∨
        (if sess.heartbeatFailures < 0xFF then sess.heartbeatFailures + 1
          else sess.heartbeatFailures) ≥ sess.config.heartbeatFailureLimit
    · rw [if_pos given]
      exact .inl ⟨given.imp id UInt8.le_iff_toNat_le.mp, rfl⟩
    · rw [if_neg given]
      obtain ⟨-, below⟩ := not_or.mp given
      exact .inr ⟨Nat.lt_of_not_le (fun reached => below (UInt8.le_iff_toNat_le.mpr reached)), rfl⟩

theorem onAckFrame_reads (ack : TunnellingAckFrame) :
    sess.Reads (sess.onAckFrame ack) (sess.readAck ack) := by
  refine reads_ite (fun _ => reads_refuse _ (by decide) (by decide)) fun _ => ?_
  unfold onAck
  by_cases idle : sess.pending = false
  · rw [if_pos idle, if_pos (.inl idle)]
    exact rfl
  · simp only [if_neg idle, or_iff_right idle]
    exact reads_ite (fun _ => rfl) fun _ => rfl

section

variable (connected : sess.state = .connected)

include connected

theorem onIndication_reads (req : TunnellingRequestFrame) :
    sess.Reads (sess.onIndication req) (sess.readRequest req) := by
  unfold onIndication readRequest
  rw [if_neg (not_not.mpr connected)]
  refine reads_ite (fun _ => rfl) fun _ => ?_
  exact reads_ite (fun _ => reads_refuse _ (by decide) (by decide)) fun _ =>
    reads_ite (fun _ => rfl) fun _ => rfl

theorem onConnectionstateRequest_reads (req : ControlRequestFrame) :
    sess.Reads (sess.onConnectionstateRequest req) (sess.readControl req.channelId) := by
  unfold onConnectionstateRequest readControl
  rw [if_neg (not_not.mpr connected)]
  exact reads_ite (fun _ => rfl) fun _ => rfl

theorem onDisconnectRequest_reads (req : ControlRequestFrame) :
    sess.Reads (sess.onDisconnectRequest req) (sess.readControl req.channelId) := by
  unfold onDisconnectRequest readControl
  rw [if_neg (fun elsewhere => elsewhere.1 connected)]
  exact reads_ite (fun _ => rfl) fun _ => rfl

theorem onDatagram_reads (val : Datagram) :
    sess.Reads (sess.onDatagram val) (sess.reading val) := by
  obtain ⟨service, payload⟩ := val
  cases payload with
  | connectResponse resp | ipv6ConnectResponse resp =>
    exact underService_refused (if_pos (by simp [connected]))
  | disconnectResponse resp =>
    refine underService_refused ?_
    unfold onDisconnectResponse
    rw [if_neg (by simp [connected]), if_pos (by simp [connected])]
  | connectionstateResponse resp =>
    have reads : sess.Reads (sess.onConnectionstateResponse resp) (sess.readAnswer resp) := by
      unfold onConnectionstateResponse readAnswer
      rw [if_neg (not_not.mpr connected)]
      refine reads_ite (fun _ => rfl) fun _ => reads_ite (fun _ => ?_) fun _ => ⟨rfl, rfl⟩
      obtain ⟨failures, -, ⟨-, closed⟩ | ⟨-, counted⟩⟩ :=
        failHeartbeat_cases { sess with heartbeatOutstanding := false }
      · rw [closed]
        exact ⟨rfl, .knx .heartbeatFailed, rfl, by decide, by decide⟩
      · rw [counted]
        exact ⟨rfl, .knx .connectionFailed, rfl, by decide, by decide⟩
    exact underService_reads reads
  | tunnellingAck ack => exact underService_reads (onAckFrame_reads ack)
  | tunnellingRequest req => exact underService_reads (onIndication_reads connected req)
  | connectionstateRequest req =>
    exact underService_reads (onConnectionstateRequest_reads connected req)
  | disconnectRequest req =>
    exact underService_reads (onDisconnectRequest_reads connected req)
  | _ => exact reads_refuse _ (by decide) (by decide)

end

theorem dispatchSessionDatagram_reads {read : Reading}
    (reads : sess.Reads (sess.onDatagram val) read) (nowMs : UInt32) :
    sess.Reads (sess.dispatchSessionDatagram val nowMs) read := by
  unfold dispatchSessionDatagram
  cases given : sess.onDatagram val with
  | mk after result =>
    rw [given] at reads
    cases result with
    | error why => exact reads
    | ok done =>
      cases read with
      | confirms =>
        refine ⟨rfl, Eq.trans ?_ reads.2⟩
        change (after.noteActivity nowMs).incoming = after.incoming
        unfold noteActivity
        split <;> rfl
      | intrudes => exact rfl
      | misnumbered => cases congrArg Prod.snd reads
      | unusable =>
        obtain ⟨-, why, failed, -⟩ := reads
        cases failed

end TunnellingSession

namespace TunnellingClient

open TunnellingSession

variable {client : TunnellingClient} {kind : EndpointKind} {received : Reception}

theorem Readable.unique {first second : Datagram} (one : client.Readable kind received first)
    (other : client.Readable kind received second) : first = second := by
  obtain ⟨peer, octets, rfl, -, -, decoded⟩ := one
  obtain ⟨peer', octets', same, -, -, decoded'⟩ := other
  cases same
  exact Except.ok.inj (decoded.symm.trans decoded')

variable {val : Datagram} {state after : TunnellingClient} {result : Expected Unit}

/-- A readable datagram is taken as the session reads it, where one that names an endpoint is not
usable. -/
theorem receiveIntoSession_reads {read : Reading} {nowMs : UInt32}
    (adopts : read ≠ .unusable → client.adoptDataEndpoint val = (client, .ok ()))
    (reads : client.session.Reads (client.session.dispatchSessionDatagram val nowMs) read)
    (readable : client.Readable kind received val) :
    client.session.Reads ((client.receiveIntoSession kind received nowMs).1.session,
        (client.receiveIntoSession kind received nowMs).2) read ∧
      (read = .misnumbered → (client.receiveIntoSession kind received nowMs).1 = client) := by
  have kept := client.adoptDataEndpoint_session val
  rcases receiveIntoSession_adopting readable nowMs with
    ⟨adopted, fails, given⟩ | ⟨adopted, succeeds, given⟩ <;> rw [given]
  · by_cases unusable : read = .unusable
    · rw [fails] at kept
      rw [unusable]
      exact ⟨⟨congrArg incoming kept, .knx .unsupportedHpai, rfl, by decide, by decide⟩, nofun⟩
    · cases fails.symm.trans (adopts unusable)
  · refine ⟨reads, fun misnumbered => ?_⟩
    cases succeeds.symm.trans (adopts (by simp [misnumbered]))
    rw [misnumbered] at reads
    rw [show client.session.dispatchSessionDatagram val nowMs = _ from reads]

/-! ## The passes of a heartbeat -/

def Listens (client : TunnellingClient) (kind : EndpointKind) (pkt : Octets)
    (attempt : Attempt) : Prop :=
  attempt.stopRequested = false ∧ client.sendPacket pkt kind attempt.sent = .ok ()

def Hears (client : TunnellingClient) (kind : EndpointKind) (pkt : Octets) (attempt : Attempt)
    (val : Datagram) : Prop :=
  client.Listens kind pkt attempt ∧ client.Readable kind attempt.received val

/-- A pass that receives something out of place: a sequence error of the transport, or a datagram
with a channel or a sequence number that the session does not expect. -/
def Strays (client : TunnellingClient) (kind : EndpointKind) (pkt : Octets)
    (reading : Datagram → Reading) (attempt : Attempt) : Prop :=
  client.Listens kind pkt attempt ∧ attempt.received = refuse .sequenceError ∨
    ∃ val, client.Hears kind pkt attempt val ∧ reading val = .misnumbered

/-- A client that differs from another one in its failed heartbeats at most. -/
def CountsBeside (client state : TunnellingClient) : Prop :=
  state = { client with
    session := { client.session with heartbeatFailures := state.session.heartbeatFailures } }

theorem CountsBeside.refl (client : TunnellingClient) : client.CountsBeside client := rfl

theorem CountsBeside.trans {first second third : TunnellingClient} (one : first.CountsBeside second)
    (other : second.CountsBeside third) : first.CountsBeside third := by
  unfold CountsBeside at *
  rw [other, one]

variable {pkt : Octets} {attempt : Attempt}

theorem CountsBeside.hears_iff (beside : client.CountsBeside state) (val : Datagram) :
    state.Hears .control pkt attempt val ↔ client.Hears .control pkt attempt val := by
  rw [beside]
  exact Iff.rfl

theorem CountsBeside.reading (beside : client.CountsBeside state) (val : Datagram) :
    state.session.reading val = client.session.reading val := by
  rw [beside]
  rfl

def TakesAs (client : TunnellingClient) (kind : EndpointKind) (attempt : Attempt)
    (reading : Datagram → Reading) : Prop :=
  ∀ val, client.Readable kind attempt.received val →
    client.session.Reads ((client.receiveIntoSession kind attempt.received attempt.nowMs).1.session,
        (client.receiveIntoSession kind attempt.received attempt.nowMs).2) (reading val) ∧
      (reading val = .misnumbered →
        (client.receiveIntoSession kind attempt.received attempt.nowMs).1 = client)

theorem takesAs_connected (connected : client.session.state = .connected) :
    client.TakesAs kind attempt client.session.reading := by
  intro val readable
  refine receiveIntoSession_reads (fun usable => ?_)
    (dispatchSessionDatagram_reads (onDatagram_reads connected val) attempt.nowMs) readable
  -- only a CONNECT_RESPONSE names an endpoint, and a connected session has no use for one
  obtain ⟨service, payload⟩ := val
  cases payload with
  | connectResponse resp | ipv6ConnectResponse resp => exact absurd rfl usable
  | _ => rfl

/-- What a pass that listens receives. The two errors after which a loop may go on, a sequence error
and a timeout, leave the client as it was. -/
inductive Receives (client : TunnellingClient) (kind : EndpointKind) (pkt : Octets)
    (attempt : Attempt) (reading : Datagram → Reading) : TunnellingClient × Expected Unit → Prop where
  | confirmed {after : TunnellingClient} {val : Datagram} (hears : client.Hears kind pkt attempt val)
      (confirms : reading val = .confirms)
      (same : after.session.incoming = client.session.incoming) :
      Receives client kind pkt attempt reading (after, .ok ())
  | intruded {after : TunnellingClient} {val : Datagram} (hears : client.Hears kind pkt attempt val)
      (intrudes : reading val = .intrudes) : Receives client kind pkt attempt reading (after, .ok ())
  | strayed (strays : client.Strays kind pkt reading attempt)
      (misnumbered : ∀ val, client.Hears kind pkt attempt val → reading val = .misnumbered) :
      Receives client kind pkt attempt reading (client, refuse .sequenceError)
  | late (silent : ∀ val, ¬ client.Hears kind pkt attempt val) :
      Receives client kind pkt attempt reading (client, refuse .timeout)
  | failed {after : TunnellingClient} {why : ErrorCode}
      (same : after.session.incoming = client.session.incoming) (num : why ≠ .knx .sequenceError)
      (time : why ≠ .knx .timeout)
      (unusable : ∀ val, client.Hears kind pkt attempt val → reading val = .unusable) :
      Receives client kind pkt attempt reading (after, .error why)

theorem receiveIntoSession_receives {reading : Datagram → Reading}
    (takes : client.TakesAs kind attempt reading) (listens : client.Listens kind pkt attempt) :
    client.Receives kind pkt attempt reading
      (client.receiveIntoSession kind attempt.received attempt.nowMs) := by
  by_cases readable : ∃ val, client.Readable kind attempt.received val
  · obtain ⟨val, readable⟩ := readable
    obtain ⟨reads, kept⟩ := takes val readable
    have hears : client.Hears kind pkt attempt val := ⟨listens, readable⟩
    have only : ∀ other, client.Hears kind pkt attempt other → reading other = reading val := by
      intro other also
      rw [also.2.unique readable]
    generalize client.receiveIntoSession kind attempt.received attempt.nowMs = call at reads kept ⊢
    obtain ⟨after, result⟩ := call
    cases read : reading val with
    | confirms =>
      rw [read] at reads
      cases reads.1
      exact .confirmed hears read reads.2
    | intrudes =>
      rw [read] at reads
      cases (reads : result = .ok ())
      exact .intruded hears read
    | misnumbered =>
      rw [read] at reads only
      cases kept read
      cases congrArg Prod.snd reads
      exact .strayed (.inr ⟨val, hears, read⟩) only
    | unusable =>
      rw [read] at reads only
      obtain ⟨same, _, failed, num, time⟩ := reads
      cases failed
      exact .failed same num time only
  · have silent : ∀ val, ¬ client.Hears kind pkt attempt val :=
      fun val hears => readable ⟨val, hears.2⟩
    obtain ⟨why, unread, reported⟩ :=
      receiveIntoSession_unreadable (not_exists.mp readable) attempt.nowMs
    rw [unread]
    by_cases stray : why = .knx .sequenceError
    · rcases reported with reported | ⟨num, -⟩
      · subst stray
        exact .strayed (.inl ⟨listens, reported⟩) (fun val hears => absurd hears (silent val))
      · exact absurd stray num
    by_cases time : why = .knx .timeout
    · subst time
      exact .late silent
    · exact .failed rfl stray time (fun val hears => absurd hears (silent val))

/-- What a pass of a heartbeat comes to. -/
inductive Beats (client : TunnellingClient) (pkt : Octets) (attempt : Attempt) :
    Pass TunnellingClient (Expected Unit) → Prop where
  | answered {after : TunnellingClient} {val : Datagram}
      (hears : client.Hears .control pkt attempt val)
      (confirms : client.session.reading val = .confirms)
      (same : after.session.incoming = client.session.incoming) :
      Beats client pkt attempt (.done after (.ok ()))
  | misled {after : TunnellingClient} {val : Datagram}
      (hears : client.Hears .control pkt attempt val)
      (intrudes : client.session.reading val = .intrudes) :
      Beats client pkt attempt (.done after (.ok ()))
  | failed {after : TunnellingClient} {why : ErrorCode}
      (same : after.session.incoming = client.session.incoming)
      (unusable : ∀ val, client.Hears .control pkt attempt val →
        client.session.reading val = .unusable) : Beats client pkt attempt (.done after (.error why))
  | strayed (strays : client.Strays .control pkt client.session.reading attempt)
      (misnumbered : ∀ val, client.Hears .control pkt attempt val →
        client.session.reading val = .misnumbered) : Beats client pkt attempt (.again client)
  | missed {failures : UInt8} (silent : ∀ val, ¬ client.Hears .control pkt attempt val)
      (count : failures.toNat = min (client.session.heartbeatFailures.toNat + 1) 255)
      (below : failures.toNat < client.session.config.heartbeatFailureLimit.toNat) :
      Beats client pkt attempt
        (.again { client with session := { client.session with heartbeatFailures := failures } })

theorem heartbeatPass_beats (connected : client.session.state = .connected) (pkt : Octets)
    (attempt : Attempt) : client.Beats pkt attempt (heartbeatPass pkt client attempt) := by
  unfold heartbeatPass
  split
  · rename_i stopped
    exact .failed rfl (fun val hears => nomatch hears.1.1.symm.trans stopped)
  rename_i going
  split
  · rename_i unsent
    exact .failed rfl (fun val hears => nomatch hears.1.2.symm.trans unsent)
  rename_i sent
  have received := receiveIntoSession_receives (takesAs_connected connected)
    (show client.Listens .control pkt attempt from ⟨by simpa using going, sent⟩)
  generalize client.receiveIntoSession .control attempt.received attempt.nowMs = call at received ⊢
  cases received with
  | confirmed hears confirms same => exact .answered hears confirms same
  | intruded hears intrudes => exact .misled hears intrudes
  | strayed strays misnumbered => exact .strayed strays misnumbered
  | failed same num time unusable =>
    dsimp only
    rw [if_neg num, if_pos time]
    exact .failed same unusable
  | late silent =>
    unfold onConnectionstateTimeout
    dsimp only [refuse]
    rw [if_neg (by decide), if_neg (by decide), if_neg (not_not.mpr connected)]
    obtain ⟨failures, count, ⟨-, closed⟩ | ⟨below, counted⟩⟩ := client.session.failHeartbeat_cases
    · rw [closed]
      exact .failed rfl (fun val hears => absurd hears (silent val))
    · rw [counted]
      exact .missed silent count below

theorem prepareHeartbeat_connected {stopRequested : Bool}
    (prepared : client.prepareHeartbeat stopRequested = .ok pkt) :
    client.session.state = .connected := by
  unfold prepareHeartbeat prepareConnectionstateRequestPacket at prepared
  by_contra elsewhere
  split at prepared
  · cases prepared
  split at prepared <;> cases prepared

/-- What a heartbeat promises: success only with an answer heard while it waited, and no step
forward in the requests of the server, of which it acknowledges and delivers none. -/
def Truthful (client : TunnellingClient) (pkt : Octets) (used : List Attempt)
    (after : TunnellingClient) (result : Expected Unit) : Prop :=
  (result = .ok () → ∃ attempt ∈ used, ∃ val, client.Hears .control pkt attempt val ∧
      client.session.reading val = .confirms) ∧
    after.session.incoming = client.session.incoming

theorem CountsBeside.connected (beside : client.CountsBeside state)
    (connected : client.session.state = .connected) : state.session.state = .connected := by
  rw [beside]
  exact connected

theorem CountsBeside.again {next : TunnellingClient} (beside : client.CountsBeside state)
    (connected : client.session.state = .connected)
    (again : heartbeatPass pkt state attempt = .again next) :
    client.CountsBeside next ∧ ∀ val, client.Hears .control pkt attempt val →
      client.session.reading val = .misnumbered := by
  have beats := heartbeatPass_beats (beside.connected connected) pkt attempt
  rw [again] at beats
  cases beats with
  | strayed strays misnumbered =>
    refine ⟨beside, fun val hears => ?_⟩
    rw [← beside.reading]
    exact misnumbered val ((beside.hears_iff val).mpr hears)
  | missed silent =>
    refine ⟨beside.trans rfl, fun val hears => ?_⟩
    exact absurd ((beside.hears_iff val).mpr hears) (silent val)

/-- A heartbeat keeps its promise exactly when nothing it hears while it waits is accepted by the
session without being the answer. -/
theorem heartbeat_truthful_iff (client after : TunnellingClient) (stopRequested : Bool)
    (pkt : Octets) (attempts rest : List Attempt) (result : Expected Unit)
    (prepared : client.prepareHeartbeat stopRequested = .ok pkt)
    (returned : client.heartbeat stopRequested attempts = some (after, result, rest)) :
    ∃ used, attempts = used ++ rest ∧
      (client.Truthful pkt used after result ↔
        ∀ attempt ∈ used, ∀ val, client.Hears .control pkt attempt val →
          client.session.reading val ≠ .intrudes) := by
  have connected := prepareHeartbeat_connected prepared
  unfold heartbeat retryHeartbeat at returned
  rw [prepared] at returned
  have goesOn : ∀ state attempt next, client.CountsBeside state →
      heartbeatPass pkt state attempt = .again next →
      client.CountsBeside next ∧ ∀ val, client.Hears .control pkt attempt val →
        client.session.reading val = .misnumbered :=
    fun _ _ _ beside again => beside.again connected again
  obtain ⟨earlier, attempt, last, whole, passed, beside, done⟩ :=
    loop_ends goesOn (.refl client) returned
  have same : last.session.incoming = client.session.incoming := by
    rw [beside]
    rfl
  have heard : ∀ read, (∀ val, client.Hears .control pkt attempt val →
        client.session.reading val = read) →
      ∀ heard ∈ earlier ++ [attempt], ∀ val, client.Hears .control pkt heard val →
        client.session.reading val = .misnumbered ∨ client.session.reading val = read := by
    intro read final heard present val hears
    rcases List.mem_append.mp present with before | ending
    · exact .inl (passed heard before val hears)
    · obtain rfl := List.mem_singleton.mp ending
      exact .inr (final val hears)
  refine ⟨earlier ++ [attempt], by rw [whole, List.append_assoc]; rfl, ?_⟩
  have beats := heartbeatPass_beats (beside.connected connected) pkt attempt
  rw [done] at beats
  cases beats with
  | answered hears confirms unchanged =>
    rw [beside.hears_iff] at hears
    rw [beside.reading] at confirms
    have only := heard .confirms (fun other hears' => by rw [hears'.2.unique hears.2, confirms])
    refine iff_of_true ⟨fun _ => ⟨attempt, by simp, _, hears, confirms⟩,
      unchanged.trans same⟩ (fun attempt' present other hears' intrudes => ?_)
    rcases only attempt' present other hears' with read | read <;> cases intrudes.symm.trans read
  | misled hears intrudes =>
    rw [beside.hears_iff] at hears
    rw [beside.reading] at intrudes
    have only := heard .intrudes (fun other hears' => by rw [hears'.2.unique hears.2, intrudes])
    refine iff_of_false ?_ (fun clean => clean attempt (by simp) _ hears intrudes)
    rintro ⟨answered, -⟩
    obtain ⟨attempt', present, other, hears', confirms⟩ := answered rfl
    rcases only attempt' present other hears' with read | read <;> cases confirms.symm.trans read
  | failed unchanged unusable =>
    have only := heard .unusable (fun other hears' => by
      rw [← beside.reading]
      exact unusable other ((beside.hears_iff other).mpr hears'))
    refine iff_of_true ⟨nofun, unchanged.trans same⟩
      (fun attempt' present other hears' intrudes => ?_)
    rcases only attempt' present other hears' with read | read <;> cases intrudes.symm.trans read

def heartbeatAttempt (octets : Octets) : Attempt := ⟨false, .ok 16, .ok (samplePeer, octets), 7⟩

def answeredHeartbeat : List Attempt :=
  [⟨false, .ok 16, refuse .timeout, 5⟩,
    heartbeatAttempt [0x06, 0x10, 0x02, 0x08, 0x00, 0x08, 0x09, 0x00],
    heartbeatAttempt [0x06, 0x10, 0x02, 0x08, 0x00, 0x08, 0x01, 0x00]]

theorem heartbeat_truthful_iff_answered :
    ∃ pkt after, sampleClient.prepareHeartbeat false = .ok pkt ∧
      sampleClient.heartbeat false answeredHeartbeat = some (after, .ok (), []) ∧
      ∃ used, answeredHeartbeat = used ++ [] ∧
        (sampleClient.Truthful pkt used after (.ok ()) ↔
          ∀ attempt ∈ used, ∀ val, sampleClient.Hears .control pkt attempt val →
            sampleClient.session.reading val ≠ .intrudes) := by
  refine ⟨_, _, rfl, rfl, ?_⟩
  exact heartbeat_truthful_iff sampleClient _ false _ answeredHeartbeat [] (.ok ()) rfl rfl

/-- A TUNNELLING_REQUEST of the server is taken for the answer, and counted as received. -/
theorem request_ends_heartbeat :
    ∃ pkt after, sampleClient.prepareHeartbeat false = .ok pkt ∧
      sampleClient.heartbeat false
          [heartbeatAttempt ([0x06, 0x10, 0x04, 0x20, 0x00, 0x15, 0x04, 0x01, 0x00, 0x00] ++
            sampleWrite 0x29)] = some (after, .ok (), []) ∧
      sampleClient.session.incoming = (false, 0, 0) ∧ after.session.incoming = (true, 0, 1) ∧
      ¬ sampleClient.Truthful pkt
        [heartbeatAttempt ([0x06, 0x10, 0x04, 0x20, 0x00, 0x15, 0x04, 0x01, 0x00, 0x00] ++
            sampleWrite 0x29)] after (.ok ()) := by
  refine ⟨_, { sampleClient with session := { sampleClient.session with
      lastActivityMs := 7
      incomingSequenceValid := true
      nextIncomingSequence := 1 } }, rfl, by decide +kernel, rfl, rfl, ?_⟩
  rintro ⟨-, same⟩
  cases same

end TunnellingClient

end KmxAio.Knx
