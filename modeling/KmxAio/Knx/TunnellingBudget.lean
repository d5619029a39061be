import KmxAio.Knx.TunnellingOperations

/-!
# The budget of a retransmission

A send and a heartbeat are loops that resend after a timeout, and every timeout
spends from a budget the session keeps. A datagram the session answers with a
sequence error makes the loop resend as well, and spends nothing. So the number of
requests on the wire is bounded exactly where no such datagram arrives.
-/

namespace KmxAio.Knx

open Lib.Run Lib.Wire Lib.Retry Knx.Frame Connection

/-! ## The retries a session has counted -/

namespace TunnellingSession

def Over (sess : TunnellingSession) : Prop := sess.state = .closed ∧ sess.pending = false

/-- A call that counts no retry: it keeps the count or clears it, and a session that is over stays
so. -/
structure Frugal (before after : TunnellingSession) : Prop where
  config : after.config = before.config
  retries : after.retries = before.retries ∨ after.retries = 0
  done : before.Over → after.Over

theorem Frugal.refl (sess : TunnellingSession) : sess.Frugal sess :=
  ⟨rfl, .inl rfl, id⟩

theorem Frugal.trans {first second third : TunnellingSession} (one : first.Frugal second)
    (other : second.Frugal third) : first.Frugal third where
  config := other.config.trans one.config
  retries := by
    rcases other.retries with same | zero
    · exact one.retries.imp same.trans same.trans
    · exact .inr zero
  done := other.done ∘ one.done

variable {sess : TunnellingSession}

variable {after : TunnellingSession}

/-- A call refused in a session that is over, and one that touches neither the configuration nor the
count of retries elsewhere, is frugal. -/
theorem frugal_of_active (config : after.config = sess.config)
    (retries : after.retries = sess.retries ∨ after.retries = 0) (active : ¬ sess.Over) :
    sess.Frugal after :=
  ⟨config, retries, fun past => absurd past active⟩

theorem not_over_of_state {state : SessionState} (current : sess.state = state)
    (open' : state ≠ .closed) : ¬ sess.Over := by
  rintro ⟨closed, -⟩
  exact open' (current.symm.trans closed)

theorem failHeartbeat_frugal (active : ¬ sess.Over) : sess.Frugal sess.failHeartbeat.1 := by
  obtain ⟨failures, -, ⟨-, closed⟩ | ⟨-, counted⟩⟩ := sess.failHeartbeat_cases
  · rw [closed]
    exact frugal_of_active rfl (.inl rfl) active
  · rw [counted]
    exact frugal_of_active rfl (.inl rfl) active

/-- A session that still takes requests has counted no more retries than it may. -/
def Budgeted (sess : TunnellingSession) : Prop :=
  sess.Over ∨ sess.retries.toNat ≤ sess.config.maxRetries.toNat

theorem Frugal.budgeted (frugal : sess.Frugal after) (budgeted : sess.Budgeted) :
    after.Budgeted := by
  rcases budgeted with past | within
  · exact .inl (frugal.done past)
  · refine .inr ?_
    rw [frugal.config]
    rcases frugal.retries with same | zero
    · rw [same]
      exact within
    · rw [zero]
      exact Nat.zero_le _

/-- Only a timeout counts a retry, and it gives the request up where it may not. -/
theorem Transition.frugal_or_budgeted {noted : Option UInt32} {news : HeartbeatNews}
    (change : sess.Transition noted news after) : sess.Frugal after ∨ after.Budgeted := by
  induction change with
  | kept | sentBefore => exact .inl (.refl _)
  | shutdown | inactive => exact .inl ⟨rfl, .inl rfl, fun _ => ⟨rfl, rfl⟩⟩
  | ruled | unheard | sent => exact .inl ⟨rfl, .inl rfl, id⟩
  | prepared pkt idle | connecting pkt endpoint deadlineMs idle =>
    exact .inl (frugal_of_active rfl (.inl rfl) (not_over_of_state idle (by decide)))
  | connectRetried connecting | connectGivenUp connecting | abandoned connecting =>
    exact .inl (frugal_of_active rfl (.inl rfl) (not_over_of_state connecting (by decide)))
  | established chan assignedAddress waiting =>
    refine .inl (frugal_of_active rfl (.inr rfl) ?_)
    rcases waiting with idle | connecting
    · exact not_over_of_state idle (by decide)
    · exact not_over_of_state connecting (by decide)
  | numbered chan seq stream ready
  | requested chan seq pkt deadlineMs datagrams ready =>
    exact .inl (frugal_of_active rfl (.inl rfl) (fun past => ready.opened past.1))
  | acknowledged pending =>
    refine .inl (frugal_of_active rfl (.inr rfl) (fun past => ?_))
    exact absurd past.2 (by simp [pending])
  | retried pending deadlineMs within => exact .inr (.inr within)
  | givenUp => exact .inr (.inl ⟨rfl, rfl⟩)
  | confirmed connected | indicated seq connected =>
    exact .inl (frugal_of_active rfl (.inl rfl) (not_over_of_state connected (by decide)))
  | failed connected =>
    have active := not_over_of_state connected (by decide)
    have answered : sess.Frugal { sess with heartbeatOutstanding := false } :=
      frugal_of_active rfl (.inl rfl) active
    exact .inl (answered.trans (failHeartbeat_frugal active))
  | timedOut connected =>
    exact .inl (failHeartbeat_frugal (not_over_of_state connected (by decide)))
  | closing disconnectRetries established =>
    refine .inl (frugal_of_active rfl (.inl rfl) ?_)
    rcases established with connected | closing
    · exact not_over_of_state connected (by decide)
    · exact not_over_of_state closing (by decide)
  | disconnectGivenUp closing =>
    exact .inl (frugal_of_active rfl (.inl rfl) (not_over_of_state closing (by decide)))
  | active nowMs change earlier =>
    exact earlier.imp (fun frugal => ⟨frugal.config, frugal.retries, frugal.done⟩) id

theorem operate_budgeted (sess : TunnellingSession) (op : SessionOperation)
    (budgeted : sess.Budgeted) : (sess.operate op).Budgeted := by
  by_cases reset : op = .reset
  · rw [reset]
    exact .inr (Nat.zero_le _)
  · rcases (operate_transition reset).frugal_or_budgeted with frugal | budgeted'
    · exact frugal.budgeted budgeted
    · exact budgeted'

def Reached (sess : TunnellingSession) : Prop :=
  ∃ config stream operations, sess = run operate { config := config, stream := stream } operations

theorem Reached.budgeted (reached : sess.Reached) : sess.Budgeted := by
  obtain ⟨config, stream, operations, rfl⟩ := reached
  have initially : ({ config := config, stream := stream } : TunnellingSession).Budgeted :=
    .inr (Nat.zero_le _)
  exact invariant_run (fun state op holds _ => operate_budgeted state op holds) initially
    (admissible_of_events (fun _ _ => trivial))

/-! ## What a waiting session makes of a datagram -/

def waitingReading (sess : TunnellingSession) (val : Datagram) : Reading :=
  match val.payload with
  | .tunnellingAck ack =>
    if val.serviceType ≠ tunnellingAckService then .unusable else sess.readAck ack
  | _ => .unusable

theorem onDatagram_waitingReads (waiting : sess.Waiting) (val : Datagram) :
    sess.Reads (sess.onDatagram val) (sess.waitingReading val) := by
  obtain ⟨service, payload⟩ := val
  by_cases acknowledgement : ∃ ack, payload = .tunnellingAck ack
  · obtain ⟨ack, rfl⟩ := acknowledgement
    exact underService_reads (onAckFrame_reads ack)
  · have other : ∀ ack, payload ≠ .tunnellingAck ack := not_exists.mp acknowledgement
    have unusable : sess.waitingReading ⟨service, payload⟩ = .unusable := by
      unfold waitingReading
      split
      · rename_i ack same
        exact absurd same (other ack)
      · rfl
    obtain ⟨why, rejected, num, time⟩ := onDatagram_waiting_other waiting other
    rw [unusable, rejected]
    exact reads_refuse why num time

end TunnellingSession

namespace TunnellingClient

open TunnellingSession

/-! ## What goes on the wire -/

def transmits (kind : EndpointKind) (client : TunnellingClient) (attempt : Attempt) : Bool :=
  !attempt.stopRequested && client.configuredPeerValid &&
    decide (0 < (client.expectedPeer kind).length ∧
      (client.expectedPeer kind).length ≤ socketStorageSize ∧
      (kind = .data → client.dataPeerValid = true))

def requestsSent (client : TunnellingClient) (pkt : Octets) (attempts : List Attempt) : Nat :=
  countPasses (requestPass pkt) (transmits .data) client attempts

def heartbeatsSent (client : TunnellingClient) (pkt : Octets) (attempts : List Attempt) : Nat :=
  countPasses (heartbeatPass pkt) (transmits .control) client attempts

variable {client : TunnellingClient} {kind : EndpointKind} {pkt : Octets} {attempt : Attempt}

theorem transmits_of_listens (listens : client.Listens kind pkt attempt) :
    client.transmits kind attempt = true := by
  obtain ⟨going, sent⟩ := listens
  unfold sendPacket at sent
  dsimp only at sent
  split at sent
  · cases sent
  rename_i usable
  simp only [not_or, not_and, Bool.not_eq_false, Nat.not_lt] at usable
  obtain ⟨configured, nonzero, bounded, valid⟩ := usable
  unfold transmits
  simp only [going, configured, Bool.not_false, Bool.true_and, decide_eq_true_eq]
  exact ⟨Nat.pos_of_ne_zero nonzero, bounded, valid⟩

theorem takesAs_waiting (waiting : client.session.Waiting) :
    client.TakesAs .data attempt client.session.waitingReading := by
  intro val readable
  refine receiveIntoSession_reads ?_
    (dispatchSessionDatagram_reads (onDatagram_waitingReads waiting val) attempt.nowMs) readable
  intro usable
  obtain ⟨service, payload⟩ := val
  cases payload with
  | tunnellingAck ack => rfl
  | _ => exact absurd rfl usable

theorem receiveIntoSession_strays {reading : Datagram → Reading}
    (takes : client.TakesAs kind attempt reading)
    (strays : client.Strays kind pkt reading attempt) :
    client.Listens kind pkt attempt ∧
      client.receiveIntoSession kind attempt.received attempt.nowMs =
        (client, refuse .sequenceError) := by
  rcases strays with ⟨listens, reported⟩ | ⟨val, ⟨listens, readable⟩, misnumbered⟩
  · rw [reported]
    exact ⟨listens, rfl⟩
  · obtain ⟨read, kept⟩ := takes val readable
    rw [misnumbered] at read
    have answer := read
    exact ⟨listens, Prod.ext (kept misnumbered) (Prod.mk.inj answer).2⟩

/-- A client that differs from a waiting one in its retries and its deadline at most. -/
def RetriesBeside (client state : TunnellingClient) : Prop :=
  state = { client with
    session := { client.session with
      retries := state.session.retries
      lastDeadlineMs := state.session.lastDeadlineMs } }

theorem requestPass_again {next : TunnellingClient} (waiting : client.session.Waiting)
    (clean : ¬ client.Strays .data pkt client.session.waitingReading attempt)
    (again : requestPass pkt client attempt = .again next) :
    client.RetriesBeside next ∧ next.session.retries = client.session.retries + 1 ∧
      next.session.retries.toNat ≤ client.session.config.maxRetries.toNat := by
  unfold requestPass at again
  split at again
  · cases again
  rename_i going
  split at again
  · cases again
  rename_i sent
  have listens : client.Listens .data pkt attempt := ⟨by simpa using going, sent⟩
  have received := receiveIntoSession_receives (takesAs_waiting waiting) listens
  generalize client.receiveIntoSession .data attempt.received attempt.nowMs = call
    at again received
  cases received with
  | confirmed | intruded => cases again
  | strayed strays => exact absurd strays clean
  | failed same num time =>
    dsimp only at again
    rw [if_neg num, if_pos time] at again
    cases again
  | late =>
    dsimp only [refuse] at again
    rcases client.session.onTimeout_cases with ⟨free, -⟩ | ⟨-, gaveUp | ⟨within, retried⟩⟩
    · cases waiting.1.symm.trans free
    · rw [gaveUp] at again
      cases again
    · rw [retried, ← waiting.2] at again
      cases again
      exact ⟨rfl, rfl, within⟩

/-! ## The two bounds -/

theorem requestsSent_le {attempts : List Attempt} (waiting : client.session.Waiting)
    (within : client.session.retries.toNat ≤ client.session.config.maxRetries.toNat)
    (clean : ∀ attempt ∈ attempts,
      ¬ client.Strays .data pkt client.session.waitingReading attempt) :
    client.requestsSent pkt attempts ≤ client.session.config.maxRetries.toNat + 1 := by
  have spends : ∀ state attempt next, client.RetriesBeside state ∧
        state.session.retries.toNat ≤ client.session.config.maxRetries.toNat →
      ¬ client.Strays .data pkt client.session.waitingReading attempt →
      requestPass pkt state attempt = .again next →
      (client.RetriesBeside next ∧
          next.session.retries.toNat ≤ client.session.config.maxRetries.toNat) ∧
        client.session.config.maxRetries.toNat - next.session.retries.toNat <
          client.session.config.maxRetries.toNat - state.session.retries.toNat := by
    rintro state attempt next ⟨beside, kept⟩ calm again
    have stillWaiting : state.session.Waiting := by
      rw [beside]
      exact waiting
    have undisturbed : ¬ state.Strays .data pkt state.session.waitingReading attempt := by
      rw [beside]
      exact calm
    have sameBudget : state.session.config = client.session.config := by rw [beside]
    obtain ⟨further, counted, allowed⟩ := requestPass_again stillWaiting undisturbed again
    rw [sameBudget] at allowed
    have small := client.session.config.maxRetries.toNat_lt
    have spent : next.session.retries.toNat = state.session.retries.toNat + 1 := by
      rw [counted, UInt32.toNat_add, UInt32.toNat_one, Nat.mod_eq_of_lt (by omega)]
    refine ⟨⟨?_, allowed⟩, by omega⟩
    unfold RetriesBeside at *
    rw [further, beside]
  have bound := @countPasses_le _ _ _ (requestPass pkt) (transmits .data) client attempts _ _ _
    spends ⟨rfl, within⟩ clean
  unfold requestsSent
  omega

theorem heartbeatsSent_le {attempts : List Attempt} (connected : client.session.state = .connected)
    (clean : ∀ attempt ∈ attempts, ¬ client.Strays .control pkt client.session.reading attempt) :
    client.heartbeatsSent pkt attempts ≤
      max client.session.config.heartbeatFailureLimit.toNat 1 := by
  have spends : ∀ state attempt next, client.CountsBeside state →
      ¬ client.Strays .control pkt client.session.reading attempt →
      heartbeatPass pkt state attempt = .again next →
      client.CountsBeside next ∧
        client.session.config.heartbeatFailureLimit.toNat - 1 -
            next.session.heartbeatFailures.toNat <
          client.session.config.heartbeatFailureLimit.toNat - 1 -
            state.session.heartbeatFailures.toNat := by
    intro state attempt next beside calm again
    have undisturbed : ¬ state.Strays .control pkt state.session.reading attempt := by
      rw [beside]
      exact calm
    have sameBudget : state.session.config = client.session.config := by rw [beside]
    have beats := heartbeatPass_beats (beside.connected connected) pkt attempt
    rw [again] at beats
    cases beats with
    | strayed strays => exact absurd strays undisturbed
    | missed silent counted below =>
      rw [sameBudget] at below
      have octet := client.session.config.heartbeatFailureLimit.toNat_lt
      refine ⟨beside.trans rfl, ?_⟩
      dsimp only
      omega
  have bound := @countPasses_le _ _ _ (heartbeatPass pkt) (transmits .control) client attempts
    _ _ _ spends (.refl client) clean
  unfold heartbeatsSent
  omega

/-- Both loops keep to their budget, whatever comes, exactly when nothing out of place can come: no
transport that reports a sequence error, and no datagram that the session answers with one. -/
theorem retransmissions_bounded_iff (allowed : Attempt → Prop) :
    (∀ (client waiting : TunnellingClient) (cemiBytes pkt : Octets) (stopRequested : Bool)
      (nowMs : UInt32), client.session.Reached → client.session.stream = false →
      client.prepareSend cemiBytes stopRequested nowMs = (waiting, .ok pkt) →
      ((∀ attempts, (∀ attempt ∈ attempts, allowed attempt) →
          waiting.requestsSent pkt attempts ≤ client.session.config.maxRetries.toNat + 1) ↔
        ∀ attempt, allowed attempt →
          ¬ waiting.Strays .data pkt waiting.session.waitingReading attempt)) ∧
      ∀ (client : TunnellingClient) (pkt : Octets) (stopRequested : Bool),
        client.prepareHeartbeat stopRequested = .ok pkt →
        ((∀ attempts, (∀ attempt ∈ attempts, allowed attempt) →
            client.heartbeatsSent pkt attempts ≤
              max client.session.config.heartbeatFailureLimit.toNat 1) ↔
          ∀ attempt, allowed attempt →
            ¬ client.Strays .control pkt client.session.reading attempt) := by
  constructor
  · intro client waiting cemiBytes pkt stopRequested nowMs reached datagrams prepared
    obtain ⟨requested, -⟩ := prepareSend_ok prepared
    obtain ⟨outstanding, config⟩ := prepareRequestPacket_waiting datagrams requested
    have budgeted := operate_budgeted client.session (.prepareRequestPacket maxDatagramSize
      client.session.channelId.toUInt8 cemiBytes (nowMs + client.session.config.ackTimeoutMs))
      reached.budgeted
    rw [operate, requested] at budgeted
    have within : waiting.session.retries.toNat ≤ waiting.session.config.maxRetries.toNat := by
      rcases budgeted with ⟨closed, -⟩ | within
      · cases outstanding.2.symm.trans closed
      · exact within
    rw [← config]
    constructor
    · intro bounded attempt comes strays
      obtain ⟨listens, answered⟩ := receiveIntoSession_strays (takesAs_waiting outstanding) strays
      refine changes_of_bounded bounded comes (transmits_of_listens listens) ?_
      unfold requestPass
      rw [if_neg (by simp [listens.1]), listens.2]
      rw [answered]
      exact if_pos rfl
    · intro clean attempts comes
      exact requestsSent_le outstanding within
        (fun attempt present => clean attempt (comes attempt present))
  · intro client pkt stopRequested prepared
    have connected := prepareHeartbeat_connected prepared
    constructor
    · intro bounded attempt comes strays
      obtain ⟨listens, answered⟩ := receiveIntoSession_strays (takesAs_connected connected) strays
      refine changes_of_bounded bounded comes (transmits_of_listens listens) ?_
      unfold heartbeatPass
      rw [if_neg (by simp [listens.1]), listens.2]
      rw [answered]
      exact if_pos rfl
    · intro clean attempts comes
      exact heartbeatsSent_le connected
        (fun attempt present => clean attempt (comes attempt present))

theorem sampleClient_reached : sampleClient.session.Reached :=
  ⟨{}, false, [.onDatagram ⟨connectResponseService,
    .connectResponse ⟨1, .noError, Hpai.default, 0⟩⟩], rfl⟩

def silentAttempt (size : Nat) : Attempt := ⟨false, .ok size, refuse .timeout, 5⟩

/-- However long nothing arrives, the request goes out three times at most. -/
theorem retransmissions_bounded_iff_silent :
    sampleClient.session.Reached ∧
      ∃ waiting pkt, sampleClient.prepareSend (sampleWrite 0x11) false 0 =
          (waiting, .ok pkt) ∧
        (∀ attempts, (∀ attempt ∈ attempts, attempt = silentAttempt 21) →
          waiting.requestsSent pkt attempts ≤ 3) := by
  refine ⟨sampleClient_reached, _, _, rfl, ?_⟩
  refine ((retransmissions_bounded_iff (· = silentAttempt 21)).1 sampleClient _ (sampleWrite 0x11) _
    false 0 sampleClient_reached rfl rfl).mpr ?_
  rintro attempt rfl (⟨-, reported⟩ | ⟨val, ⟨-, peer, octets, received, -⟩, -⟩)
  · cases reported
  · cases received

/-- An acknowledgement of another request, and an answer for another channel, make the client send
without end. -/
theorem stray_datagrams_resend :
    sampleClient.session.config.maxRetries = 2 ∧
      sampleClient.session.config.heartbeatFailureLimit = 3 ∧
      (∃ waiting pkt, sampleClient.prepareSend (sampleWrite 0x11) false 0 =
          (waiting, .ok pkt) ∧
        waiting.requestsSent pkt (List.replicate 4 (sampleAttempt
          [0x06, 0x10, 0x04, 0x21, 0x00, 0x0A, 0x04, 0x01, 0x09, 0x00])) = 4) ∧
      ∃ pkt, sampleClient.prepareHeartbeat false = .ok pkt ∧
        sampleClient.heartbeatsSent pkt (List.replicate 4 (heartbeatAttempt
          [0x06, 0x10, 0x02, 0x08, 0x00, 0x08, 0x09, 0x00])) = 4 := by
  refine ⟨rfl, rfl, ⟨_, _, rfl, ?_⟩, _, rfl, ?_⟩
  · decide +kernel
  · decide +kernel

end TunnellingClient

end KmxAio.Knx
