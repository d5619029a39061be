import KmxAio.Knx.TunnellingOperations

/-!
# The sessions that can be reached

What holds of a tunnelling session after any sequence of its public operations. The
request that is outstanding is the one the retained octets encode, so a retry resends
them as they were; but a request that is begun by its numbers alone hands no octets
over, and there is nothing to resend.
-/

namespace KmxAio.Knx

open Lib.Run Lib.Wire Knx.Frame Connection

namespace TunnellingSession

structure Consistent (sess : TunnellingSession) : Prop where
  waiting : sess.pending = true ↔ sess.state = .waitingAck
  numbers : sess.pending = true → ValidNumbers sess.channelId sess.expectedSequence
  following : sess.pending = true → sess.nextSequence = sess.expectedSequence.toUInt8 + 1
  retained : sess.pending = true →
    sess.requestPacket = [] ∨ EncodedRequest sess.channelId sess.expectedSequence sess.requestPacket
  released : sess.pending = false → sess.requestPacket = []
  budget : sess.retries = 0 ∨ sess.pending = true ∨ sess.state = .closed

variable {sess before after : TunnellingSession} {noted : Option UInt32} {news : HeartbeatNews}

theorem consistent_fresh (config : TunnellingConfig) (stream : Bool) :
    Consistent { config := config, stream := stream } where
  waiting := by simp
  numbers := by simp
  following := by simp
  retained := by simp
  released := fun _ => rfl
  budget := .inl rfl

theorem Consistent.of_same (consistent : before.Consistent)
    (state : after.state = before.state) (pending : after.pending = before.pending)
    (retries : after.retries = before.retries) (chan : after.channelId = before.channelId)
    (expected : after.expectedSequence = before.expectedSequence)
    (next : after.nextSequence = before.nextSequence)
    (pkt : after.requestPacket = before.requestPacket) : after.Consistent where
  waiting := by rw [state, pending]; exact consistent.waiting
  numbers := by rw [pending, chan, expected]; exact consistent.numbers
  following := by rw [pending, expected, next]; exact consistent.following
  retained := by rw [pending, chan, expected, pkt]; exact consistent.retained
  released := by rw [pending, pkt]; exact consistent.released
  budget := by rw [retries, pending, state]; exact consistent.budget

theorem consistent_of_free (free : after.pending = false) (state : after.state ≠ .waitingAck)
    (released : after.requestPacket = []) (budget : after.retries = 0 ∨ after.state = .closed) :
    after.Consistent where
  waiting := by simp [free, state]
  numbers := by simp [free]
  following := by simp [free]
  retained := by simp [free]
  released := fun _ => released
  budget := budget.imp_right .inr

theorem Consistent.free (consistent : sess.Consistent) (state : sess.state ≠ .waitingAck) :
    sess.pending = false :=
  Bool.eq_false_iff.mpr (state ∘ consistent.waiting.mp)

theorem Consistent.unspent (consistent : sess.Consistent) (free : sess.pending = false)
    (opened : sess.state ≠ .closed) : sess.retries = 0 := by
  rcases consistent.budget with zero | pending | closed
  · exact zero
  · exact absurd pending (by simp [free])
  · exact absurd closed opened

theorem Consistent.moved (consistent : before.Consistent) (source : before.state ≠ .waitingAck)
    (target : after.state ≠ .waitingAck) (pending : after.pending = before.pending)
    (pkt : after.requestPacket = before.requestPacket)
    (budget : after.retries = 0 ∨ after.state = .closed) : after.Consistent :=
  have free := consistent.free source
  consistent_of_free (pending.trans free) target (pkt.trans (consistent.released free)) budget

theorem failHeartbeat_consistent (consistent : sess.Consistent)
    (connected : sess.state = .connected) : Consistent sess.failHeartbeat.1 := by
  have source : sess.state ≠ .waitingAck := by simp [connected]
  have zero := consistent.unspent (consistent.free source) (by simp [connected])
  obtain ⟨failures, -, ⟨-, closed⟩ | ⟨-, counted⟩⟩ := sess.failHeartbeat_cases
  · rw [closed]
    exact consistent.moved source (by simp) rfl rfl (.inr rfl)
  · rw [counted]
    exact consistent.moved source source rfl rfl (.inl zero)

theorem Transition.consistent (change : before.Transition noted news after)
    (consistent : before.Consistent) : after.Consistent := by
  induction change with
  | kept | sentBefore outstanding => exact consistent
  | shutdown => exact consistent_of_free rfl (by simp [TunnellingSession.shutdown]) rfl (.inr rfl)
  | ruled stream | prepared pkt idle | connectRetried connecting deadlineMs
  | confirmed connected | sent deadlineMs clear | indicated seq connected
  | unheard news outstanding elsewhere flag => exact consistent.of_same rfl rfl rfl rfl rfl rfl rfl
  | connecting pkt endpoint deadlineMs idle =>
    have source : before.state ≠ .waitingAck := by simp [idle]
    exact consistent.moved source (by simp) rfl rfl
      (.inl (consistent.unspent (consistent.free source) (by simp [idle])))
  | connectGivenUp connecting =>
    exact consistent.moved (by simp [connecting]) (by simp) rfl rfl (.inr rfl)
  | abandoned connecting =>
    have source : before.state ≠ .waitingAck := by simp [connecting]
    exact consistent.moved source (by simp) rfl rfl
      (.inl (consistent.unspent (consistent.free source) (by simp [connecting])))
  | established chan assignedAddress waiting named =>
    have source : before.state ≠ .waitingAck := by
      rcases waiting with state | state <;> simp [state]
    exact consistent_of_free rfl (by simp) (consistent.released (consistent.free source))
      (.inl rfl)
  | numbered chan seq stream ready valid =>
    have source : before.state ≠ .waitingAck := fun state =>
      absurd (consistent.waiting.mpr state) (by simp [ready.free])
    exact consistent.moved source source rfl rfl
      (.inl (consistent.unspent ready.free ready.opened))
  | requested chan seq pkt deadlineMs datagrams ready valid retained =>
    refine ⟨by simp, fun _ => valid, fun _ => rfl, fun _ => ?_, by simp, .inr (.inl rfl)⟩
    exact retained.imp_left (fun kept => kept.trans (consistent.released ready.free))
  | acknowledged pending => exact consistent_of_free rfl (by simp) rfl (.inl rfl)
  | retried pending deadlineMs within =>
    exact ⟨by simp [pending], consistent.numbers, consistent.following, consistent.retained,
      consistent.released, .inr (.inl pending)⟩
  | givenUp pending => exact consistent_of_free rfl (by simp) rfl (.inr rfl)
  | failed connected =>
    exact failHeartbeat_consistent (consistent.of_same rfl rfl rfl rfl rfl rfl rfl) connected
  | timedOut connected => exact failHeartbeat_consistent consistent connected
  | closing disconnectRetries established =>
    have source : before.state ≠ .waitingAck := by
      rcases established with state | state <;> simp [state]
    have opened : before.state ≠ .closed := by
      rcases established with state | state <;> simp [state]
    exact consistent.moved source (by simp) rfl rfl
      (.inl (consistent.unspent (consistent.free source) opened))
  | disconnectGivenUp closing =>
    exact consistent.moved (by simp [closing]) (by simp) rfl rfl (.inr rfl)
  | inactive nowMs silent =>
    have connected : before.state = .connected := by
      simp only [TunnellingSession.inactive, Bool.and_eq_true, beq_iff_eq] at silent
      exact silent.1
    have source : before.state ≠ .waitingAck := by simp [connected]
    exact consistent_of_free rfl (by simp) (consistent.released (consistent.free source))
      (.inr rfl)
  | active nowMs change ih => exact ih.of_same rfl rfl rfl rfl rfl rfl rfl

theorem operate_consistent (consistent : sess.Consistent) (op : SessionOperation) :
    (sess.operate op).Consistent := by
  by_cases reset : op = .reset
  · subst reset
    exact consistent_fresh sess.config sess.stream
  · exact (operate_transition reset).consistent consistent

/-! ## What a step cannot do -/

theorem failHeartbeat_fst_frame (sess : TunnellingSession) :
    sess.failHeartbeat.1.pending = sess.pending ∧
      sess.failHeartbeat.1.requestPacket = sess.requestPacket ∧
      sess.failHeartbeat.1.heartbeatOutstanding = sess.heartbeatOutstanding := by
  obtain ⟨failures, -, ⟨-, closed⟩ | ⟨-, counted⟩⟩ := sess.failHeartbeat_cases
  · rw [closed]
    exact ⟨rfl, rfl, rfl⟩
  · rw [counted]
    exact ⟨rfl, rfl, rfl⟩

theorem Transition.packet_kept (change : before.Transition noted news after)
    (pending : before.pending = true) (still : after.pending = true) :
    after.requestPacket = before.requestPacket := by
  induction change with
  | shutdown | acknowledged _ | givenUp _ => cases still
  | numbered chan seq stream ready valid
  | requested chan seq pkt deadlineMs datagrams ready valid retained =>
    exact absurd pending (by simp [ready.free])
  | failed connected | timedOut connected => exact (failHeartbeat_fst_frame _).2.1
  | active nowMs change ih => exact ih still
  | _ => rfl

theorem Transition.starts_unspent (change : before.Transition noted news after)
    (consistent : before.Consistent) (free : before.pending = false)
    (started : after.pending = true) : after.retries = 0 := by
  induction change with
  | requested chan seq pkt deadlineMs datagrams ready valid retained =>
    exact consistent.unspent ready.free ready.opened
  | failed connected | timedOut connected =>
    exact absurd ((failHeartbeat_fst_frame _).1.symm.trans started) (by simp [free])
  | active nowMs change ih => exact ih started
  | shutdown | established chan assignedAddress waiting named
  | acknowledged _ | givenUp _ | inactive nowMs silent => cases started
  | _ => exact absurd started (by simp [free])

theorem Transition.stays_closed (change : before.Transition noted news after)
    (consistent : before.Consistent) (closed : before.state = .closed) : after.state = .closed := by
  have free := consistent.free (by simp [closed])
  induction change with
  | shutdown | connectGivenUp _ | givenUp _ | disconnectGivenUp _ | inactive nowMs silent => rfl
  | connecting pkt endpoint deadlineMs idle => exact absurd idle (by simp [closed])
  | abandoned connecting => exact absurd connecting (by simp [closed])
  | established chan assignedAddress waiting named =>
    rcases waiting with state | state <;> exact absurd state (by simp [closed])
  | requested chan seq pkt deadlineMs datagrams ready valid retained =>
    exact absurd closed ready.opened
  | acknowledged pending | retried pending deadlineMs within =>
    exact absurd pending (by simp [free])
  | failed connected | timedOut connected => exact absurd connected (by simp [closed])
  | closing disconnectRetries established =>
    rcases established with state | state <;> exact absurd state (by simp [closed])
  | active nowMs change ih => exact ih
  | _ => exact closed

/-! ## Retries -/

/-- A request is outstanding after each of the operations. -/
def StaysPending (sess : TunnellingSession) (operations : List SessionOperation) : Prop :=
  Admissible operate (fun sess op => (sess.operate op).pending = true) sess
    operations

/-- As long as the request stays outstanding these octets are retained, and a retry resends them,
if there are any. -/
def Resends (sess : TunnellingSession) (pkt : Octets) : Prop :=
  ∀ later, sess.StaysPending later →
    (run operate sess later).requestPacket = pkt ∧
      ∀ room retry, (run operate sess later).prepareRetryPacket room = .ok retry →
        retry = pkt ∧ pkt ≠ []

theorem resends_retained (pending : sess.pending = true) :
    sess.Resends sess.requestPacket := by
  intro later throughout
  have kept : (run operate sess later).requestPacket = sess.requestPacket := by
    induction later generalizing sess with
    | nil => rfl
    | cons op rest ih =>
      obtain ⟨still, after⟩ := throughout
      refine (ih still after).trans ?_
      by_cases reset : op = .reset
      · subst reset
        cases still
      · exact (operate_transition reset).packet_kept pending still
  refine ⟨kept, fun room retry prepared => ?_⟩
  rw [← kept]
  unfold prepareRetryPacket at prepared
  split_ifs at prepared with unavailable short
  · cases prepared
  · cases prepared
  · cases prepared
    exact ⟨rfl, fun empty => unavailable (.inr (.inr empty))⟩

/-- After any sequence of operations the fields fit together; a request that starts has spent no
retry; a closed session is left by a reset alone; and as long as a request is outstanding, what is
resent are the octets it was prepared with, and nothing for one begun by its numbers. -/
theorem session_reachable (config : TunnellingConfig) (stream : Bool)
    (operations : List SessionOperation) :
    let sess := run operate { config := config, stream := stream } operations
    sess.Consistent ∧
      (∀ op, sess.pending = false → (sess.operate op).pending = true →
        (sess.operate op).retries = 0) ∧
      (∀ op, sess.state = .closed → (sess.operate op).state ≠ .closed → op = .reset) ∧
      (∀ capacity chan cemiBytes deadlineMs started pkt, sess.stream = false →
        sess.prepareRequestPacket capacity chan cemiBytes deadlineMs =
          (started, .ok pkt) → started.pending = true ∧ started.Resends pkt) ∧
      ∀ chan seq deadlineMs started, sess.stream = false →
        sess.beginRequest chan seq deadlineMs = (started, .ok ()) →
          started.pending = true ∧ started.Resends [] := by
  intro sess
  have consistent : sess.Consistent :=
    invariant_run (fun _ op consistent _ => operate_consistent consistent op)
      (consistent_fresh config stream)
      (admissible_of_events (fun _ _ => trivial) : Admissible operate (fun _ _ => True) _ _)
  refine ⟨consistent, ?_, ?_, ?_, ?_⟩
  · intro op free started
    by_cases reset : op = .reset
    · subst reset
      rfl
    · exact (operate_transition reset).starts_unspent consistent free started
  · intro op closed left
    by_contra other
    exact left ((operate_transition other).stays_closed consistent closed)
  · intro capacity chan cemiBytes deadlineMs started pkt datagrams prepared
    obtain ⟨why, refused⟩ | ⟨octets, -, -, -, begins⟩ :=
      sess.prepareRequestPacket_begun capacity chan cemiBytes deadlineMs
    · rw [refused] at prepared
      cases prepared
    · rw [begins, TunnellingSession.begun, datagrams] at prepared
      cases prepared
      exact ⟨rfl, resends_retained rfl⟩
  · intro chan seq deadlineMs started datagrams begun
    obtain ⟨why, refused⟩ | ⟨ready, valid⟩ := sess.beginRequest_cases chan seq deadlineMs
    · rw [refused] at begun
      cases begun
    · rw [beginRequest_begun ready valid, TunnellingSession.begun, datagrams] at begun
      cases begun
      refine ⟨rfl, ?_⟩
      rw [← consistent.released ready.free]
      exact resends_retained rfl

def connectOctets : Octets :=
  [6, 16, 2, 5, 0, 26, 8, 1, 0, 0, 0, 0, 0, 0, 8, 1, 0, 0, 0, 0, 0, 0, 4, 4, 2, 0]

def connectFirst : List SessionOperation :=
  [.startConnectRaw connectOctets 1000, .onConnectResponse 1 .noError 0x1101]

def writeOctets : Octets :=
  [0x11, 0x00, 0xBC, 0xE0, 0x00, 0x00, 0x00, 0x01, 0x01, 0x00, 0x81]

/-- The write goes out, its acknowledgement is late, and the retry is the same octets; a session that
is shut down is left by a reset. -/
theorem lateWrite_reachable :
    (∃ started pkt, (run operate {} connectFirst).prepareRequestPacket 64 1 writeOctets 2000 =
        (started, .ok pkt) ∧ started.StaysPending [.onTimeout] ∧
      (run operate started [.onTimeout]).prepareRetryPacket 64 = .ok pkt ∧ pkt ≠ []) ∧
    (∃ started, (run operate {} connectFirst).beginRequest 1 0 2000 = (started, .ok ()) ∧
      started.retries = 0 ∧ started.Resends []) ∧
    (run operate {} (connectFirst ++ [.shutdown])).state = .closed ∧
    ((run operate {} (connectFirst ++ [.shutdown])).operate .reset).state ≠ .closed ∧
    ∀ op,
      ((run operate {} (connectFirst ++ [.shutdown])).operate op).state ≠ .closed →
        op = .reset := by
  obtain ⟨-, unspent, -, prepared, begun⟩ := session_reachable {} false connectFirst
  obtain ⟨-, -, closed, -, -⟩ := session_reachable {} false (connectFirst ++ [.shutdown])
  have pending : StaysPending (run operate {} (connectFirst ++
      [.prepareRequestPacket 64 1 writeOctets 2000])) [.onTimeout] := ⟨by decide, trivial⟩
  have resends := prepared 64 1 writeOctets 2000 _ _ rfl rfl
  refine ⟨⟨_, _, rfl, pending, rfl, (resends.2 _ pending).2 64 _ rfl |>.2⟩,
    ⟨_, rfl, ?_, ?_⟩, rfl, by decide,
    fun op left => closed op rfl left⟩
  · exact unspent (.beginRequest 1 0 2000) rfl rfl
  · exact (begun 1 0 2000 _ rfl rfl).2

/-- A request begun by its numbers is outstanding, and what is retained encodes none. -/
theorem begunRequest_unretained :
    let sess := run operate {} (connectFirst ++ [.beginRequest 1 0 2000])
    sess.stream = false ∧ sess.pending = true ∧ sess.requestPacket = [] ∧
      ¬ EncodedRequest sess.channelId sess.expectedSequence sess.requestPacket := by
  refine ⟨rfl, rfl, rfl, ?_⟩
  rintro ⟨capacity, cemiBytes, encoded⟩
  obtain ⟨totalLength, whole, large, -⟩ := encodeTunnellingRequestPacket_octets encoded
  rw [whole] at large
  exact absurd large (by decide)

end TunnellingSession

end KmxAio.Knx
