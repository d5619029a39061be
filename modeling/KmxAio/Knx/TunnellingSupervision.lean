import KmxAio.Knx.TunnellingReachable

/-!
# Counting failed heartbeats

A connection is given up when so many heartbeats in a row have failed. The session
keeps the count, and listens only while it is connected: what it hears while it
waits for an acknowledgement is lost. A timeout the client reports leaves the
heartbeat outstanding, so that a check past its deadline counts it once more.
-/

namespace KmxAio.Knx

open Lib.Run Lib.Wire Knx.Frame Connection

def HeartbeatNews.fails : HeartbeatNews → Bool
  | .failed => true
  | .timedOut => true
  | _ => false

namespace TunnellingSession

variable (sess : TunnellingSession)

/-- A session with a channel: connected, or waiting for an acknowledgement on it. -/
def Established : Prop :=
  sess.state = .connected ∨ sess.state = .waitingAck

instance (sess : TunnellingSession) : Decidable sess.Established :=
  inferInstanceAs (Decidable (_ ∨ _))

def failureLimit : Nat :=
  max sess.config.heartbeatFailureLimit.toNat 1

/-- How many heartbeats of this connection have failed in a row, after news of one more. -/
def tally (failed : Nat) (news : HeartbeatNews) : Nat :=
  if sess.Established then
    match news with
    | .answered => 0
    | .failed => failed + 1
    | .timedOut => failed + 1
    | _ => failed
  else 0

end TunnellingSession

open TunnellingSession

/-- A session, the heartbeats of its connection that have failed in a row, the heartbeats noted as
sent, and the failures counted while one was outstanding. -/
structure Supervision where
  session : TunnellingSession
  failed : Nat := 0
  sent : Nat := 0
  charged : Nat := 0

namespace Supervision

variable (watch : Supervision) (op : SessionOperation)

def step : Supervision :=
  let sess := watch.session
  let news := sess.news op
  { session := sess.operate op
    failed := sess.tally watch.failed news
    sent :=
      if news = .sent ∧ sess.heartbeatOutstanding = false then watch.sent + 1
      else watch.sent
    charged :=
      if news.fails = true ∧ sess.Established ∧ sess.heartbeatOutstanding = true then
        watch.charged + 1
      else watch.charged }

/-- Nothing is heard of a heartbeat while the session waits for an acknowledgement. -/
def Heard : Prop :=
  watch.session.state = .waitingAck →
    watch.session.news op = .nothing ∨ watch.session.news op = .sent

/-- No timeout is reported while the session tracks a heartbeat of its own. -/
def Tracked : Prop :=
  watch.session.news op = .timedOut → watch.session.heartbeatOutstanding = false

instance (watch : Supervision) (op : SessionOperation) :
    Decidable (watch.Heard op) :=
  inferInstanceAs (Decidable (_ → _))

instance (watch : Supervision) (op : SessionOperation) :
    Decidable (watch.Tracked op) :=
  inferInstanceAs (Decidable (_ → _))

end Supervision

namespace TunnellingSession

/-- The session's count is the number of heartbeats that have failed in a row, and is short of the
limit; before a connection it is zero. -/
structure Counts (session : TunnellingSession) (failed : Nat) : Prop where
  counted : session.Established →
    session.heartbeatFailures.toNat = failed ∧ failed < session.failureLimit
  unconnected : session.state = .idle ∨ session.state = .connecting → session.heartbeatFailures = 0

variable {sess before after : TunnellingSession} {noted : Option UInt32}
  {news : HeartbeatNews} {failed : Nat}

theorem failureLimit_pos (sess : TunnellingSession) : 0 < sess.failureLimit :=
  Nat.lt_of_lt_of_le Nat.one_pos (Nat.le_max_right _ _)

theorem tally_established (established : sess.Established) :
    sess.tally failed .nothing = failed ∧ sess.tally failed .sent = failed ∧
      sess.tally failed .answered = 0 ∧ sess.tally failed .failed = failed + 1 ∧
      sess.tally failed .timedOut = failed + 1 := by
  simp [tally, established]

theorem tally_unconnected (unconnected : ¬ sess.Established) :
    sess.tally failed news = 0 := by
  simp [tally, unconnected]

theorem not_established_of_before (state : sess.state = .idle ∨ sess.state = .connecting) :
    ¬ sess.Established := by
  rintro (connected | waiting) <;> simp_all

section

variable (counts : before.Counts failed) (config : after.config = before.config)
  (count : after.heartbeatFailures = before.heartbeatFailures)

include counts config count

theorem Counts.kept
    (connected : after.Established →
      before.Established ∧ before.tally failed news = failed ∨
        before.state = .idle ∨ before.state = .connecting)
    (unconnected : after.state = .idle ∨ after.state = .connecting →
      before.state = .idle ∨ before.state = .connecting) :
    after.Counts (before.tally failed news) where
  counted := by
    intro established
    have limit : after.failureLimit = before.failureLimit := by simp [failureLimit, config]
    rw [count, limit]
    rcases connected established with ⟨already, same⟩ | earlier
    · rw [same]
      exact counts.counted already
    · rw [tally_unconnected (not_established_of_before earlier), counts.unconnected earlier]
      exact ⟨rfl, before.failureLimit_pos⟩
  unconnected := by
    intro state
    rw [count]
    exact counts.unconnected (unconnected state)

theorem Counts.same (state : after.state = before.state)
    (quiet : before.Established → before.tally failed news = failed) :
    after.Counts (before.tally failed news) := by
  refine counts.kept config count ?_ (by rw [state]; exact id)
  intro established
  have already : before.Established := by rwa [Established, state] at established
  exact .inl ⟨already, quiet already⟩

end

theorem tally_nothing (established : sess.Established) : sess.tally failed .nothing = failed :=
  (tally_established established).1

theorem counts_of_left (state : after.state = .closing ∨ after.state = .closed) :
    after.Counts failed where
  counted := by
    rintro (connected | waiting) <;> rcases state with state | state <;> simp_all
  unconnected := by
    rintro (idle | connecting) <;> rcases state with state | state <;> simp_all

theorem failHeartbeat_counts (counts : sess.Counts failed) (connected : sess.state = .connected) :
    sess.failHeartbeat.1.Counts (failed + 1) ∧
      (sess.failHeartbeat.1.state = .closed ↔ failed + 1 = sess.failureLimit) := by
  obtain ⟨count, below⟩ := counts.counted (.inl connected)
  have octet := sess.config.heartbeatFailureLimit.toNat_lt
  obtain ⟨failures, val, ⟨reached, closed⟩ | ⟨short, counted⟩⟩ := sess.failHeartbeat_cases
  · rw [closed]
    refine ⟨counts_of_left (.inr rfl), iff_of_true rfl ?_⟩
    have limit : sess.config.heartbeatFailureLimit.toNat = 0 ∨
        sess.config.heartbeatFailureLimit.toNat ≤ failures.toNat :=
      reached.imp_left (fun zero => by rw [zero]; rfl)
    simp only [failureLimit] at below ⊢
    omega
  · rw [counted]
    have next : failures.toNat = failed + 1 := by omega
    have room : failed + 1 < sess.failureLimit := by
      simp only [failureLimit]
      omega
    refine ⟨⟨fun _ => ⟨next, room⟩, ?_⟩, iff_of_false (by simp [connected]) room.ne⟩
    rintro (state | state) <;> simp [connected] at state

section

variable (change : before.Transition noted news after)

include change

theorem Transition.counts (consistent : before.Consistent) (counts : before.Counts failed)
    (heard : before.state = .waitingAck → news = .nothing ∨ news = .sent) :
    after.Counts (before.tally failed news) := by
  induction change with
  | kept | ruled stream | prepared pkt idle | connectRetried connecting deadlineMs
  | numbered chan seq stream ready valid | indicated seq connected =>
    exact counts.same rfl rfl rfl tally_nothing
  | shutdown | connectGivenUp connecting | givenUp pending | disconnectGivenUp closing
  | inactive nowMs silent => exact counts_of_left (.inr rfl)
  | connecting pkt endpoint deadlineMs idle =>
    exact counts.kept rfl rfl (by rintro (state | state) <;> cases state) (fun _ => .inl idle)
  | abandoned connecting =>
    exact counts.kept rfl rfl (by rintro (state | state) <;> cases state)
      (fun _ => .inr connecting)
  | established chan assignedAddress waiting named =>
    rw [tally_unconnected (not_established_of_before waiting)]
    refine ⟨fun _ => ⟨rfl, failureLimit_pos _⟩, fun _ => rfl⟩
  | requested chan seq pkt deadlineMs datagrams ready valid retained =>
    refine counts.kept rfl rfl (fun _ => ?_) (by rintro (state | state) <;> cases state)
    cases state : before.state with
    | idle => exact .inr (.inl rfl)
    | connecting => exact .inr (.inr rfl)
    | connected => exact .inl ⟨.inl state, tally_nothing (.inl state)⟩
    | waitingAck => exact .inl ⟨.inr state, tally_nothing (.inr state)⟩
    | closing => exact absurd state ready.staying
    | closed => exact absurd state ready.opened
  | acknowledged pending | retried pending deadlineMs within =>
    have waiting : before.Established := .inr (consistent.waiting.mp pending)
    exact counts.kept rfl rfl (fun _ => .inl ⟨waiting, tally_nothing waiting⟩)
      (by rintro (state | state) <;> cases state)
  | confirmed connected =>
    rw [(tally_established (.inl connected)).2.2.1]
    exact ⟨fun _ => ⟨rfl, failureLimit_pos _⟩, fun _ => rfl⟩
  | failed connected =>
    rw [(tally_established (.inl connected)).2.2.2.1]
    have cleared : Counts { before with heartbeatOutstanding := false } failed :=
      ⟨counts.counted, counts.unconnected⟩
    exact (failHeartbeat_counts cleared connected).1
  | timedOut connected =>
    rw [(tally_established (.inl connected)).2.2.2.2]
    exact (failHeartbeat_counts counts connected).1
  | unheard news outstanding elsewhere flag =>
    refine counts.same rfl rfl rfl (fun established => ?_)
    have waiting : before.state = .waitingAck := established.resolve_left elsewhere
    rcases heard waiting with nothing | sent
    · rw [nothing, tally_nothing established]
    · rw [sent, (tally_established established).2.1]
  | sentBefore outstanding | sent deadlineMs clear =>
    exact counts.same rfl rfl rfl (fun established => (tally_established established).2.1)
  | closing disconnectRetries established => exact counts_of_left (.inl rfl)
  | active nowMs change ih => exact ⟨(ih heard).counted, (ih heard).unconnected⟩

theorem Transition.closes_iff (counts : before.Counts failed)
    (connected : before.state = .connected) (fails : news.fails = true) :
    after.state = .closed ↔ failed + 1 = before.failureLimit := by
  induction change with
  | failed _ =>
    have cleared : Counts { before with heartbeatOutstanding := false } failed :=
      ⟨counts.counted, counts.unconnected⟩
    exact (failHeartbeat_counts cleared connected).2
  | timedOut _ => exact (failHeartbeat_counts counts connected).2
  | unheard news outstanding elsewhere flag => exact absurd connected elsewhere
  | active nowMs change ih => exact ih fails
  | _ => cases fails

theorem Transition.answer_clears (connected : before.state = .connected)
    (answered : news = .answered) : after.heartbeatFailures = 0 := by
  induction change with
  | confirmed _ => rfl
  | unheard news outstanding elsewhere flag => exact absurd connected elsewhere
  | active nowMs change ih => exact ih answered
  | _ => cases answered

/-! ## One heartbeat, one failure -/

/-- What becomes of a heartbeat that is outstanding: only a new one sets the flag, and a failure the
session finds by itself clears it. -/
theorem Transition.outstanding (still : after.heartbeatOutstanding = true) :
    (before.heartbeatOutstanding = true ∨ news = .sent) ∧
      (before.state = .connected → news ≠ .failed) := by
  induction change with
  | shutdown | confirmed _ => cases still
  | failed _ =>
    rw [(failHeartbeat_fst_frame _).2.2] at still
    cases still
  | timedOut _ =>
    rw [(failHeartbeat_fst_frame _).2.2] at still
    exact ⟨.inl still, fun _ => by decide⟩
  | unheard news outstanding elsewhere flag =>
    refine ⟨.inl ?_, fun connected => absurd connected elsewhere⟩
    rcases flag with same | cleared
    · exact same.symm.trans still
    · exact absurd (cleared.symm.trans still) (by decide)
  | sentBefore _ | sent deadlineMs clear => exact ⟨.inr rfl, fun _ => by decide⟩
  | active nowMs change ih => exact ih still
  | _ => exact ⟨.inl still, fun _ => by decide⟩

end

end TunnellingSession

namespace Supervision

variable {watch : Supervision} {op : SessionOperation}

/-- Every heartbeat that was noted is charged with one failure at most, and not yet while it is
outstanding. -/
def ChargedOnce (watch : Supervision) : Prop :=
  watch.charged + watch.session.heartbeatOutstanding.toNat ≤ watch.sent

theorem step_charged_eq
    (quiet : ¬ ((watch.session.news op).fails = true ∧
      watch.session.Established ∧ watch.session.heartbeatOutstanding = true)) :
    (watch.step op).charged = watch.charged :=
  if_neg quiet

theorem step_sent_eq (unsent : watch.session.news op ≠ .sent) :
    (watch.step op).sent = watch.sent :=
  if_neg (fun sent => unsent sent.1)

theorem Heard.connected (heard : watch.Heard op) (established : watch.session.Established)
    (loud : watch.session.news op ≠ .nothing ∧ watch.session.news op ≠ .sent) :
    watch.session.state = .connected :=
  established.resolve_right fun waiting => (heard waiting).elim loud.1 loud.2

/-- A failure that is counted leaves no heartbeat outstanding that could fail once more. -/
theorem failed_clears (heard : watch.Heard op) (tracked : watch.Tracked op)
    (established : watch.session.Established) (fails : (watch.session.news op).fails = true) :
    (watch.session.operate op).heartbeatOutstanding = false := by
  by_cases reset : op = .reset
  · subst reset
    rfl
  have change : watch.session.Transition _ _ _ := operate_transition reset
  rw [← Bool.not_eq_true]
  intro still
  obtain ⟨already, quiet⟩ := change.outstanding still
  cases news : watch.session.news op with
  | failed => exact quiet (heard.connected established (by simp [news])) news
  | timedOut => simp [news, tracked news] at already
  | _ => simp [news, HeartbeatNews.fails] at fails

theorem step_chargedOnce (charged : watch.ChargedOnce) (heard : watch.Heard op)
    (tracked : watch.Tracked op) : (watch.step op).ChargedOnce := by
  unfold ChargedOnce at charged ⊢
  by_cases sent : watch.session.news op = .sent
  · have same : (watch.step op).charged = watch.charged :=
      step_charged_eq (by simp [sent, HeartbeatNews.fails])
    have flag := Bool.toNat_le (watch.step op).session.heartbeatOutstanding
    cases outstanding : watch.session.heartbeatOutstanding with
    | false =>
      have noted : (watch.step op).sent = watch.sent + 1 :=
        if_pos ⟨sent, outstanding⟩
      omega
    | true =>
      have noted : (watch.step op).sent = watch.sent :=
        if_neg (by simp [outstanding])
      rw [outstanding, Bool.toNat_true] at charged
      omega
  · have flag : (watch.step op).session.heartbeatOutstanding.toNat ≤
        watch.session.heartbeatOutstanding.toNat := by
      by_cases reset : op = .reset
      · subst reset
        exact Nat.zero_le _
      have change : watch.session.Transition _ _ _ := operate_transition reset
      cases after : (watch.session.operate op).heartbeatOutstanding with
      | false => simp [step, after]
      | true =>
        have already := (change.outstanding after).1.resolve_right sent
        simp [step, after, already]
    have noted := step_sent_eq sent
    by_cases counted : (watch.session.news op).fails = true ∧
        watch.session.Established ∧ watch.session.heartbeatOutstanding = true
    · obtain ⟨fails, established, outstanding⟩ := counted
      have one : (watch.step op).charged = watch.charged + 1 :=
        if_pos ⟨fails, established, outstanding⟩
      have cleared : (watch.step op).session.heartbeatOutstanding = false :=
        failed_clears heard tracked established fails
      rw [cleared, one, noted, Bool.toNat_false]
      rw [outstanding, Bool.toNat_true] at charged
      omega
    · have same := step_charged_eq counted
      omega

/-! ## Along a run -/

/-- The session is consistent, and its count is that of the heartbeats which failed in a row. -/
structure Faithful (watch : Supervision) : Prop where
  consistent : watch.session.Consistent
  counts : watch.session.Counts watch.failed

def fresh (config : TunnellingConfig) (stream : Bool) : Supervision :=
  { session := { config := config, stream := stream } }

theorem counts_fresh (config : TunnellingConfig) (stream : Bool) (failed : Nat) :
    TunnellingSession.Counts { config := config, stream := stream } failed where
  counted := by rintro (state | state) <;> cases state
  unconnected := fun _ => rfl

theorem step_faithful (faithful : watch.Faithful) (heard : watch.Heard op) :
    (watch.step op).Faithful where
  consistent := operate_consistent faithful.consistent op
  counts := by
    by_cases reset : op = .reset
    · subst reset
      exact counts_fresh watch.session.config watch.session.stream _
    · exact (operate_transition reset).counts faithful.consistent faithful.counts
        heard

variable {config : TunnellingConfig} {operations : List SessionOperation}

theorem run_faithful {stream : Bool}
    (heard : Admissible step Heard (fresh config stream) operations) :
    (run step (fresh config stream) operations).Faithful :=
  invariant_run (fun _ _ faithful heard => step_faithful faithful heard)
    ⟨consistent_fresh config stream, counts_fresh config stream 0⟩ heard

theorem answer_clears (heard : watch.Heard op) (established : watch.session.Established)
    (answered : watch.session.news op = .answered) :
    (watch.session.operate op).heartbeatFailures = 0 := by
  have connected := heard.connected established (by simp [answered])
  by_cases reset : op = .reset
  · subst reset
    rfl
  · exact (operate_transition reset).answer_clears connected answered

/-- Where nothing is heard of the heartbeats while the session waits for an acknowledgement, its
count is the number of heartbeats that failed in a row, a failure closes it exactly when it is the
last one allowed, and an answer or a new connection starts again; and where no timeout is reported
of a heartbeat the session tracks, a failure ends the heartbeat that was outstanding, so that none is
counted twice. -/
theorem heartbeats_counted (config : TunnellingConfig) (stream : Bool)
    (operations : List SessionOperation)
    (heard : Admissible step Heard (fresh config stream) operations) :
    let now := run step (fresh config stream) operations
    (now.session.Established →
      now.session.heartbeatFailures.toNat = now.failed ∧ now.failed < now.session.failureLimit) ∧
    (∀ op, now.Heard op → now.session.Established →
      (now.session.news op).fails = true →
        ((now.session.operate op).state = .closed ↔ now.failed + 1 = now.session.failureLimit)) ∧
    (∀ op, now.Heard op → now.session.Established →
      now.session.news op = .answered → (now.session.operate op).heartbeatFailures = 0) ∧
    (∀ op, now.Heard op → ¬ now.session.Established →
      (now.session.operate op).Established → (now.session.operate op).heartbeatFailures = 0) ∧
    (∀ op, now.Heard op → now.Tracked op → now.session.Established →
      (now.session.news op).fails = true → (now.session.operate op).heartbeatOutstanding = false) ∧
    (Admissible step (fun watch op =>
        watch.Heard op ∧ watch.Tracked op) (fresh config stream)
        operations →
      now.charged ≤ now.sent) := by
  intro now
  have faithful : now.Faithful := run_faithful heard
  refine ⟨faithful.counts.counted, ?_, ?_, ?_, fun op => failed_clears, ?_⟩
  · intro op heard established fails
    have connected := heard.connected established
      (by constructor <;> intro quiet <;> simp [quiet, HeartbeatNews.fails] at fails)
    by_cases reset : op = .reset
    · subst reset
      cases fails
    · exact (operate_transition reset).closes_iff faithful.counts connected fails
  · exact fun op heard established answered => answer_clears heard established answered
  · intro op heard unconnected established
    have counted := ((step_faithful faithful heard).counts.counted established).1
    have zero : (now.step op).failed = 0 := tally_unconnected unconnected
    exact UInt8.toNat_inj.mp (counted.trans zero)
  · intro within
    have charged : now.ChargedOnce := invariant_run
      (fun _ _ charged within => step_chargedOnce charged within.1 within.2) (Nat.le_refl 0) within
    exact (Nat.le_add_right _ _).trans charged

open TunnellingSession (connectOctets connectFirst writeOctets)

def twoFailures : List SessionOperation :=
  connectFirst ++ [.noteHeartbeatSent 100, .checkHeartbeat 100, .onConnectionstateTimeout]

/-- With the limit of three, a negative answer after two failures closes the session; a positive one
clears the count. -/
theorem twoFailures_counted :
    let now := run step (fresh {} false) twoFailures
    now.session.Established ∧ now.failed = 2 ∧ now.session.heartbeatFailures.toNat = now.failed ∧
      (now.session.operate (.onConnectionstateResponse ⟨1, .connectionId⟩)).state = .closed ∧
      (now.session.operate (.onConnectionstateResponse ⟨1, .noError⟩)).heartbeatFailures = 0 ∧
      now.charged ≤ now.sent ∧
      ((run step (fresh {} false) (connectFirst ++ [.noteHeartbeatSent 100])).session.operate
        (.checkHeartbeat 100)).heartbeatOutstanding = false ∧
      ((run step (fresh {} false) [.startConnectRaw connectOctets 0]).session.operate
        (.onConnectResponse 1 .noError 0x1101)).heartbeatFailures = 0 := by
  obtain ⟨counted, closes, clears, -, -, once⟩ :=
    heartbeats_counted {} false twoFailures (by decide)
  obtain ⟨-, -, -, -, ends, -⟩ :=
    heartbeats_counted {} false (connectFirst ++ [.noteHeartbeatSent 100]) (by decide)
  obtain ⟨-, -, -, connects, -⟩ :=
    heartbeats_counted {} false [.startConnectRaw connectOctets 0] (by decide)
  refine ⟨by decide, by decide, (counted (by decide)).1, ?_, ?_, once (by decide), ?_, ?_⟩
  · exact (closes _ (by decide) (by decide) (by decide)).mpr (by decide)
  · exact clears _ (by decide) (by decide) (by decide)
  · exact ends _ (by decide) (by decide) (by decide) (by decide)
  · exact connects _ (by decide) (by decide) (by decide)

def strict : TunnellingConfig := { heartbeatFailureLimit := 2 }

/-- A heartbeat times out, a write goes out, and while it waits for its acknowledgement the next
heartbeat is answered. -/
def answeredWhileWaiting : List SessionOperation :=
  connectFirst ++
    [.onConnectionstateTimeout, .prepareRequestPacket 64 1 writeOctets 2000,
      .onConnectionstateResponse ⟨1, .noError⟩, .onAck 1 0]

/-- A heartbeat times out, a write goes out, and while it waits for its acknowledgement the next
heartbeat times out. -/
def failedWhileWaiting : List SessionOperation :=
  connectFirst ++ [.onConnectionstateTimeout, .prepareRequestPacket 64 1 writeOctets 2000]

/-- The client reports that a heartbeat the session tracks has timed out, and the session finds it
overdue. -/
def reportedWhileTracked : List SessionOperation :=
  connectFirst ++ [.noteHeartbeatSent 100, .onConnectionstateTimeout, .checkHeartbeat 100]

/-- The answer is lost, and the first failure after it closes the session; a failure is lost, and
the second one in a row does not; and one heartbeat makes two failures and closes the session. -/
theorem heartbeats_miscounted :
    ((run step (fresh strict false) answeredWhileWaiting).session.state = .connected ∧
      (run step (fresh strict false) answeredWhileWaiting).failed + 1 < 2 ∧
      ((run step (fresh strict false) answeredWhileWaiting).session.operate
        .onConnectionstateTimeout).state = .closed) ∧
    ((run step (fresh strict false) failedWhileWaiting).session.Established ∧
      (run step (fresh strict false) failedWhileWaiting).failed + 1 = 2 ∧
      ((run step (fresh strict false) failedWhileWaiting).session.operate
        .onConnectionstateTimeout).state ≠ .closed) ∧
    (run step (fresh strict false) reportedWhileTracked).sent = 1 ∧
    (run step (fresh strict false) reportedWhileTracked).charged = 2 ∧
    (run step (fresh strict false) reportedWhileTracked).session.state = .closed := by
  decide

end Supervision

end KmxAio.Knx
