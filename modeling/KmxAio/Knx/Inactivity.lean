import KmxAio.Lib.WrappingClock
import KmxAio.Knx.TunnellingReachable
import KmxAio.Knx.ChannelIsolation

/-!
# Silence

A session and a server note when they were last heard from, on a 32-bit clock that
wraps, and compare the time that has passed with the configured timeout as signed
numbers. Beside a run we keep the true time of what was last noted. A timeout of
half a turn or more is read as a negative number.
-/

namespace KmxAio.Knx

open Lib Lib.Run Lib.WrappingClock Knx.Frame Connection

/-! ## A session -/

def SessionOperation.nowMs : SessionOperation → Option UInt32
  | .checkHeartbeat nowMs => some nowMs
  | .observeActivity nowMs => some nowMs
  | .checkInactivity nowMs => some nowMs
  | .dispatchSessionDatagram _ nowMs => some nowMs
  | .dispatchSessionPacket _ nowMs => some nowMs
  | _ => none

namespace TunnellingSession

/-- A session that has left the states before a connection. -/
def Begun (sess : TunnellingSession) : Prop :=
  sess.state ≠ .idle ∧ sess.state ≠ .connecting

instance (sess : TunnellingSession) : Decidable sess.Begun :=
  inferInstanceAs (Decidable (_ ∧ _))

end TunnellingSession

/-- A session, and when it last noted activity since it began. -/
structure HeardSession where
  session : TunnellingSession
  heard : Option Nat := none

namespace HeardSession

def step (watched : HeardSession) (event : Nat × SessionOperation) : HeardSession :=
  { session := watched.session.operate event.2
    heard :=
      if (watched.session.noted event.2).isSome then some event.1
      else if watched.session.Begun ∧ (watched.session.operate event.2).Begun then watched.heard
      else none }

def Punctual (event : Nat × SessionOperation) : Prop :=
  ∀ nowMs, event.2.nowMs = some nowMs → nowMs = shown event.1

end HeardSession

namespace TunnellingSession

variable {sess before after : TunnellingSession} {noted : Option UInt32} {news : HeartbeatNews}

theorem failHeartbeat_lastActivity (sess : TunnellingSession) :
    sess.failHeartbeat.1.lastActivityMs = sess.lastActivityMs := by
  obtain ⟨failures, -, ⟨-, closed⟩ | ⟨-, counted⟩⟩ := sess.failHeartbeat_cases
  · rw [closed]
  · rw [counted]

/-- Where no activity is noted the last one stays, except when a connection is established. -/
theorem Transition.activity_kept (change : before.Transition noted news after)
    (unnoted : noted = none) (begun : before.Begun) :
    after.lastActivityMs = before.lastActivityMs := by
  induction change with
  | established chan assignedAddress waiting named =>
    rcases waiting with idle | connecting
    · exact absurd idle begun.1
    · exact absurd connecting begun.2
  | failed connected | timedOut connected => exact failHeartbeat_lastActivity _
  | active nowMs change ih => cases unnoted
  | _ => rfl

theorem Transition.activity_noted {nowMs : UInt32}
    (change : before.Transition (some nowMs) news after) : after.lastActivityMs = nowMs := by
  cases change with
  | active _ change => rfl

theorem noted_nowMs {op : SessionOperation} {nowMs : UInt32}
    (noted : sess.noted op = some nowMs) : op.nowMs = some nowMs := by
  cases op with
  | observeActivity time =>
    dsimp only [TunnellingSession.noted] at noted
    split_ifs at noted
    exact noted
  | dispatchSessionDatagram val time | dispatchSessionPacket pkt time =>
    dsimp only [TunnellingSession.noted, notedBy] at noted
    split_ifs at noted
    exact noted
  | _ => cases noted

end TunnellingSession

namespace HeardSession

variable {watched : HeardSession}

/-- What was last noted is what the session compares the time with. -/
def Faithful (watched : HeardSession) : Prop :=
  ∀ since, watched.heard = some since → watched.session.lastActivityMs = shown since

theorem Faithful.step (faithful : watched.Faithful) {event : Nat × SessionOperation}
    (punctual : Punctual event) : (watched.step event).Faithful := by
  intro since heard
  dsimp only [HeardSession.step] at heard ⊢
  by_cases reset : event.2 = .reset
  · have left : ¬ (watched.session.Begun ∧ (watched.session.operate event.2).Begun) := by
      rw [reset]
      exact fun begun => begun.2.1 rfl
    have unnoted : watched.session.noted event.2 = none := by
      rw [reset]
      rfl
    rw [unnoted, if_neg (by simp), if_neg left] at heard
    cases heard
  have change : watched.session.Transition _ _ _ := TunnellingSession.operate_transition reset
  cases noted : watched.session.noted event.2 with
  | some nowMs =>
    rw [noted] at change heard
    cases heard
    rw [change.activity_noted]
    exact punctual nowMs (TunnellingSession.noted_nowMs noted)
  | none =>
    rw [noted, if_neg (by simp)] at heard
    rw [noted] at change
    split_ifs at heard with begun
    rw [change.activity_kept rfl begun.1]
    exact faithful since heard

theorem run_faithful {events : List (Nat × SessionOperation)}
    (punctual : ∀ event ∈ events, Punctual event) (faithful : watched.Faithful) :
    (run step watched events).Faithful :=
  invariant_run (fun _ _ before told => Faithful.step before told) faithful
    (admissible_of_events punctual)

end HeardSession

namespace TunnellingSession

theorem checkInactivity_closes_iff {sess : TunnellingSession} {since now : Nat}
    (connected : sess.state = .connected) (kept : sess.lastActivityMs = shown since)
    (past : since ≤ now) (near : now - since < 2 ^ 31) :
    (sess.checkInactivity (shown now)).1.state = .closed ↔
      sess.config.inactivityTimeoutMs.toNat ≤ now - since ∨
        2 ^ 31 ≤ sess.config.inactivityTimeoutMs.toNat := by
  have silent : sess.inactive (shown now) = true ↔
      sess.config.inactivityTimeoutMs.toNat ≤ now - since ∨
        2 ^ 31 ≤ sess.config.inactivityTimeoutMs.toNat := by
    rw [← passed_iff past near]
    simp [inactive, connected, kept]
  rw [← silent]
  unfold checkInactivity
  split_ifs with inactive
  · exact ⟨fun _ => inactive, fun _ => rfl⟩
  · simp [connected, inactive]

end TunnellingSession

/-! ## The channels of a server -/

structure HeardServer where
  server : GenericServer
  heard : UInt8 → Nat := fun _ => 0

namespace HeardServer

variable {watched : HeardServer}

def step (watched : HeardServer) (event : Nat × Conditions × ServerAction) : HeardServer :=
  { server := watched.server.act event.2.1 event.2.2
    heard := fun id =>
      if watched.server.activityOn event.2.1 id event.2.2 then event.1 else watched.heard id }

def Punctual (event : Nat × Conditions × ServerAction) : Prop :=
  event.2.1.nowMs = shown event.1

/-- What was last seen on an open channel is what the server compares the time with. -/
def Faithful (watched : HeardServer) : Prop :=
  ∀ id, (watched.server.channels id).active = true →
    id ≠ 0 ∧ (watched.server.channels id).lastActivityMs = shown (watched.heard id)

end HeardServer

namespace GenericServer

variable {srv : GenericServer} {world : Conditions} {id : UInt8} {val : Channel}

theorem RowChange.activity {activity : Bool}
    (change : srv.RowChange world id activity val) (active : val.active = true) :
    ((srv.channels id).active = true ∨ id ≠ 0 ∧ activity = true) ∧
      val.lastActivityMs = if activity then world.nowMs else (srv.channels id).lastActivityMs := by
  cases change with
  | kept | claimed opened | received opened seq | noted opened => exact ⟨.inl active, rfl⟩
  | released => cases active
  | opened _ opened => exact ⟨.inr ⟨opened.within.1, rfl⟩, opened.fresh⟩

end GenericServer

open GenericServer

namespace HeardServer

variable {watched : HeardServer}

theorem Faithful.step (faithful : watched.Faithful) {event : Nat × Conditions × ServerAction}
    (punctual : Punctual event) : (watched.step event).Faithful := by
  intro id active
  obtain ⟨opened, kept⟩ :=
    (watched.server.act_row event.2.1 event.2.2 id).activity active
  dsimp only [HeardServer.step]
  rw [kept]
  cases activity : watched.server.activityOn event.2.1 id event.2.2 with
  | true =>
    refine ⟨?_, punctual⟩
    rcases opened with before | ⟨nonzero, -⟩
    · exact (faithful id before).1
    · exact nonzero
  | false =>
    rcases opened with before | ⟨-, noted⟩
    · exact faithful id before
    · rw [activity] at noted
      cases noted

theorem run_faithful {events : List (Nat × Conditions × ServerAction)}
    (punctual : ∀ event ∈ events, Punctual event) (faithful : watched.Faithful) :
    (run step watched events).Faithful :=
  invariant_run (fun _ _ before told => Faithful.step before told) faithful
    (admissible_of_events punctual)

end HeardServer

namespace GenericServer

variable {srv : GenericServer} {world : Conditions} {id : UInt8}

/-- The channel is not one of a secure session that has run out; a plain server has none. -/
def SparesSession (srv : GenericServer) (world : Conditions) (id : UInt8) : Prop :=
  (srv.reapSessions world).channels id = srv.channels id

end GenericServer

/-! ## Both -/

/-- A session that noted activity since it connected, and an open channel of a server, are given up
by a check less than half a turn later when they were silent for the timeout and not before, exactly
for the timeouts below half a turn. -/
theorem silence_measured (sess : TunnellingSession) (calls : List (Nat × SessionOperation))
    (config : ServerConfig) (hasSocket : Bool) (secure : Option Secure.ServerConfiguration)
    (steps : List (Nat × Conditions × ServerAction)) (silence : Nat) (near : silence < 2 ^ 31) :
    ((∀ call ∈ calls, HeardSession.Punctual call) →
      let watched := run HeardSession.step { session := sess } calls
      let timeout := watched.session.config.inactivityTimeoutMs.toNat
      ∀ since, watched.session.state = .connected → watched.heard = some since →
        (((watched.session.checkInactivity (shown (since + silence))).1.state = .closed ↔
          timeout ≤ silence) ↔ timeout < 2 ^ 31)) ∧
    ((∀ step ∈ steps, HeardServer.Punctual step) →
      let watched := run HeardServer.step { server := .create config hasSocket secure } steps
      let timeout := watched.server.config.inactivityTimeoutMs.toNat
      ∀ world id, watched.server.stopped = false → 0 < timeout →
        (watched.server.channels id).active = true → watched.server.SparesSession world id →
        world.nowMs = shown (watched.heard id + silence) →
        ((((watched.server.poll world).1.channels id).active = false ↔ timeout ≤ silence) ↔
          timeout < 2 ^ 31)) := by
  have passed (since : Nat) : since + silence - since = silence := Nat.add_sub_cancel_left ..
  refine ⟨fun punctual => ?_, fun punctual => ?_⟩
  · intro watched timeout since connected heard
    have kept : watched.session.lastActivityMs = shown since :=
      HeardSession.run_faithful punctual (fun _ none => by cases none) since heard
    have closes := TunnellingSession.checkInactivity_closes_iff connected kept
      (Nat.le_add_right since silence) (by rw [passed]; exact near)
    rw [passed] at closes
    exact exact_iff_short near closes
  · intro watched timeout world id running timed active spared shows
    have faithful : watched.Faithful :=
      HeardServer.run_faithful punctual (fun _ active => by cases active)
    obtain ⟨nonzero, kept⟩ := faithful id active
    have configured : watched.server.config.inactivityTimeoutMs ≠ 0 := by
      intro zero
      have none : timeout = 0 := congrArg UInt32.toNat zero
      omega
    have releases : ((watched.server.poll world).1.channels id).active = false ↔
        watched.server.config.inactivityTimeoutMs.toNat ≤ (watched.heard id + silence) -
        (watched.heard id) ∨ 2 ^ 31 ≤ watched.server.config.inactivityTimeoutMs.toNat := by
      have silent : inactiveFor watched.server.config.inactivityTimeoutMs world.nowMs
          (watched.server.channels id) = true ↔
          watched.server.config.inactivityTimeoutMs.toNat ≤ (watched.heard id + silence) -
            (watched.heard id) ∨
            2 ^ 31 ≤ watched.server.config.inactivityTimeoutMs.toNat := by
        rw [← passed_iff (Nat.le_add_right _ silence) (by rw [passed]; exact near)]
        simp [inactiveFor, active, kept, shows]
      rw [← silent]
      unfold poll
      rw [if_neg (by simp [running])]
      dsimp only
      rw [if_neg configured]
      dsimp only [releaseWhere]
      rw [spared]
      split_ifs with released
      · exact ⟨fun _ => released.2, fun _ => rfl⟩
      · simp only [nonzero, ne_eq, not_false_eq_true, true_and] at released
        simp [active, released]
    rw [passed] at releases
    exact exact_iff_short near releases

def connectAccepted : Datagram :=
  ⟨connectResponseService, .connectResponse
    { channelId := 1
      status := .noError
      dataEndpoint := Hpai.default
      assignedAddress := 0x1101 }⟩

def silentSession (timeoutMs : UInt32) (connected : Nat) : HeardSession :=
  run HeardSession.step { session := { config := { inactivityTimeoutMs := timeoutMs } } }
    [(connected, .dispatchSessionDatagram connectAccepted (shown connected))]

/-- A plain server that opens its first channel at a true time, and hears nothing more. -/
def silentServer (timeoutMs : UInt32) (connected : Nat) : HeardServer :=
  run HeardServer.step { server := .create { inactivityTimeoutMs := timeoutMs } true none }
    [(connected, GenericServer.conditionsAt (shown connected),
      .receive GenericServer.secondConnect ⟨.socket, GenericServer.secondPeer, 0⟩)]

/-- With a timeout of half a turn, a session is closed and a channel released by a check at the very
time of the activity. -/
theorem longTimeout_givesUp :
    (silentSession 0x80000000 1000).heard = some 1000 ∧
      (silentSession 0x80000000 1000).session.state = .connected ∧
      ((silentSession 0x80000000 1000).session.checkInactivity (shown 1000)).1.state = .closed ∧
      (silentServer 0x80000000 1000).heard 1 = 1000 ∧
      ((silentServer 0x80000000 1000).server.channels 1).active = true ∧
      (((silentServer 0x80000000 1000).server.poll (conditionsAt 1000)).1.channels
        1).active = false := by
  decide +kernel

/-- Two minutes of silence, with the wrap of the clock a second after they began. -/
theorem twoMinutes_measured :
    let sess := (silentSession 120000 (2 ^ 32 - 1000)).session
    let srv := (silentServer 120000 (2 ^ 32 - 1000)).server
    (sess.checkInactivity (shown (2 ^ 32 - 1000 + 120000))).1.state = .closed ∧
      ¬ (sess.checkInactivity (shown (2 ^ 32 - 1000 + 119999))).1.state = .closed ∧
      ((srv.poll (conditionsAt (shown (2 ^ 32 - 1000 + 120000)))).1.channels 1).active = false ∧
      ¬ ((srv.poll (conditionsAt (shown (2 ^ 32 - 1000 + 119999)))).1.channels
        1).active = false := by
  intro sess srv
  have measured (silence : Nat) (near : silence < 2 ^ 31) :
      ((sess.checkInactivity (shown (2 ^ 32 - 1000 + silence))).1.state = .closed ↔
        120000 ≤ silence) ∧
      (((srv.poll (conditionsAt (shown (2 ^ 32 - 1000 + silence)))).1.channels
        1).active = false ↔ 120000 ≤ silence) := by
    obtain ⟨closes, releases⟩ :=
      silence_measured { config := { inactivityTimeoutMs := 120000 } }
        [(2 ^ 32 - 1000, .dispatchSessionDatagram connectAccepted (shown (2 ^ 32 - 1000)))]
        { inactivityTimeoutMs := 120000 } true none
        [(2 ^ 32 - 1000, conditionsAt (shown (2 ^ 32 - 1000)),
          .receive secondConnect ⟨.socket, secondPeer, 0⟩)]
        silence near
    refine ⟨(closes ?_ (2 ^ 32 - 1000) ?_ ?_).mpr ?_,
      (releases ?_ (conditionsAt (shown (2 ^ 32 - 1000 + silence))) 1 rfl ?_ ?_ rfl ?_).mpr ?_⟩
    · simp [HeardSession.Punctual, SessionOperation.nowMs]
    · decide +kernel
    · decide +kernel
    · decide +kernel
    · simp [HeardServer.Punctual, conditionsAt]
    · decide +kernel
    · decide +kernel
    · have since : (silentServer 120000 (2 ^ 32 - 1000)).heard 1 = 2 ^ 32 - 1000 := by
        decide +kernel
      exact congrArg (fun time => shown (time + silence)) since.symm
    · decide +kernel
  obtain ⟨closed, released⟩ := measured 120000 (by decide)
  obtain ⟨stays, keeps⟩ := measured 119999 (by decide)
  exact ⟨closed.mpr (Nat.le_refl _), fun early => absurd (stays.mp early) (by decide),
    released.mpr (Nat.le_refl _), fun early => absurd (keeps.mp early) (by decide)⟩

end KmxAio.Knx
