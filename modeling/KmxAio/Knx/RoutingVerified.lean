import KmxAio.Knx.RoutingReflection

/-!
# What a secure routing client delivers

Only one of the cases of what may become of a datagram delivers anything or moves the
back-off and the lost counter. What the client shows to readers without the lock has
to be up to date, as it is after every call.
-/

namespace KmxAio.Knx.Routing

open Lib Lib.Wire Lib.Run Knx.Frame Secure RoutingClient

namespace RoutingClient

variable {client after : RoutingClient} {secure : SecureState} {world : Surroundings}
  {pkt : Octets} {header : CommunicationHeader}
  {outcome : RoutingClient × Option (Expected RoutingEvent)}

/-! ## What is delivered -/

/-- Nothing was taken of a ROUTING_BUSY or a ROUTING_LOST_MESSAGE. -/
structure SameTraffic (client after : RoutingClient) : Prop where
  deadline : after.busyUntilMs = client.busyUntilMs
  busy : after.counters.busyMessages = client.counters.busyMessages
  backoff : after.counters.busyBackoffMs = client.counters.busyBackoffMs
  lost : after.counters.lostMessages = client.counters.lostMessages

theorem SameTraffic.trans {middle : RoutingClient} (first : SameTraffic client middle)
    (second : SameTraffic middle after) : SameTraffic client after :=
  ⟨second.deadline.trans first.deadline, second.busy.trans first.busy,
    second.backoff.trans first.backoff, second.lost.trans first.lost⟩

section

variable (unverified : ¬ ∃ wrap plain inner, Verified secure world pkt wrap plain inner)

include unverified

theorem Handled.undelivered (handled : Handled client secure world pkt outcome) :
    SameTraffic client outcome.1 ∧ ∀ event, outcome.2 ≠ some (.ok event) := by
  cases handled with
  | delivered wrap plain inner verified =>
    exact absurd ⟨wrap, plain, inner, verified⟩ unverified
  | _ => exact ⟨⟨rfl, rfl, rfl, rfl⟩, fun event => by simp⟩

theorem Handled.silent (handled : Handled client secure world pkt outcome)
    (read : decodeCommunicationHeader pkt = .ok header)
    (known : securedService header.serviceType = true) : outcome.2 = none := by
  cases handled with
  | unknown why foreign => exact absurd known (by simp [foreign header read])
  | delivered wrap plain inner verified =>
    exact absurd ⟨wrap, plain, inner, verified⟩ unverified
  | _ => rfl

theorem receivePass_undelivered (holds : client.secure = some secure) (peer : TransportPeer) :
    SameTraffic client (client.receivePass world (.ok (peer, pkt))).1 ∧
      ∀ event, (client.receivePass world (.ok (peer, pkt))).2 ≠ some (.ok event) := by
  obtain ⟨⟨after, event⟩, handled, returned⟩ := datagramEvent_handled holds world pkt
  obtain ⟨same, undelivered⟩ := handled.undelivered unverified
  unfold receivePass
  dsimp only
  split
  · exact ⟨⟨rfl, rfl, rfl, rfl⟩, fun event => by simp [refuse]⟩
  split
  · exact ⟨⟨rfl, rfl, rfl, rfl⟩, fun event => by simp [refuse]⟩
  · rw [returned]
    have published : SameTraffic client after.published := same.trans ⟨rfl, rfl, rfl, rfl⟩
    rcases event with _ | why | event
    · exact ⟨published, fun event => by simp⟩
    · dsimp only
      unfold openDataSecure
      cases after.published.dataSecure <;> exact ⟨published, fun event => by simp⟩
    · exact absurd rfl (undelivered event)

end

/-! ## What is always up to date -/

/-- A secure client under its configuration, with what readers without the lock see up to date. -/
def Keyed (config : SecureConfiguration) (client : RoutingClient) : Prop :=
  ∃ secure, client.secure = some secure ∧ secure.configuration = config ∧
    secure.publishState = secure

variable {config : SecureConfiguration}

section

variable (keyed : client.Keyed config)

include keyed

theorem Keyed.of_same (same : after.secure = client.secure) : after.Keyed config := by
  obtain ⟨secure, holds, kept⟩ := keyed
  exact ⟨secure, same.trans holds, kept⟩

theorem Keyed.moved (moved : TimerMoved client.secure after.secure) : after.Keyed config := by
  obtain same | ⟨secure, timer, due, holds, left⟩ := moved
  · exact keyed.of_same same
  · obtain ⟨found, some, kept, -⟩ := keyed
    cases holds.symm.trans some
    exact ⟨_, left, kept, rfl⟩

theorem Keyed.start (joined : Expected Unit) : (client.start joined).1.Keyed config := by
  rcases client.start_cases joined with same | ⟨-, -, -, -, timer⟩
  · rwa [same]
  · exact keyed.moved timer

theorem Keyed.stop (left : Expected Unit) : (client.stop left).1.Keyed config := by
  rcases client.stop_cases left with same | ⟨-, -, -, -, timer⟩
  · rwa [same]
  · exact keyed.moved timer

theorem Keyed.perform (call : Call) : (client.perform call).1.Keyed config := by
  cases call with
  | start joined => exact keyed.start joined
  | stop left => exact keyed.stop left
  | noteBusy trueMs backoffMs | noteLost | noteReflected | useDataSecure ctx =>
    exact keyed.of_same rfl
  | sendIndication world cemiBytes =>
    exact keyed.moved (client.sendIndication_sends world cemiBytes).timer
  | sendBusy world val =>
    exact keyed.moved (client.sendBusy_sends world val).timer
  | sendLostMessage world val =>
    exact keyed.moved (client.sendLostMessage_sends world val).timer
  | notifyTimer world => exact keyed.moved (client.notifyTimer_sends world).timer
  | receive world received => exact keyed.moved (client.receivePass_receives world received).timer

end

def performAll (client : RoutingClient) (calls : List Call) : RoutingClient :=
  run (fun client call => (client.perform call).1) client calls

theorem Keyed.performAll (keyed : client.Keyed config) (calls : List Call) :
    (client.performAll calls).Keyed config := by
  induction calls generalizing client with
  | nil => exact keyed
  | cons call rest ih => exact ih (keyed.perform call)

/-! ## What does not verify -/

/-- The datagram verifies under the backbone key, as a wrapper or as a TIMER_NOTIFY. -/
def Verifies (secure : SecureState) (backend : CryptoBackend) (pkt : Octets) : Prop :=
  (∃ wrap plain, Authentic secure backend pkt wrap plain) ∨
    ∃ notify, openTimerNotify secure backend pkt = some notify

/-- The frame was counted, as one that came back or as one that was refused, and that is all. -/
def CountedOnce (client : RoutingClient) (secure : SecureState) (pkt : Octets)
    (after : RoutingClient) : Prop :=
  client.isOwnReflection pkt = true ∧ after = client.noteReflected ∨
    ∃ why, after = client.withTimer secure (secure.timer.noteRefused why)

theorem Handled.unverified (handled : Handled client secure world pkt outcome)
    (holds : client.secure = some secure) (published : secure.publishState = secure)
    (read : decodeCommunicationHeader pkt = .ok header)
    (known : securedService header.serviceType = true)
    (unverified : ¬ Verifies secure world.backend pkt) :
    CountedOnce client secure pkt outcome.1.published := by
  cases handled with
  | reflected own =>
    refine .inl ⟨own, ?_⟩
    have same : client.noteReflected.secure.map SecureState.publishState =
        client.noteReflected.secure := by
      show client.secure.map _ = client.secure
      rw [holds, Option.map_some, published]
    unfold RoutingClient.published
    rw [same]
  | refused why =>
    refine .inr ⟨why, ?_⟩
    have same : { secure with timer := secure.timer.noteRefused why }.publishState =
        { secure.publishState with timer := secure.timer.noteRefused why } := rfl
    unfold RoutingClient.published withTimer
    rw [Option.map_some, same, published]
  | unknown why foreign => exact absurd known (by simp [foreign header read])
  | notified notify verifies => exact absurd (.inr ⟨notify, verifies⟩) unverified
  | rejected wrap plain authentic => exact absurd (.inl ⟨wrap, plain, authentic⟩) unverified
  | delivered wrap plain inner verified =>
    exact absurd (.inl ⟨wrap, plain, verified.authentic⟩) unverified

end RoutingClient

/-- Whatever a secure client went through, what it receives is delivered, and moves the back-off or
the lost counter, only as a verified wrapper. Any other wrapper, TIMER_NOTIFY or plain routing frame
is read past, and one that does not verify is counted and changes nothing else. -/
theorem only_verified_delivered (multicast : MulticastConfiguration)
    (config : SecureConfiguration) (calls : List Call)
    (world : Surroundings) (peer : TransportPeer) (pkt : Octets) :
    let client := (make multicast (some config)).performAll calls
    let after := client.receivePass world (.ok (peer, pkt))
    ∃ secure, client.secure = some secure ∧ secure.configuration = config ∧
      ((∃ event, after.2 = some (.ok event)) ∨ ¬ client.SameTraffic after.1 →
        ∃ wrap plain inner, Verified secure world pkt wrap plain inner) ∧
      (validSourcePeer peer = true → pkt.length ≠ 0 → pkt.length ≤ maxDatagramSize →
        ∀ header, decodeCommunicationHeader pkt = .ok header →
          securedService header.serviceType = true →
          ((¬ ∃ wrap plain inner, Verified secure world pkt wrap plain inner) → after.2 = none) ∧
          (¬ Verifies secure world.backend pkt → client.CountedOnce secure pkt after.1)) := by
  intro client after
  have made : (make multicast (some config)).Keyed config := ⟨_, rfl, rfl, rfl⟩
  obtain ⟨secure, holds, kept, published⟩ := made.performAll calls
  obtain ⟨outcome, handled, returned⟩ :=
    datagramEvent_handled holds world pkt
  refine ⟨secure, holds, kept, ?_, ?_⟩
  · intro delivered
    by_contra unverified
    obtain ⟨same, undelivered⟩ := receivePass_undelivered unverified holds peer
    rcases delivered with ⟨event, reported⟩ | moved
    · exact undelivered event reported
    · exact moved same
  · intro valid nonempty bounded header read known
    have passed (silent : outcome.2 = none) : after = (outcome.1.published, none) := by
      rw [silent] at returned
      change client.receivePass world (.ok (peer, pkt)) = _
      unfold receivePass
      dsimp only
      rw [if_neg (by simp [valid]), if_neg (by omega), returned]
    refine ⟨fun unverified => ?_, fun unverified => ?_⟩
    · rw [passed (handled.silent unverified read known)]
    · rw [passed (handled.silent (fun ⟨wrap, plain, _, verified⟩ =>
        unverified (.inl ⟨wrap, plain, verified.authentic⟩)) read known)]
      exact handled.unverified holds published read known unverified

/-! ## A recorded report

A second router of the group has synchronised when the first one reports a lost message. The values
are what AES-128 computes under the backbone key. -/

def listenerConfiguration : SecureConfiguration where
  backboneKey := backboneKey
  serialNumber := otherSerial

def listenerRecording : Recording where
  macs :=
    ((backboneKey,
      [0, 0, 0, 0, 3, 232, 0, 250, 0, 0, 0, 2, 195, 196, 0, 0, 0, 6, 6, 16, 9, 85, 0, 36, 0, 0, 0,
        0, 0, 0, 0, 0]),
      ⟨[36, 70, 240, 124, 52, 242, 57, 49, 111, 253, 125, 159, 133, 46, 42, 169],
        rfl⟩) :: backboneRecording.macs
  streams :=
    ((backboneKey,
      ⟨[0, 0, 0, 0, 3, 232, 0, 250, 0, 0, 0, 2, 195, 196, 255, 0], rfl⟩),
      [25, 38, 25, 83, 176, 128, 39, 109, 193, 2, 165, 112, 191, 157, 63,
        62]) :: backboneRecording.streams

def listenerSurroundings (secureMs : UInt64) : Surroundings where
  trueMs := secureMs.toNat
  secureMs := secureMs
  backend := listenerRecording.backend
  drawn := { tag := some ⟨[0xC3, 0xC4], rfl⟩ }
  sent := .ok 36

def listenerCalls : List Call :=
  [.start (.ok ()), .notifyTimer (listenerSurroundings 1000),
    .notifyTimer (listenerSurroundings 4500)]

def listener : RoutingClient :=
  (make {} (some listenerConfiguration)).performAll listenerCalls

def wrappedReport : Octets :=
  [6, 16, 9, 80, 0, 48, 0, 0, 0, 0, 0, 0, 19, 137, 0, 250, 0, 0, 0, 1, 208, 1, 34, 72, 68, 231, 203,
    54, 6, 25, 49, 255, 77, 50, 200, 187, 191, 133, 3, 151, 185, 209, 237, 96, 227, 198, 110, 26]

/-- The report is delivered and verified; a ROUTING_BUSY that is not wrapped is read past and
counted. -/
theorem wrappedReport_verified :
    (listener.receivePass (listenerSurroundings 5003) (.ok (routerPeer, wrappedReport))).2 =
        some (.ok (.lostMessage ⟨0, 1⟩)) ∧
      (∃ secure wrap plain inner, listener.secure = some secure ∧
        Verified secure (listenerSurroundings 5003) wrappedReport wrap plain inner) ∧
      (listener.receivePass (listenerSurroundings 5003) (.ok (routerPeer, busyPacket))).2 = none ∧
      ∃ secure, listener.secure = some secure ∧
        listener.CountedOnce secure busyPacket
          (listener.receivePass (listenerSurroundings 5003) (.ok (routerPeer, busyPacket))).1 := by
  have delivered : (listener.receivePass (listenerSurroundings 5003)
      (.ok (routerPeer, wrappedReport))).2 = some (.ok (.lostMessage ⟨0, 1⟩)) := by decide +kernel
  obtain ⟨secure, holds, -, report, -⟩ := only_verified_delivered {} listenerConfiguration
    listenerCalls (listenerSurroundings 5003) routerPeer wrappedReport
  obtain ⟨wrap, plain, inner, verified⟩ := report (.inl ⟨_, delivered⟩)
  obtain ⟨other, found, -, -, plainFrame⟩ := only_verified_delivered {} listenerConfiguration
    listenerCalls (listenerSurroundings 5003) routerPeer busyPacket
  have unverified : ¬ Verifies other (listenerSurroundings 5003).backend
      busyPacket := by
    rintro (⟨wrap, plain, authentic⟩ | ⟨notify, opened⟩)
    · exact absurd authentic.decoded (by rintro ⟨⟩)
    · exact absurd opened (by rintro ⟨⟩)
  obtain ⟨silent, counted⟩ := plainFrame (by decide +kernel) (by decide +kernel)
    (by decide +kernel) ⟨0x10, 0x0532, 12⟩ (by decide +kernel) (by decide +kernel)
  refine ⟨delivered, ⟨secure, wrap, plain, inner, holds, verified⟩, silent ?_, other, found,
    counted unverified⟩
  exact fun ⟨wrap, plain, _, verified⟩ => unverified (.inl ⟨wrap, plain, verified.authentic⟩)

end KmxAio.Knx.Routing
