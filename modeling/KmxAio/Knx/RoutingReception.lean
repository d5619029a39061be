import KmxAio.Knx.RoutingSends
import KmxAio.Knx.Secure.RoutingFreshness

/-!
# What becomes of a datagram at a routing client

One inductive relation lists what may become of a datagram at a secure client. From it
follows what any reception leaves of a client: the datagrams it recorded as sent, its
secure state with the timer moved on, and the back-off unless it was told of one.
-/

namespace KmxAio.Knx.Routing

open Lib Lib.Wire Knx.Frame Secure

/-! ## Verified wrappers -/

/-- The MAC of a wrapper verifies under a key: decrypted with the payload, it is the MAC of the plain
payload. -/
def MacVerifies (backend : CryptoBackend) (key : SecretKey) (wrap : WrapperFrame)
    (plain : Octets) : Prop :=
  let msg := wrapperMessage wrap.toWrapperFields wrap.encryptedFrame
  ∃ mac : Block,
    ctr backend key msg.counter0 wrap.mac.toList msg.payload = .ok (mac.toList, plain) ∧
    cbcMac backend key msg.block0 msg.associatedData plain = .ok mac

/-- The octets are a wrapper of session 0 whose MAC verifies under the backbone key. -/
structure Authentic (secure : SecureState) (backend : CryptoBackend) (pkt : Octets)
    (wrap : WrapperFrame) (plain : Octets) : Prop where
  decoded : decodeWrapperPacket pkt = .ok wrap
  session : wrap.sessionId = 0
  verifies : MacVerifies backend secure.configuration.backboneKey wrap plain

/-- The wrapper is authentic, its frame is well formed and of a routing service, and the timer
accepts it. -/
structure Verified (secure : SecureState) (world : Surroundings) (pkt : Octets)
    (wrap : WrapperFrame) (plain : Octets) (inner : CommunicationHeader) : Prop where
  authentic : Authentic secure world.backend pkt wrap plain
  wellFormed : checkWrappedFrame plain = .ok inner
  carried : carriedService inner.serviceType = true
  accepted : (secure.timer.onWrapper world.secureMs wrap.identity world.drawn).2 = .accepted

variable {backend : CryptoBackend} {plain : Octets}

theorem openRoutingWrapper_authentic {secure : SecureState} {pkt : Octets} {wrap : WrapperFrame}
    (opened : RoutingClient.openRoutingWrapper secure backend pkt = .ok (wrap, plain)) :
    Authentic secure backend pkt wrap plain := by
  unfold RoutingClient.openRoutingWrapper at opened
  split at opened
  · cases opened
  rename_i found decoded
  split at opened
  · cases opened
  rename_i sess
  split at opened
  · cases opened
  rename_i content verified
  cases opened
  refine ⟨decoded, not_not.mp sess, ?_⟩
  unfold openWrapper at verified
  dsimp only at verified
  split at verified
  · cases verified
  unfold openMessage at verified
  split at verified
  · cases verified
  rename_i decrypted
  split at verified
  · cases verified
  rename_i expected computed
  split at verified
  · rename_i same
    cases verified
    exact ⟨expected, by rw [decrypted, same], computed⟩
  · cases verified

/-! ## What becomes of a datagram -/

/-- The services a secure client knows: wrappers, TIMER_NOTIFY, and what routing carries. -/
def securedService (service : UInt16) : Bool :=
  service == wrapperService || service == timerNotifyService || carriedService service

namespace RoutingClient

def withWrapper (client : RoutingClient) (secure : SecureState) (world : Surroundings)
    (wrap : WrapperFrame) : RoutingClient :=
  client.withTimer secure
    (secure.timer.onWrapper world.secureMs wrap.identity world.drawn).1

inductive Handled (client : RoutingClient) (secure : SecureState) (world : Surroundings)
    (pkt : Octets) : RoutingClient × Option (Expected RoutingEvent) → Prop where
  | reflected (own : client.isOwnReflection pkt = true) :
      Handled client secure world pkt (client.noteReflected, none)
  | unknown (reason : ErrorCode)
      (foreign : ∀ header, decodeCommunicationHeader pkt = .ok header →
        securedService header.serviceType = false) :
      Handled client secure world pkt (client, some (.error reason))
  | refused (reason : Refusal) :
      Handled client secure world pkt
        (client.withTimer secure (secure.timer.noteRefused reason), none)
  | notified (notify : RoutingFrameIdentity)
      (verifies : openTimerNotify secure world.backend pkt = some notify) :
      Handled client secure world pkt
        (client.withTimer secure
          (secure.timer.onTimerNotify world.secureMs notify world.drawn), none)
  | rejected (wrap : WrapperFrame) (plain : Octets)
      (authentic : Authentic secure world.backend pkt wrap plain) :
      Handled client secure world pkt
        (client.withWrapper secure world wrap, none)
  | delivered (wrap : WrapperFrame) (plain : Octets) (inner : CommunicationHeader)
      (verified : Verified secure world pkt wrap plain inner) :
      Handled client secure world pkt
        (((client.withWrapper secure world wrap).toEvent world.trueMs
            inner.serviceType plain).1,
          some ((client.withWrapper secure world wrap).toEvent world.trueMs
            inner.serviceType plain).2)

variable {client : RoutingClient} {secure : SecureState} {world : Surroundings}
  {pkt : Octets}

variable {header : CommunicationHeader} {after : RoutingClient}
  {outcome : RoutingClient × Option (Expected RoutingEvent)}

theorem securedEvent_handled (read : decodeCommunicationHeader pkt = .ok header) :
    Handled client secure world pkt (client.securedEvent secure world header.serviceType pkt) := by
  unfold securedEvent
  by_cases wrapped : header.serviceType = wrapperService
  · rw [if_pos wrapped]
    unfold unwrapEvent
    cases opened : openRoutingWrapper secure world.backend pkt with
    | error why => exact .refused .authentication
    | ok content =>
      obtain ⟨wrap, plain⟩ := content
      have authentic := openRoutingWrapper_authentic opened
      dsimp only
      cases checked : (checkWrappedFrame plain).toOption.filter (carriedService ·.serviceType) with
      | none => exact .refused .service
      | some inner =>
        obtain ⟨found, carried⟩ := Option.filter_eq_some_iff.mp checked
        have wellFormed : checkWrappedFrame plain = .ok inner := by
          cases checkedFrame : checkWrappedFrame plain with
          | error why =>
            rw [checkedFrame] at found
            cases found
          | ok header =>
            rw [checkedFrame] at found
            cases found
            rfl
        dsimp only
        split
        · exact .rejected wrap plain authentic
        rename_i accepted
        exact .delivered wrap plain inner
          ⟨authentic, wellFormed, carried, not_not.mp accepted⟩
  rw [if_neg wrapped]
  by_cases notified : header.serviceType = timerNotifyService
  · rw [if_pos notified]
    unfold applyTimerNotify
    cases opened : openTimerNotify secure world.backend pkt with
    | none => exact .refused .authentication
    | some notify => exact .notified notify opened
  rw [if_neg notified]
  cases carried : carriedService header.serviceType with
  | true => exact .refused .unencrypted
  | false =>
    have kinds := carried
    simp only [carriedService, Bool.or_eq_false_iff, beq_eq_false_iff_ne] at kinds
    rw [if_neg Bool.false_ne_true, toEvent, if_neg kinds.1.1, if_neg kinds.1.2, if_neg kinds.2]
    refine .unknown _ (fun other decoded => ?_)
    rw [read] at decoded
    cases decoded
    simp [securedService, wrapped, notified, carried]

theorem datagramEvent_handled (holds : client.secure = some secure) (world : Surroundings)
    (pkt : Octets) :
    ∃ outcome, Handled client secure world pkt outcome ∧
      client.datagramEvent world pkt = (outcome.1.published, outcome.2) := by
  unfold datagramEvent
  rw [holds]
  dsimp only
  unfold secureEvent
  split_ifs with own
  · exact ⟨_, .reflected own, rfl⟩
  cases read : decodeCommunicationHeader pkt with
  | error why =>
    refine ⟨_, .unknown why (fun header decoded => ?_), rfl⟩
    rw [read] at decoded
    cases decoded
  | ok header => exact ⟨_, securedEvent_handled read, rfl⟩

/-! ## What a reception leaves -/

/-- A reported event changes the back-off when it is a ROUTING_BUSY, and then to the end of it. -/
def Heard (client : RoutingClient) (trueMs : Nat)
    (outcome : RoutingClient × Option (Expected RoutingEvent)) : Prop :=
  outcome.1.started = client.started ∧
    outcome.1.busyUntilMs =
      match outcome.2 with
      | some (.ok (.busy val)) => nowMs (trueMs + val.waitTimeMs.toNat)
      | _ => client.busyUntilMs

structure Receives (client : RoutingClient) (trueMs : Nat)
    (outcome : RoutingClient × Option (Expected RoutingEvent)) : Prop where
  heard : Heard client trueMs outcome
  packets : outcome.1.recentSentPackets = client.recentSentPackets
  timer : TimerMoved client.secure outcome.1.secure

theorem receives_error (client : RoutingClient) (trueMs : Nat) (why : ErrorCode) :
    client.Receives trueMs (client, some (.error why)) :=
  ⟨⟨rfl, rfl⟩, rfl, .inl rfl⟩

theorem toEvent_leaves (client : RoutingClient) (trueMs : Nat) (service : UInt16) (pkt : Octets) :
    Heard client trueMs ((client.toEvent trueMs service pkt).1,
        some (client.toEvent trueMs service pkt).2) ∧
      (client.toEvent trueMs service pkt).1.recentSentPackets = client.recentSentPackets ∧
      (client.toEvent trueMs service pkt).1.secure = client.secure := by
  unfold toEvent
  split
  · unfold toIndication
    split
    · exact ⟨⟨rfl, rfl⟩, rfl, rfl⟩
    · split <;> exact ⟨⟨rfl, rfl⟩, rfl, rfl⟩
  split
  · split
    · exact ⟨⟨rfl, rfl⟩, rfl, rfl⟩
    · rename_i val decoded
      refine ⟨⟨rfl, ?_⟩, rfl, rfl⟩
      show nowMs trueMs + val.waitTimeMs.toUInt32 = nowMs (trueMs + val.waitTimeMs.toNat)
      simp [nowMs, WrappingClock.shown_add]
  split
  · split <;> exact ⟨⟨rfl, rfl⟩, rfl, rfl⟩
  · exact ⟨⟨rfl, rfl⟩, rfl, rfl⟩

theorem Handled.receives (handled : Handled client secure world pkt outcome)
    (holds : client.secure = some secure) :
    client.Receives world.trueMs (outcome.1.published, outcome.2) := by
  have shown : client.published.secure = some secure.publishState := by
    rw [published, holds, Option.map_some]
  cases handled with
  | reflected | unknown => exact ⟨⟨rfl, rfl⟩, rfl, .inr ⟨secure, _, _, holds, shown⟩⟩
  | refused | notified | rejected => exact ⟨⟨rfl, rfl⟩, rfl, .inr ⟨secure, _, _, holds, rfl⟩⟩
  | delivered wrap plain inner =>
    obtain ⟨heard, packets, kept⟩ :=
      (client.withWrapper secure world wrap).toEvent_leaves world.trueMs inner.serviceType plain
    exact ⟨heard, packets, .inr ⟨secure, _, _, holds,
      congrArg (Option.map SecureState.publishState) kept⟩⟩

theorem Receives.openDataSecure {middle : RoutingClient} {trueMs : Nat}
    {event : Expected RoutingEvent} (receives : client.Receives trueMs (middle, some event))
    (backend : CryptoBackend) : client.Receives trueMs (middle.openDataSecure backend event) := by
  obtain ⟨heard, packets, timer⟩ := receives
  unfold RoutingClient.openDataSecure
  split
  · dsimp only
    split
    · exact ⟨heard, packets, timer⟩
    split
    · exact ⟨heard, packets, timer⟩
    · split <;> exact ⟨heard, packets, timer⟩
  · exact ⟨heard, packets, timer⟩

theorem receivePass_receives (client : RoutingClient) (world : Surroundings)
    (received : Expected (TransportPeer × Octets)) :
    client.Receives world.trueMs (client.receivePass world received) := by
  unfold receivePass
  split
  · exact client.receives_error world.trueMs _
  split
  · exact client.receives_error world.trueMs _
  split
  · exact client.receives_error world.trueMs _
  · rename_i peer pkt _ _
    have receives : client.Receives world.trueMs (client.datagramEvent world pkt) := by
      cases holds : client.secure with
      | some secure =>
        obtain ⟨outcome, handled, returned⟩ := datagramEvent_handled holds world pkt
        rw [returned]
        exact handled.receives holds
      | none =>
        unfold datagramEvent plainEvent
        rw [holds]
        dsimp only
        split
        · exact ⟨⟨rfl, rfl⟩, rfl, .inl rfl⟩
        split
        · exact client.receives_error world.trueMs _
        · obtain ⟨heard, packets, kept⟩ := client.toEvent_leaves world.trueMs _ pkt
          exact ⟨heard, packets, .inl kept⟩
    split <;> rename_i returned <;> rw [returned] at receives
    · exact receives
    · exact receives.openDataSecure _

end RoutingClient

end KmxAio.Knx.Routing
