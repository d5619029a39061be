import KmxAio.Knx.RoutingClient

/-!
# What sending changes of a routing client

Whatever a client sends, it changes in few places. A secure client records the
datagram it hands to the transport and moves its timer on, a Data Secure context
takes a number, and the back-off is left alone. Starting and stopping move the timer
as well.
-/

namespace KmxAio.Knx.Routing

open Lib.Wire Secure

namespace RoutingClient

def SameFlow (client after : RoutingClient) : Prop :=
  after.started = client.started ∧ after.busyUntilMs = client.busyUntilMs

variable (client : RoutingClient) (world : Surroundings)

theorem sameFlow_refl : SameFlow client client := ⟨rfl, rfl⟩

/-- The secure part of a client is the same, or published with its timer moved on. -/
def TimerMoved (before after : Option SecureState) : Prop :=
  after = before ∨ ∃ secure timer due, before = some secure ∧
    after = some { secure with timer := timer, synchronisationDue := due }.publishState

theorem TimerMoved.isSome {before after : Option SecureState} (moved : TimerMoved before after) :
    after.isSome = before.isSome := by
  rcases moved with rfl | ⟨secure, timer, due, rfl, rfl⟩ <;> rfl

theorem timerMoved_map (before : Option SecureState)
    {timerOf : SecureState → RoutingTimerState} {due : Bool} :
    TimerMoved before (before.map fun secure =>
      { secure with timer := timerOf secure, synchronisationDue := due }.publishState) := by
  cases before with
  | none => exact .inl rfl
  | some secure => exact .inr ⟨secure, timerOf secure, due, rfl, rfl⟩

/-! ## Starting and stopping -/

theorem start_cases (joined : Expected Unit) :
    (client.start joined).1 = client ∨
      client.started = false ∧ (client.start joined).1.started = true ∧
        (client.start joined).1.busyUntilMs = client.busyUntilMs ∧
        (client.start joined).1.recentSentPackets = client.recentSentPackets ∧
        TimerMoved client.secure (client.start joined).1.secure := by
  unfold start
  split
  · exact .inl rfl
  rename_i stopped
  split
  · exact .inl rfl
  · exact .inl rfl
  · exact .inl rfl
  · exact .inr ⟨by simpa using stopped, rfl, rfl, rfl, timerMoved_map client.secure⟩

theorem stop_cases (left : Expected Unit) :
    (client.stop left).1 = client ∨
      client.started = true ∧ (client.stop left).1.started = false ∧
        (client.stop left).1.busyUntilMs = 0 ∧
        (client.stop left).1.recentSentPackets = client.recentSentPackets.clear ∧
        TimerMoved client.secure (client.stop left).1.secure := by
  unfold stop
  split
  · exact .inl rfl
  rename_i running
  split
  · exact .inl rfl
  · exact .inr ⟨by simpa using running, rfl, rfl, rfl, timerMoved_map client.secure⟩

/-! ## Sending -/

/-- A client after a call that handed at most one datagram to the transport. A secure one records
it whatever the transport makes of it. -/
structure Sends (client after : RoutingClient) (handed : Option Octets) : Prop where
  flow : SameFlow client after
  timer : TimerMoved client.secure after.secure
  packets : client.secure.isSome = true →
    after.recentSentPackets =
      match handed with
      | none => client.recentSentPackets
      | some packet => client.recentSentPackets.push packet

theorem sends_nothing : Sends client client none :=
  ⟨sameFlow_refl client, .inl rfl, fun _ => rfl⟩

theorem sendEncoded_sends (encoded : Expected Octets) :
    Sends client (client.sendEncoded world encoded).1
      (client.sendEncoded world encoded).2.handed := by
  cases encoded with
  | error why => exact sends_nothing client
  | ok pkt =>
    dsimp only [sendEncoded]
    unfold sendPacket
    split
    · rename_i plain
      have unsecured {records : Prop} : client.secure.isSome = true → records := by simp [plain]
      split <;> exact ⟨⟨rfl, rfl⟩, .inl rfl, unsecured⟩
    · rename_i secure holds
      unfold sealOutgoing
      cases world.tag with
      | error why => exact sends_nothing client
      | ok tag =>
        dsimp only
        split <;> rename_i returned <;> split at returned <;> cases returned <;>
          exact ⟨⟨rfl, rfl⟩, .inr ⟨secure, _, _, holds, rfl⟩, fun _ => rfl⟩

theorem secureOutgoing_context (cemiBytes : Octets) :
    ∃ ctx, (client.secureOutgoing world cemiBytes).1 = { client with dataSecure := ctx } := by
  unfold secureOutgoing
  split <;> exact ⟨_, rfl⟩

theorem sendIndication_sends (cemiBytes : Octets) :
    Sends client (client.sendIndication world cemiBytes).1
      (client.sendIndication world cemiBytes).2.handed := by
  obtain ⟨ctx, only⟩ := client.secureOutgoing_context world cemiBytes
  unfold sendIndication
  split
  · exact sends_nothing client
  split
  · exact sends_nothing client
  · split <;> rename_i returned <;> rw [returned] at only
    · obtain rfl := only
      exact ⟨⟨rfl, rfl⟩, .inl rfl, fun _ => rfl⟩
    · obtain rfl := only
      obtain ⟨flow, timer, packets⟩ := sendEncoded_sends { client with dataSecure := ctx }
        world _
      exact ⟨flow, timer, packets⟩

theorem sendBusy_sends (val : Busy) :
    Sends client (client.sendBusy world val).1 (client.sendBusy world val).2.handed := by
  unfold sendBusy
  split
  · exact sends_nothing client
  · exact client.sendEncoded_sends world _

theorem sendLostMessage_sends (val : LostMessage) :
    Sends client (client.sendLostMessage world val).1
      (client.sendLostMessage world val).2.handed := by
  unfold sendLostMessage
  split
  · exact sends_nothing client
  · exact client.sendEncoded_sends world _

theorem notifyTimer_sends :
    Sends client (client.notifyTimer world).1 (client.notifyTimer world).2.handed := by
  unfold notifyTimer
  split
  · exact sends_nothing client
  split
  · exact sends_nothing client
  · rename_i secure holds
    split <;> rename_i returned <;> unfold prepareTimerNotify at returned <;>
      dsimp only at returned <;> split at returned <;> try split at returned
    all_goals cases returned
    all_goals exact ⟨⟨rfl, rfl⟩, .inr ⟨secure, _, _, holds, rfl⟩, fun _ => rfl⟩

end RoutingClient

end KmxAio.Knx.Routing
