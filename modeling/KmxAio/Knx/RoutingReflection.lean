import KmxAio.Knx.RoutingBusy

/-!
# A secure router and its own synchronisation request

A secure client drops a datagram that is one of the last four it recorded as
sent. Its synchronisation request is recorded like every other datagram, so its
reflection is dropped until four more have been recorded; after that the timer
takes it for what it says it is, the answer to the request.
-/

namespace KmxAio.Knx.Routing

open Lib Lib.Run Lib.Wire Knx.Frame Secure

namespace RoutingClient

/-! ## What touches the history of sent datagrams -/

/-- A secure client after a call that handed at most one datagram to the transport: it recorded
exactly that one. -/
structure Carries (client after : RoutingClient) (handed : Option Octets) : Prop where
  secured : after.secure.isSome = client.secure.isSome
  packets : after.recentSentPackets =
    match handed with
    | none => client.recentSentPackets
    | some packet => client.recentSentPackets.push packet

variable {client : RoutingClient}

theorem Sends.carries {after : RoutingClient} {handed : Option Octets}
    (sends : Sends client after handed) (isSecure : client.secure.isSome = true) :
    Carries client after handed :=
  ⟨sends.timer.isSome, sends.packets isSecure⟩

/-! ## Synchronisation requests -/

def requestOf (client : RoutingClient) : Call → Option Octets
  | .notifyTimer world =>
    if client.secure.any (·.synchronisationDue) then (client.notifyTimer world).2.handed
    else none
  | _ => none

/-! ## When a notification leaves the timer alone -/

/-- The parts of a secure state a synchronisation consists of. -/
structure SameClock (before after : SecureState) : Prop where
  difference : after.timer.clockDifference = before.timer.clockDifference
  pending : after.timer.synchronisationTag = before.timer.synchronisationTag
  synchronised : after.timer.synchronised = before.timer.synchronised

/-- A notification that answers no pending request and is not ahead of the local timer. -/
def Stale (timer : RoutingTimerState) (nowMs : UInt64) (notify : RoutingFrameIdentity) : Prop :=
  timer.answersRequest notify = false ∧ notify.timerValue ≤ timer.timerValue nowMs

theorem onTimerNotify_stale {secure : SecureState} {nowMs : UInt64} {notify : RoutingFrameIdentity}
    (drawn : Drawn) (stale : Stale secure.timer nowMs notify) :
    SameClock secure { secure with timer := secure.timer.onTimerNotify nowMs notify drawn } := by
  obtain ⟨other, behind⟩ := stale
  have still : secure.timer.advance (signed (secure.timer.timerValue nowMs))
      (signed notify.timerValue) = secure.timer := by
    have small := secure.timer.timerValue_lt nowMs
    rw [UInt64.le_iff_toNat_le] at behind
    rw [RoutingTimerState.advance, if_pos]
    rw [signed_of_lt small, signed_of_lt (Nat.lt_of_le_of_lt behind small)]
    exact_mod_cast behind
  unfold RoutingTimerState.onTimerNotify
  rw [if_neg (by simp [other])]
  dsimp only
  split
  · rw [still]
    exact ⟨rfl, rfl, rfl⟩
  · split <;> exact ⟨rfl, rfl, rfl⟩

end RoutingClient

open RoutingClient

/-! ## Runs -/

/-- A client with the datagrams it recorded as sent since its last stop, and with every
synchronisation request it ever put on the group. -/
structure ReflectionLog where
  client : RoutingClient
  recorded : List Octets := []
  requests : List Octets := []

def ReflectionLog.step (log : ReflectionLog) (call : Call) : ReflectionLog :=
  let (client, observed) := log.client.perform call
  let since := if log.client.started = true ∧ client.started = false then [] else log.recorded
  { client := client
    recorded := since ++ observed.handed.toList
    requests := log.requests ++ (log.client.requestOf call).toList }

/-- A request that comes back is one of the last four datagrams recorded, or by now it neither
answers a pending request nor is ahead of the local timer. -/
def Guarded (log : ReflectionLog) : Call → Prop
  | .receive world (.ok (_, pkt)) =>
    pkt ∈ log.requests → pkt ∈ log.recorded.rtake reflectionHistorySize ∨
      ∀ secure notify, log.client.secure = some secure →
        decodeTimerNotifyPacket pkt = .ok notify →
          Stale secure.timer world.secureMs
            ⟨UInt64.ofNat (decodeSequence notify.timerValue), notify.serialNumber, notify.messageTag⟩
  | _ => True

structure ReflectionLog.Consistent (log : ReflectionLog) : Prop where
  secured : log.client.secure.isSome = true
  size : log.client.recentSentPackets.size = reflectionHistorySize
  records : log.client.recentSentPackets.Records log.recorded
  notifies : ∀ request ∈ log.requests, ∃ notify,
    encodeTimerNotifyPacket timerNotifySize notify = .ok request

variable {client : RoutingClient} {call : Call} {log : ReflectionLog}
  {secure : SecureState} {world : Surroundings} {pkt : Octets}

theorem consistent_notifies (consistent : log.Consistent) (call : Call) :
    ∀ req ∈ (log.step call).requests, ∃ notify,
      encodeTimerNotifyPacket timerNotifySize notify = .ok req := by
  intro req present
  rcases List.mem_append.mp present with before | now
  · exact consistent.notifies req before
  have requested := Option.mem_toList.mp now
  cases call with
  | notifyTimer world =>
    dsimp only [requestOf] at requested
    split at requested
    · unfold notifyTimer at requested
      split at requested
      · cases requested
      split at requested
      · cases requested
      split at requested
      · cases requested
      · cases requested
      rename_i prepared
      obtain rfl := Option.some.inj requested
      unfold prepareTimerNotify at prepared
      dsimp only at prepared
      split at prepared
      · cases prepared
      split at prepared
      · cases prepared
      rename_i built
      cases prepared
      unfold buildNotify at built
      split at built
      · cases built
      · exact ⟨_, built⟩
    · cases requested
  | _ => cases requested

theorem consistent_carries (consistent : log.Consistent)
    (running : ¬ (log.client.started = true ∧ (log.client.perform call).1.started = false))
    (carries : Carries log.client (log.client.perform call).1
      (log.client.perform call).2.handed) : (log.step call).Consistent := by
  obtain ⟨secured, packets⟩ := carries
  have recorded : (log.step call).recorded =
      log.recorded ++ (log.client.perform call).2.handed.toList := by
    simp only [ReflectionLog.step, if_neg running]
  have client : (log.step call).client = (log.client.perform call).1 := rfl
  refine ⟨?_, ?_, ?_, consistent_notifies consistent call⟩
  · rw [client, secured]
    exact consistent.secured
  · rw [client, packets]
    split <;> exact consistent.size
  · rw [client, packets, recorded]
    cases (log.client.perform call).2.handed with
    | none => simpa using consistent.records
    | some pkt => exact consistent.records.push pkt

theorem not_stopped {after : RoutingClient} (same : after.started = client.started) :
    ¬ (client.started = true ∧ after.started = false) := by
  rintro ⟨before, later⟩
  rw [same, before] at later
  cases later

theorem consistent_unchanged (consistent : log.Consistent)
    (same : (log.client.perform call).1 = log.client)
    (silent : (log.client.perform call).2.handed = none) : (log.step call).Consistent := by
  refine consistent_carries consistent (not_stopped (congrArg started same)) ?_
  rw [same, silent]
  exact ⟨rfl, rfl⟩

theorem consistent_step (log : ReflectionLog) (call : Call)
    (consistent : log.Consistent) : (log.step call).Consistent := by
  have isSecure := consistent.secured
  cases call with
  | start joined =>
    rcases log.client.start_cases joined with same | ⟨stopped, -, -, packets, timer⟩
    · exact consistent_unchanged consistent same rfl
    · refine consistent_carries consistent ?_ ⟨timer.isSome, packets⟩
      rintro ⟨running, -⟩
      rw [running] at stopped
      cases stopped
  | stop left =>
    have notifies := consistent_notifies consistent (.stop left)
    rcases log.client.stop_cases left with same | ⟨running, stopped, -, cleared, timer⟩
    · exact consistent_unchanged consistent same rfl
    · have next : log.step (.stop left) =
          ⟨(log.client.stop left).1, [], (log.step (.stop left)).requests⟩ := by
        simp [ReflectionLog.step, perform, running, stopped]
      rw [next]
      refine ⟨timer.isSome.trans consistent.secured, ?_, ?_, notifies⟩
      · exact (congrArg RingBuffer.size cleared).trans consistent.size
      · rw [cleared]
        exact RingBuffer.records_nil rfl
  | noteBusy trueMs backoffMs | noteLost | noteReflected | useDataSecure ctx =>
    exact consistent_carries consistent (not_stopped rfl) ⟨rfl, rfl⟩
  | sendIndication world cemiBytes =>
    have sends := log.client.sendIndication_sends world cemiBytes
    exact consistent_carries consistent (not_stopped sends.flow.1) (sends.carries isSecure)
  | sendBusy world val =>
    have sends := log.client.sendBusy_sends world val
    exact consistent_carries consistent (not_stopped sends.flow.1) (sends.carries isSecure)
  | sendLostMessage world val =>
    have sends := log.client.sendLostMessage_sends world val
    exact consistent_carries consistent (not_stopped sends.flow.1) (sends.carries isSecure)
  | notifyTimer world =>
    have sends := log.client.notifyTimer_sends world
    exact consistent_carries consistent (not_stopped sends.flow.1) (sends.carries isSecure)
  | receive world received =>
    have receives := log.client.receivePass_receives world received
    exact consistent_carries consistent (not_stopped receives.heard.1)
      ⟨receives.timer.isSome, receives.packets⟩

/-! ## The reflected request -/

/-- A client whose secure state has the same clock as a given one. -/
def Undisturbed (secure : SecureState) (client : RoutingClient) : Prop :=
  ∃ after, client.secure = some after ∧ SameClock secure after

theorem undisturbed_published (undisturbed : Undisturbed secure client) :
    Undisturbed secure client.published := by
  obtain ⟨after, isAfter, same⟩ := undisturbed
  refine ⟨after.publishState, ?_, same.difference, same.pending, same.synchronised⟩
  simp [published, isAfter]

theorem secureEvent_undisturbed {header : CommunicationHeader}
    (isSecure : client.secure = some secure) (decoded : decodeCommunicationHeader pkt = .ok header)
    (service : header.serviceType = timerNotifyService)
    (guarded : client.isOwnReflection pkt = true ∨
      ∀ notify, decodeTimerNotifyPacket pkt = .ok notify →
        Stale secure.timer world.secureMs
          ⟨UInt64.ofNat (decodeSequence notify.timerValue), notify.serialNumber, notify.messageTag⟩) :
    Undisturbed secure (client.secureEvent secure world pkt).1 ∧
      (client.secureEvent secure world pkt).2 = none := by
  unfold secureEvent
  by_cases own : client.isOwnReflection pkt = true
  · rw [if_pos own]
    exact ⟨undisturbed_published ⟨secure, isSecure, rfl, rfl, rfl⟩, rfl⟩
  · have stale := guarded.resolve_left own
    rw [if_neg own, decoded]
    dsimp only
    unfold securedEvent
    rw [service, if_neg (by decide), if_pos rfl]
    refine ⟨undisturbed_published ?_, rfl⟩
    unfold applyTimerNotify
    split
    · exact ⟨_, rfl, rfl, rfl, rfl⟩
    rename_i identity opened
    unfold openTimerNotify at opened
    split at opened
    · cases opened
    rename_i notify decoded
    split at opened
    · cases opened
    · obtain rfl := Option.some.inj opened
      exact ⟨_, rfl, onTimerNotify_stale _ (stale notify decoded)⟩

/-- In every run of a secure client whose receptions are guarded, a datagram identical to one of its
own synchronisation requests neither completes a synchronisation nor changes the clock difference. -/
theorem own_request_never_answers (config : MulticastConfiguration)
    (secureConfiguration : SecureConfiguration) (calls : List Call)
    (log : ReflectionLog) (world : Surroundings) (peer : TransportPeer) (req : Octets)
    (reached : log = run ReflectionLog.step ⟨make config (some secureConfiguration), [], []⟩ calls)
    (requested : req ∈ log.requests) (guarded : Guarded log (.receive world (.ok (peer, req)))) :
    ∃ before after, log.client.secure = some before ∧
      (log.step (.receive world (.ok (peer, req)))).client.secure = some after ∧
      after.timer.clockDifference = before.timer.clockDifference ∧
      after.timer.synchronisationTag = before.timer.synchronisationTag ∧
      after.timer.synchronised = before.timer.synchronised := by
  have consistent : log.Consistent := by
    rw [reached]
    have everyCall : Admissible ReflectionLog.step (fun _ _ => True)
        ⟨make config (some secureConfiguration), [], []⟩ calls :=
      admissible_of_events fun _ _ => trivial
    exact invariant_run (fun log call still _ => consistent_step log call still)
      ⟨rfl, rfl, RingBuffer.records_nil rfl, nofun⟩ everyCall
  obtain ⟨before, isSecure⟩ := Option.isSome_iff_exists.mp consistent.secured
  obtain ⟨after, isAfter, same⟩ : Undisturbed before (log.client.receivePass world (.ok (peer,
      req))).1 := by
    have unchanged : Undisturbed before log.client := ⟨before, isSecure, rfl, rfl, rfl⟩
    obtain ⟨notify, encoded⟩ := consistent.notifies req requested
    obtain ⟨header, decoded, service⟩ : ∃ header, decodeCommunicationHeader req = .ok header ∧
        header.serviceType = timerNotifyService := by
      obtain rfl := Except.ok.inj encoded
      exact ⟨_, decodeCommunicationHeader_headerOctets timerNotifyService 36 _ (by decide), rfl⟩
    have caught : log.client.isOwnReflection req = true ∨
        ∀ notify, decodeTimerNotifyPacket req = .ok notify →
          Stale before.timer world.secureMs ⟨UInt64.ofNat (decodeSequence notify.timerValue),
            notify.serialNumber, notify.messageTag⟩ := by
      rcases guarded requested with recent | stale
      · left
        rw [← consistent.size, ← consistent.records.mem_iff] at recent
        simpa [isOwnReflection] using recent
      · right
        intro notify decodedNotify
        exact stale before notify isSecure decodedNotify
    obtain ⟨undisturbed, silent⟩ := secureEvent_undisturbed isSecure decoded service caught
    have handled : log.client.datagramEvent world req =
        ((log.client.secureEvent before world req).1, none) := by
      rw [← silent]
      simp only [datagramEvent, isSecure]
    unfold receivePass
    dsimp only
    split
    · exact unchanged
    split
    · exact unchanged
    · rw [handled]
      exact undisturbed
  exact ⟨before, after, isSecure, isAfter, same.difference, same.pending, same.synchronised⟩

/-! ## A recorded exchange

A router starts at 5000 ms, sends its synchronisation request and then reports lost messages. The
values are what AES-128 computes under the backbone key. -/

def backboneKey : SecretKey :=
  ⟨[15, 30, 45, 60, 75, 90, 105, 120, 135, 150, 165, 180, 195, 210, 225, 240], rfl⟩

/-- The authenticated blocks of the wrapper around the report with this number. -/
def reportBlocks (index : UInt8) : Octets :=
  [0, 0, 0, 0, 19, 136 + index, 0, 250, 0, 0, 0, 1, 208, index, 0, 10, 0, 8, 6, 16, 9, 80, 0, 48, 0,
    0, 6, 16, 5, 49, 0, 10, 4, 0, 0, 1] ++ List.replicate 12 0

def reportCounter (index : UInt8) : Block :=
  ⟨[0, 0, 0, 0, 19, 136 + index, 0, 250, 0, 0, 0, 1, 208, index, 255, 0], rfl⟩

def backboneRecording : Recording where
  macs :=
    [((backboneKey,
        [0, 0, 0, 0, 19, 136, 0, 250, 0, 0, 0, 1, 193, 194, 0, 0, 0, 6, 6, 16, 9, 85, 0, 36, 0, 0,
          0, 0, 0, 0, 0, 0]),
        ⟨[14, 48, 9, 1, 242, 244, 208, 170, 186, 30, 169, 85, 25, 137, 231, 169], rfl⟩),
      ((backboneKey, reportBlocks 1),
        ⟨[226, 106, 186, 116, 180, 9, 135, 243, 98, 190, 195, 102, 16, 204, 70, 9], rfl⟩),
      ((backboneKey, reportBlocks 2),
        ⟨[50, 150, 102, 184, 65, 181, 90, 255, 78, 155, 155, 68, 220, 16, 15, 238], rfl⟩),
      ((backboneKey, reportBlocks 3),
        ⟨[0, 35, 143, 52, 71, 123, 237, 205, 142, 118, 86, 91, 149, 45, 38, 17], rfl⟩),
      ((backboneKey, reportBlocks 4),
        ⟨[195, 89, 185, 39, 243, 15, 203, 15, 83, 133, 101, 141, 251, 220, 244, 147], rfl⟩)]
  streams :=
    [((backboneKey, ⟨[0, 0, 0, 0, 19, 136, 0, 250, 0, 0, 0, 1, 193, 194, 255, 0], rfl⟩),
        [121, 78, 37, 222, 122, 23, 162, 109, 210, 132, 145, 30, 248, 179, 1, 238]),
      ((backboneKey, reportCounter 1),
        [175, 88, 114, 207, 11, 140, 132, 100, 219, 111, 46, 6, 243, 10, 40, 19, 36, 88, 65, 214,
          203, 60, 2, 25, 49, 254]),
      ((backboneKey, reportCounter 2),
        [46, 181, 164, 59, 220, 0, 195, 164, 181, 175, 192, 12, 56, 33, 40, 146, 248, 132, 215,
          216, 76, 123, 223, 144, 34, 149]),
      ((backboneKey, reportCounter 3),
        [20, 65, 180, 7, 152, 137, 13, 10, 107, 127, 140, 182, 40, 66, 79, 35, 204, 4, 31, 19, 153,
          177, 229, 43, 1, 228]),
      ((backboneKey, reportCounter 4),
        [173, 207, 118, 74, 254, 247, 246, 146, 21, 214, 212, 56, 144, 184, 234, 214, 72, 94, 92,
          168, 85, 239, 196, 140, 143, 178])]

theorem backboneSerial_length : ([0x00, 0xFA, 0x00, 0x00, 0x00, 0x01] : Octets).length = 6 := rfl

def backboneConfiguration : SecureConfiguration where
  backboneKey := backboneKey
  serialNumber := ⟨[0x00, 0xFA, 0x00, 0x00, 0x00, 0x01], backboneSerial_length⟩

def syncRequest : Octets :=
  [6, 16, 9, 85, 0, 36, 0, 0, 0, 0, 19, 136, 0, 250, 0, 0, 0, 1, 193, 194, 119, 126, 44, 223, 136,
    227, 114, 199, 104, 154, 56, 75, 225, 58, 230, 71]

def backboneSurroundings (secureMs : UInt64) (tag : MessageTag) (sent : Nat) : Surroundings where
  trueMs := secureMs.toNat
  secureMs := secureMs
  backend := backboneRecording.backend
  tag := .ok tag
  drawn := { tag := some tag }
  sent := .ok sent

def askingCalls (count : Nat) : List Call :=
  [.start (.ok ()), .notifyTimer (backboneSurroundings 5000 ⟨[0xC1, 0xC2], rfl⟩ 36)] ++
    (List.range count).map fun index =>
      .sendLostMessage
        (backboneSurroundings (UInt64.ofNat (5001 + index)) ⟨[0xD0, UInt8.ofNat (index + 1)], rfl⟩
          48) ⟨0, 1⟩

def askingLog (count : Nat) : ReflectionLog :=
  run ReflectionLog.step ⟨make {} (some backboneConfiguration), [], []⟩
    (askingCalls count)

def reflection : Call :=
  .receive (backboneSurroundings 5050 ⟨[0x00, 0x00], rfl⟩ 0) (.ok (routerPeer, syncRequest))

/-- After three more datagrams the request is still recognised. -/
theorem own_request_never_answers_recent :
    syncRequest ∈ (askingLog 3).requests ∧ (askingLog 3).recorded.length = 4 ∧
      ∃ before after, (askingLog 3).client.secure = some before ∧
        ((askingLog 3).step reflection).client.secure = some after ∧
        after.timer.clockDifference = before.timer.clockDifference ∧
        after.timer.synchronisationTag = before.timer.synchronisationTag ∧
        after.timer.synchronised = before.timer.synchronised :=
  ⟨by decide +kernel, by decide +kernel,
    own_request_never_answers {} backboneConfiguration (askingCalls 3) (askingLog 3)
      (backboneSurroundings 5050 ⟨[0x00, 0x00], rfl⟩ 0) routerPeer syncRequest rfl
      (by decide +kernel) (fun _ => .inl (by decide +kernel))⟩

/-- After four it is taken for the answer: the synchronisation is complete, and the timer was set
back to the time of the request. -/
theorem own_request_answers_after_four :
    syncRequest ∈ (askingLog 4).requests ∧
      (askingLog 4).client.secure.map (fun secure =>
        (secure.timer.synchronised, secure.timer.clockDifference)) = some (false, 0) ∧
      ((askingLog 4).step reflection).client.secure.map (fun secure =>
        (secure.timer.synchronised, secure.timer.clockDifference)) = some (true, -50) := by
  decide +kernel

end KmxAio.Knx.Routing
