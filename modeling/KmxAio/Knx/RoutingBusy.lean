import KmxAio.Knx.RoutingReception
import KmxAio.Knx.DataSecure.Refusals

/-!
# When a routing client holds back

A routing client keeps one deadline for all the back-offs it was asked for, as its
32-bit clock will show it; an announcement moves it even where it ends before the
ones made earlier.
-/

namespace KmxAio.Knx.Routing

open Lib Lib.Wire Lib.Run Lib.Fallible Secure RoutingClient
open KmxAio.Knx.DataSecure (Context SequenceSource)

/-! ## Announcements -/

structure Announcement where
  startMs : Nat
  waitMs : Nat
  deriving DecidableEq

def Announcement.endMs (notice : Announcement) : Nat :=
  notice.startMs + notice.waitMs

/-- The back-off a call announces: the application's own, or that of a ROUTING_BUSY it reports. -/
def announcementOf : Call → Observed → Option Announcement
  | .noteBusy trueMs backoffMs, _ => some ⟨trueMs, backoffMs.toNat⟩
  | .receive world _, ⟨_, some (.ok (.busy val))⟩ =>
    some ⟨world.trueMs, val.waitTimeMs.toNat⟩
  | _, _ => none

/-- A client with what was announced to it since its last start. -/
structure History where
  client : RoutingClient
  announced : List Announcement := []

def History.step (hist : History) (call : Call) : History :=
  let (client, observed) := hist.client.perform call
  let since :=
    if hist.client.started = false ∧ client.started = true then [] else hist.announced
  { client := client, announced := since ++ (announcementOf call observed).toList }

def deadlineMs (announced : List Announcement) : Nat :=
  (announced.getLast?.map Announcement.endMs).getD 0

@[simp] theorem deadlineMs_append (announced : List Announcement) (last : Announcement) :
    deadlineMs (announced ++ [last]) = last.endMs := by
  simp [deadlineMs]

/-- What a call announces, it announces to a started client, for less than half a turn of the clock,
and not to end before what was announced earlier. -/
def Heeded (hist : History) (call : Call) : Prop :=
  ∀ notice, announcementOf call (hist.client.perform call).2 = some notice →
    hist.client.started = true ∧ notice.waitMs < 2 ^ 31 ∧ deadlineMs hist.announced ≤ notice.endMs

instance (hist : History) (call : Call) : Decidable (Heeded hist call) :=
  match announced : announcementOf call (hist.client.perform call).2 with
  | none => .isTrue (by simp [Heeded, announced])
  | some notice =>
    decidable_of_iff (hist.client.started = true ∧ notice.waitMs < 2 ^ 31 ∧
      deadlineMs hist.announced ≤ notice.endMs) (by simp [Heeded, announced])

/-- The kept deadline is the end of the last announcement, which is the latest end of all. -/
structure History.Tracks (hist : History) : Prop where
  stopped : hist.client.started = false → hist.client.busyUntilMs = 0
  running : hist.client.started = true → hist.client.busyUntilMs = nowMs (deadlineMs hist.announced)
  latest : hist.client.started = true →
    ∀ notice ∈ hist.announced, notice.endMs ≤ deadlineMs hist.announced
  short : hist.client.started = true → ∀ notice ∈ hist.announced, notice.waitMs < 2 ^ 31

variable {hist : History} {notice : Announcement} {call : Call}

theorem History.Tracks.same {after : RoutingClient} (tracks : hist.Tracks)
    (flow : SameFlow hist.client after) :
    History.Tracks ⟨after, hist.announced⟩ := by
  obtain ⟨sameStarted, sameBusy⟩ := flow
  constructor
  · intro stopped
    exact sameBusy.trans (tracks.stopped (sameStarted.symm.trans stopped))
  · intro running
    exact sameBusy.trans (tracks.running (sameStarted.symm.trans running))
  · intro running
    exact tracks.latest (sameStarted.symm.trans running)
  · intro running
    exact tracks.short (sameStarted.symm.trans running)

section

variable (tracks : hist.Tracks)

include tracks

theorem tracks_quiet (flow : SameFlow hist.client (hist.client.perform call).1)
    (quiet : announcementOf call (hist.client.perform call).2 = none) :
    (hist.step call).Tracks := by
  have unchanged : ¬ (hist.client.started = false ∧
      (hist.client.perform call).1.started = true) := by
    rintro ⟨before, after⟩
    rw [flow.1, before] at after
    cases after
  have kept : hist.step call = ⟨(hist.client.perform call).1, hist.announced⟩ := by
    simp only [History.step, if_neg unchanged, quiet, Option.toList_none, List.append_nil]
  rw [kept]
  exact tracks.same flow

theorem tracks_announced (heeded : Heeded hist call)
    (announced : announcementOf call (hist.client.perform call).2 = some notice)
    (sameStarted : (hist.client.perform call).1.started = hist.client.started)
    (kept : (hist.client.perform call).1.busyUntilMs = nowMs notice.endMs) :
    (hist.step call).Tracks := by
  obtain ⟨started, short, later⟩ := heeded notice announced
  have next : hist.step call =
      ⟨(hist.client.perform call).1, hist.announced ++ [notice]⟩ := by
    simp [History.step, announced, started]
  rw [next]
  constructor
  · intro stopped
    rw [sameStarted, started] at stopped
    cases stopped
  · intro _
    rw [deadlineMs_append]
    exact kept
  · intro _ earlier present
    rw [deadlineMs_append]
    rcases List.mem_append.mp present with before | last
    · exact (tracks.latest started earlier before).trans later
    · rw [List.mem_singleton.mp last]
  · intro _ earlier present
    rcases List.mem_append.mp present with before | last
    · exact tracks.short started earlier before
    · rw [List.mem_singleton.mp last]
      exact short

theorem tracks_receive {world : Surroundings} {received : Expected (TransportPeer × Octets)}
    (heeded : Heeded hist (.receive world received)) :
    (hist.step (.receive world received)).Tracks := by
  obtain ⟨sameStarted, busy⟩ := (hist.client.receivePass_receives world received).heard
  rcases reported : (hist.client.receivePass world received).2 with
    _ | ⟨why | ⟨val | val | val⟩⟩
  case some.ok.busy =>
    rw [reported] at busy
    have announced : announcementOf (.receive world received)
        (hist.client.perform (.receive world received)).2 =
          some ⟨world.trueMs, val.waitTimeMs.toNat⟩ := by
      simp [announcementOf, perform, reported]
    exact tracks_announced tracks heeded announced sameStarted busy
  all_goals
    rw [reported] at busy
    exact tracks_quiet tracks ⟨sameStarted, busy⟩
      (by simp [announcementOf, perform, reported])

end

theorem tracks_step (hist : History) (call : Call) (tracks : hist.Tracks)
    (heeded : Heeded hist call) : (hist.step call).Tracks := by
  cases call with
  | start joined =>
    rcases hist.client.start_cases joined with same | ⟨stopped, started, sameBusy, -⟩
    · apply tracks_quiet tracks
      · rw [show (hist.client.perform (.start joined)).1 = hist.client from same]
        exact sameFlow_refl _
      · rfl
    · have fresh : hist.step (.start joined) = ⟨(hist.client.start joined).1, []⟩ := by
        simp [History.step, perform, announcementOf, stopped, started]
      rw [fresh]
      constructor
      · intro impossible
        rw [started] at impossible
        cases impossible
      · intro _
        exact sameBusy.trans (tracks.stopped stopped)
      · intro _
        exact nofun
      · intro _
        exact nofun
  | stop left =>
    rcases hist.client.stop_cases left with same | ⟨-, stopped, cleared, -⟩
    · apply tracks_quiet tracks
      · rw [show (hist.client.perform (.stop left)).1 = hist.client from same]
        exact sameFlow_refl _
      · rfl
    · have after : (hist.step (.stop left)).client = (hist.client.stop left).1 := rfl
      have notRunning : (hist.step (.stop left)).client.started ≠ true := by
        rw [after, stopped]
        exact Bool.false_ne_true
      constructor
      · intro _
        exact cleared
      · intro running
        exact absurd running notRunning
      · intro running
        exact absurd running notRunning
      · intro running
        exact absurd running notRunning
  | noteBusy trueMs backoffMs =>
    exact tracks_announced tracks heeded rfl rfl (WrappingClock.shown_add trueMs backoffMs)
  | noteLost | noteReflected | useDataSecure ctx => exact tracks_quiet tracks ⟨rfl, rfl⟩ rfl
  | sendIndication world cemiBytes =>
    exact tracks_quiet tracks (hist.client.sendIndication_sends world cemiBytes).flow rfl
  | sendBusy world val =>
    exact tracks_quiet tracks (hist.client.sendBusy_sends world val).flow rfl
  | sendLostMessage world val =>
    exact tracks_quiet tracks (hist.client.sendLostMessage_sends world val).flow rfl
  | notifyTimer world =>
    exact tracks_quiet tracks (hist.client.notifyTimer_sends world).flow rfl
  | receive world received => exact tracks_receive tracks heeded

/-! ## What a refusal means -/

def NotTimeout (code : ErrorCode) : Prop := code ≠ .knx .timeout

@[simp] theorem refuse_notTimeout {α : Type} (why : Error) :
    FailsOnlyWith NotTimeout (refuse why : Expected α) ↔ why ≠ .timeout := by
  unfold refuse
  simp [NotTimeout]

/-- Nothing outside the client reports a KNX timeout of its own before a datagram is handed over. -/
structure Surroundings.Responsive (world : Surroundings) : Prop where
  loaded : FailsOnlyWith NotTimeout world.sequences.loaded
  reserved : FailsOnlyWith NotTimeout world.sequences.reserved
  tag : FailsOnlyWith NotTimeout world.tag

variable (backend : CryptoBackend) (key : SecretKey)

theorem notTimeout_of_composition {why : ErrorCode} (failure : CompositionFailure why) :
    NotTimeout why := by
  rcases failure with rfl | rfl <;> simp [NotTimeout]

theorem sealMessage_notTimeout (val : Message) :
    FailsOnlyWith NotTimeout (sealMessage backend key val) := by
  unfold sealMessage
  split
  · rename_i why failed
    simpa using notTimeout_of_composition (cbcMac_fails backend key _ _ _ why failed)
  · split
    · rename_i why failed
      simpa using notTimeout_of_composition (ctr_fails backend key _ _ _ why failed)
    · simp

theorem checkWrappedFrame_notTimeout (plainFrame : Octets) :
    FailsOnlyWith NotTimeout (checkWrappedFrame plainFrame) := by
  have header : FailsOnlyWith NotTimeout (Frame.decodeCommunicationHeader plainFrame) := by
    simp [Frame.decodeCommunicationHeader]
  unfold checkWrappedFrame
  split
  · rename_i why failed
    simpa using header why failed
  · simp

theorem sealWrapper_notTimeout (room : Nat) (key : SecretKey) (fields : WrapperFields)
    (plainFrame : Octets) :
    FailsOnlyWith NotTimeout (sealWrapper backend room key fields plainFrame) := by
  unfold sealWrapper
  split
  · rename_i why failed
    simpa using checkWrappedFrame_notTimeout plainFrame why failed
  · dsimp only
    split
    · simp
    split
    · rename_i why failed
      simpa using sealMessage_notTimeout backend key _ why failed
    · simp

open KmxAio.Knx.DataSecure in
theorem sealApdu_notTimeout (room : Nat) (key : SecretKey) (fields : ApduFields)
    (plainApdu : Octets) :
    FailsOnlyWith NotTimeout (sealApdu backend room key fields plainApdu) := by
  unfold sealApdu
  split
  · simp
  split
  · simp
  · dsimp only
    split
    · rename_i why failed
      simpa using notTimeout_of_composition (Context.telegramMac_fails _ _ _ _ _ _ _ why failed)
    · split
      · simp
      · split
        · rename_i why failed
          simpa using notTimeout_of_composition (ctr_fails backend key _ _ _ why failed)
        · simp

namespace RoutingClient

variable {world : Surroundings}

variable (client : RoutingClient)

theorem secureOutgoing_notTimeout (responsive : world.Responsive) (cemiBytes : Octets) :
    FailsOnlyWith NotTimeout (client.secureOutgoing world cemiBytes).2 := by
  unfold secureOutgoing
  split
  · simp
  rename_i ctx _
  have taken : FailsOnlyWith NotTimeout (ctx.takeSequence world.sequences).2 := by
    unfold Context.takeSequence
    split
    · rename_i why failed
      unfold Context.withSequence at failed
      split at failed
      · cases failed
      split at failed
      · split at failed
        · rename_i unloaded
          cases failed
          simpa using responsive.loaded why unloaded
        · cases failed
      · cases failed
    · split
      · simp
      · split
        · split
          · rename_i why failed
            simpa using responsive.reserved why failed
          · simp
        · simp
  dsimp only
  rcases ctx.secureFrame_cases world.backend world.sequences cemiBytes with
    ⟨-, ⟨-, same⟩ | ⟨_, same, other⟩⟩ | ⟨_, _, -, -, same⟩
  · simp [same]
  · simpa [same] using other
  rw [same]
  split
  · rename_i failed
    simpa [failed] using taken
  · unfold Context.buildSecured
    dsimp only
    split
    · rename_i why failed
      simpa using sealApdu_notTimeout world.backend _ _ _ _ why failed
    · simp

/-- The outcome a back-off produces: a timeout, with nothing handed to the transport. -/
def Sending.Refused (sending : Sending) : Prop := sending = ⟨none, refuse .timeout⟩

instance (sending : Sending) : Decidable sending.Refused :=
  inferInstanceAs (Decidable (sending = _))

theorem not_refused_of_notTimeout {handed : Option Octets} {why : ErrorCode}
    (other : NotTimeout why) : ¬ Sending.Refused ⟨handed, .error why⟩ := by
  intro refused
  have results := congrArg Sending.result refused
  exact other (Except.error.inj results)

theorem sendPacket_not_refused (responsive : world.Responsive)
    (pkt : Octets) : ¬ (client.sendPacket world pkt).2.Refused := by
  unfold sendPacket
  split
  · split <;> simp [Sending.Refused]
  rename_i secure _
  have sealed : FailsOnlyWith NotTimeout (client.sealOutgoing secure world pkt).2 := by
    unfold sealOutgoing
    split
    · rename_i why failed
      simpa using responsive.tag why failed
    · dsimp only
      split
      · rename_i why failed
        simpa using sealWrapper_notTimeout _ _ _ _ pkt why failed
      · simp
  split
  · rename_i why failed
    rw [failed] at sealed
    exact not_refused_of_notTimeout (by simpa using sealed)
  · simp [Sending.Refused]

end RoutingClient

/-! ## The whole run -/

/-- The time of a send is not before an announcement, and its distance past the last deadline, the
clock's zero when there is none, shows as at most half a turn. -/
structure Timely (hist : History) (trueMs : Nat) : Prop where
  ordered : ∀ notice ∈ hist.announced, notice.startMs ≤ trueMs
  near : (trueMs - deadlineMs hist.announced) % 2 ^ 32 ≤ 2 ^ 31

theorem holdsBack_iff {hist : History} {trueMs : Nat} (tracks : hist.Tracks)
    (started : hist.client.started = true) (timely : Timely hist trueMs) :
    hist.client.holdsBack trueMs = true ↔
      ∃ notice ∈ hist.announced, trueMs < notice.startMs + notice.waitMs := by
  unfold holdsBack
  rw [tracks.running started]
  rcases Nat.lt_or_ge trueMs (deadlineMs hist.announced) with before | past
  · -- the deadline is the end of the last announcement, which is still running
    rcases List.eq_nil_or_concat hist.announced with none | ⟨earlier, last, all⟩
    · rw [none] at before
      cases before
    · rw [List.concat_eq_append] at all
      have present : last ∈ hist.announced := by rw [all]; simp
      have ends : deadlineMs hist.announced = last.endMs := by rw [all, deadlineMs_append]
      have ordered := timely.ordered last present
      have short := tracks.short started last present
      rw [ends] at before ⊢
      unfold Announcement.endMs at before ⊢
      refine iff_of_true (WrappingClock.ahead_of_lt before (by omega)) ⟨last, present, before⟩
  · have none : WrappingClock.ahead (nowMs (deadlineMs hist.announced)) (nowMs trueMs) = false :=
      WrappingClock.not_ahead_of_le past timely.near
    rw [none]
    refine iff_of_false Bool.false_ne_true ?_
    rintro ⟨notice, present, running⟩
    have ended := tracks.latest started notice present
    unfold Announcement.endMs at ended
    omega

/-- After every run whose announcements are heeded, a started client that is asked in time to send
an indication refuses it exactly while some back-off announced since its start lasts. -/
theorem send_refused_iff_announced (config : MulticastConfiguration)
    (secure : Option SecureConfiguration) (calls : List Call) (hist : History)
    (world : Surroundings) (cemiBytes : Octets)
    (reached : hist = run History.step ⟨make config secure, []⟩ calls)
    (heeded : Admissible History.step Heeded ⟨make config secure, []⟩ calls)
    (started : hist.client.started = true) (timely : Timely hist world.trueMs)
    (responsive : world.Responsive) :
    (hist.client.sendIndication world cemiBytes).2.Refused ↔
      ∃ notice ∈ hist.announced, world.trueMs < notice.startMs + notice.waitMs := by
  have tracks : hist.Tracks := by
    rw [reached]
    exact invariant_run tracks_step ⟨fun _ => rfl, nofun, fun _ => nofun, fun _ => nofun⟩ heeded
  rw [← holdsBack_iff tracks started timely]
  have secured := hist.client.secureOutgoing_notTimeout responsive cemiBytes
  unfold sendIndication
  rw [if_neg (by simp [started])]
  split
  · rename_i holds
    exact iff_of_true rfl holds
  · rename_i free
    refine iff_of_false ?_ free
    split
    · rename_i why failed
      rw [failed] at secured
      exact not_refused_of_notTimeout (by simpa using secured)
    · rename_i after outgoing _
      unfold sendEncoded
      split
      · rename_i why failed
        have encoded (room : Nat) :
            FailsOnlyWith NotTimeout (encodeIndicationPacket room outgoing) := by
          simp [encodeIndicationPacket]
        exact not_refused_of_notTimeout (encoded _ why failed)
      · exact sendPacket_not_refused after responsive _

def plainSurroundings (trueMs sent : Nat) : Surroundings where
  trueMs := trueMs
  secureMs := UInt64.ofNat trueMs
  backend := Recording.backend ⟨[], [], [], []⟩
  sent := .ok sent

def routerPeer : TransportPeer := ⟨[2, 0, 14, 87, 192, 168, 1, 2, 0, 0, 0, 0, 0, 0, 0, 0], 16⟩

def busyPacket : Octets := [0x06, 0x10, 0x05, 0x32, 0x00, 0x0C, 0x06, 0x00, 0x00, 0x5F, 0x00, 0x00]

def groupWrite : Octets := [0x29, 0x00, 0xBC, 0xE0, 0x11, 0x01, 0x09, 0x01, 0x01, 0x00, 0x81]

def turningCalls : List Call :=
  [.start (.ok ()), .noteBusy (2 ^ 32 - 10) 100,
    .receive (plainSurroundings (2 ^ 32) 0) (.ok (routerPeer, busyPacket))]

theorem send_refused_iff_announced_turning :
    let hist := run History.step ⟨make {} none, []⟩ turningCalls
    hist.announced = [⟨2 ^ 32 - 10, 100⟩, ⟨2 ^ 32, 95⟩] ∧
      ((hist.client.sendIndication (plainSurroundings (2 ^ 32 + 92) 17) groupWrite).2.Refused ↔
        ∃ notice ∈ hist.announced, 2 ^ 32 + 92 < notice.startMs + notice.waitMs) :=
  ⟨by decide +kernel,
    send_refused_iff_announced {} none turningCalls _ (plainSurroundings (2 ^ 32 + 92) 17) groupWrite
      rfl (by decide +kernel) (by decide +kernel) ⟨by decide +kernel, by decide +kernel⟩
      ⟨failsOnlyWith_ok _ _, failsOnlyWith_ok _ _, failsOnlyWith_ok _ _⟩⟩

def quietHistory : History :=
  run History.step ⟨make {} none, []⟩ [.start (.ok ())]

def shortenedHistory : History :=
  run History.step ⟨make {} none, []⟩
    [.start (.ok ()), .noteBusy 1000 1000, .noteBusy 1001 10]

/-- A client that was never asked to hold back refuses to send while its clock shows more than half
a turn, and one that was asked for a second sends within it after a shorter back-off was announced. -/
theorem back_off_not_tracked :
    quietHistory.announced = [] ∧
      (quietHistory.client.sendIndication (plainSurroundings (2 ^ 31 + 1) 17) groupWrite).2.Refused ∧
      shortenedHistory.announced = [⟨1000, 1000⟩, ⟨1001, 10⟩] ∧
      (shortenedHistory.client.sendIndication (plainSurroundings 1100 17) groupWrite).2 =
        ⟨some ([0x06, 0x10, 0x05, 0x30, 0x00, 0x11] ++ groupWrite), .ok ()⟩ := by
  decide +kernel

end KmxAio.Knx.Routing
