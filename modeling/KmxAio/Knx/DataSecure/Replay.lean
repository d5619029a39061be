import KmxAio.Lib.Run
import KmxAio.Lib.Sequenced
import KmxAio.Knx.DataSecure.Secured
import KmxAio.Knx.Secure.Recorded

/-!
# Replay protection of Data Secure

The telegrams an endpoint opens from one sender carry increasing sequence numbers
as long as every one of them is checked against the sender table. A confirmation
is not: its message code, which the MAC does not cover, keeps the table out of
the decision whoever the telegram names as its source.
-/

namespace KmxAio.Knx.DataSecure

open Lib.Wire Lib.Run Lib.Sequenced Cemi Secure

/-! ## The sender table -/

theorem lastValid_recordSequence_same {senders : List SenderSequence} {address : UInt16}
    {last : Nat} (seq : Nat) (known : lastValid senders address = some last) :
    lastValid (recordSequence address seq senders) address = some seq := by
  induction senders with
  | nil => cases known
  | cons sender rest ih =>
    by_cases here : sender.address = address
    · simp [recordSequence, lastValid, here]
    · have later : lastValid rest address = some last := by simpa [lastValid, here] using known
      simpa [recordSequence, lastValid, here] using ih later

theorem lastValid_recordSequence_other {address other : UInt16} (different : other ≠ address)
    (seq : Nat) (senders : List SenderSequence) :
    lastValid (recordSequence address seq senders) other = lastValid senders other := by
  induction senders with
  | nil => rfl
  | cons sender rest ih =>
    by_cases here : sender.address = address
    · simp [recordSequence, lastValid, here, Ne.symm different]
    · by_cases found : sender.address = other
      · simp [recordSequence, lastValid, found, different]
      · simpa [recordSequence, lastValid, here, found] using ih

/-! ## What one call does to the table -/

/-- The sender of a secured telegram and its sequence number. -/
structure Telegram where
  source : UInt16
  sequence : Nat
  deriving DecidableEq

def telegramOf (cemi : Octets) : Option Telegram :=
  match view cemi with
  | none => none
  | some frame =>
    if frame.secured then some ⟨frame.binding.source, sequenceOf (frame.securedApdu cemi)⟩
    else none

variable (source : UInt16)

/-- A frame that carries a secured telegram as the confirmation of one sent by `source`. -/
def ConfirmationOf (cemi : Octets) : Prop :=
  ∃ frame, view cemi = some frame ∧ frame.secured = true ∧ frame.code = .lDataCon ∧
    frame.binding.source = source

instance (source : UInt16) (cemi : Octets) : Decidable (ConfirmationOf source cemi) :=
  match viewed : view cemi with
  | none => .isFalse (by simp [ConfirmationOf, viewed])
  | some frame =>
    decidable_of_iff (frame.secured = true ∧ frame.code = .lDataCon ∧
      frame.binding.source = source) (by simp [ConfirmationOf, viewed])

namespace Context

/-- What a call that was given one telegram did to the sender table: nothing, and then it opened at
most a confirmation; or it took the telegram, whose number is above the last one of its sender. -/
inductive TableStep (senders after : List SenderSequence) (telegram : Telegram)
    (confirmation opened : Prop) : Prop where
  | kept (same : after = senders) (only : opened → confirmation)
  | taken (last : Nat) (known : lastValid senders telegram.source = some last)
      (above : last < telegram.sequence)
      (recorded : after = recordSequence telegram.source telegram.sequence senders)

variable {ctx after : Context} {frame : FrameView} {result : Expected Octets}

theorem acceptSequence_table {seq : Nat} {result : Expected Unit}
    (returned : ctx.acceptSequence frame seq = (after, result)) :
    TableStep ctx.configuration.senders after.configuration.senders
      ⟨frame.binding.source, seq⟩ (frame.code = .lDataCon) (result.isOk = true) := by
  unfold acceptSequence at returned
  split at returned
  case isTrue confirmation =>
    cases returned
    exact .kept rfl (fun _ => confirmation)
  case isFalse indication =>
    cases known : lastValid ctx.configuration.senders frame.binding.source with
    | none =>
      rw [known] at returned
      cases returned
      exact .kept rfl nofun
    | some last =>
      rw [known] at returned
      dsimp only at returned
      split at returned
      case isTrue replayed =>
        cases returned
        exact .kept rfl nofun
      case isFalse fresh =>
        cases returned
        exact .taken last known (Nat.lt_of_not_le fresh) rfl

theorem openSecured_table {backend : CryptoBackend} {cemi : Octets}
    (returned : ctx.openSecured backend frame cemi = (after, result)) :
    TableStep ctx.configuration.senders after.configuration.senders
      ⟨frame.binding.source, sequenceOf (frame.securedApdu cemi)⟩ (frame.code = .lDataCon)
      (result.isOk = true) := by
  unfold openSecured at returned
  dsimp only at returned
  obtain ⟨admitted, admission, admittedBy⟩ :
      ∃ admitted admission, ctx.admitSecured frame (frame.securedApdu cemi) =
        (admitted, admission) := ⟨_, _, rfl⟩
  rw [admittedBy] at returned
  have unchanged : admitted.configuration = ctx.configuration := by
    unfold admitSecured at admittedBy
    split at admittedBy
    · cases admittedBy
      rfl
    · split at admittedBy <;> cases admittedBy <;> rfl
  rw [← unchanged]
  cases admission with
  | error why =>
    cases returned
    exact .kept rfl nofun
  | ok key =>
    dsimp only at returned
    split at returned
    · cases returned
      refine .kept ?_ nofun
      split <;> rfl
    · obtain ⟨accepted, acceptance, acceptedBy⟩ :
          ∃ accepted acceptance, admitted.acceptSequence frame
            (sequenceOf (frame.securedApdu cemi)) = (accepted, acceptance) := ⟨_, _, rfl⟩
      have table := acceptSequence_table acceptedBy
      rw [acceptedBy] at returned
      cases acceptance with
      | error why =>
        cases returned
        exact table
      | ok done =>
        dsimp only at returned
        split at returned
        · cases returned
          -- the MAC and the number were good, but there is no service in the APDU
          cases table with
          | kept same only => exact .kept same nofun
          | taken last known above recorded => exact .taken last known above recorded
        · cases returned
          exact table

theorem openFrame_table {backend : CryptoBackend} {cemi : Octets}
    (returned : ctx.openFrame backend cemi = (after, result)) :
    match telegramOf cemi with
    | none => after.configuration.senders = ctx.configuration.senders
    | some telegram =>
      TableStep ctx.configuration.senders after.configuration.senders telegram
        (ConfirmationOf telegram.source cemi) (result.isOk = true) := by
  unfold telegramOf
  cases viewed : view cemi with
  | none =>
    unfold openFrame at returned
    simp only [viewed] at returned
    split at returned <;> cases returned <;> rfl
  | some frame =>
    unfold openFrame at returned
    simp only [viewed] at returned
    dsimp only
    by_cases secured : frame.secured = true
    · rw [if_pos secured] at returned ⊢
      split at returned
      · cases returned
        exact .kept rfl nofun
      · have table := openSecured_table returned
        cases table with
        | kept same only =>
          exact .kept same (fun opened => ⟨frame, viewed, secured, only opened, rfl⟩)
        | taken last known above recorded => exact .taken last known above recorded
    · rw [if_neg secured] at returned ⊢
      split at returned
      · cases returned
        rfl
      · split at returned <;> cases returned <;> rfl

theorem takeSequence_configuration (ctx : Context) (source : SequenceSource) :
    (ctx.takeSequence source).1.configuration = ctx.configuration := by
  have started : (ctx.withSequence source).1.configuration = ctx.configuration := by
    unfold withSequence
    split
    · rfl
    split
    · split <;> rfl
    · rfl
  unfold takeSequence
  split
  · rename_i withSequence
    rwa [withSequence] at started
  · rename_i withSequence
    rw [withSequence] at started
    split
    · exact started
    split
    · split <;> exact started
    · exact started

end Context

/-! ## Runs -/

inductive Event where
  | openFrame (backend : CryptoBackend) (cemi : Octets)
  | secureFrame (backend : CryptoBackend) (source : SequenceSource) (plainCemi : Octets)

/-- A context with the secured telegrams it opened so far, in order. -/
structure Endpoint where
  context : Context
  opened : List Telegram := []

def Endpoint.step (endpoint : Endpoint) : Event → Endpoint
  | .openFrame backend cemi =>
    match endpoint.context.openFrame backend cemi with
    | (ctx, .error _) => { endpoint with context := ctx }
    | (ctx, .ok _) =>
      { context := ctx, opened := endpoint.opened ++ (telegramOf cemi).toList }
  | .secureFrame backend source plainCemi =>
    { endpoint with context := (endpoint.context.secureFrame backend source plainCemi).1 }

def sequencesOf (telegrams : List Telegram) : List Nat :=
  (telegrams.filter (·.source = source)).map (·.sequence)

@[simp] theorem sequencesOf_append (source : UInt16) (first second : List Telegram) :
    sequencesOf source (first ++ second) = sequencesOf source first ++ sequencesOf source second := by
  simp [sequencesOf]

/-- An event that gives the context a secured telegram of `source` as a confirmation. -/
def Event.Confirms : Event → Prop
  | .openFrame _ cemi => ConfirmationOf source cemi
  | .secureFrame .. => False

instance (source : UInt16) (event : Event) : Decidable (event.Confirms source) :=
  match event with
  | .openFrame _ cemi => inferInstanceAs (Decidable (ConfirmationOf source cemi))
  | .secureFrame .. => inferInstanceAs (Decidable False)

/-- What was opened from a sender increases up to the mark the table keeps for it. -/
def Endpoint.Guards (endpoint : Endpoint) : Prop :=
  Marked (lastValid endpoint.context.configuration.senders source)
    (sequencesOf source endpoint.opened)

theorem sequencesOf_other {source : UInt16} {telegram : Telegram}
    (other : telegram.source ≠ source) : sequencesOf source [telegram] = [] := by
  simp [sequencesOf, other]

/-- A table step keeps the mark of every sender, and admits the telegram it opened unless that was
a confirmation in the sender's name. -/
theorem Context.TableStep.marked {senders after : List SenderSequence} {telegram : Telegram}
    {confirmation opened : Prop} {source : UInt16} {numbers : List Nat}
    (step : TableStep senders after telegram confirmation opened)
    (guards : Marked (lastValid senders source) numbers)
    (honest : confirmation → telegram.source ≠ source) :
    Marked (lastValid after source) numbers ∧
      (opened → Marked (lastValid after source) (numbers ++ sequencesOf source [telegram])) := by
  cases step with
  | kept same only =>
    subst same
    refine ⟨guards, fun isOpened => ?_⟩
    rw [sequencesOf_other (honest (only isOpened)), List.append_nil]
    exact guards
  | taken last known above recorded =>
    subst recorded
    by_cases own : telegram.source = source
    · subst own
      rw [known] at guards
      rw [lastValid_recordSequence_same _ known]
      refine ⟨guards.raise above.le, fun _ => ?_⟩
      have single : sequencesOf telegram.source [telegram] = [telegram.sequence] := by
        simp [sequencesOf]
      rw [single]
      exact guards.take above
    · rw [lastValid_recordSequence_other (Ne.symm own), sequencesOf_other own, List.append_nil]
      exact ⟨guards, fun _ => guards⟩

theorem guards_step {source : UInt16} (endpoint : Endpoint) (event : Event)
    (guards : endpoint.Guards source) (honest : ¬ event.Confirms source) :
    (endpoint.step event).Guards source := by
  cases event with
  | secureFrame backend seq plainCemi =>
    have taken := Context.takeSequence_configuration endpoint.context seq
    unfold Endpoint.Guards at guards ⊢
    dsimp only [Endpoint.step]
    rcases endpoint.context.secureFrame_cases backend seq plainCemi with
      ⟨-, ⟨-, same⟩ | ⟨_, same, -⟩⟩ | ⟨_, _, -, -, same⟩ <;> rw [same]
    · exact guards
    · exact guards
    · split <;> rename_i returned <;> rw [returned] at taken <;> rwa [taken]
  | openFrame backend cemi =>
    obtain ⟨after, result, returned⟩ :
        ∃ after result, endpoint.context.openFrame backend cemi = (after, result) := ⟨_, _, rfl⟩
    have table := Context.openFrame_table returned
    unfold Endpoint.Guards at guards ⊢
    dsimp only [Endpoint.step]
    rw [returned]
    cases carried : telegramOf cemi with
    | none =>
      rw [carried] at table
      cases result with
      | error why =>
        rwa [table]
      | ok plain =>
        dsimp only [Option.toList]
        rwa [table, List.append_nil]
    | some telegram =>
      rw [carried] at table
      obtain ⟨kept, extended⟩ := table.marked guards (by
        intro confirmation own
        exact honest (own ▸ confirmation))
      cases result with
      | error why => exact kept
      | ok plain =>
        rw [sequencesOf_append]
        exact extended rfl

/-- In every run that is given no secured telegram of a sender as a confirmation, the telegrams
opened from that sender carry strictly increasing sequence numbers. -/
theorem opened_sequences_increase (ctx : Context) (source : UInt16) (events : List Event)
    (honest : ∀ event ∈ events, ¬ event.Confirms source) :
    (sequencesOf source (run Endpoint.step ⟨ctx, []⟩ events).opened).Pairwise (· < ·) := by
  have initially : Endpoint.Guards source ⟨ctx, []⟩ := marked_nil _
  exact (invariant_run (guards_step · ·) initially (admissible_of_events honest)).increasing

/-! ## A recorded exchange

Device 1.1.5 writes to the group 1/1/1 twice. The values are what AES-128 computes under the key of
the group. -/

def groupWriteKey : SecretKey :=
  ⟨[160, 161, 162, 163, 164, 165, 166, 167, 168, 169, 170, 171, 172, 173, 174, 175], rfl⟩

def groupWriteRecording : Recording where
  macs :=
    [((groupWriteKey,
        [0, 0, 0, 0, 0, 7, 17, 5, 9, 1, 0, 128, 3, 241, 0, 2, 0, 1, 16, 0, 129, 0, 0, 0, 0, 0, 0,
          0, 0, 0, 0, 0]),
        ⟨[231, 224, 242, 229, 112, 232, 171, 100, 191, 223, 29, 100, 10, 200, 121, 207], rfl⟩),
      ((groupWriteKey,
        [0, 0, 0, 0, 0, 8, 17, 5, 9, 1, 0, 128, 3, 241, 0, 2, 0, 1, 16, 0, 128, 0, 0, 0, 0, 0, 0,
          0, 0, 0, 0, 0]),
        ⟨[86, 52, 145, 125, 102, 188, 10, 232, 66, 68, 137, 140, 57, 235, 75, 72], rfl⟩)]
  streams :=
    [((groupWriteKey,
        ⟨[0, 0, 0, 0, 0, 7, 17, 5, 9, 1, 0, 0, 0, 0, 1, 0], rfl⟩), [0xF4, 0x9E, 0xFD, 0x1F, 0xC6,
          0x8F]),
      ((groupWriteKey,
        ⟨[0, 0, 0, 0, 0, 8, 17, 5, 9, 1, 0, 0, 0, 0, 1, 0], rfl⟩), [0x8B, 0xA2, 0x67, 0x52, 0x13,
          0xB8])]

def switchOn (messageCode : UInt8) : Octets :=
  [messageCode, 0x00, 0xBC, 0xE0, 0x11, 0x05, 0x09, 0x01, 0x0E, 0x03, 0xF1, 0x10, 0x00, 0x00, 0x00,
    0x00, 0x00, 0x07, 0xC6, 0x0E, 0x13, 0x7E, 0x0F, 0xFA]

def switchOff : Octets :=
  [41, 0, 188, 224, 17, 5, 9, 1, 14, 3, 241, 16, 0, 0, 0, 0, 0, 8, 19, 56, 221, 150, 246, 47]

def groupContext : Context :=
  Context.make
    { localAddress := 0x1101
      groupKeys := [⟨0x0901, groupWriteKey⟩]
      senders := [⟨0x1105, 0⟩] } false

/-- Two writes and a replay of the first: the replay is refused. -/
theorem opened_sequences_increase_writes :
    let events := [switchOn 0x29, switchOff, switchOn 0x29].map
      (Event.openFrame groupWriteRecording.backend)
    (∀ event ∈ events, ¬ event.Confirms 0x1105) ∧
      sequencesOf 0x1105 (run Endpoint.step ⟨groupContext, []⟩ events).opened = [7, 8] ∧
      (sequencesOf 0x1105 (run Endpoint.step ⟨groupContext, []⟩ events).opened).Pairwise (· < ·) :=
  ⟨by decide +kernel, by decide +kernel,
    opened_sequences_increase groupContext 0x1105 _ (by decide +kernel)⟩

/-- The same telegram under the code of a confirmation is opened a second time, in the name of a
sender that is not the endpoint. -/
theorem confirmation_opens_replay :
    (0x1105 : UInt16) ≠ groupContext.configuration.localAddress ∧
      sequencesOf 0x1105 (run Endpoint.step ⟨groupContext, []⟩
        [.openFrame groupWriteRecording.backend (switchOn 0x29),
          .openFrame groupWriteRecording.backend (switchOn 0x2E)]).opened = [7, 7] := by
  decide +kernel

end KmxAio.Knx.DataSecure
