import KmxAio.Lib.ReservedNumbers
import KmxAio.Knx.DataSecure.Replay

/-!
# Sequence numbers across restarts

A sender keeps its sequence numbers in a durable store: it records a block of them
before it uses the first, and starts behind the last block it recorded after a
restart. The store may fail to load or to record at any call, and then nothing is
sent. The sender is an allocator of reserved numbers, so it uses no number twice.
-/

namespace KmxAio.Knx.DataSecure

open Lib.Wire Lib.Run Lib.ReservedNumbers Secure

/-- Which calls of the store fail during a request for a sequence number, and how. -/
structure StoreFaults where
  load : Option ErrorCode := none
  reserveUntil : Option ErrorCode := none

def StoreFaults.source (faults : StoreFaults) (limit : Nat) : SequenceSource where
  loaded := match faults.load with
    | none => .ok limit
    | some why => .error why
  reserved := match faults.reserveUntil with
    | none => .ok ()
    | some why => .error why

namespace Context

/-- The limit a request for a sequence number asks the store to record, if it asks for one. -/
def reservation (ctx : Context) (source : SequenceSource) : Option Nat :=
  match ctx.withSequence source with
  | (_, .error _) => none
  | (started, .ok seq) =>
    if seq > maxSequence then none
    else if started.stored ∧ seq ≥ started.reservedUntil then
      some (started.reservationLimit seq)
    else none

/-- The numbers of the telegrams a call sends: of a frame to a group with a key the number in what
was returned for it, and of a frame that passes as it is none. -/
def numbersSent (ctx : Context) (plainCemi : Octets) (result : Expected Octets) : List Nat :=
  match ctx.groupKeyOf (view plainCemi), result with
  | some _, .ok sent => ((telegramOf sent).map Telegram.sequence).toList
  | _, _ => []

end Context

/-- A sender with a store: the limit the store holds, the context of the running process, and the
numbers of every telegram sent so far. -/
structure Sender where
  limit : Nat
  context : Context
  sent : List Nat

inductive SenderEvent where
  | restart (configuration : Configuration)
  | secureFrame (backend : CryptoBackend) (faults : StoreFaults) (plainCemi : Octets)
  | openFrame (backend : CryptoBackend) (cemi : Octets)

namespace Sender

def start (limit : Nat) (config : Configuration) : Sender :=
  ⟨limit, .make config true, []⟩

/-- What the store holds after a call: the limit it was asked to record, when it recorded one. -/
def limitAfter (sender : Sender) (faults : StoreFaults) (plainCemi : Octets) : Nat :=
  match sender.context.toSeal plainCemi, sender.context.reservation (faults.source sender.limit),
      faults.reserveUntil with
  | some _, some limit, none => limit
  | _, _, _ => sender.limit

def step (sender : Sender) : SenderEvent → Sender
  | .restart config => { sender with context := .make config true }
  | .secureFrame backend faults plainCemi =>
    let (ctx, result) :=
      sender.context.secureFrame backend (faults.source sender.limit) plainCemi
    { limit := sender.limitAfter faults plainCemi
      context := ctx
      sent := sender.sent ++ sender.context.numbersSent plainCemi result }
  | .openFrame backend cemi =>
    { sender with context := (sender.context.openFrame backend cemi).1 }

end Sender

/-! ## The sender as an allocator -/

namespace Context

def stock (ctx : Context) : Option Stock :=
  ctx.nextSequence.map (fun next => ⟨next, ctx.reservedUntil⟩)

def numbering (ctx : Context) : Bool × Option Nat × Nat :=
  (ctx.stored, ctx.nextSequence, ctx.reservedUntil)

theorem stock_of_numbering {first second : Context} (same : first.numbering = second.numbering) :
    first.stock = second.stock := by
  have next : first.nextSequence = second.nextSequence := congrArg (·.2.1) same
  have reserved : first.reservedUntil = second.reservedUntil := congrArg (·.2.2) same
  rw [stock, stock, next, reserved]

variable (ctx : Context) (frame : FrameView)

theorem acceptSequence_numbering (seq : Nat) :
    (ctx.acceptSequence frame seq).1.numbering = ctx.numbering := by
  unfold acceptSequence
  split
  · rfl
  split
  · rfl
  split <;> rfl

theorem admitSecured_numbering (secured : Octets) :
    (ctx.admitSecured frame secured).1.numbering = ctx.numbering := by
  unfold admitSecured
  split
  · rfl
  split <;> rfl

theorem openSecured_numbering (backend : CryptoBackend) (frame : FrameView)
    (cemi : Octets) : (ctx.openSecured backend frame cemi).1.numbering = ctx.numbering := by
  have admits := ctx.admitSecured_numbering frame (frame.securedApdu cemi)
  unfold openSecured
  dsimp only
  split
  · rename_i admitted why admission
    rwa [admission] at admits
  rename_i admitted key admission
  rw [admission] at admits
  have accepts := admitted.acceptSequence_numbering frame (sequenceOf (frame.securedApdu cemi))
  split
  · split <;> exact admits
  split
  · rename_i accepted why acceptance
    rw [acceptance] at accepts
    exact accepts.trans admits
  · rename_i accepted acceptance
    rw [acceptance] at accepts
    split <;> exact accepts.trans admits

theorem openFrame_numbering (backend : CryptoBackend) (cemi : Octets) :
    (ctx.openFrame backend cemi).1.numbering = ctx.numbering := by
  unfold openFrame
  split
  · rfl
  split
  · rfl
  split
  · exact ctx.openSecured_numbering backend _ cemi
  split <;> rfl

theorem lt_reservationLimit {seq : Nat} (small : seq ≤ maxSequence) :
    seq < ctx.reservationLimit seq := by
  have next : seq < seq + max ctx.configuration.reservationBlock.toNat 1 := by omega
  exact lt_min next (Nat.lt_succ_of_le small)

section Store

variable {ctx} (kept : ctx.stored = true) (faults : StoreFaults) (limit : Nat)
  (sent : List Nat)

include kept

/-- Finding a number to start from: the process goes on with the one it has, or starts behind what
the store recorded. -/
theorem withSequence_steps :
    (∃ why, ctx.withSequence (faults.source limit) = (ctx, .error why)) ∨
      ∃ started seq,
        ctx.withSequence (faults.source limit) = (started, .ok seq) ∧
        started.stored = true ∧ started.nextSequence = some seq ∧
        Steps maxSequence ⟨limit, ctx.stock, sent⟩ ⟨limit, started.stock, sent⟩ := by
  unfold withSequence
  cases next : ctx.nextSequence with
  | some seq => exact .inr ⟨ctx, seq, rfl, kept, next, .refl⟩
  | none =>
    rw [if_pos kept]
    unfold StoreFaults.source
    cases faults.load with
    | some why => exact .inl ⟨why, rfl⟩
    | none =>
      refine .inr ⟨_, max limit 1, rfl, kept, rfl, ?_⟩
      have stopped : ctx.stock = none := by rw [stock, next, Option.map_none]
      exact .single (.start stopped (Nat.le_max_right limit 1) (Nat.le_max_left limit 1))

theorem takeSequence_steps :
    (∃ after why, ctx.takeSequence (faults.source limit) = (after, .error why) ∧
        after.stored = true ∧
        (ctx.reservation (faults.source limit) = none ∨ faults.reserveUntil ≠ none) ∧
        Steps maxSequence ⟨limit, ctx.stock, sent⟩ ⟨limit, after.stock, sent⟩) ∨
      ∃ after seq reserved recorded,
        ctx.takeSequence (faults.source limit) = (after, .ok seq) ∧
        after.stored = true ∧ seq ≤ maxSequence ∧ seq < reserved ∧
        after.stock = some ⟨seq + 1, reserved⟩ ∧
        ((ctx.reservation (faults.source limit) = none ∧ recorded = limit) ∨
          (ctx.reservation (faults.source limit) = some recorded ∧ faults.reserveUntil = none)) ∧
        Steps maxSequence ⟨limit, ctx.stock, sent⟩ ⟨recorded, some ⟨seq, reserved⟩, sent⟩ := by
  unfold takeSequence reservation
  rcases withSequence_steps kept faults limit sent with
    ⟨why, failed⟩ | ⟨started, seq, begun, stored, next, starts⟩
  · rw [failed]
    exact .inl ⟨ctx, why, rfl, kept, .inl rfl, .refl⟩
  rw [begun]
  dsimp only
  have current : started.stock = some ⟨seq, started.reservedUntil⟩ := by
    rw [stock, next, Option.map_some]
  by_cases spent : seq > maxSequence
  · rw [if_pos spent, if_pos spent]
    exact .inl ⟨started, _, rfl, stored, .inl rfl, starts⟩
  have small : seq ≤ maxSequence := Nat.le_of_not_lt spent
  split_ifs with atEnd
  · unfold StoreFaults.source
    cases faults.reserveUntil with
    | some why => exact .inl ⟨started, why, rfl, stored, .inr nofun, starts⟩
    | none =>
      refine .inr ⟨_, seq, started.reservationLimit seq,
        started.reservationLimit seq, rfl, stored, small,
        started.lt_reservationLimit small, rfl, .inr ⟨rfl, rfl⟩, ?_⟩
      exact starts.tail (.reserve ⟨seq, started.reservedUntil⟩ current
        (started.lt_reservationLimit small))
  · have within : seq < started.reservedUntil :=
      Nat.lt_of_not_le (fun past => atEnd ⟨stored, past⟩)
    refine .inr ⟨_, seq, started.reservedUntil, limit, rfl, stored, small, within, rfl,
      .inl ⟨rfl, rfl⟩, ?_⟩
    rw [← current]
    exact starts

end Store

end Context

theorem SealedUnder.sequence {backend : CryptoBackend} {key : SecretKey} {seq : Nat}
    {destination : UInt16} {plainApdu sent : Octets}
    (sealed : SealedUnder backend key seq destination plainApdu sent) :
    (telegramOf sent).map Telegram.sequence = some seq := by
  obtain ⟨frame, control, room, viewed, -, secured, -, carried⟩ := sealed
  simp [telegramOf, viewed, secured, sequenceOf_sealApdu carried]

theorem Context.numbersSent_error (ctx : Context) (plainCemi : Octets) (why : ErrorCode) :
    ctx.numbersSent plainCemi (.error why) = [] := by
  unfold numbersSent
  split
  · rename_i failed
    cases failed
  · rfl

namespace Sender

def allocator (sender : Sender) : Allocator := ⟨sender.limit, sender.context.stock, sender.sent⟩

variable {sender : Sender}

theorem sealed_steps (kept : sender.context.stored = true) (backend : CryptoBackend)
    (faults : StoreFaults) {plainCemi : Octets} {frame : FrameView} {key : SecretKey}
    (sealing : sender.context.toSeal plainCemi = some (frame, key)) :
    (sender.step (.secureFrame backend faults plainCemi)).context.stored = true ∧
      Steps maxSequence sender.allocator
        (sender.step (.secureFrame backend faults plainCemi)).allocator := by
  unfold step allocator
  dsimp only
  obtain ⟨sealable, secures⟩ :=
    Context.secureFrame_of_toSeal_some sealing backend (faults.source sender.limit)
  rcases Context.takeSequence_steps kept faults sender.limit sender.sent with
    ⟨after, why, failed, stored, unrecorded, steps⟩ |
    ⟨after, seq, reserved, recorded, taken, stored, small, within, stock, asked, steps⟩
  · rcases secures with ⟨_, _, takes, secured⟩ | ⟨_, _, _, takes, -⟩
    · rw [failed] at takes
      cases takes
      have unasked : sender.limitAfter faults plainCemi = sender.limit := by
        unfold limitAfter
        split
        · rename_i requested unfailing
          rcases unrecorded with none | some
          · rw [none] at requested
            cases requested
          · exact absurd unfailing some
        · rfl
      rw [secured, unasked, Context.numbersSent_error, List.append_nil]
      exact ⟨stored, steps⟩
    · rw [failed] at takes
      cases takes
  · rcases secures with ⟨_, _, takes, -⟩ | ⟨_, _, result, takes, secured, sealed⟩
    · rw [taken] at takes
      cases takes
    · rw [taken] at takes
      cases takes
      have recordedAfter : sender.limitAfter faults plainCemi = recorded := by
        rcases asked with ⟨none, same⟩ | ⟨some, unfailing⟩
        · simp only [limitAfter, sealing, none, same]
        · simp only [limitAfter, sealing, some, unfailing]
      rw [secured, recordedAfter]
      refine ⟨stored, ?_⟩
      cases result with
      | error why =>
        rw [Context.numbersSent_error, List.append_nil, stock]
        exact steps.tail (.spend ⟨seq, reserved⟩ rfl within)
      | ok sent =>
        have keyed : sender.context.groupKeyOf (view plainCemi) = some (frame, key) := by
          simp [Context.groupKeyOf, sealable.viewed, sealable.grouped, sealable.held]
        simp only [Context.numbersSent, keyed, (sealed sent rfl).sequence, Option.toList, stock]
        exact steps.tail (.issue ⟨seq, reserved⟩ rfl within small)

theorem step_steps (kept : sender.context.stored = true) (event : SenderEvent) :
    (sender.step event).context.stored = true ∧
      Steps maxSequence sender.allocator (sender.step event).allocator := by
  cases event with
  | restart config => exact ⟨rfl, .single .crash⟩
  | secureFrame backend faults plainCemi =>
    cases sealing : sender.context.toSeal plainCemi with
    | none =>
      unfold step allocator
      dsimp only
      have unasked : sender.limitAfter faults plainCemi = sender.limit := by
        simp only [limitAfter, sealing]
      rw [unasked]
      rcases sender.context.secureFrame_cases backend (faults.source sender.limit) plainCemi with
        ⟨-, ⟨unkeyed, passed⟩ | ⟨why, refused, -⟩⟩ | ⟨_, _, sealed, -⟩
      · have silent : sender.context.numbersSent plainCemi (.ok plainCemi) = [] := by
          simp only [Context.numbersSent, unkeyed]
        rw [passed, silent, List.append_nil]
        exact ⟨kept, .refl⟩
      · rw [refused, refuse, Context.numbersSent_error, List.append_nil]
        exact ⟨kept, .refl⟩
      · rw [sealing] at sealed
        cases sealed
    | some pair => exact sealed_steps kept backend faults sealing
  | openFrame backend cemi =>
    have same := sender.context.openFrame_numbering backend cemi
    refine ⟨(congrArg Prod.fst same).trans kept, ?_⟩
    unfold step allocator
    rw [Context.stock_of_numbering same]
    exact .refl

def InOrder (sender : Sender) : Prop :=
  sender.context.stored = true ∧ Ordered maxSequence sender.allocator

/-- Over every run of processes on one store, whatever they are configured with and whichever calls
of the store fail, the telegrams that are sent carry increasing numbers from 1 to `2 ^ 48 - 1`. -/
theorem numbers_never_reused (limit : Nat) (config : Configuration) (events : List SenderEvent) :
    (run step (start limit config) events).sent.Pairwise (· < ·) ∧
      ∀ num ∈ (run step (start limit config) events).sent, 1 ≤ num ∧ num ≤ 2 ^ 48 - 1 := by
  have inOrder : (run step (start limit config) events).InOrder :=
    invariant_run
      (fun _ event inOrder _ =>
        (step_steps inOrder.1 event).imp_right fun steps => inOrder.2.steps steps)
      ⟨rfl, ordered_initially maxSequence limit⟩
      (admissible_of_events (fun _ _ => trivial : ∀ event ∈ events, True))
  exact ⟨inOrder.2.increasing, inOrder.2.bounded⟩

def writerConfiguration : Configuration :=
  { localAddress := 0x1105, groupKeys := [⟨0x0901, groupWriteKey⟩], reservationBlock := 1 }

def plainWrite (val : UInt8) : Octets :=
  [0x11, 0x00, 0xBC, 0xE0, 0x00, 0x00, 0x09, 0x01, 0x01, 0x00, val]

/-- Switching on, a write whose number the store does not record, a restart, and switching off. -/
def writerEvents : List SenderEvent :=
  [.secureFrame groupWriteRecording.backend {} (plainWrite 0x81),
    .secureFrame groupWriteRecording.backend { reserveUntil := some (.knx .timeout) }
      (plainWrite 0x80),
    .restart writerConfiguration,
    .secureFrame groupWriteRecording.backend {} (plainWrite 0x80)]

theorem numbers_never_reused_writes :
    (run step (start 7 writerConfiguration) writerEvents).sent = [7, 8] ∧
      (run step (start 7 writerConfiguration) writerEvents).sent.Pairwise (· < ·) ∧
      1 ≤ 8 ∧ 8 ≤ 2 ^ 48 - 1 :=
  ⟨by decide +kernel, (numbers_never_reused 7 writerConfiguration writerEvents).1,
    (numbers_never_reused 7 writerConfiguration writerEvents).2 8 (by decide +kernel)⟩

end Sender

end KmxAio.Knx.DataSecure
