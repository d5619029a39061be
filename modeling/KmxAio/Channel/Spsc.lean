import KmxAio.Channel.Capacity
import KmxAio.Lib.Run
import KmxAio.Lib.SpscRing

/-!
# The channel between two threads

One thread pushes and another pops, and any number of threads may change the
watermarks. Every load and store of the indices, the watermarks and the flag that
holds the producer back is an event of its own, as is what is done to a slot. The
indices are wrapped by masking: they are remainders of the numbers of elements
published and released, and the ring is the one of the library.
-/

namespace KmxAio.Channel

open Lib Lib.Run

/-! ## What is shared and where each thread is -/

structure BackpressureConfig where
  lowWatermark : UInt64 := 256
  highWatermark : UInt64 := 512
  deriving DecidableEq

structure PushSlot where
  index : UInt64
  occupancy : UInt64
  low : UInt64
  high : UInt64
  deriving DecidableEq

structure PopSlot where
  index : UInt64
  head : UInt64
  deriving DecidableEq

inductive ProducerPhase (α : Type) where
  | idle
  | loadTail (value : α) (head : UInt64)
  | loadLow (value : α) (head tail : UInt64)
  | loadHigh (value : α) (head occupancy low : UInt64)
  | loadThrottled (value : α) (slot : PushSlot)
  | storeThrottled (value : α) (slot : PushSlot) (throttled : Bool)
  | construct (value : α) (slot : PushSlot)
  | storeHead (value : α) (slot : PushSlot)
  | raiseThrottled
  deriving DecidableEq

inductive ConsumerPhase (α : Type) where
  | idle
  | loadHead (tail : UInt64)
  | moveOut (slot : PopSlot)
  | destroy (slot : PopSlot) (value : α)
  | storeTail (slot : PopSlot) (value : α)
  | loadLow (occupancy : UInt64) (value : α)
  | loadThrottled (value : α)
  | exchangeThrottled (value : α)
  deriving DecidableEq

/-- The next event of a `set_backpressure`, with what it has read. -/
inductive SetterPhase where
  | idle
  | storeHigh (low high : UInt64)
  | loadHead (low high : UInt64)
  | loadTail (low high head : UInt64)
  | loadThrottled (low high occupancy : UInt64)
  | storeThrottled (throttled : Bool)
  deriving DecidableEq

/-- The channel, and what has happened on it: the elements that were published and moved out, the
slots that were constructed into and emptied, how many were released, and what `try_pop` returned. -/
structure SpscChannel (α : Type) where
  capacity : UInt64
  lowWatermark : UInt64
  highWatermark : UInt64
  throttled : Bool
  head : UInt64 := 0
  tail : UInt64 := 0
  cells : Nat → Cell α := fun _ => .empty
  producer : ProducerPhase α := .idle
  consumer : ConsumerPhase α := .idle
  setters : Nat → SetterPhase := fun _ => .idle
  staged : Option α := none
  pushed : List α := []
  popped : List α := []
  constructedAt : List Nat := []
  emptiedAt : List Nat := []
  released : Nat := 0
  returned : List (Option α) := []

def computeThrottled (occupancy low high : UInt64) (current : Bool) : Bool :=
  if occupancy ≤ low then false
  else if high ≤ occupancy then true
  else current

/-- The high watermark in effect: at least one, and at most the slots that can be used. -/
def clampHigh (config : BackpressureConfig) (usableSlots : UInt64) : UInt64 :=
  let high := if config.highWatermark = 0 then 1 else config.highWatermark
  if usableSlots < high then usableSlots else high

def clampLow (config : BackpressureConfig) (high : UInt64) : UInt64 :=
  if high < config.lowWatermark then high else config.lowWatermark

namespace SpscChannel

variable {α : Type} (channel : SpscChannel α)

def create (minCapacity : UInt64) : SpscChannel α :=
  let capacity := nextPowerOfTwo minCapacity
  let high := clampHigh {} (capacity - 1)
  let low := clampLow {} high
  { capacity := capacity
    lowWatermark := low
    highWatermark := high
    throttled := computeThrottled 0 low high false }

def mask : UInt64 := channel.capacity - 1

def usableCapacity : UInt64 := channel.capacity - 1

/-! ## The producer -/

def tryPush (val : α) : SpscChannel α :=
  match channel.producer with
  | .idle => { channel with producer := .loadTail val channel.head }
  | _ => channel

/-- `acquire_push_slot` has its decision: a throttled producer returns. -/
def acquired (val : α) (slot : PushSlot) (throttled : Bool) : ProducerPhase α :=
  if throttled then .idle else .construct val slot

def producerStep : SpscChannel α :=
  match channel.producer with
  | .idle => channel
  | .loadTail val head =>
    if (head + 1) &&& channel.mask = channel.tail then { channel with producer := .idle }
    else { channel with producer := .loadLow val head channel.tail }
  | .loadLow val head tail =>
    { channel with
      producer := .loadHigh val head ((head - tail) &&& channel.mask) channel.lowWatermark }
  | .loadHigh val head occupancy low =>
    { channel with producer := .loadThrottled val ⟨head, occupancy, low, channel.highWatermark⟩ }
  | .loadThrottled val slot =>
    let before := computeThrottled slot.occupancy slot.low slot.high channel.throttled
    if before ≠ channel.throttled then
      { channel with producer := .storeThrottled val slot before }
    else { channel with producer := acquired val slot before }
  | .storeThrottled val slot before =>
    { channel with throttled := before, producer := acquired val slot before }
  | .construct val slot =>
    { channel with
      cells := Function.update channel.cells slot.index.toNat (.holds val)
      producer := .storeHead val slot
      staged := some val
      constructedAt := channel.constructedAt ++ [slot.index.toNat] }
  | .storeHead val slot =>
    { channel with
      head := (slot.index + 1) &&& channel.mask
      producer :=
        if computeThrottled (slot.occupancy + 1) slot.low slot.high false then .raiseThrottled
        else .idle
      staged := none
      pushed := channel.pushed ++ [val] }
  | .raiseThrottled => { channel with throttled := true, producer := .idle }

/-! ## The consumer -/

def tryPop : SpscChannel α :=
  match channel.consumer with
  | .idle => { channel with consumer := .loadHead channel.tail }
  | _ => channel

def popReturns (result : Option α) : SpscChannel α :=
  { channel with consumer := .idle, returned := channel.returned ++ [result] }

def consumerStep : SpscChannel α :=
  match channel.consumer with
  | .idle => channel
  | .loadHead tail =>
    if tail = channel.head then channel.popReturns none
    else { channel with consumer := .moveOut ⟨tail, channel.head⟩ }
  | .moveOut slot =>
    match channel.cells slot.index.toNat with
    | .holds val =>
      { channel with
        cells := Function.update channel.cells slot.index.toNat .movedFrom
        consumer := .destroy slot val
        popped := channel.popped ++ [val] }
    -- there is no element to move, which does not happen
    | _ => channel
  | .destroy slot val =>
    { channel with
      cells := Function.update channel.cells slot.index.toNat .empty
      consumer := .storeTail slot val
      emptiedAt := channel.emptiedAt ++ [slot.index.toNat] }
  | .storeTail slot val =>
    let nextTail := (slot.index + 1) &&& channel.mask
    { channel with
      tail := nextTail
      consumer := .loadLow ((slot.head - nextTail) &&& channel.mask) val
      released := channel.released + 1 }
  | .loadLow occupancy val =>
    if occupancy ≤ channel.lowWatermark then { channel with consumer := .loadThrottled val }
    else channel.popReturns (some val)
  | .loadThrottled val =>
    if channel.throttled then { channel with consumer := .exchangeThrottled val }
    else channel.popReturns (some val)
  | .exchangeThrottled val => { channel.popReturns (some val) with throttled := false }

/-! ## The watermarks -/

def setterMoves (caller : Nat) (phase : SetterPhase) : Nat → SetterPhase :=
  Function.update channel.setters caller phase

/-- The store of the low watermark, with which `set_backpressure` begins. -/
def setBackpressure (caller : Nat) (config : BackpressureConfig) : SpscChannel α :=
  match channel.setters caller with
  | .idle =>
    let high := clampHigh config channel.usableCapacity
    let low := clampLow config high
    { channel with lowWatermark := low, setters := channel.setterMoves caller (.storeHigh low high) }
  | _ => channel

def setterStep (caller : Nat) : SpscChannel α :=
  match channel.setters caller with
  | .idle => channel
  | .storeHigh low high =>
    { channel with highWatermark := high, setters := channel.setterMoves caller (.loadHead low high) }
  | .loadHead low high =>
    { channel with setters := channel.setterMoves caller (.loadTail low high channel.head) }
  | .loadTail low high head =>
    { channel with
      setters :=
        channel.setterMoves caller (.loadThrottled low high ((head - channel.tail) &&& channel.mask)) }
  | .loadThrottled low high occupancy =>
    { channel with
      setters := channel.setterMoves caller
        (.storeThrottled (computeThrottled occupancy low high channel.throttled)) }
  | .storeThrottled next =>
    { channel with throttled := next, setters := channel.setterMoves caller .idle }

/-! ## Events -/

inductive Event (α : Type) where
  | tryPush (value : α)
  | producer
  | tryPop
  | consumer
  | setBackpressure (caller : Nat) (config : BackpressureConfig)
  | setter (caller : Nat)
  deriving DecidableEq

def step (channel : SpscChannel α) : Event α → SpscChannel α
  | .tryPush val => channel.tryPush val
  | .producer => channel.producerStep
  | .tryPop => channel.tryPop
  | .consumer => channel.consumerStep
  | .setBackpressure caller config => channel.setBackpressure caller config
  | .setter caller => channel.setterStep caller

/-! ## What holds in every state -/

def ring : SpscRing α where
  size := channel.capacity.toNat
  cells := channel.cells
  pushed := channel.pushed
  staged := channel.staged
  popped := channel.popped
  emptied := channel.emptiedAt.length
  released := channel.released

def slotsUpTo (count : Nat) : List Nat := (List.range count).map (· % channel.capacity.toNat)

def Roomy : Prop := channel.pushed.length + 1 < channel.released + channel.capacity.toNat

/-- What the producer knows: the head is its own, and once it has seen the tail there is room. -/
def Producing (staged : Option α) (head : UInt64) (roomy : Prop) : ProducerPhase α → Prop
  | .idle => staged = none
  | .loadTail _ index => staged = none ∧ index = head
  | .loadLow _ index _ => staged = none ∧ index = head ∧ roomy
  | .loadHigh _ index _ _ => staged = none ∧ index = head ∧ roomy
  | .loadThrottled _ slot => staged = none ∧ slot.index = head ∧ roomy
  | .storeThrottled _ slot _ => staged = none ∧ slot.index = head ∧ roomy
  | .construct _ slot => staged = none ∧ slot.index = head ∧ roomy
  | .storeHead val slot => staged = some val ∧ slot.index = head
  | .raiseThrottled => staged = none

/-- What the consumer knows: the tail is its own, and once it has seen another head there is an
element. Between moving the element out and storing the tail it is one ahead. -/
def Consuming (pushed popped emptied released : Nat) (tail : UInt64) : ConsumerPhase α → Prop
  | .idle => popped = released
  | .loadHead index => popped = released ∧ index = tail
  | .moveOut slot => popped = released ∧ slot.index = tail ∧ popped < pushed
  | .destroy slot _ => popped = released + 1 ∧ slot.index = tail ∧ emptied = released
  | .storeTail slot _ => popped = released + 1 ∧ slot.index = tail ∧ emptied = released + 1
  | .loadLow _ _ => popped = released
  | .loadThrottled _ => popped = released
  | .exchangeThrottled _ => popped = released

/-- The element that `try_pop` has moved out and not returned yet. -/
def taken : ConsumerPhase α → Option α
  | .idle => none
  | .loadHead _ => none
  | .moveOut _ => none
  | .destroy _ val => some val
  | .storeTail _ val => some val
  | .loadLow _ val => some val
  | .loadThrottled val => some val
  | .exchangeThrottled val => some val

structure Holds : Prop where
  capacity_eq : ∃ exponent ≤ 63, channel.capacity.toNat = 2 ^ exponent
  valid : channel.ring.Valid
  head_eq : channel.head.toNat = channel.pushed.length % channel.capacity.toNat
  tail_eq : channel.tail.toNat = channel.released % channel.capacity.toNat
  producing : Producing channel.staged channel.head channel.Roomy channel.producer
  consuming : Consuming channel.pushed.length channel.popped.length channel.emptiedAt.length
    channel.released channel.tail channel.consumer
  constructedAt_eq : channel.constructedAt = channel.slotsUpTo channel.ring.constructed.length
  emptiedAt_eq : channel.emptiedAt = channel.slotsUpTo channel.emptiedAt.length
  returned_eq : channel.returned.filterMap id ++ (taken channel.consumer).toList = channel.popped

variable {channel}

theorem Producing.mono {staged : Option α} {head : UInt64} {roomy stillRoomy : Prop}
    {phase : ProducerPhase α} (producing : Producing staged head roomy phase)
    (still : roomy → stillRoomy) : Producing staged head stillRoomy phase := by
  cases phase with
  | idle | loadTail val index | storeHead val slot | raiseThrottled => exact producing
  | loadLow val index tail | loadHigh val index occupancy low | loadThrottled val slot
  | storeThrottled val slot throttled | construct val slot =>
    exact ⟨producing.1, producing.2.1, still producing.2.2⟩

theorem Consuming.mono {pushed more popped emptied released : Nat} {tail : UInt64}
    {phase : ConsumerPhase α} (consuming : Consuming pushed popped emptied released tail phase)
    (grown : pushed ≤ more) : Consuming more popped emptied released tail phase := by
  cases phase with
  | idle | loadHead index | destroy slot val | storeTail slot val
  | loadLow occupancy val | loadThrottled val | exchangeThrottled val => exact consuming
  | moveOut slot => exact ⟨consuming.1, consuming.2.1, Nat.lt_of_lt_of_le consuming.2.2 grown⟩

variable {val : α} {slot : PopSlot}

theorem Producing.acquired {slot : PushSlot} (throttled : Bool) (nothing : channel.staged = none)
    (index : slot.index = channel.head) (roomy : channel.Roomy) :
    Producing channel.staged channel.head channel.Roomy (acquired val slot throttled) := by
  cases throttled with
  | true => exact nothing
  | false => exact ⟨nothing, index, roomy⟩

/-! ## Indices -/

theorem slotsUpTo_succ (count : Nat) :
    channel.slotsUpTo (count + 1) =
      channel.slotsUpTo count ++ [count % channel.capacity.toNat] := by
  simp [slotsUpTo, List.range_succ]

section

variable (holds : channel.Holds)

include holds

theorem Holds.and_mask_toNat (val : UInt64) :
    (val &&& channel.mask).toNat = val.toNat % channel.capacity.toNat := by
  obtain ⟨exponent, _, power⟩ := holds.capacity_eq
  have mask : channel.mask.toNat = 2 ^ exponent - 1 := by
    rw [← power]
    apply UInt64.toNat_sub_of_le
    rw [UInt64.le_iff_toNat_le, power]
    exact Nat.one_le_two_pow
  rw [UInt64.toNat_and, mask, Nat.and_two_pow_sub_one_eq_mod, power]

theorem Holds.capacity_dvd : channel.capacity.toNat ∣ 2 ^ 64 := by
  obtain ⟨exponent, small, power⟩ := holds.capacity_eq
  rw [power]
  exact Nat.pow_dvd_pow 2 (Nat.le_succ_of_le small)

theorem Holds.next_index {index : UInt64} {spot : Nat}
    (index_eq : index.toNat = spot % channel.capacity.toNat) :
    ((index + 1) &&& channel.mask).toNat = (spot + 1) % channel.capacity.toNat := by
  rw [holds.and_mask_toNat, UInt64.toNat_add, Nat.mod_mod_of_dvd _ holds.capacity_dvd, index_eq]
  exact Nat.mod_add_mod ..

theorem Holds.pushed_lt :
    channel.pushed.length < channel.released + channel.capacity.toNat :=
  Nat.lt_of_le_of_lt channel.ring.pushed_length_le holds.valid.room

theorem Holds.roomy_of_ne (notFull : (channel.head + 1) &&& channel.mask ≠ channel.tail) :
    channel.Roomy := by
  have inside := holds.pushed_lt
  rcases Nat.lt_or_ge (channel.pushed.length + 1) (channel.released + channel.capacity.toNat) with
    roomy | full
  · exact roomy
  · refine absurd ?_ notFull
    have exact : channel.pushed.length + 1 = channel.released + channel.capacity.toNat := by omega
    apply UInt64.toNat_inj.mp
    rw [holds.next_index holds.head_eq, holds.tail_eq, exact, Nat.add_mod_right]

theorem Holds.eq_iff_empty (started : channel.popped.length = channel.released) :
    channel.tail = channel.head ↔ channel.popped = channel.pushed := by
  have order := holds.valid.popped_length_le
  rw [← UInt64.toNat_inj, holds.tail_eq, holds.head_eq]
  constructor
  · intro same
    have equal := SlotQueue.slot_injective holds.pushed_lt (started ▸ order) same
    exact holds.valid.popped_of_pushed.eq_of_length (started.trans equal)
  · intro equal
    rw [← started, equal]

/-! ## Steps of the producer -/

theorem Holds.withProducer {phase : ProducerPhase α} {throttled : Bool}
    (producing : Producing channel.staged channel.head channel.Roomy phase) :
    Holds { channel with producer := phase, throttled := throttled } :=
  { holds with producing := producing }

theorem Holds.tryPush (val : α) : (channel.tryPush val).Holds := by
  have producing := holds.producing
  rw [SpscChannel.tryPush]
  cases phase : channel.producer with
  | idle =>
    rw [phase] at producing
    exact holds.withProducer ⟨producing, rfl⟩
  | _ => exact holds

theorem Holds.construct {slot : PushSlot} (phase : channel.producer = .construct val slot) :
    channel.producerStep.Holds := by
  have producing := holds.producing
  rw [phase] at producing
  obtain ⟨nothing, index, roomy⟩ := producing
  have spot : slot.index.toNat = channel.pushed.length % channel.capacity.toNat := by
    rw [index, holds.head_eq]
  have before : channel.ring.constructed.length = channel.pushed.length := by
    simp [SpscRing.constructed, ring, nothing]
  rw [producerStep, phase]
  dsimp only
  refine
    { holds with
      valid := ?_
      producing := ⟨rfl, index⟩
      constructedAt_eq := ?_ }
  · rw [spot]
    exact holds.valid.construct nothing roomy
  · show channel.constructedAt ++ [slot.index.toNat] =
      channel.slotsUpTo (channel.pushed ++ [val]).length
    rw [List.length_append, List.length_singleton, slotsUpTo_succ, holds.constructedAt_eq, before,
      spot]

theorem Holds.storeHead {slot : PushSlot} (phase : channel.producer = .storeHead val slot) :
    channel.producerStep.Holds := by
  have producing := holds.producing
  rw [phase] at producing
  obtain ⟨ready, index⟩ := producing
  have same : (channel.ring.publish val).constructed = channel.ring.constructed := by
    simp [SpscRing.publish, SpscRing.constructed, ring, ready]
  have grown : channel.pushed.length ≤ (channel.pushed ++ [val]).length := by simp
  rw [producerStep, phase]
  refine
    { holds with
      valid := holds.valid.publish ready
      head_eq := ?_
      producing := ?_
      consuming := holds.consuming.mono grown
      constructedAt_eq := ?_ }
  · show ((slot.index + 1) &&& channel.mask).toNat =
      (channel.pushed ++ [val]).length % channel.capacity.toNat
    rw [index, holds.next_index holds.head_eq, List.length_append, List.length_singleton]
  · dsimp only
    split <;> rfl
  · show channel.constructedAt = channel.slotsUpTo (channel.ring.publish val).constructed.length
    rw [same]
    exact holds.constructedAt_eq

theorem Holds.producerStep : channel.producerStep.Holds := by
  have producing := holds.producing
  cases phase : channel.producer with
  | construct val slot => exact holds.construct phase
  | storeHead val slot => exact holds.storeHead phase
  | idle =>
    rw [SpscChannel.producerStep, phase]
    exact holds
  | loadTail val head =>
    rw [phase] at producing
    obtain ⟨nothing, rfl⟩ := producing
    rw [SpscChannel.producerStep, phase]
    dsimp only
    split_ifs with full
    · exact holds.withProducer nothing
    · exact holds.withProducer ⟨nothing, rfl, holds.roomy_of_ne full⟩
  | loadLow val head tail | loadHigh val head occupancy low | raiseThrottled =>
    rw [phase] at producing
    rw [SpscChannel.producerStep, phase]
    exact holds.withProducer producing
  | loadThrottled val slot =>
    rw [phase] at producing
    rw [SpscChannel.producerStep, phase]
    dsimp only
    split
    · exact holds.withProducer producing
    · exact holds.withProducer (.acquired _ producing.1 producing.2.1 producing.2.2)
  | storeThrottled val slot before =>
    rw [phase] at producing
    rw [SpscChannel.producerStep, phase]
    exact holds.withProducer (.acquired _ producing.1 producing.2.1 producing.2.2)

/-! ## Steps of the consumer -/

theorem Holds.withConsumer {phase : ConsumerPhase α}
    (consuming : Consuming channel.pushed.length channel.popped.length channel.emptiedAt.length
      channel.released channel.tail phase) (same : taken phase = taken channel.consumer) :
    Holds { channel with consumer := phase } :=
  { holds with
    consuming := consuming
    returned_eq := by
      show _ ++ (taken phase).toList = _
      rw [same]
      exact holds.returned_eq }

theorem Holds.popReturns (throttled : Bool) (returned : channel.popped.length = channel.released) :
    Holds { channel.popReturns (taken channel.consumer) with throttled := throttled } :=
  { holds with
    consuming := returned
    returned_eq := by
      show (channel.returned ++ [taken channel.consumer]).filterMap id ++ [] = channel.popped
      rw [← holds.returned_eq, List.append_nil, List.filterMap_append]
      cases taken channel.consumer <;> rfl }

theorem Holds.tryPop : channel.tryPop.Holds := by
  have consuming := holds.consuming
  rw [SpscChannel.tryPop]
  cases phase : channel.consumer with
  | idle =>
    rw [phase] at consuming
    exact holds.withConsumer ⟨consuming, rfl⟩ (by rw [phase]; rfl)
  | _ => exact holds

theorem Holds.holds_next (phase : channel.consumer = .moveOut slot) :
    ∃ val, channel.pushed[channel.popped.length]? = some val ∧
      channel.cells slot.index.toNat = .holds val := by
  have consuming := holds.consuming
  rw [phase] at consuming
  obtain ⟨started, index, below⟩ := consuming
  have spot : slot.index.toNat = channel.popped.length % channel.capacity.toNat := by
    rw [index, holds.tail_eq, started]
  refine ⟨_, List.getElem?_eq_getElem below, ?_⟩
  rw [spot]
  exact holds.valid.holds_next started (List.getElem?_eq_getElem below)

theorem Holds.moveOut (phase : channel.consumer = .moveOut slot) : channel.consumerStep.Holds := by
  obtain ⟨val, next, cell⟩ := holds.holds_next phase
  have consuming := holds.consuming
  rw [phase] at consuming
  obtain ⟨started, index, below⟩ := consuming
  have spot : slot.index.toNat = channel.popped.length % channel.capacity.toNat := by
    rw [index, holds.tail_eq, started]
  have emptied : channel.emptiedAt.length = channel.released :=
    Nat.le_antisymm (Nat.le_trans holds.valid.emptied_le (Nat.le_of_eq started))
      holds.valid.released_le
  have returned := holds.returned_eq
  rw [phase, taken, Option.toList_none, List.append_nil] at returned
  rw [consumerStep, phase]
  dsimp only
  rw [cell]
  refine
    { holds with
      valid := ?_
      consuming := ⟨?_, index, emptied⟩
      returned_eq := ?_ }
  · rw [spot]
    exact holds.valid.moveOut started next
  · rw [List.length_append, started]
    rfl
  · show channel.returned.filterMap id ++ [val] = _
    rw [returned]

theorem Holds.destroy (phase : channel.consumer = .destroy slot val) :
    channel.consumerStep.Holds := by
  have consuming := holds.consuming
  rw [phase] at consuming
  obtain ⟨popped, index, emptied⟩ := consuming
  have spot : slot.index.toNat = channel.emptiedAt.length % channel.capacity.toNat := by
    rw [index, holds.tail_eq, emptied]
  have longer : (channel.emptiedAt ++ [slot.index.toNat]).length = channel.emptiedAt.length + 1 := by
    simp
  have valid := holds.valid.destroy (by show channel.emptiedAt.length < channel.popped.length; omega)
  have returned := holds.returned_eq
  rw [phase] at returned
  rw [consumerStep, phase]
  dsimp only
  refine
    { holds with
      valid := ?_
      consuming := ⟨popped, index, by rw [longer, emptied]⟩
      emptiedAt_eq := ?_
      returned_eq := returned }
  · rw [ring, longer, spot]
    exact valid
  · show channel.emptiedAt ++ [slot.index.toNat] = channel.slotsUpTo _
    rw [longer, slotsUpTo_succ, ← holds.emptiedAt_eq, spot]

theorem Holds.storeTail (phase : channel.consumer = .storeTail slot val) :
    channel.consumerStep.Holds := by
  have consuming := holds.consuming
  rw [phase] at consuming
  obtain ⟨popped, index, emptied⟩ := consuming
  have returned := holds.returned_eq
  rw [phase] at returned
  rw [consumerStep, phase]
  dsimp only
  refine
    { holds with
      valid := holds.valid.release (by show channel.released < channel.emptiedAt.length; omega)
      tail_eq := ?_
      producing := holds.producing.mono ?_
      consuming := popped
      returned_eq := returned }
  · rw [index]
    exact holds.next_index holds.tail_eq
  · intro roomy
    exact Nat.lt_of_lt_of_le roomy (Nat.add_le_add_right (Nat.le_succ _) _)

theorem Holds.consumerStep : channel.consumerStep.Holds := by
  have consuming := holds.consuming
  cases phase : channel.consumer with
  | moveOut slot => exact holds.moveOut phase
  | destroy slot val => exact holds.destroy phase
  | storeTail slot val => exact holds.storeTail phase
  | idle =>
    rw [SpscChannel.consumerStep, phase]
    exact holds
  | loadHead tail =>
    rw [phase] at consuming
    obtain ⟨started, rfl⟩ := consuming
    rw [SpscChannel.consumerStep, phase]
    dsimp only
    by_cases empty : channel.tail = channel.head
    · have returned := holds.popReturns channel.throttled started
      rw [phase] at returned
      rw [if_pos empty]
      exact returned
    · have order := holds.valid.popped_length_le
      have waiting : channel.popped.length < channel.pushed.length := by
        refine Nat.lt_of_le_of_ne order fun equal => empty ?_
        exact (holds.eq_iff_empty started).mpr
          (holds.valid.popped_of_pushed.eq_of_length equal)
      rw [if_neg empty]
      exact holds.withConsumer ⟨started, rfl, waiting⟩ (by rw [phase]; rfl)
  | loadLow occupancy val | loadThrottled val =>
    rw [phase] at consuming
    have returned := holds.popReturns channel.throttled consuming
    rw [phase] at returned
    rw [SpscChannel.consumerStep, phase]
    dsimp only
    split
    · exact holds.withConsumer consuming (by rw [phase]; rfl)
    · exact returned
  | exchangeThrottled val =>
    rw [phase] at consuming
    have returned := holds.popReturns false consuming
    rw [phase] at returned
    rw [SpscChannel.consumerStep, phase]
    exact returned

/-! ## Whole runs -/

theorem Holds.withWatermarks (low high : UInt64) (throttled : Bool) (setters : Nat → SetterPhase) :
    Holds { channel with
      lowWatermark := low, highWatermark := high, throttled := throttled, setters := setters } :=
  { holds with }

theorem Holds.setBackpressure (caller : Nat) (config : BackpressureConfig) :
    (channel.setBackpressure caller config).Holds := by
  rw [SpscChannel.setBackpressure]
  cases channel.setters caller with
  | idle => exact holds.withWatermarks ..
  | _ => exact holds

theorem Holds.setterStep (caller : Nat) : (channel.setterStep caller).Holds := by
  rw [SpscChannel.setterStep]
  cases channel.setters caller with
  | idle => exact holds
  | _ => exact holds.withWatermarks ..

theorem Holds.step (event : Event α) : (channel.step event).Holds := by
  cases event with
  | tryPush val => exact holds.tryPush val
  | producer => exact holds.producerStep
  | tryPop => exact holds.tryPop
  | consumer => exact holds.consumerStep
  | setBackpressure caller config => exact holds.setBackpressure caller config
  | setter caller => exact holds.setterStep caller

end

theorem kept_of_other {event : Event α} (other : event ≠ .consumer) :
    (channel.step event).capacity = channel.capacity ∧
      (channel.step event).returned = channel.returned := by
  cases event with
  | tryPush val =>
    rw [step, SpscChannel.tryPush]
    cases channel.producer <;> exact ⟨rfl, rfl⟩
  | producer =>
    rw [step, SpscChannel.producerStep]
    cases channel.producer with
    | loadTail val head | loadThrottled val slot =>
      dsimp only
      split <;> exact ⟨rfl, rfl⟩
    | _ => exact ⟨rfl, rfl⟩
  | tryPop =>
    rw [step, SpscChannel.tryPop]
    cases channel.consumer <;> exact ⟨rfl, rfl⟩
  | consumer => exact absurd rfl other
  | setBackpressure caller config =>
    rw [step, SpscChannel.setBackpressure]
    cases channel.setters caller <;> exact ⟨rfl, rfl⟩
  | setter caller =>
    rw [step, SpscChannel.setterStep]
    cases channel.setters caller <;> exact ⟨rfl, rfl⟩

theorem step_capacity (channel : SpscChannel α) (event : Event α) :
    (channel.step event).capacity = channel.capacity := by
  by_cases consumer : event = .consumer
  · subst consumer
    change channel.consumerStep.capacity = channel.capacity
    rw [SpscChannel.consumerStep]
    cases channel.consumer with
    | idle | destroy slot val | storeTail slot val | exchangeThrottled val => rfl
    | _ =>
      dsimp only
      split <;> rfl
  · exact (kept_of_other consumer).1

/-- `try_pop` returns nothing only in the event that loads the head, and finds it at the tail. -/
theorem loadHead_of_returned_none {event : Event α}
    (reported : (channel.step event).returned = channel.returned ++ [none]) :
    channel.consumer = .loadHead channel.head := by
  by_cases consumer : event = .consumer
  · subst consumer
    rw [step, SpscChannel.consumerStep] at reported
    cases phase : channel.consumer with
    | loadHead tail =>
      rw [phase] at reported
      dsimp only at reported
      by_cases empty : tail = channel.head
      · rw [empty]
      · rw [if_neg empty] at reported
        simp at reported
    | moveOut slot =>
      rw [phase] at reported
      dsimp only at reported
      split at reported <;> simp at reported
    | loadLow occupancy val | loadThrottled val =>
      rw [phase] at reported
      dsimp only at reported
      split at reported <;> simp [SpscChannel.popReturns] at reported
    | _ =>
      rw [phase] at reported
      simp [SpscChannel.popReturns] at reported
  · rw [(kept_of_other consumer).2] at reported
    simp at reported

end SpscChannel

open SpscChannel

/-- A first-in first-out queue of at most one element less than it has slots. -/
structure IsFifo {α : Type} (minCapacity : UInt64) (channel : SpscChannel α) : Prop where
  popped_of_pushed : channel.popped <+: channel.pushed
  returned_of_popped : channel.returned.filterMap id <+: channel.popped
  constructs_into_empty : ∀ value slot, channel.producer = .construct value slot →
    channel.cells slot.index.toNat = .empty
  moves_alive : ∀ slot, channel.consumer = .moveOut slot →
    ∃ value, channel.cells slot.index.toNat = .holds value
  destroys_alive : ∀ slot value, channel.consumer = .destroy slot value →
    channel.cells slot.index.toNat = .movedFrom
  -- the element of a position is constructed and destroyed in the slot of the position, once
  constructedAt_eq : channel.constructedAt = channel.slotsUpTo channel.constructedAt.length
  emptiedAt_eq : channel.emptiedAt = channel.slotsUpTo channel.emptiedAt.length
  pushed_after_construction : channel.pushed.length ≤ channel.constructedAt.length ∧
    channel.constructedAt.length ≤ channel.pushed.length + 1
  emptied_after_pop : channel.emptiedAt.length ≤ channel.popped.length ∧
    channel.popped.length ≤ channel.emptiedAt.length + 1
  queued_le : channel.pushed.length - channel.popped.length ≤ channel.capacity.toNat - 1
  alive_le : channel.constructedAt.length - channel.emptiedAt.length ≤ channel.capacity.toNat - 1
  capacity_eq : ∃ exponent, channel.capacity.toNat = 2 ^ exponent
  requested_le : minCapacity.toNat ≤ channel.capacity.toNat
  -- the event in which `try_pop` finds nothing happens when nothing is queued
  empty_report : ∀ event, (channel.step event).returned = channel.returned ++ [none] →
    channel.popped = channel.pushed

theorem SpscChannel.Holds.isFifo {α : Type} {channel : SpscChannel α} {minCapacity : UInt64}
    (holds : channel.Holds) (requested : minCapacity.toNat ≤ channel.capacity.toNat) :
    IsFifo minCapacity channel := by
  have valid := holds.valid
  have producing := holds.producing
  have consuming := holds.consuming
  have constructions : channel.constructedAt.length = channel.ring.constructed.length := by
    rw [holds.constructedAt_eq, slotsUpTo, List.length_map, List.length_range]
  have room : channel.ring.constructed.length < channel.released + channel.capacity.toNat := valid.room
  have released : channel.released ≤ channel.emptiedAt.length := valid.released_le
  have emptied := valid.emptied_le
  have popped : channel.popped.length ≤ channel.released + 1 := valid.popped_le
  have queued : channel.pushed.length - channel.popped.length < channel.capacity.toNat :=
    valid.queued_lt
  have staged : channel.ring.constructed.length ≤ channel.pushed.length + 1 := by
    rw [SpscRing.constructed, List.length_append]
    have one : channel.ring.staged.toList.length ≤ 1 := by
      cases channel.ring.staged <;> simp
    exact Nat.add_le_add_left one _
  refine
    { popped_of_pushed := valid.popped_of_pushed
      returned_of_popped := ⟨_, holds.returned_eq⟩
      constructs_into_empty := ?_
      moves_alive := fun _ phase => (holds.holds_next phase).imp fun _ next => next.2
      destroys_alive := ?_
      constructedAt_eq := by rw [constructions]; exact holds.constructedAt_eq
      emptiedAt_eq := holds.emptiedAt_eq
      pushed_after_construction := constructions ▸ ⟨channel.ring.pushed_length_le, staged⟩
      emptied_after_pop := ⟨emptied, by omega⟩
      queued_le := by omega
      alive_le := by omega
      capacity_eq := holds.capacity_eq.imp fun _ power => power.2
      requested_le := requested
      empty_report := ?_ }
  · intro val slot phase
    rw [phase] at producing
    obtain ⟨nothing, index, roomy⟩ := producing
    rw [index, holds.head_eq]
    exact valid.empty_of_room nothing (Nat.lt_of_succ_lt roomy)
  · intro slot val phase
    rw [phase] at consuming
    obtain ⟨ahead, index, count⟩ := consuming
    rw [index, holds.tail_eq, ← count]
    exact valid.movedFrom_next (by show channel.emptiedAt.length < channel.popped.length; omega)
  · intro event reported
    have phase := loadHead_of_returned_none reported
    rw [phase] at consuming
    exact (holds.eq_iff_empty consuming.1).mp consuming.2.symm

theorem run_holds {α : Type} {minCapacity : UInt64} (bounded : minCapacity.toNat ≤ 2 ^ 63)
    (events : List (SpscChannel.Event α)) :
    (run step (create minCapacity) events).Holds ∧
      (run step (create minCapacity) events).capacity = nextPowerOfTwo minCapacity := by
  have preserved : ∀ (channel : SpscChannel α) (event : SpscChannel.Event α),
      channel.Holds ∧ channel.capacity = nextPowerOfTwo minCapacity → True →
        (channel.step event).Holds ∧ (channel.step event).capacity = nextPowerOfTwo minCapacity :=
    fun channel event before _ =>
      ⟨before.1.step event, (channel.step_capacity event).trans before.2⟩
  have always : Admissible step (fun _ _ => True)
      (create minCapacity : SpscChannel α) events :=
    admissible_of_events fun _ _ => trivial
  have createHolds : (create minCapacity : SpscChannel α).Holds := by
    obtain ⟨exponent, _, small, power, _⟩ := nextPowerOfTwo_spec bounded
    have positive := Nat.two_pow_pos exponent
    have valid : (create minCapacity : SpscChannel α).ring.Valid := by
      refine ⟨Nat.le_refl 0, Nat.le_refl 0, Nat.zero_le 1, List.nil_prefix, ?_, fun _ _ _ => rfl⟩
      show 0 < 0 + (nextPowerOfTwo minCapacity).toNat
      omega
    exact ⟨⟨exponent, small, power⟩, valid, (Nat.zero_mod _).symm, (Nat.zero_mod _).symm, rfl, rfl,
      rfl,
      rfl, rfl⟩
  exact invariant_run preserved ⟨createHolds, rfl⟩ always

/-- For every requested capacity and every order of the events of one producer, one consumer and any
number of threads that set the watermarks, the channel is a queue. -/
theorem channel_is_fifo {α : Type} (minCapacity : UInt64) (bounded : minCapacity.toNat ≤ 2 ^ 63)
    (events : List (SpscChannel.Event α)) :
    IsFifo minCapacity (run step (create minCapacity) events) := by
  obtain ⟨holds, capacity⟩ := run_holds bounded events
  obtain ⟨_, _, _, _, requested⟩ := nextPowerOfTwo_spec bounded
  exact holds.isFifo (capacity ▸ requested)

/-- One element goes through a channel while the watermarks are set, and a second `try_pop` finds
nothing. -/
def oneElement : List (SpscChannel.Event Nat) :=
  [.tryPush 7, .producer, .setBackpressure 0 { highWatermark := 2 }, .producer, .setter 0, .producer,
    .producer, .producer, .producer] ++ .tryPop :: List.replicate 6 .consumer ++ [.tryPop, .consumer]

theorem channel_is_fifo_one_element :
    (run step (create 3) oneElement).returned = [some 7, none] ∧
      IsFifo 3 (run step (create 3) oneElement) :=
  ⟨by decide +kernel, channel_is_fifo 3 (by decide) oneElement⟩

end KmxAio.Channel
