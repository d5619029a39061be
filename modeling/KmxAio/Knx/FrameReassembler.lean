import KmxAio.Lib.Framing
import KmxAio.Lib.Run
import KmxAio.Knx.Frame

/-!
# Frames out of a byte stream

Over TCP a read returns whatever the stream holds, and the frames are recovered
from the total lengths in their headers. The reassembler keeps what has arrived in
one buffer, drops a frame only at the call after the one that handed it out, and
moves an unfinished frame to the front before the next read. None of this shows:
it hands out the frames of the stream, wherever the reads cut it.
-/

namespace KmxAio.Knx

open Lib.Wire Lib.Run Lib.Framing Knx.Frame

/-- The buffer, the first octet not yet handed out (`begin_`), one past the last octet held (`end_`),
and the length of the frame handed out last. -/
structure FrameReassembler where
  buffer : Octets := List.replicate maxDatagramSize 0
  first : Nat := 0
  last : Nat := 0
  taken : Nat := 0
  deriving DecidableEq

namespace FrameReassembler

def capacity : Nat := maxDatagramSize
def protocolVersion : UInt8 := 0x10

variable (buf : FrameReassembler)

def discardTaken : FrameReassembler :=
  let first := buf.first + buf.taken
  if first = buf.last then { buf with first := 0, last := 0, taken := 0 }
  else { buf with first := first, taken := 0 }

def compact : FrameReassembler :=
  let held := buf.last - buf.first
  { buf with
    buffer := (buf.buffer.drop buf.first).take held ++ buf.buffer.drop held
    first := 0
    last := held }

/-- The size of the span behind what is held, which starts at `last`. -/
def writable : FrameReassembler × Nat :=
  let discarded := buf.discardTaken
  let ready := if discarded.first ≠ 0 then discarded.compact else discarded
  (ready, capacity - ready.last)

def commit (count : Nat) : FrameReassembler :=
  { buf with last := buf.last + min count (capacity - buf.last) }

def next : FrameReassembler × Expected (Option Octets) :=
  let buf := buf.discardTaken
  let available := buf.last - buf.first
  if available < communicationHeaderSize then (buf, .ok none)
  else
    -- checked the moment a header is complete
    let header := buf.buffer.drop buf.first
    if (octetAt header 0).toNat ≠ communicationHeaderSize ∨ octetAt header 1 ≠ protocolVersion then
      (buf, refuse .malformedFrame)
    else
      let total := (readU16 header 4).toNat
      if total < communicationHeaderSize then (buf, refuse .malformedFrame)
      else if total > capacity then (buf, refuse .invalidLength)
      else if available < total then (buf, .ok none)
      else ({ buf with taken := total }, .ok (some (header.take total)))

def reset : FrameReassembler :=
  { buf with first := 0, last := 0, taken := 0 }

def fill (octets : Octets) : FrameReassembler :=
  { buf with
    buffer := buf.buffer.take buf.last ++ (octets ++ buf.buffer.drop (buf.last + octets.length)) }

def read (octets : Octets) : FrameReassembler :=
  (buf.writable.1.fill octets).commit octets.length

/-! ## What is held -/

def pending : Octets :=
  (buf.buffer.drop (buf.first + buf.taken)).take
    (buf.last - (buf.first + buf.taken))

structure Valid (reassembler : FrameReassembler) : Prop where
  ordered : reassembler.first + reassembler.taken ≤ reassembler.last
  bounded : reassembler.last ≤ capacity
  sized : reassembler.buffer.length = capacity

variable {buf}

theorem Valid.pending_length (valid : buf.Valid) :
    buf.pending.length = buf.last - (buf.first + buf.taken) := by
  have bounded := valid.bounded
  have sized := valid.sized
  rw [pending, List.length_take, List.length_drop]
  omega

theorem Valid.discardTaken (valid : buf.Valid) : buf.discardTaken.Valid := by
  unfold FrameReassembler.discardTaken
  dsimp only
  split
  · exact ⟨Nat.le_refl 0, Nat.zero_le _, valid.sized⟩
  · exact ⟨valid.ordered, valid.bounded, valid.sized⟩

@[simp] theorem discardTaken_taken (buf : FrameReassembler) : buf.discardTaken.taken = 0 := by
  unfold FrameReassembler.discardTaken
  dsimp only
  split <;> rfl

theorem pending_discardTaken (buf : FrameReassembler) : buf.discardTaken.pending = buf.pending := by
  unfold FrameReassembler.discardTaken pending
  dsimp only
  split
  · rename_i all
    rw [all, Nat.sub_self, List.take_zero]
    rfl
  · rfl

theorem Valid.compact (valid : buf.Valid) (undisturbed : buf.taken = 0) :
    buf.compact.Valid ∧ buf.compact.taken = 0 ∧ buf.compact.pending = buf.pending := by
  have bounded := valid.bounded
  have sized := valid.sized
  have held : ((buf.buffer.drop buf.first).take
      (buf.last - buf.first)).length = buf.last - buf.first := by
    rw [List.length_take, List.length_drop]
    omega
  refine ⟨⟨?_, ?_, ?_⟩, undisturbed, ?_⟩
  · simp [FrameReassembler.compact, undisturbed]
  · simp only [FrameReassembler.compact]
    omega
  · simp only [FrameReassembler.compact, List.length_append, held, List.length_drop]
    omega
  · unfold pending FrameReassembler.compact
    rw [undisturbed, Nat.add_zero, List.drop_zero, Nat.sub_zero, List.take_left' held, Nat.add_zero]

theorem Valid.writable (valid : buf.Valid) :
    buf.writable.1.Valid ∧ buf.writable.1.first = 0 ∧
      buf.writable.1.taken = 0 ∧ buf.writable.1.pending = buf.pending := by
  have discarded := valid.discardTaken
  unfold FrameReassembler.writable
  dsimp only
  split
  · obtain ⟨compacted, untaken, same⟩ := discarded.compact (discardTaken_taken buf)
    exact ⟨compacted, rfl, untaken, same.trans (pending_discardTaken buf)⟩
  · rename_i front
    exact ⟨discarded, not_not.mp front, discardTaken_taken buf, pending_discardTaken buf⟩

theorem Valid.read (valid : buf.Valid) {octets : Octets} (fits : octets.length ≤ buf.writable.2) :
    (buf.read octets).Valid ∧ (buf.read octets).taken = 0 ∧
      (buf.read octets).pending = buf.pending ++ octets := by
  obtain ⟨ready, front, untaken, same⟩ := valid.writable
  have space : buf.writable.2 = capacity - buf.writable.1.last := rfl
  rw [← same]
  unfold FrameReassembler.read
  generalize buf.writable.1 = writable at ready front untaken space ⊢
  have bounded := ready.bounded
  have sized := ready.sized
  rw [space] at fits
  have before : (writable.buffer.take writable.last).length = writable.last := by
    rw [List.length_take]
    omega
  refine ⟨⟨?_, ?_, ?_⟩, untaken, ?_⟩
  · simp only [commit, fill, front, untaken]
    omega
  · simp only [commit, fill]
    omega
  · simp only [commit, fill, List.length_append, before, List.length_drop]
    omega
  · simp only [commit, fill, pending, front, untaken, Nat.add_zero, List.drop_zero, Nat.sub_zero,
      Nat.min_eq_left fits]
    rw [← List.append_assoc, List.take_left' (by rw [List.length_append, before])]

end FrameReassembler

open FrameReassembler

/-! ## Cutting by headers -/

def frontByHeader (stream : Octets) : Front UInt8 ErrorCode :=
  if stream.length < communicationHeaderSize then .incomplete
  else if (octetAt stream 0).toNat ≠ communicationHeaderSize ∨
      octetAt stream 1 ≠ FrameReassembler.protocolVersion then .broken (.knx .malformedFrame)
  else if (readU16 stream 4).toNat < communicationHeaderSize then .broken (.knx .malformedFrame)
  else if (readU16 stream 4).toNat > FrameReassembler.capacity then .broken (.knx .invalidLength)
  else if stream.length < (readU16 stream 4).toNat then .incomplete
  else .frame (stream.take (readU16 stream 4).toNat) (stream.drop (readU16 stream 4).toNat)

theorem header_append {stream : Octets} (whole : ¬ stream.length < communicationHeaderSize)
    (more : Octets) :
    ¬ (stream ++ more).length < communicationHeaderSize ∧
      octetAt (stream ++ more) 0 = octetAt stream 0 ∧
      octetAt (stream ++ more) 1 = octetAt stream 1 ∧
      readU16 (stream ++ more) 4 = readU16 stream 4 := by
  unfold communicationHeaderSize at *
  refine ⟨?_, octetAt_append_left stream more (by omega), octetAt_append_left stream more (by omega),
    readU16_append_of_lt stream more (by omega)⟩
  rw [List.length_append]
  omega

theorem frontByHeader_frame {stream frame rest : Octets} :
    frontByHeader stream = .frame frame rest ↔
      (communicationHeaderSize ≤ stream.length ∧
        (octetAt stream 0).toNat = communicationHeaderSize ∧
        octetAt stream 1 = protocolVersion) ∧
      communicationHeaderSize ≤ (readU16 stream 4).toNat ∧
      (readU16 stream 4).toNat ≤ capacity ∧
      (readU16 stream 4).toNat ≤ stream.length ∧
      frame = stream.take (readU16 stream 4).toNat ∧
      rest = stream.drop (readU16 stream 4).toNat := by
  unfold frontByHeader
  constructor
  · intro found
    split at found
    · cases found
    split at found
    · cases found
    rename_i header
    split at found
    · cases found
    split at found
    · cases found
    split at found
    · cases found
    cases found
    have checked := not_or.mp header
    refine ⟨⟨by omega, not_not.mp checked.1, not_not.mp checked.2⟩, by omega, by omega, by omega,
      rfl, rfl⟩
  · rintro ⟨⟨long, size, version⟩, large, small, whole, rfl, rfl⟩
    rw [if_neg (by omega), if_neg (by simp [size, version]), if_neg (by omega), if_neg (by omega),
      if_neg (by omega)]

theorem frontByHeader_broken_append {stream : Octets} {why : ErrorCode} (more : Octets)
    (found : frontByHeader stream = .broken why) :
    frontByHeader (stream ++ more) = .broken why := by
  unfold frontByHeader at found ⊢
  split at found
  · cases found
  rename_i long
  obtain ⟨stillLong, sameSize, sameVersion, sameTotal⟩ := header_append long more
  rw [if_neg stillLong, sameSize, sameVersion, sameTotal]
  split at found
  · rename_i header
    rwa [if_pos header]
  rename_i header
  rw [if_neg header]
  split at found
  · rename_i short
    rwa [if_pos short]
  rename_i short
  rw [if_neg short]
  split at found
  · rename_i long
    rwa [if_pos long]
  split at found <;> cases found

def byHeader : Cutter UInt8 ErrorCode where
  front := frontByHeader
  splits := by
    intro stream frame rest found
    obtain ⟨-, -, -, -, rfl, rfl⟩ := frontByHeader_frame.mp found
    exact (List.take_append_drop _ _).symm
  nonempty := by
    intro stream frame rest found
    obtain ⟨-, large, -, whole, rfl, -⟩ := frontByHeader_frame.mp found
    unfold communicationHeaderSize at large
    intro empty
    have length := congrArg List.length empty
    rw [List.length_take, List.length_nil] at length
    omega
  frame_append := by
    intro stream frame rest more found
    obtain ⟨⟨long, size, version⟩, large, small, whole, rfl, rfl⟩ := frontByHeader_frame.mp found
    obtain ⟨-, sameSize, sameVersion, sameTotal⟩ := header_append (Nat.not_lt.mpr long) more
    rw [frontByHeader_frame, sameSize, sameVersion, sameTotal,
      List.take_append_of_le_length whole, List.drop_append_of_le_length whole, List.length_append]
    exact ⟨⟨Nat.le_add_right_of_le long, size, version⟩, large, small,
      Nat.le_add_right_of_le whole, rfl, rfl⟩
  broken_append := frontByHeader_broken_append

namespace FrameReassembler

variable {buf : FrameReassembler}

/-- The reassembler looks at what it holds as a cutter looks at a stream. -/
theorem Valid.next_eq (valid : buf.Valid) :
    buf.next =
      match frontByHeader buf.pending with
      | .incomplete => (buf.discardTaken, .ok none)
      | .broken why => (buf.discardTaken, .error why)
      | .frame frame _ =>
        ({ buf.discardTaken with taken := frame.length }, .ok (some frame)) := by
  have discarded := valid.discardTaken
  have untaken := discardTaken_taken buf
  rw [← pending_discardTaken buf]
  unfold FrameReassembler.next frontByHeader
  generalize buf.discardTaken = ready at discarded untaken ⊢
  have available : ready.last - ready.first = ready.pending.length := by
    rw [discarded.pending_length, untaken, Nat.add_zero]
  have parts : ready.buffer.drop ready.first =
      ready.pending ++ (ready.buffer.drop ready.first).drop ready.pending.length := by
    have front : ready.pending = (ready.buffer.drop ready.first).take ready.pending.length := by
      conv_lhs => rw [pending, untaken, Nat.add_zero, available]
    conv_lhs => rw [← List.take_append_drop ready.pending.length (ready.buffer.drop ready.first)]
    rw [← front]
  dsimp only
  rw [available]
  by_cases short : ready.pending.length < communicationHeaderSize
  · rw [if_pos short, if_pos short]
  rw [parts]
  generalize (ready.buffer.drop ready.first).drop ready.pending.length = more
  obtain ⟨-, sameSize, sameVersion, sameTotal⟩ := header_append short more
  rw [if_neg short, if_neg short, sameSize, sameVersion, sameTotal]
  split
  · rfl
  split
  · rfl
  split
  · rfl
  by_cases waiting : ready.pending.length < (readU16 ready.pending 4).toNat
  · rw [if_pos waiting, if_pos waiting]
  have whole : (readU16 ready.pending 4).toNat ≤ ready.pending.length := Nat.le_of_not_lt waiting
  rw [if_neg waiting, if_neg waiting]
  dsimp only
  rw [List.take_append_of_le_length whole, List.length_take, Nat.min_eq_left whole]

theorem Valid.taking (valid : buf.Valid) {frame rest : Octets}
    (found : frontByHeader buf.pending = .frame frame rest) :
    ({ buf.discardTaken with taken := frame.length } : FrameReassembler).Valid ∧
      ({ buf.discardTaken with taken := frame.length } : FrameReassembler).pending = rest := by
  have discarded := valid.discardTaken
  have untaken := discardTaken_taken buf
  have split := byHeader.splits found
  rw [← pending_discardTaken buf] at split
  generalize buf.discardTaken = ready at discarded untaken split ⊢
  have length := discarded.pending_length
  have held := discarded.ordered
  rw [split, List.length_append] at length
  refine ⟨⟨?_, discarded.bounded, discarded.sized⟩, ?_⟩
  · dsimp only
    omega
  · have front : ready.pending = (ready.buffer.drop ready.first).take (ready.last - ready.first) := by
      rw [pending, untaken, Nat.add_zero]
    have behind : rest = ((ready.buffer.drop ready.first).take (ready.last - ready.first)).drop
        frame.length := by
      rw [← front, split, List.drop_left]
    rw [behind, List.drop_take, List.drop_drop]
    unfold pending
    dsimp only
    congr 1
    omega

theorem Valid.space (valid : buf.Valid) : buf.writable.2 = capacity - buf.pending.length := by
  obtain ⟨ready, front, untaken, same⟩ := valid.writable
  have length := ready.pending_length
  rw [front, untaken, same, Nat.add_zero, Nat.sub_zero] at length
  rw [length]
  rfl

/-! ## Any calls -/

/-- A call on a reassembler, or a write into the span it offers. -/
inductive Call where
  | writable
  | commit (count : Nat)
  | next
  | reset
  | fill (octets : Octets)

def call (buf : FrameReassembler) : Call → FrameReassembler
  | .writable => buf.writable.1
  | .commit count => buf.commit count
  | .next => buf.next.1
  | .reset => buf.reset
  | .fill octets => buf.fill octets

def InBounds (buf : FrameReassembler) : Prop :=
  buf.first + buf.taken ≤ buf.last ∧ buf.last ≤ capacity

theorem InBounds.discardTaken (inBounds : buf.InBounds) : buf.discardTaken.InBounds := by
  unfold FrameReassembler.discardTaken
  dsimp only
  split
  · exact ⟨Nat.le_refl 0, Nat.zero_le _⟩
  · exact inBounds

theorem InBounds.next (inBounds : buf.InBounds) : buf.next.1.InBounds := by
  have discarded := inBounds.discardTaken
  unfold FrameReassembler.next
  dsimp only
  split
  · exact discarded
  split
  · exact discarded
  split
  · exact discarded
  split
  · exact discarded
  split
  · exact discarded
  rename_i whole
  obtain ⟨ordered, bounded⟩ := discarded
  refine ⟨?_, bounded⟩
  dsimp only
  omega

theorem InBounds.call (inBounds : buf.InBounds) (call : Call) : (buf.call call).InBounds := by
  obtain ⟨ordered, bounded⟩ := inBounds
  cases call with
  | writable =>
    have discarded := InBounds.discardTaken ⟨ordered, bounded⟩
    unfold FrameReassembler.call writable
    dsimp only
    split
    · refine ⟨?_, ?_⟩
      · simp [compact]
      · exact Nat.le_trans (Nat.sub_le _ _) discarded.2
    · exact discarded
  | commit count =>
    unfold FrameReassembler.call commit InBounds
    dsimp only
    omega
  | next => exact InBounds.next ⟨ordered, bounded⟩
  | reset => exact ⟨Nat.le_refl 0, Nat.zero_le _⟩
  | fill octets => exact ⟨ordered, bounded⟩

end FrameReassembler

/-! ## Receiving a stream -/

/-- A receive path: the reassembler it owns, every octet it read, every frame it was handed, and
what `next` answered since the last read. -/
structure Receiver where
  reassembler : FrameReassembler := {}
  stream : Octets := []
  frames : List Octets := []
  answer : Option (Expected (Option Octets)) := none

inductive ReceiverEvent where
  | next
  | read (octets : Octets)

namespace Receiver

def step (receiver : Receiver) : ReceiverEvent → Receiver
  | .next =>
    let (buf, answer) := receiver.reassembler.next
    { receiver with
      reassembler := buf
      frames := receiver.frames ++ match answer with
        | .ok (some frame) => [frame]
        | _ => []
      answer := some answer }
  | .read octets =>
    { receiver with
      reassembler := receiver.reassembler.read octets
      stream := receiver.stream ++ octets
      answer := none }

/-- A path reads only when `next` has just returned nothing, and no more than fits. -/
def Allows (receiver : Receiver) : ReceiverEvent → Prop
  | .next => True
  | .read octets =>
    receiver.answer = some (.ok none) ∧ octets.length ≤ receiver.reassembler.writable.2

instance (receiver : Receiver) (event : ReceiverEvent) : Decidable (receiver.Allows event) :=
  match event with
  | .next => inferInstanceAs (Decidable True)
  | .read _ => inferInstanceAs (Decidable (_ ∧ _))

/-- The frames handed out were cut off the stream, what is left of it is held, and the last answer
was about what is held. -/
structure Follows (receiver : Receiver) : Prop where
  valid : receiver.reassembler.Valid
  cutOff : byHeader.CutOff receiver.stream receiver.frames receiver.reassembler.pending
  quiet : receiver.answer = some (.ok none) →
    frontByHeader receiver.reassembler.pending = .incomplete
  failed : ∀ reason, receiver.answer = some (.error reason) →
    frontByHeader receiver.reassembler.pending = .broken reason

theorem follows_initially : Follows {} where
  valid := ⟨Nat.le_refl 0, Nat.zero_le _, List.length_replicate⟩
  cutOff := .start
  quiet := nofun
  failed := nofun

variable {receiver : Receiver}

theorem Follows.next (follows : receiver.Follows) : (receiver.step .next).Follows := by
  have answer := follows.valid.next_eq
  have same := pending_discardTaken receiver.reassembler
  have discarded := follows.valid.discardTaken
  unfold step
  cases found : frontByHeader receiver.reassembler.pending with
  | incomplete =>
    rw [found] at answer
    rw [answer]
    dsimp only
    rw [List.append_nil]
    exact ⟨discarded, same ▸ follows.cutOff, fun _ => same ▸ found, nofun⟩
  | broken why =>
    rw [found] at answer
    rw [answer]
    dsimp only
    rw [List.append_nil]
    refine ⟨discarded, same ▸ follows.cutOff, nofun, fun other failed => ?_⟩
    cases failed
    exact same ▸ found
  | frame frame rest =>
    rw [found] at answer
    rw [answer]
    obtain ⟨valid, left⟩ := follows.valid.taking found
    refine ⟨valid, ?_, nofun, nofun⟩
    rw [left]
    exact follows.cutOff.next found

theorem Follows.read (follows : receiver.Follows) {octets : Octets}
    (fits : octets.length ≤ receiver.reassembler.writable.2) :
    (receiver.step (.read octets)).Follows := by
  obtain ⟨valid, -, grown⟩ := follows.valid.read fits
  exact ⟨valid, grown ▸ follows.cutOff.append octets, nofun, nofun⟩

theorem Follows.step (follows : receiver.Follows) (event : ReceiverEvent)
    (allowed : receiver.Allows event) : (receiver.step event).Follows := by
  cases event with
  | next => exact follows.next
  | read octets => exact follows.read allowed.2

theorem run_follows {events : List ReceiverEvent}
    (admissible : Admissible step Allows {} events) : (run step {} events).Follows :=
  invariant_run (fun _ event follows allowed => follows.step event allowed) follows_initially
    admissible

def asking (receiver : Receiver) (count : Nat) : Receiver :=
  run step receiver (List.replicate count ReceiverEvent.next)

def Drained (receiver : Receiver) : Prop :=
  receiver.answer = some (.ok none) ∨ ∃ why, receiver.answer = some (.error why)

theorem Follows.drains (follows : receiver.Follows) : ∃ count, (receiver.asking count).Drained := by
  -- the induction is on the number of octets held
  induction held : receiver.reassembler.pending.length using Nat.strongRecOn generalizing receiver with
  | _ length ih =>
    have answer := follows.valid.next_eq
    have asked : (receiver.asking 1).answer = some receiver.reassembler.next.2 := rfl
    cases found : frontByHeader receiver.reassembler.pending with
    | incomplete =>
      rw [answer, found] at asked
      exact ⟨1, .inl asked⟩
    | broken why =>
      rw [answer, found] at asked
      exact ⟨1, .inr ⟨why, asked⟩⟩
    | frame frame rest =>
      rw [found] at answer
      have left : (receiver.step .next).reassembler.pending = rest :=
        (congrArg (fun result => result.1.pending) answer).trans (follows.valid.taking found).2
      have cuts : byHeader.front receiver.reassembler.pending = .frame frame rest := found
      have shorter := Cutter.length_rest_lt cuts
      obtain ⟨count, drained⟩ :=
        ih rest.length (held ▸ shorter) follows.next (congrArg List.length left)
      exact ⟨count + 1, drained⟩

theorem incomplete_length {stream : Octets} (found : frontByHeader stream = .incomplete) :
    stream.length < capacity := by
  have header : communicationHeaderSize < capacity := by decide
  unfold frontByHeader at found
  split at found
  · omega
  split at found
  · cases found
  split at found
  · cases found
  split at found
  · cases found
  split at found
  · omega
  · cases found

/-- However a stream is cut into reads, the frames handed out and the failure reported are those of
cutting the stream by its headers: at any time they are the first of its frames and the rest is
held; once `next` returned nothing they are all of them, and there is space to read; once it
failed they are all frames that any stream with this beginning has. Asking for frames always ends,
and whatever is called the indices stay in order. -/
theorem reassembles_stream (events : List ReceiverEvent)
    (admissible : Admissible step Allows {} events) :
    let receiver := run step {} events
    (receiver.frames.flatten ++ receiver.reassembler.pending = receiver.stream ∧
      receiver.frames <+: (byHeader.cut receiver.stream).frames) ∧
    (receiver.answer = some (.ok none) →
      byHeader.cut receiver.stream = ⟨receiver.frames, .ok receiver.reassembler.pending⟩ ∧
      0 < receiver.reassembler.writable.2) ∧
    (∀ why, receiver.answer = some (.error why) → ∀ more,
      byHeader.cut (receiver.stream ++ more) = ⟨receiver.frames, .error why⟩) ∧
    (∃ count, (receiver.asking count).Drained) ∧
    ∀ calls, (run FrameReassembler.call receiver.reassembler calls).InBounds := by
  intro receiver
  have follows : receiver.Follows := run_follows admissible
  refine ⟨⟨follows.cutOff.flatten, ?_⟩, fun quiet => ?_, fun why failed more => ?_,
    follows.drains, fun calls => ?_⟩
  · rw [follows.cutOff.cut_eq]
    exact List.prefix_append _ _
  · have incomplete := follows.quiet quiet
    refine ⟨follows.cutOff.cut_of_incomplete incomplete, ?_⟩
    have short := incomplete_length incomplete
    rw [follows.valid.space]
    omega
  · exact follows.cutOff.cut_of_broken (follows.failed why failed) more
  · have inBounds : receiver.reassembler.InBounds := ⟨follows.valid.ordered, follows.valid.bounded⟩
    exact invariant_run (fun _ call inBounds _ => inBounds.call call) inBounds
      (admissible_of_events (fun _ _ => trivial : ∀ call ∈ calls, True))

def splitReads : List ReceiverEvent :=
  [.next, .read [0x06, 0x10, 0x02], .next, .read [0x05, 0x00, 0x08, 0x01, 0x02, 0x06], .next, .next,
    .read [0x10, 0x02, 0x06, 0x00, 0x06, 0x06], .next, .next, .read [0x11, 0x00, 0x00, 0x00, 0x00],
    .next]

theorem reassembles_stream_split :
    (run step {} splitReads).frames =
        [[0x06, 0x10, 0x02, 0x05, 0x00, 0x08, 0x01, 0x02], [0x06, 0x10, 0x02, 0x06, 0x00, 0x06]] ∧
      (run step {} (splitReads.take 9)).frames =
        (byHeader.cut (run step {} (splitReads.take 9)).stream).frames ∧
      ∀ more, byHeader.cut ((run step {} splitReads).stream ++ more) =
        ⟨(run step {} splitReads).frames, .error (.knx .malformedFrame)⟩ := by
  refine ⟨by decide +kernel, ?_, ?_⟩
  · have quiet := ((reassembles_stream (splitReads.take 9) (by decide +kernel)).2.1
      (by decide +kernel)).1
    rw [quiet]
  · exact (reassembles_stream splitReads (by decide +kernel)).2.2.1 (.knx .malformedFrame)
      (by decide +kernel)

end Receiver

end KmxAio.Knx
