import Mathlib.Data.List.Chain
import KmxAio.Lib.Wire

/-!
# The loops of a readiness TCP stream

A read goes on for as long as the socket has octets for the rest of its buffer. When
an attempt fails after others of the same call brought octets, the call returns the
error alone, and these octets are gone. A write of a whole buffer sends what the
socket has left over, again and again.
-/

namespace KmxAio.Readiness.Stream

open Lib.Wire

inductive Category where
  | system
  | generic
  deriving DecidableEq

structure ErrorCode where
  category : Category := .system
  value : Int := 0
  deriving DecidableEq

def EAGAIN : Int := 11

def EPIPE : Int := 32

def ENOSYS : Int := 38

def operationCancelled : ErrorCode := ⟨.generic, 125⟩

def wouldBlock (val : Int) : Bool := val = EAGAIN

def ErrorCode.blocks (error : ErrorCode) : Bool := error.category = .system ∧ wouldBlock error.value

inductive TransferOutcome where
  | progressed
  | finished
  | blocked
  | unsupported
  | failed
  deriving DecidableEq

structure TransferReport where
  moved : Octets := []
  error : ErrorCode := {}
  deriving DecidableEq

/-- What the calls on the socket answer should they be made: the accelerated one, the ordinary one
with its `errno`, and whether a wait for the socket is resumed rather than cancelled. -/
structure Attempt (α : Type) where
  accelerated : Except ErrorCode α := .error ⟨.generic, ENOSYS⟩
  ordinary : Except Int α
  resumed : Bool := true

def onloadReceive : Except ErrorCode Octets → TransferOutcome × TransferReport
  | .ok moved => (if moved ≠ [] then .progressed else .finished, { moved := moved })
  | .error error =>
    (if error.blocks then .blocked else if error.value = ENOSYS then .unsupported else .failed,
      { error := error })

def onloadSend : Except ErrorCode Octets → TransferOutcome × TransferReport
  | .ok moved => if moved = [] then (.unsupported, {}) else (.finished, { moved := moved })
  | .error error =>
    (if error.blocks then .blocked
      else if error.value = EAGAIN ∨ error.value = ENOSYS then .unsupported else .failed,
      { error := error })

section Chunks

variable (accelerated : Bool)

/-- The socket hands out what fits of the octets that have arrived. -/
def readChunk (attempt : Attempt Octets) (room : Nat) : TransferOutcome × TransferReport :=
  let (outcome, report) := onloadReceive (attempt.accelerated.map (·.take room))
  if accelerated ∧ outcome ≠ .unsupported then (outcome, report)
  else
    match attempt.ordinary.map (·.take room) with
    | .ok moved => (if moved ≠ [] then .progressed else .finished, { moved := moved })
    | .error errno =>
      if wouldBlock errno then (.blocked, {}) else (.failed, { error := ⟨.generic, errno⟩ })

/-- The socket accepts as many octets from the start of the buffer as it has room for. -/
def writeChunk (attempt : Attempt Nat) (buffer : Octets) : TransferOutcome × TransferReport :=
  let (outcome, report) := onloadSend (attempt.accelerated.map buffer.take)
  if accelerated ∧ outcome ≠ .unsupported then (outcome, report)
  else
    match attempt.ordinary.map buffer.take with
    | .ok moved =>
      if moved ≠ [] then (.finished, { moved := moved })
      else (.failed, { error := ⟨.generic, EPIPE⟩ })
    | .error errno =>
      if wouldBlock errno then (.blocked, {}) else (.failed, { error := ⟨.generic, errno⟩ })

/-- A call that returned, with the octets that its attempts moved and the attempts that are left. -/
structure Returned (α β : Type) where
  result : Except ErrorCode β
  moved : Octets
  left : List (Attempt α)

/-- The loop of `read`, from `total` on; no result while the call has not returned. -/
def readFrom (size : Nat) (total moved : Octets) :
    List (Attempt Octets) → Option (Returned Octets Octets)
  | [] => none
  | attempt :: later =>
    let (outcome, report) := readChunk accelerated attempt (size - total.length)
    let moved := moved ++ report.moved
    match outcome with
    | .progressed =>
      let total := total ++ report.moved
      if total.length = size then some ⟨.ok total, moved, later⟩
      else readFrom size total moved later
    | .finished => some ⟨.ok total, moved, later⟩
    | .blocked =>
      if total ≠ [] then some ⟨.ok total, moved, later⟩
      else if attempt.resumed then readFrom size total moved later
      else some ⟨.error operationCancelled, moved, later⟩
    | .unsupported | .failed => some ⟨.error report.error, moved, later⟩

def read (size : Nat) : List (Attempt Octets) → Option (Returned Octets Octets) :=
  readFrom accelerated size [] []

def writeFrom (buffer moved : Octets) : List (Attempt Nat) → Option (Returned Nat Nat)
  | [] => none
  | attempt :: later =>
    let (outcome, report) := writeChunk accelerated attempt buffer
    let moved := moved ++ report.moved
    match outcome with
    | .finished => some ⟨.ok report.moved.length, moved, later⟩
    | .blocked =>
      if attempt.resumed then writeFrom buffer moved later
      else some ⟨.error operationCancelled, moved, later⟩
    | .progressed | .unsupported | .failed => some ⟨.error report.error, moved, later⟩

def write (buffer : Octets) : List (Attempt Nat) → Option (Returned Nat Nat) :=
  writeFrom accelerated buffer []

/-- The loop of `writeAll`, from `offset` on. A write takes one attempt at least, so `fuel` is more
than enough when it exceeds the number of attempts. -/
def writeAllFrom (buffer : Octets) :
    Nat → Nat → Octets → List (Attempt Nat) → Option (Returned Nat Unit)
  | 0, _, _, _ => none
  | fuel + 1, offset, moved, attempts =>
    if offset < buffer.length then
      match write accelerated (buffer.drop offset) attempts with
      | none => none
      | some ⟨.error error, more, left⟩ => some ⟨.error error, moved ++ more, left⟩
      | some ⟨.ok count, more, left⟩ => writeAllFrom buffer fuel (offset + count) (moved ++ more) left
    else some ⟨.ok (), moved, attempts⟩

def writeAll (buffer : Octets) (attempts : List (Attempt Nat)) : Option (Returned Nat Unit) :=
  writeAllFrom accelerated buffer (attempts.length + 1) 0 [] attempts

end Chunks

/-- What a caller of `read` gets. -/
def Returned.octets (call : Returned Octets Octets) : Octets := call.result.toOption.getD []

/-- The calls of `read` with buffers of these sizes that return, one after the other. -/
def reads (accelerated : Bool) :
    List Nat → List (Attempt Octets) → List (Returned Octets Octets)
  | [], _ => []
  | size :: sizes, attempts =>
    match read accelerated size attempts with
    | none => []
    | some call => call :: reads accelerated sizes call.left

/-- The second attempt does not fail if the first one moved octets. -/
def Follows (accelerated : Bool) (first second : Attempt Octets) : Prop :=
  (readChunk accelerated first 1).1 = .progressed → (readChunk accelerated second 1).1 ≠ .failed

instance (accelerated : Bool) : DecidableRel (Follows accelerated) :=
  fun first second => inferInstanceAs (Decidable
    ((readChunk accelerated first 1).1 = .progressed → (readChunk accelerated second 1).1 ≠ .failed))

variable {accelerated : Bool} {size count : Nat} {total buffer moved : Octets}

theorem readChunk_moved {attempt : Attempt Octets} {room : Nat} {outcome : TransferOutcome}
    {report : TransferReport} (chunk : readChunk accelerated attempt room = (outcome, report)) :
    report.moved.length ≤ room ∧ outcome ≠ .unsupported ∧
      (outcome ≠ .progressed → report.moved = []) := by
  rcases attempt with ⟨_ | _, _ | _, _⟩ <;>
    simp only [readChunk, onloadReceive, Except.map] at chunk <;> split_ifs at chunk <;>
    cases chunk <;> simp_all [or_iff_not_imp_left]

/-- How an attempt ends does not depend on how much of the buffer is left. -/
theorem readChunk_room (attempt : Attempt Octets) {room : Nat} (positive : 0 < room) :
    (readChunk accelerated attempt room).1 = (readChunk accelerated attempt 1).1 := by
  have taken : ∀ octets : Octets, octets.take room = [] ↔ octets.take 1 = [] := by
    simp [List.take_eq_nil_iff, Nat.ne_of_gt positive]
  rcases attempt with ⟨_ | _, _ | _, _⟩ <;>
    simp only [readChunk, onloadReceive, Except.map, ne_eq, taken] <;> split_ifs <;> rfl

theorem readFrom_keeps {attempts : List (Attempt Octets)} {call : Returned Octets Octets}
    (chained : attempts.IsChain (Follows accelerated)) (inHand : total ≠ [] → total.length < size ∧
      ∀ next ∈ attempts.head?, (readChunk accelerated next 1).1 ≠ .failed)
    (returned : readFrom accelerated size total total attempts = some call) :
    call.octets = call.moved ∧ call.left <:+ attempts := by
  induction attempts generalizing total with
  | nil => cases returned
  | cons attempt later ih =>
    unfold readFrom at returned
    cases chunk : readChunk accelerated attempt (size - total.length) with
    | mk outcome report =>
      obtain ⟨within, supported, nothing⟩ := readChunk_moved chunk
      have behind : later <:+ attempt :: later := List.suffix_cons attempt later
      rw [chunk] at returned
      dsimp only at returned
      cases outcome with
      | progressed =>
        dsimp only at returned
        split at returned
        · cases returned
          exact ⟨rfl, behind⟩
        rename_i short
        rw [List.length_append] at short
        have room : 0 < size - total.length := by
          rcases eq_or_ne total [] with rfl | held
          · simp only [List.length_nil] at short within ⊢
            omega
          · exact Nat.sub_pos_of_lt (inHand held).1
        refine (ih chained.tail (fun _ => ⟨?_, ?_⟩) returned).imp_right (·.trans behind)
        · rw [List.length_append]
          omega
        · intro next listed
          refine chained.rel_head? listed ?_
          rw [← readChunk_room attempt room, chunk]
      | finished =>
        cases returned
        rw [nothing nofun, List.append_nil]
        exact ⟨rfl, behind⟩
      | blocked =>
        rw [nothing nofun, List.append_nil] at returned
        dsimp only at returned
        split at returned
        · cases returned
          exact ⟨rfl, behind⟩
        rename_i empty
        rw [not_not] at empty
        subst empty
        split at returned
        · exact (ih chained.tail nofun returned).imp_right (·.trans behind)
        · cases returned
          exact ⟨rfl, behind⟩
      | unsupported => exact absurd rfl supported
      | failed =>
        cases returned
        rw [nothing nofun, List.append_nil]
        have empty : total = [] := by
          by_contra held
          obtain ⟨room, unfailing⟩ := inHand held
          refine unfailing attempt rfl ?_
          rw [← readChunk_room attempt (Nat.sub_pos_of_lt room), chunk]
        exact ⟨empty.symm, behind⟩

theorem write_moved {attempts left : List (Attempt Nat)}
    (returned : write accelerated buffer attempts = some ⟨.ok count, moved, left⟩) :
    moved = buffer.take count := by
  unfold write at returned
  induction attempts with
  | nil => cases returned
  | cons attempt later ih =>
    unfold writeFrom at returned
    cases chunk : writeChunk accelerated attempt buffer with
    | mk outcome report =>
      obtain ⟨accepted, nothing⟩ :
          report.moved <+: buffer ∧ (outcome ≠ .finished → report.moved = []) := by
        rcases attempt with ⟨_ | _, _ | _, _⟩ <;>
          simp only [writeChunk, onloadSend, Except.map] at chunk <;> split_ifs at chunk <;>
          cases chunk <;> simp_all [List.take_prefix]
      rw [chunk] at returned
      dsimp only at returned
      cases outcome with
      | finished =>
        cases returned
        exact List.prefix_iff_eq_take.mp accepted
      | blocked =>
        dsimp only at returned
        split at returned
        · rw [nothing nofun] at returned
          exact ih returned
        · cases returned
      | progressed | unsupported | failed => cases returned

theorem writeAllFrom_moved {fuel offset : Nat} {attempts left : List (Attempt Nat)}
    (returned : writeAllFrom accelerated buffer fuel offset (buffer.take offset) attempts =
      some ⟨.ok (), moved, left⟩) : moved = buffer := by
  induction fuel generalizing offset attempts with
  | zero => cases returned
  | succ fuel ih =>
    unfold writeAllFrom at returned
    split at returned
    · split at returned
      · cases returned
      · cases returned
      · rename_i wrote
        rw [write_moved wrote, ← List.take_add] at returned
        exact ih returned
    · rename_i whole
      cases returned
      exact List.take_of_length_le (Nat.not_lt.mp whole)

/-- A read is given two octets, then the connection is reset: the caller gets the error, and the two
octets are in no result. -/
def resetAfterTwo : List (Attempt Octets) := [⟨.ok [], .ok [1, 2], true⟩, ⟨.ok [], .error 104, true⟩]

theorem octets_lost_to_error :
    ((reads false [4] resetAfterTwo).map fun call => (call.result, call.moved)) =
        [(.error ⟨.generic, 104⟩, [1, 2])] ∧
      ((reads false [4] resetAfterTwo).map Returned.octets).flatten ≠
        ((reads false [4] resetAfterTwo).map Returned.moved).flatten := by
  decide

/-- When no attempt that fails comes directly after one that moved octets, the results of the reads
are together the octets that were taken from the socket, and a read that fails took none. A write of a
whole buffer succeeds only if the socket accepted exactly the buffer. -/
theorem stream_keeps_octets {attempts : List (Attempt Octets)}
    (chained : attempts.IsChain (Follows accelerated)) (sizes : List Nat) :
    ((reads accelerated sizes attempts).map Returned.octets).flatten =
        ((reads accelerated sizes attempts).map Returned.moved).flatten ∧
      (∀ call ∈ reads accelerated sizes attempts, ∀ error, call.result = .error error →
        call.moved = []) ∧
      ∀ buffer moved (attempts left : List (Attempt Nat)),
        writeAll accelerated buffer attempts = some ⟨.ok (), moved, left⟩ → moved = buffer := by
  have kept : ∀ call ∈ reads accelerated sizes attempts, call.octets = call.moved := by
    induction sizes generalizing attempts with
    | nil => exact nofun
    | cons size sizes ih =>
      unfold reads
      split
      · exact nofun
      rename_i call returned
      obtain ⟨kept, behind⟩ := readFrom_keeps chained nofun returned
      exact List.forall_mem_cons.mpr ⟨kept, ih (chained.suffix behind)⟩
  refine ⟨congrArg List.flatten (List.map_congr_left kept), ?_, ?_⟩
  · intro call listed error failed
    rw [← kept call listed, Returned.octets, failed]
    rfl
  · intro buffer moved attempts left returned
    exact writeAllFrom_moved returned

/-- Two octets, then nothing more for the moment, the rest, and the end of the stream. -/
def inTwoPieces : List (Attempt Octets) :=
  [⟨.ok [], .ok [1, 2], true⟩, ⟨.ok [], .error EAGAIN, true⟩, ⟨.ok [], .ok [3], true⟩,
    ⟨.ok [], .ok [], true⟩]

theorem stream_keeps_octets_two :
    (reads false [4, 4] inTwoPieces).map Returned.octets = [[1, 2], [3]] ∧
      (writeAll false [7, 8, 9] [⟨.ok 0, .ok 2, true⟩, ⟨.ok 0, .ok 5, true⟩]).map Returned.moved =
        some [7, 8, 9] ∧
      ((reads false [4, 4] inTwoPieces).map Returned.octets).flatten =
        ((reads false [4, 4] inTwoPieces).map Returned.moved).flatten :=
  ⟨by decide, by decide, (stream_keeps_octets (by decide) [4, 4]).1⟩

end KmxAio.Readiness.Stream
