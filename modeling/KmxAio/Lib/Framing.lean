import Mathlib.Data.List.Basic

/-!
# Cutting a stream into frames

A cutter looks at the front of a stream and finds a frame there, finds that more is
needed, or finds that the stream cannot be read. What it finds does not change when
the stream goes on, so the frames of a stream can be cut off as they become whole:
however the stream arrives, they are the frames of the stream as a whole.
-/

namespace KmxAio.Lib.Framing

variable {Symbol Failure : Type}

/-- What is at the front of a stream. -/
inductive Front (Symbol Failure : Type) where
  | incomplete
  | frame (frame rest : List Symbol)
  | broken (reason : Failure)
  deriving DecidableEq

/-- A way to find the frame at the front of a stream, which a longer stream does not change. -/
structure Cutter (Symbol Failure : Type) where
  front : List Symbol → Front Symbol Failure
  splits : ∀ {stream frame rest}, front stream = .frame frame rest → stream = frame ++ rest
  nonempty : ∀ {stream frame rest}, front stream = .frame frame rest → frame ≠ []
  frame_append : ∀ {stream frame rest} (more : List Symbol),
    front stream = .frame frame rest → front (stream ++ more) = .frame frame (rest ++ more)
  broken_append : ∀ {stream reason} (more : List Symbol),
    front stream = .broken reason → front (stream ++ more) = .broken reason

/-- The frames of a stream, and what follows them: the octets of a frame that is not whole, or why
the stream cannot be read further. -/
structure Cut (Symbol Failure : Type) where
  frames : List (List Symbol)
  ending : Except Failure (List Symbol)

namespace Cutter

variable (cutter : Cutter Symbol Failure)

/-- Cuts at most as many frames off a stream as it is allowed to. -/
def cutUpTo : Nat → List Symbol → Cut Symbol Failure
  | 0, stream => ⟨[], .ok stream⟩
  | count + 1, stream =>
    match cutter.front stream with
    | .incomplete => ⟨[], .ok stream⟩
    | .broken why => ⟨[], .error why⟩
    | .frame frame rest =>
      let later := cutUpTo count rest
      ⟨frame :: later.frames, later.ending⟩

/-- Cuts a whole stream, which has at most as many frames as symbols. -/
def cut (stream : List Symbol) : Cut Symbol Failure := cutter.cutUpTo (stream.length + 1) stream

variable {cutter}

variable {stream : List Symbol}

theorem length_rest_lt {frame rest : List Symbol}
    (found : cutter.front stream = .frame frame rest) : rest.length < stream.length := by
  have split := congrArg List.length (cutter.splits found)
  have positive := List.length_pos_iff.mpr (cutter.nonempty found)
  rw [List.length_append] at split
  omega

theorem cutUpTo_of_lt {first second : Nat}
    (enough : stream.length < first) (also : stream.length < second) :
    cutter.cutUpTo first stream = cutter.cutUpTo second stream := by
  induction first generalizing second stream with
  | zero => omega
  | succ first ih =>
    cases second with
    | zero => omega
    | succ second =>
      rw [cutUpTo, cutUpTo]
      cases found : cutter.front stream with
      | incomplete | broken why => rfl
      | frame frame rest =>
        have shorter := length_rest_lt found
        dsimp only
        rw [ih (by omega) (by omega : rest.length < second)]

/-! ## Cutting as the stream arrives -/

/-- The frames that were cut off a stream one by one, and what is left of it. -/
inductive CutOff (cutter : Cutter Symbol Failure) (stream : List Symbol) :
    List (List Symbol) → List Symbol → Prop
  | start : CutOff cutter stream [] stream
  | next {frames : List (List Symbol)} {left frame rest : List Symbol}
      (before : CutOff cutter stream frames left)
      (found : cutter.front left = .frame frame rest) :
      CutOff cutter stream (frames ++ [frame]) rest

variable {left : List Symbol} {frames : List (List Symbol)}

section

variable (cutOff : cutter.CutOff stream frames left)

include cutOff

theorem CutOff.flatten : frames.flatten ++ left = stream := by
  induction cutOff with
  | start => rfl
  | next _ found ih =>
    rw [cutter.splits found] at ih
    rw [← ih]
    simp

/-- What was cut off stays cut off when the stream goes on. -/
theorem CutOff.append (more : List Symbol) :
    cutter.CutOff (stream ++ more) frames (left ++ more) := by
  induction cutOff with
  | start => exact .start
  | next _ found ih => exact .next ih (cutter.frame_append more found)

/-- The frames cut off so far are the first frames of the stream. -/
theorem CutOff.cut_eq :
    cutter.cut stream = ⟨frames ++ (cutter.cut left).frames, (cutter.cut left).ending⟩ := by
  induction cutOff with
  | start => rfl
  | next _ found ih =>
    rw [ih, cut, cutUpTo, found]
    dsimp only
    rw [cutUpTo_of_lt (length_rest_lt found) (Nat.lt_succ_self _), ← cut]
    simp

/-- When no whole frame is left, the frames cut off so far are all frames of the stream. -/
theorem CutOff.cut_of_incomplete (found : cutter.front left = .incomplete) :
    cutter.cut stream = ⟨frames, .ok left⟩ := by
  rw [cutOff.cut_eq]
  simp [cut, cutUpTo, found]

/-- When what is left cannot be read, the frames cut off so far are all frames of the stream and of
every stream that begins with it. -/
theorem CutOff.cut_of_broken {why : Failure} (found : cutter.front left = .broken why)
    (more : List Symbol) : cutter.cut (stream ++ more) = ⟨frames, .error why⟩ := by
  rw [(cutOff.append more).cut_eq]
  simp [cut, cutUpTo, cutter.broken_append more found]

end

end Cutter

end KmxAio.Lib.Framing
