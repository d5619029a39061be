import Mathlib.Data.List.Basic

/-!
# Reading an exact number of symbols

A buffer of a given size is filled from a stream by reads that may each return only a
part of what is there. As long as no read returns more than the buffer has room for,
the buffer ends up with the first symbols of the stream, however the reads cut it, and
the stream goes on behind them.
-/

namespace KmxAio.Lib.ExactRead

variable {Symbol : Type}

/-- What is in the buffer and what comes from the stream are the symbols that are read and those
behind them, and the buffer is not full. -/
structure Fills (size : Nat) (got stream whole rest : List Symbol) : Prop where
  joined : got ++ stream = whole ++ rest
  whole_length : whole.length = size
  short : got.length < size

variable {size count : Nat} {got stream whole rest : List Symbol}

theorem Fills.start (whole_length : whole.length = size) (positive : 0 < size) :
    Fills size [] (whole ++ rest) whole rest :=
  ⟨rfl, whole_length, positive⟩

theorem Fills.stream_length (fills : Fills size got stream whole rest) :
    stream.length = size - got.length + rest.length := by
  have lengths := congrArg List.length fills.joined
  have short := fills.short
  rw [List.length_append, List.length_append, fills.whole_length] at lengths
  omega

theorem Fills.read (fills : Fills size got stream whole rest)
    (room : (got ++ stream.take count).length < size) :
    Fills size (got ++ stream.take count) (stream.drop count) whole rest := by
  refine ⟨?_, fills.whole_length, room⟩
  rw [List.append_assoc, List.take_append_drop, fills.joined]

theorem Fills.full (fills : Fills size got stream whole rest) (within : got.length + count ≤ size)
    (noRoom : ¬ (got ++ stream.take count).length < size) :
    got ++ stream.take count = whole ∧ stream.drop count = rest := by
  have whole_length := fills.whole_length
  have taken := List.length_take_le count stream
  rw [List.length_append] at noRoom
  apply List.append_inj
  · rw [List.append_assoc, List.take_append_drop, fills.joined]
  · rw [List.length_append]
    omega

end KmxAio.Lib.ExactRead
