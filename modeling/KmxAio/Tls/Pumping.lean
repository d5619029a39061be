import KmxAio.Tls.Stream
import KmxAio.Lib.Run

/-!
# The pumps keep both octet streams in order

At most one coroutine is in a pump, so what the transport returns is filed before more
is read, and what was taken is sent before more is taken. A coroutine goes to the
transport only if the number of fills is the one its engine call saw. That number is a
64-bit one: fills in between are noticed unless they go all the way round.
-/

namespace KmxAio.Tls

open Lib Lib.Wire Lib.Run HandoverMutex Function

namespace TlsStream

/-! ## What a position means -/

def readStanding : Position → Standing
  | .waitingRead _ => .waiting
  | .checking _ => .holding
  | .reading _ => .holding
  | .filing _ => .holding
  | .unlockingRead _ => .holding
  | _ => .outside

def writeStanding : Position → Standing
  | .waitingWrite _ => .waiting
  | .taking _ => .holding
  | .sending _ _ => .holding
  | .unlockingWrite _ _ => .holding
  | _ => .outside

def inHand : Position → Octets
  | .filing octets => octets
  | _ => []

def unsent : Position → Octets
  | .sending octets _ => octets
  | _ => []

/-- The number of fills that the engine call saw which asked for more. -/
def seen : Position → Option UInt64
  | .lockingRead seenFills => some seenFills
  | .waitingRead seenFills => some seenFills
  | .checking seenFills => some seenFills
  | .reading seenFills => some seenFills
  | _ => none

def gather (part : Position → Octets) (spot : Side → Position) : Octets :=
  part (spot .reader) ++ part (spot .writer)

section Gather

variable {part : Position → Octets} {spot : Side → Position} {side : Side} {next : Position}

theorem gather_same (same : part next = part (spot side)) :
    gather part (update spot side next) = gather part spot := by
  cases side <;> simp [gather, same]

theorem gather_alone (alone : ∀ other, other ≠ side → part (spot other) = []) :
    gather part spot = part (spot side) := by
  cases side with
  | reader => simp [gather, alone .writer (by decide)]
  | writer => simp [gather, alone .reader (by decide)]

theorem gather_update (alone : ∀ other, other ≠ side → part (spot other) = []) :
    gather part (update spot side next) = part next := by
  have still : ∀ other, other ≠ side → part (update spot side next other) = [] := by
    intro other different
    rw [update_of_ne different]
    exact alone other different
  rw [gather_alone still, update_self]

end Gather

theorem comp_update_same {β : Type} {view : Position → β} {spot : Side → Position} {side : Side}
    {next : Position} (same : view next = view (spot side)) :
    view ∘ update spot side next = view ∘ spot := by
  rw [comp_update, same]
  exact update_eq_self side (view ∘ spot)

/-! ## What holds in every state -/

structure Locked (readPump writePump : HandoverMutex Side) (position : Side → Position) : Prop where
  read : readPump.Agrees (readStanding ∘ position)
  write : writePump.Agrees (writeStanding ∘ position)

/-- What was returned is filed up to what is in hand, and what was taken is sent up to what is with
the transport or, once that has failed, up to somewhere. -/
structure Flowing (returned filed taken sent : Octets) (sendFailed : Bool)
    (position : Side → Position) : Prop where
  returned_eq : returned = filed ++ gather inHand position
  taken_eq : sendFailed = false → taken = sent ++ gather unsent position
  sent_of_taken : sent <+: taken

/-- The counter is the number of fills as far as it goes, a coroutine that asked for more knows what
it was then, and one that waits for the transport has found it unchanged. -/
structure Counted (readBioFills : UInt64) (fillCount : Nat) (askedAt : Side → Nat)
    (position : Side → Position) : Prop where
  fills_eq : readBioFills = UInt64.ofNat fillCount
  seen_eq : ∀ side fills, seen (position side) = some fills →
    fills = UInt64.ofNat (askedAt side) ∧ askedAt side ≤ fillCount
  reading_eq : ∀ side fills, position side = .reading fills → fills = readBioFills

structure Holds (stream : TlsStream) : Prop where
  locked : Locked stream.readPump stream.writePump stream.position
  flowing : Flowing stream.returned stream.filed stream.taken stream.sent stream.sendFailed
    stream.position
  counted : Counted stream.readBioFills stream.fillCount stream.askedAt stream.position

/-! ## One coroutine moves -/

section Moves

variable {readPump writePump : HandoverMutex Side} {spot : Side → Position} {side : Side}
  {next : Position} {returned filed taken sent : Octets} {sendFailed : Bool} {fills : UInt64}
  {count : Nat} {askedAt : Side → Nat}

theorem Locked.moves (locked : Locked readPump writePump spot) {here : Position}
    (place : spot side = here) (read : readStanding next = readStanding here)
    (write : writeStanding next = writeStanding here) :
    Locked readPump writePump (update spot side next) := by
  subst place
  refine ⟨?_, ?_⟩
  · rw [comp_update_same read]
    exact locked.read
  · rw [comp_update_same write]
    exact locked.write

theorem Flowing.moves (flowing : Flowing returned filed taken sent sendFailed spot)
    {here : Position} (place : spot side = here) (hand : inHand next = inHand here)
    (toSend : unsent next = unsent here) :
    Flowing returned filed taken sent sendFailed (update spot side next) := by
  subst place
  refine ⟨?_, ?_, flowing.sent_of_taken⟩
  · rw [gather_same hand]
    exact flowing.returned_eq
  · rw [gather_same toSend]
    exact flowing.taken_eq

theorem Counted.moves (counted : Counted fills count askedAt spot)
    (asked : ∀ seenFills, seen next = some seenFills → seen (spot side) = some seenFills)
    (waits : ∀ seenFills, next = .reading seenFills → seenFills = fills) :
    Counted fills count askedAt (update spot side next) := by
  refine ⟨counted.fills_eq, ?_, ?_⟩
  · intro other seenFills
    by_cases same : other = side
    · subst same
      rw [update_self]
      exact fun sees => counted.seen_eq other seenFills (asked seenFills sees)
    · rw [update_of_ne same]
      exact counted.seen_eq other seenFills
  · intro other seenFills
    by_cases same : other = side
    · subst same
      rw [update_self]
      exact waits seenFills
    · rw [update_of_ne same]
      exact counted.reading_eq other seenFills

theorem Counted.moves_of_none (counted : Counted fills count askedAt spot)
    (nothing : seen next = none) : Counted fills count askedAt (update spot side next) := by
  refine counted.moves ?_ ?_
  · intro seenFills sees
    rw [nothing] at sees
    cases sees
  · rintro seenFills rfl
    cases nothing

theorem Locked.inHand_alone (locked : Locked readPump writePump spot)
    (holding : readStanding (spot side) = .holding) (other : Side) (different : other ≠ side) :
    inHand (spot other) = [] := by
  cases elsewhere : spot other with
  | filing octets =>
    have also : readStanding (spot other) = .holding := by rw [elsewhere]; rfl
    exact absurd (locked.read.unique other side also holding) different
  | _ => rfl

theorem Locked.unsent_alone (locked : Locked readPump writePump spot)
    (holding : writeStanding (spot side) = .holding) (other : Side) (different : other ≠ side) :
    unsent (spot other) = [] := by
  cases elsewhere : spot other with
  | sending octets after =>
    have also : writeStanding (spot other) = .holding := by rw [elsewhere]; rfl
    exact absurd (locked.write.unique other side also holding) different
  | _ => rfl

section

variable (flowing : Flowing returned filed taken sent sendFailed spot)
  (locked : Locked readPump writePump spot)

include flowing locked

theorem Flowing.returns (holding : readStanding (spot side) = .holding)
    (empty : inHand (spot side) = []) (octets : Octets) (toSend : unsent (spot side) = []) :
    Flowing (returned ++ octets) filed taken sent sendFailed
      (update spot side (.filing octets)) := by
  have alone := locked.inHand_alone holding
  refine ⟨?_, ?_, flowing.sent_of_taken⟩
  · rw [flowing.returned_eq, gather_alone alone, empty, List.append_nil, gather_update alone]
    rfl
  · rw [gather_same toSend.symm]
    exact flowing.taken_eq

theorem Flowing.files {octets : Octets} (filing : spot side = .filing octets)
    (nothing : inHand next = []) (toSend : unsent next = []) :
    Flowing returned (filed ++ octets) taken sent sendFailed (update spot side next) := by
  have holding : readStanding (spot side) = .holding := by rw [filing]; rfl
  have alone := locked.inHand_alone holding
  refine ⟨?_, ?_, flowing.sent_of_taken⟩
  · rw [flowing.returned_eq, gather_alone alone, gather_update alone, nothing, filing,
      List.append_nil]
    rfl
  · have same : unsent next = unsent (spot side) := by rw [toSend, filing]; rfl
    rw [gather_same same]
    exact flowing.taken_eq

theorem Flowing.takes {after : After} (taking : spot side = .taking after) (octets : Octets) :
    Flowing returned filed (taken ++ octets) sent sendFailed
      (update spot side (.sending octets after)) := by
  have holding : writeStanding (spot side) = .holding := by rw [taking]; rfl
  have alone := locked.unsent_alone holding
  have empty : unsent (spot side) = [] := by rw [taking]; rfl
  have hand : inHand (.sending octets after) = inHand (spot side) := by rw [taking]; rfl
  refine ⟨?_, ?_, flowing.sent_of_taken.trans (List.prefix_append _ _)⟩
  · rw [gather_same hand]
    exact flowing.returned_eq
  · intro working
    rw [flowing.taken_eq working, gather_alone alone, empty, List.append_nil, gather_update alone]
    rfl

theorem Flowing.accepts {octets : Octets} {after : After}
    (sending : spot side = .sending octets after) (accepted : Nat) :
    Flowing returned filed taken (if sendFailed then sent else sent ++ octets.take accepted) sendFailed
      (update spot side (.sending (octets.drop accepted) after)) := by
  have holding : writeStanding (spot side) = .holding := by rw [sending]; rfl
  have alone := locked.unsent_alone holding
  have hand : inHand (.sending (octets.drop accepted) after) = inHand (spot side) := by
    rw [sending]
    rfl
  have received : returned = filed ++
      gather inHand (update spot side (.sending (octets.drop accepted) after)) := by
    rw [gather_same hand]
    exact flowing.returned_eq
  cases sendFailed with
  | true => exact ⟨received, by simp, flowing.sent_of_taken⟩
  | false =>
    have split : taken = (sent ++ octets.take accepted) ++ octets.drop accepted := by
      rw [flowing.taken_eq rfl, gather_alone alone, sending, List.append_assoc,
        List.take_append_drop]
      rfl
    refine ⟨received, fun _ => ?_, ⟨_, split.symm⟩⟩
    rw [gather_update alone]
    exact split

end

/-- Once the transport has failed, only what it accepted before counts. -/
theorem Flowing.fails (flowing : Flowing returned filed taken sent sendFailed spot)
    (hand : inHand next = inHand (spot side)) :
    Flowing returned filed taken sent true (update spot side next) := by
  refine ⟨?_, by simp, flowing.sent_of_taken⟩
  rw [gather_same hand]
  exact flowing.returned_eq

theorem Counted.calls (counted : Counted fills count askedAt spot) {outcome : Outcome} :
    Counted fills count (update askedAt side count)
      (update spot side (afterCall fills side outcome)) := by
  have none_or : ∀ seenFills, seen (afterCall fills side outcome) = some seenFills →
      seenFills = fills := by
    intro seenFills sees
    cases side <;> cases outcome <;> cases sees <;> rfl
  have away : ∀ seenFills, afterCall fills side outcome ≠ .reading seenFills := by
    intro seenFills
    cases side <;> cases outcome <;> simp [afterCall]
  refine ⟨counted.fills_eq, ?_, ?_⟩
  · intro other seenFills
    by_cases same : other = side
    · subst same
      rw [update_self, update_self]
      exact fun sees => ⟨(none_or seenFills sees).trans counted.fills_eq, Nat.le_refl _⟩
    · rw [update_of_ne same, update_of_ne same]
      exact counted.seen_eq other seenFills
  · intro other seenFills
    by_cases same : other = side
    · subst same
      rw [update_self]
      exact fun impossible => absurd impossible (away seenFills)
    · rw [update_of_ne same]
      exact counted.reading_eq other seenFills

theorem Counted.files (counted : Counted fills count askedAt spot)
    (locked : Locked readPump writePump spot) {octets : Octets}
    (filing : spot side = .filing octets) (nothing : seen next = none) :
    Counted (fills + 1) (count + 1) askedAt (update spot side next) := by
  have holding : readStanding (spot side) = .holding := by rw [filing]; rfl
  have moved : Counted fills count askedAt (update spot side next) :=
    counted.moves_of_none nothing
  refine ⟨?_, ?_, ?_⟩
  · rw [counted.fills_eq, UInt64.ofNat_add]
    rfl
  · intro other seenFills sees
    obtain ⟨same, before⟩ := moved.seen_eq other seenFills sees
    exact ⟨same, Nat.le_succ_of_le before⟩
  · intro other seenFills reading
    by_cases same : other = side
    · subst same
      rw [update_self] at reading
      rw [reading] at nothing
      cases nothing
    · rw [update_of_ne same] at reading
      have also : readStanding (spot other) = .holding := by rw [reading]; rfl
      exact absurd (locked.read.unique other side also holding) same

end Moves

/-! ## Pumps -/

section Pumps

variable {pump readPump writePump : HandoverMutex Side} {spot : Side → Position} {side : Side}
  {next waits has : Position} {view : Position → Standing} {returned filed taken sent : Octets}
  {sendFailed : Bool} {fills : UInt64} {count : Nat} {askedAt : Side → Nat}

theorem agrees_acquire (agrees : pump.Agrees (view ∘ spot))
    (outside : view (spot side) = .outside) (waiting : view waits = .waiting)
    (holding : view has = .holding) :
    (pump.acquireOrEnqueue side).1.Agrees
      (view ∘ update spot side (if (pump.acquireOrEnqueue side).2 then waits else has)) := by
  rw [comp_update, acquireOrEnqueue]
  cases held : pump.held with
  | true =>
    have enqueued := agrees.enqueue outside held
    rw [held] at enqueued
    simpa [waiting] using enqueued
  | false =>
    have taken := agrees.take outside held
    simpa [holding] using taken

def resumed (spot : Side → Position) : Option Side → Side → Position
  | none => spot
  | some side => Function.update spot side (granted (spot side))

theorem resumes_eq (stream : TlsStream) (next : Option Side) :
    stream.resumes next = { stream with position := resumed stream.position next } := by
  cases next <;> rfl

theorem agrees_unlock (agrees : pump.Agrees (view ∘ spot))
    (holding : view (spot side) = .holding) (leaves : view next = .outside)
    (grants : ∀ waiter, view waiter = .waiting → view (granted waiter) = .holding) :
    pump.unlock.1.Agrees (view ∘ resumed (update spot side next) pump.unlock.2) := by
  rw [unlock]
  cases line : pump.waiters with
  | nil =>
    have released := agrees.release holding line
    rw [line] at released
    show HandoverMutex.Agrees _ (view ∘ update spot side next)
    rw [comp_update, leaves]
    exact released
  | cons first waiters =>
    have handed := agrees.handOver holding line
    have waiting : view (spot first) = .waiting := agrees.first_waiting line
    have different := agrees.first_ne holding line
    show HandoverMutex.Agrees _ (view ∘ update (update spot side next) first
      (granted (update spot side next first)))
    rw [update_of_ne different, comp_update, comp_update, leaves, grants _ waiting]
    exact handed

theorem elsewhere_unlock {other : Position → Standing} (agrees : pump.Agrees (view ∘ spot))
    (holding : view (spot side) = .holding) (same : other next = other (spot side))
    (unseen : ∀ waiter, view waiter = .waiting → other (granted waiter) = other waiter) :
    other ∘ resumed (update spot side next) pump.unlock.2 = other ∘ spot := by
  rw [unlock]
  cases line : pump.waiters with
  | nil => exact comp_update_same same
  | cons first waiters =>
    have waiting : view (spot first) = .waiting := agrees.first_waiting line
    have different := agrees.first_ne holding line
    show other ∘ update (update spot side next) first
      (granted (update spot side next first)) = _
    have still : other (granted (update spot side next first)) =
        other (update spot side next first) := by
      rw [update_of_ne different]
      exact unseen _ waiting
    rw [comp_update_same still, comp_update_same same]

theorem Flowing.resumed (flowing : Flowing returned filed taken sent sendFailed spot)
    (next : Option Side) : Flowing returned filed taken sent sendFailed (resumed spot next) := by
  cases next with
  | none => exact flowing
  | some side => exact flowing.moves rfl (by cases spot side <;> rfl) (by cases spot side <;> rfl)

theorem Counted.resumed (counted : Counted fills count askedAt spot) (next : Option Side) :
    Counted fills count askedAt (resumed spot next) := by
  cases next with
  | none => exact counted
  | some side =>
    refine counted.moves ?_ ?_
    · intro seenFills sees
      cases place : spot side <;> rw [place] at sees <;> exact sees
    · intro seenFills reading
      refine counted.reading_eq side seenFills ?_
      cases place : spot side <;> rw [place] at reading <;> first | exact reading | cases reading

end Pumps

/-! ## Steps -/

section Steps

variable {stream : TlsStream} {side : Side} {octets : Octets} {after : After}

section

variable (holds : stream.Holds)

include holds

theorem Holds.moves {here next : Position} (place : stream.position side = here)
    (read : readStanding next = readStanding here)
    (write : writeStanding next = writeStanding here) (hand : inHand next = inHand here)
    (toSend : unsent next = unsent here) (nothing : seen next = none) :
    (stream.moves side next).Holds :=
  ⟨holds.locked.moves place read write, holds.flowing.moves place hand toSend,
    holds.counted.moves_of_none nothing⟩

theorem Holds.sslCall (calling : stream.position side = .calling) (consumed : Nat)
    (produced : Octets) (outcome : Outcome) :
    (stream.sslCall side consumed produced outcome).Holds := by
  refine ⟨holds.locked.moves calling ?_ ?_, holds.flowing.moves calling ?_ ?_, holds.counted.calls⟩
  all_goals cases side <;> cases outcome <;> rfl

theorem Holds.lockRead {seenFills : UInt64}
    (locking : stream.position side = .lockingRead seenFills) :
    (stream.lockRead side seenFills).Holds := by
  have outside : readStanding (stream.position side) = .outside := by rw [locking]; rfl
  have write : ∀ waits : Bool,
      writeStanding (if waits then .waitingRead seenFills else .checking seenFills) =
        writeStanding (stream.position side) := by
    intro waits
    rw [locking]
    cases waits <;> rfl
  refine ⟨⟨agrees_acquire holds.locked.read outside rfl rfl, ?_⟩, ?_, ?_⟩
  · exact (comp_update_same (write _)).symm ▸ holds.locked.write
  · exact holds.flowing.moves locking (by split <;> rfl) (by split <;> rfl)
  · refine holds.counted.moves ?_ ?_
    · intro fills sees
      rw [locking]
      split at sees <;> exact sees
    · intro fills reading
      split at reading <;> cases reading

theorem Holds.checkFills {seenFills : UInt64}
    (checking : stream.position side = .checking seenFills) :
    (stream.checkFills side seenFills).Holds := by
  rw [TlsStream.checkFills]
  by_cases unchanged : stream.readBioFills = seenFills
  · rw [if_neg (not_not_intro unchanged)]
    refine ⟨holds.locked.moves checking rfl rfl, holds.flowing.moves checking rfl rfl,
      holds.counted.moves ?_ ?_⟩
    · intro fills sees
      rw [checking]
      exact sees
    · intro fills reading
      cases reading
      exact unchanged.symm
  · rw [if_pos unchanged]
    exact holds.moves checking rfl rfl rfl rfl rfl

theorem Holds.readReturns {fills : UInt64} (reading : stream.position side = .reading fills)
    (octets : Octets) :
    (stream.readReturns side octets).Holds := by
  rw [TlsStream.readReturns]
  split
  · exact holds.moves reading rfl rfl rfl rfl rfl
  · refine ⟨holds.locked.moves reading rfl rfl, holds.flowing.returns holds.locked ?_ ?_ octets ?_,
      holds.counted.moves_of_none rfl⟩
    all_goals
      rw [reading]
      rfl

theorem Holds.fileOctets (filing : stream.position side = .filing octets) :
    (stream.fileOctets side octets).Holds := by
  exact ⟨holds.locked.moves filing rfl rfl, holds.flowing.files holds.locked filing rfl rfl,
    holds.counted.files holds.locked filing rfl⟩

theorem Holds.unlockRead {succeeded : Bool}
    (unlocking : stream.position side = .unlockingRead succeeded) :
    (stream.unlockRead side succeeded).Holds := by
  rw [TlsStream.unlockRead, resumes_eq]
  have holding : readStanding (stream.position side) = .holding := by rw [unlocking]; rfl
  refine ⟨⟨agrees_unlock holds.locked.read holding ?_ ?_, ?_⟩,
    (holds.flowing.moves unlocking ?_ ?_).resumed _, (holds.counted.moves_of_none ?_).resumed _⟩
  case refine_2 =>
    intro waiter waiting
    cases waiter <;> first | rfl | cases waiting
  case refine_3 =>
    refine Eq.mpr (congrArg stream.writePump.Agrees
      (elsewhere_unlock holds.locked.read holding ?_ ?_)) holds.locked.write
    · rw [unlocking]
      cases succeeded <;> rfl
    · intro waiter waiting
      cases waiter <;> first | rfl | cases waiting
  all_goals cases succeeded <;> rfl

theorem Holds.lockWrite (locking : stream.position side = .lockingWrite after) :
    (stream.lockWrite side after).Holds := by
  have outside : writeStanding (stream.position side) = .outside := by rw [locking]; rfl
  have read : ∀ waits : Bool,
      readStanding (if waits then .waitingWrite after else .taking after) =
        readStanding (stream.position side) := by
    intro waits
    rw [locking]
    cases waits <;> rfl
  refine ⟨⟨?_, agrees_acquire holds.locked.write outside rfl rfl⟩, ?_, ?_⟩
  · exact (comp_update_same (read _)).symm ▸ holds.locked.read
  · exact holds.flowing.moves locking (by split <;> rfl) (by split <;> rfl)
  · exact holds.counted.moves_of_none (by split <;> rfl)

theorem Holds.takeOctets (taking : stream.position side = .taking after) (count : Nat) :
    (stream.takeOctets side count after).Holds := by
  rw [TlsStream.takeOctets]
  split
  · exact holds.moves taking rfl rfl rfl rfl rfl
  · exact ⟨holds.locked.moves taking rfl rfl, holds.flowing.takes holds.locked taking _,
      holds.counted.moves_of_none rfl⟩

theorem Holds.writeAccepts (sending : stream.position side = .sending octets after) (count : Nat) :
    (stream.writeAccepts side count octets after).Holds := by
  exact ⟨holds.locked.moves sending rfl rfl, holds.flowing.accepts holds.locked sending count,
    holds.counted.moves_of_none rfl⟩

theorem Holds.writeFails (sending : stream.position side = .sending octets after) :
    (stream.writeFails side after).Holds := by
  refine ⟨holds.locked.moves sending rfl rfl, holds.flowing.fails ?_,
    holds.counted.moves_of_none rfl⟩
  rw [sending]
  rfl

theorem Holds.unlockWrite {succeeded : Bool}
    (unlocking : stream.position side = .unlockingWrite succeeded after) :
    (stream.unlockWrite side succeeded after).Holds := by
  rw [TlsStream.unlockWrite, resumes_eq]
  have holding : writeStanding (stream.position side) = .holding := by rw [unlocking]; rfl
  refine ⟨⟨?_, agrees_unlock holds.locked.write holding ?_ ?_⟩,
    (holds.flowing.moves unlocking ?_ ?_).resumed _, (holds.counted.moves_of_none ?_).resumed _⟩
  · refine Eq.mpr (congrArg stream.readPump.Agrees
      (elsewhere_unlock holds.locked.write holding ?_ ?_)) holds.locked.read
    · rw [unlocking]
      split <;> rfl
    · intro waiter waiting
      cases waiter <;> first | rfl | cases waiting
  case refine_3 =>
    intro waiter waiting
    cases waiter <;> first | rfl | cases waiting
  all_goals split <;> rfl

theorem Holds.goesOn : (stream.goesOn side).Holds := by
  rw [TlsStream.goesOn]
  cases spot : stream.position side with
  | lockingRead seenFills => exact holds.lockRead spot
  | checking seenFills => exact holds.checkFills spot
  | filing octets => exact holds.fileOctets spot
  | unlockingRead succeeded => exact holds.unlockRead spot
  | lockingWrite after => exact holds.lockWrite spot
  | unlockingWrite succeeded after => exact holds.unlockWrite spot
  | _ => exact holds

theorem Holds.step (event : Event) : (stream.step event).Holds := by
  cases event with
  | begins side =>
    rw [TlsStream.step]
    split
    · rename_i idle
      exact holds.moves idle rfl rfl rfl rfl rfl
    · exact holds
  | goesOn side => exact holds.goesOn
  | sslCall side consumed produced outcome =>
    rw [TlsStream.step]
    split
    · rename_i calling
      exact holds.sslCall calling consumed produced outcome
    · exact holds
  | readReturns side octets =>
    rw [TlsStream.step]
    split
    · rename_i fills reading
      split
      · exact holds.readReturns reading octets
      · exact holds
    · exact holds
  | readFails side =>
    rw [TlsStream.step]
    split
    · rename_i fills reading
      exact holds.moves reading rfl rfl rfl rfl rfl
    · exact holds
  | takes side count =>
    rw [TlsStream.step]
    split
    · rename_i after taking
      exact holds.takeOctets taking count
    · exact holds
  | writeAccepts side count =>
    rw [TlsStream.step]
    split
    · rename_i octets after sending
      exact holds.writeAccepts sending count
    · exact holds
  | writeCompletes side =>
    rw [TlsStream.step]
    split
    · rename_i after sending
      exact holds.moves sending rfl rfl rfl rfl rfl
    · exact holds
  | writeFails side =>
    rw [TlsStream.step]
    split
    · rename_i octets after sending
      exact holds.writeFails sending
    · exact holds

end

theorem holds_initially : ({} : TlsStream).Holds := by
  refine ⟨⟨agrees_unused fun _ => rfl, agrees_unused fun _ => rfl⟩,
    ⟨rfl, fun _ => rfl, List.prefix_refl _⟩, ⟨rfl, ?_, ?_⟩⟩
  · intro side fills sees
    cases sees
  · intro side fills reading
    cases reading

end Steps

/-- Both octet streams are in order, each pump is at the transport at most once, and a coroutine waits
for the transport only if the read buffer was filled a whole number of rounds of the counter since its
engine call: not at all, unless the counter went all the way round. -/
structure InOrder (stream : TlsStream) : Prop where
  returned_eq : stream.returned = stream.filed ++ gather inHand stream.position
  taken_eq : stream.sendFailed = false → stream.taken = stream.sent ++ gather unsent stream.position
  sent_of_taken : stream.sent <+: stream.taken
  one_read : ∀ first second fills others, stream.position first = .reading fills →
    stream.position second = .reading others → first = second
  one_write : ∀ first second octets others after later, stream.position first = .sending octets after →
    stream.position second = .sending others later → first = second
  waits_when_unfilled : ∀ side fills, stream.position side = .reading fills →
    ∃ rounds, stream.fillCount = stream.askedAt side + rounds * UInt64.size

theorem Holds.inOrder {stream : TlsStream} (holds : stream.Holds) : stream.InOrder := by
  obtain ⟨locked, flowing, counted⟩ := holds
  refine ⟨flowing.returned_eq, flowing.taken_eq, flowing.sent_of_taken, ?_, ?_, ?_⟩
  · intro first second fills others readsFirst readsSecond
    apply locked.read.unique
    · rw [comp_apply, readsFirst]
      rfl
    · rw [comp_apply, readsSecond]
      rfl
  · intro first second octets others after later sendsFirst sendsSecond
    apply locked.write.unique
    · rw [comp_apply, sendsFirst]
      rfl
    · rw [comp_apply, sendsSecond]
      rfl
  · intro side fills reading
    have current := counted.reading_eq side fills reading
    obtain ⟨asked, before⟩ := counted.seen_eq side fills (by rw [reading]; rfl)
    have same : stream.fillCount % UInt64.size = stream.askedAt side % UInt64.size := by
      rw [current, counted.fills_eq] at asked
      exact congrArg UInt64.toNat asked
    obtain ⟨rounds, apart⟩ := Nat.dvd_of_mod_eq_zero (Nat.sub_mod_eq_zero_of_mod_eq same)
    exact ⟨rounds, by rw [Nat.mul_comm, ← apart]; omega⟩

end TlsStream

open TlsStream

/-- One coroutine reads and one writes on a stream, each in any number of calls. In every order of
their events, and whatever the engine and the transport do, both octet streams are in order. -/
theorem pumping_in_order (events : List TlsStream.Event) :
    (run step ({} : TlsStream) events).InOrder := by
  have preserved : ∀ (stream : TlsStream) (event : TlsStream.Event),
      stream.Holds → True → (stream.step event).Holds :=
    fun _ event holds _ => holds.step event
  have always : Admissible step (fun _ _ => True) ({} : TlsStream) events :=
    admissible_of_events fun _ _ => trivial
  exact (invariant_run preserved holds_initially always).inOrder

def readingAndSending : List TlsStream.Event :=
  [.begins .reader, .begins .writer, .sslCall .reader 0 [] .wantRead, .goesOn .reader, .goesOn .reader,
    .sslCall .writer 0 [23, 3, 3] .done, .goesOn .writer, .takes .writer 3, .writeAccepts .writer 2]

theorem pumping_in_order_both :
    (run step ({} : TlsStream) readingAndSending).position .reader = .reading 0 ∧
      (run step ({} : TlsStream) readingAndSending).taken =
        (run step ({} : TlsStream) readingAndSending).sent ++ [3] ∧
      ∃ rounds, (run step ({} : TlsStream) readingAndSending).fillCount =
        (run step ({} : TlsStream) readingAndSending).askedAt .reader + rounds * UInt64.size :=
  ⟨rfl, (pumping_in_order readingAndSending).taken_eq rfl,
    (pumping_in_order readingAndSending).waits_when_unfilled .reader 0 rfl⟩

/-! ## The counter goes round -/

namespace TlsStream

def askingWriter : List Event := [.begins .writer, .sslCall .writer 0 [] .wantRead]

def readWithFill : List Event :=
  [.begins .reader, .sslCall .reader 0 [] .wantRead, .goesOn .reader, .goesOn .reader,
    .readReturns .reader [23], .goesOn .reader, .goesOn .reader, .sslCall .reader 1 [] .done]

/-- The reader has filled the buffer a number of times since the writer asked. -/
structure FilledSince (count : Nat) (stream : TlsStream) : Prop where
  readPump : stream.readPump = {}
  reader : stream.position .reader = .idle
  writer : stream.position .writer = .lockingRead 0
  fills : stream.readBioFills = UInt64.ofNat count
  fillCount : stream.fillCount = count
  asked : stream.askedAt .writer = 0

theorem FilledSince.fill {count : Nat} {stream : TlsStream} (filled : FilledSince count stream) :
    FilledSince (count + 1) (run step stream readWithFill) := by
  obtain ⟨readPump, reader, writer, fills, fillCount, asked⟩ := filled
  have succ : UInt64.ofNat (count + 1) = UInt64.ofNat count + 1 := UInt64.ofNat_add count 1
  constructor <;>
    simp [readWithFill, run, step, sslCall, goesOn, lockRead, checkFills, readReturns,
      fileOctets, unlockRead, resumes, moves, afterCall, acquireOrEnqueue,
      unlock, bufferSize, readPump, reader, writer, fills, fillCount, asked, succ]

theorem FilledSince.fills_repeated {stream : TlsStream} (filled : FilledSince 0 stream) (count : Nat) :
    FilledSince count (run step stream (List.replicate count readWithFill).flatten) := by
  induction count with
  | zero => exact filled
  | succ count ih =>
    rw [List.replicate_succ', List.flatten_append, List.flatten_singleton, run_append]
    exact ih.fill

end TlsStream

/-- The writer waits for the transport although the read buffer was filled since its engine call, when
the fills have taken the counter all the way round. -/
theorem waits_although_filled :
    ∃ events, (run step ({} : TlsStream) events).position .writer = .reading 0 ∧
      (run step ({} : TlsStream) events).askedAt .writer = 0 ∧
      (run step ({} : TlsStream) events).fillCount = UInt64.size := by
  -- a number of fills that the counter does not show goes unnoticed
  obtain ⟨count, whole, round⟩ : ∃ count, count = UInt64.size ∧ UInt64.ofNat count = 0 :=
    ⟨_, rfl, rfl⟩
  rw [← whole]
  have started : FilledSince 0 (run step {} askingWriter) := by
    constructor <;> rfl
  obtain ⟨readPump, reader, writer, fills, fillCount, asked⟩ := started.fills_repeated count
  refine ⟨askingWriter ++ (List.replicate count readWithFill).flatten ++
    [.goesOn .writer, .goesOn .writer], ?_⟩
  rw [run_append, run_append]
  refine ⟨?_, ?_, ?_⟩ <;>
    simp [run_cons, step, goesOn, lockRead, checkFills, moves, acquireOrEnqueue,
      readPump, writer, fills, fillCount, asked, round]

end KmxAio.Tls
