import KmxAio.Lib.HandoverMutex
import KmxAio.Lib.Wire

/-!
# A TLS stream and the coroutines on it

One coroutine reads and another writes on a TLS stream. The engine decrypts from one
memory buffer and encrypts into another, and every call of it and every access to a
buffer is atomic. The buffers are filled from the transport and drained to it by two
pumps. A pump is a mutex that a coroutine holds while it waits for the transport. Either
coroutine may need either pump: what an engine call asks for is up to the engine.

An event is one such atomic access, a request for a pump or its release, or something
the transport does. The two coroutines may be on different threads, so their events come
in any order.
-/

namespace KmxAio.Tls

open Lib Lib.Wire

/-! ## Where a coroutine is -/

inductive Side where
  | reader
  | writer
  deriving DecidableEq

inductive Outcome where
  | done
  | wantRead
  | wantWrite
  | zeroReturn
  | failed
  deriving DecidableEq

/-- What follows a pump of the write buffer: another engine call, or the return to the caller. -/
inductive After where
  | again
  | returns
  deriving DecidableEq

inductive Position where
  | idle
  | calling
  | lockingRead (seenFills : UInt64)
  | waitingRead (seenFills : UInt64)
  | checking (seenFills : UInt64)
  | reading (seenFills : UInt64)
  | filing (octets : Octets)
  | unlockingRead (succeeded : Bool)
  | lockingWrite (after : After)
  | waitingWrite (after : After)
  | taking (after : After)
  | sending (unsent : Octets) (after : After)
  | unlockingWrite (succeeded : Bool) (after : After)
  deriving DecidableEq

/-- The stream, and what has happened on it: the octets the transport returned and those filed, the
octets taken and those the transport accepted before it failed for the first time, how often the read
buffer was filled, and how often it had been when each coroutine made its last engine call. -/
structure TlsStream where
  readBio : Octets := []
  writeBio : Octets := []
  readBioFills : UInt64 := 0
  readPump : HandoverMutex Side := {}
  writePump : HandoverMutex Side := {}
  position : Side → Position := fun _ => .idle
  returned : Octets := []
  filed : Octets := []
  taken : Octets := []
  sent : Octets := []
  sendFailed : Bool := false
  fillCount : Nat := 0
  askedAt : Side → Nat := fun _ => 0

def bufferSize : Nat := 8192

namespace TlsStream

variable (stream : TlsStream)

variable (side : Side)

def moves (spot : Position) : TlsStream :=
  { stream with position := Function.update stream.position side spot }

/-! ## Engine calls -/

def afterCall (fills : UInt64) : Side → Outcome → Position
  | .reader, .done => .idle
  | .writer, .done => .lockingWrite .returns
  | _, .wantRead => .lockingRead fills
  | _, .wantWrite => .lockingWrite .again
  | _, .zeroReturn => .idle
  | _, .failed => .idle

/-- `SSL_read` or `SSL_write`: the engine takes some of what is in the read buffer and adds to the
write buffer. -/
def sslCall (consumed : Nat) (produced : Octets) (outcome : Outcome) : TlsStream :=
  { stream.moves side (afterCall stream.readBioFills side outcome) with
    readBio := stream.readBio.drop consumed
    writeBio := stream.writeBio ++ produced
    askedAt := Function.update stream.askedAt side stream.fillCount }

/-! ## `pump_read` -/

def lockRead (seenFills : UInt64) : TlsStream :=
  let req := stream.readPump.acquireOrEnqueue side
  { stream.moves side (if req.2 then .waitingRead seenFills else .checking seenFills) with
    readPump := req.1 }

def checkFills (seenFills : UInt64) : TlsStream :=
  if stream.readBioFills ≠ seenFills then stream.moves side (.unlockingRead true)
  else stream.moves side (.reading seenFills)

def readReturns (octets : Octets) : TlsStream :=
  if octets = [] then stream.moves side (.unlockingRead false)
  else { stream.moves side (.filing octets) with returned := stream.returned ++ octets }

def fileOctets (octets : Octets) : TlsStream :=
  { stream.moves side (.unlockingRead true) with
    readBio := stream.readBio ++ octets
    filed := stream.filed ++ octets
    readBioFills := stream.readBioFills + 1
    fillCount := stream.fillCount + 1 }

def granted : Position → Position
  | .waitingRead seenFills => .checking seenFills
  | .waitingWrite after => .taking after
  | spot => spot

/-- The coroutine that a pump is handed to, if there is one, goes on. -/
def resumes (next : Option Side) : TlsStream :=
  match next with
  | none => stream
  | some side => stream.moves side (granted (stream.position side))

/-- The release of the pump at the end of `pump_read`, after which the caller tries again or returns
the error. -/
def unlockRead (succeeded : Bool) : TlsStream :=
  let release := stream.readPump.unlock
  { (stream.moves side (if succeeded then .calling else .idle)).resumes release.2 with
    readPump := release.1 }

/-! ## `pump_write` -/

def lockWrite (after : After) : TlsStream :=
  let req := stream.writePump.acquireOrEnqueue side
  { stream.moves side (if req.2 then .waitingWrite after else .taking after) with
    writePump := req.1 }

/-- Takes octets out of the write buffer; when there are none, the loop ends. -/
def takeOctets (count : Nat) (after : After) : TlsStream :=
  let octets := stream.writeBio.take (min count bufferSize)
  if octets = [] then stream.moves side (.unlockingWrite true after)
  else
    { stream.moves side (.sending octets after) with
      writeBio := stream.writeBio.drop (min count bufferSize)
      taken := stream.taken ++ octets }

def writeAccepts (count : Nat) (unsent : Octets) (after : After) : TlsStream :=
  { stream.moves side (.sending (unsent.drop count) after) with
    sent := if stream.sendFailed then stream.sent else stream.sent ++ unsent.take count }

def writeFails (after : After) : TlsStream :=
  { stream.moves side (.unlockingWrite false after) with sendFailed := true }

def unlockWrite (succeeded : Bool) (after : After) : TlsStream :=
  let release := stream.writePump.unlock
  { (stream.moves side (if succeeded ∧ after = .again then .calling else .idle)).resumes
      release.2 with
    writePump := release.1 }

/-! ## Events -/

/-- A coroutine begins a call, goes on by itself, or goes on with what the engine, the write buffer or
the transport gives. -/
inductive Event where
  | begins (side : Side)
  | goesOn (side : Side)
  | sslCall (side : Side) (consumed : Nat) (produced : Octets) (outcome : Outcome)
  | readReturns (side : Side) (octets : Octets)
  | readFails (side : Side)
  | takes (side : Side) (count : Nat)
  | writeAccepts (side : Side) (count : Nat)
  | writeCompletes (side : Side)
  | writeFails (side : Side)
  deriving DecidableEq

def goesOn : TlsStream :=
  match stream.position side with
  | .lockingRead seenFills => stream.lockRead side seenFills
  | .checking seenFills => stream.checkFills side seenFills
  | .filing octets => stream.fileOctets side octets
  | .unlockingRead succeeded => stream.unlockRead side succeeded
  | .lockingWrite after => stream.lockWrite side after
  | .unlockingWrite succeeded after => stream.unlockWrite side succeeded after
  | _ => stream

/-- An event that a coroutine is not ready for does nothing. -/
def step (stream : TlsStream) : Event → TlsStream
  | .begins side => if stream.position side = .idle then stream.moves side .calling else stream
  | .goesOn side => stream.goesOn side
  | .sslCall side consumed produced outcome =>
    if stream.position side = .calling then stream.sslCall side consumed produced outcome
    else stream
  | .readReturns side octets =>
    match stream.position side with
    | .reading _ => if octets.length ≤ bufferSize then stream.readReturns side octets else stream
    | _ => stream
  | .readFails side =>
    match stream.position side with
    | .reading _ => stream.moves side (.unlockingRead false)
    | _ => stream
  | .takes side count =>
    match stream.position side with
    | .taking after => stream.takeOctets side count after
    | _ => stream
  | .writeAccepts side count =>
    match stream.position side with
    | .sending unsent after => stream.writeAccepts side count unsent after
    | _ => stream
  | .writeCompletes side =>
    match stream.position side with
    | .sending [] after => stream.moves side (.taking after)
    | _ => stream
  | .writeFails side =>
    match stream.position side with
    | .sending _ after => stream.writeFails side after
    | _ => stream

end TlsStream

end KmxAio.Tls
