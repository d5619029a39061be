import KmxAio.Http3.FrameCodec

/-!
# The SETTINGS payload

Settings are sent as pairs of an identifier and a value, both variable-length integers.
The three numbers are always sent, the two flags only when they are set. A reader starts
from the defaults, takes the last value of each identifier it knows and skips the others.
-/

namespace KmxAio.Http3

open Lib.Wire
open KmxAio.Lib.Scan (Reader)

/-! ## The codec -/

structure Settings where
  qpackMaxTableCapacity : UInt64 := 0
  maxFieldSectionSize : UInt64 := 16 * 1024
  qpackBlockedStreams : UInt64 := 0
  enableConnectProtocol : Bool := false
  h3Datagram : Bool := false
  deriving DecidableEq

namespace SettingsIdentifier

def qpackMaxTableCapacity : UInt64 := 0x1
def maxFieldSectionSize : UInt64 := 0x6
def qpackBlockedStreams : UInt64 := 0x7
def enableConnectProtocol : UInt64 := 0x8
def h3Datagram : UInt64 := 0x33

end SettingsIdentifier

structure SettingsEntry where
  identifier : UInt64
  value : UInt64
  deriving DecidableEq

namespace SettingsEntry

def encode (entry : SettingsEntry) : Octets :=
  encodeVarint entry.identifier ++ encodeVarint entry.value

def truncated (entry : SettingsEntry) : SettingsEntry :=
  { identifier := Http3.truncated entry.identifier, value := Http3.truncated entry.value }

end SettingsEntry

namespace SettingsCodec

def entries (val : Settings) : List SettingsEntry :=
  [⟨SettingsIdentifier.qpackMaxTableCapacity, val.qpackMaxTableCapacity⟩,
    ⟨SettingsIdentifier.maxFieldSectionSize, val.maxFieldSectionSize⟩,
    ⟨SettingsIdentifier.qpackBlockedStreams, val.qpackBlockedStreams⟩] ++
  (if val.enableConnectProtocol then [⟨SettingsIdentifier.enableConnectProtocol, 1⟩] else []) ++
  (if val.h3Datagram then [⟨SettingsIdentifier.h3Datagram, 1⟩] else [])

def encode (val : Settings) : Octets := (entries val).flatMap SettingsEntry.encode

def encodeFrame (val : Settings) : Octets := FrameCodec.encode FrameType.settings (encode val)

def applySetting (parsed : Settings) (entry : SettingsEntry) : Settings :=
  if entry.identifier = SettingsIdentifier.qpackMaxTableCapacity then
    { parsed with qpackMaxTableCapacity := entry.value }
  else if entry.identifier = SettingsIdentifier.maxFieldSectionSize then
    { parsed with maxFieldSectionSize := entry.value }
  else if entry.identifier = SettingsIdentifier.qpackBlockedStreams then
    { parsed with qpackBlockedStreams := entry.value }
  else if entry.identifier = SettingsIdentifier.enableConnectProtocol then
    { parsed with enableConnectProtocol := entry.value != 0 }
  else if entry.identifier = SettingsIdentifier.h3Datagram then
    { parsed with h3Datagram := entry.value != 0 }
  else parsed

def readEntry (payload : Octets) (offset : Nat) : Except Failure (SettingsEntry × Nat) :=
  match decodeVarint payload offset with
  | .error _ => .error .settingsError
  | .ok (identifier, identifierSize) =>
    match decodeVarint payload (offset + identifierSize) with
    | .error _ => .error .settingsError
    | .ok (val, valueSize) =>
      .ok ({ identifier := identifier, value := val }, offset + identifierSize + valueSize)

theorem readEntry_advances {payload : Octets} {offset next : Nat} {entry : SettingsEntry}
    (read : readEntry payload offset = .ok (entry, next)) : offset < next := by
  unfold readEntry at read
  cases identifier : decodeVarint payload offset with
  | error why =>
    rw [identifier] at read
    cases read
  | ok identifierRead =>
    rw [identifier] at read
    have bounds := decodeVarint_bounds identifier
    cases val : decodeVarint payload (offset + identifierRead.2) with
    | error why =>
      simp only [val] at read
      cases read
    | ok valueRead =>
      simp only [val] at read
      cases read
      omega

def reader : Reader UInt8 SettingsEntry Failure := ⟨readEntry, readEntry_advances⟩

def decode (payload : Octets) : Except Failure Settings := reader.scan applySetting payload {}

end SettingsCodec

/-! ## Reading settings back -/

namespace Settings

def truncated (val : Settings) : Settings :=
  { val with
    qpackMaxTableCapacity := Http3.truncated val.qpackMaxTableCapacity
    maxFieldSectionSize := Http3.truncated val.maxFieldSectionSize
    qpackBlockedStreams := Http3.truncated val.qpackBlockedStreams }

def Encodable (val : Settings) : Prop :=
  val.qpackMaxTableCapacity.toNat < limit ∧ val.maxFieldSectionSize.toNat < limit ∧
    val.qpackBlockedStreams.toNat < limit

instance (val : Settings) : Decidable val.Encodable := inferInstanceAs (Decidable (_ ∧ _))

theorem truncated_eq_iff (val : Settings) : val.truncated = val ↔ val.Encodable := by
  obtain ⟨room, size, streams, connect, datagram⟩ := val
  simp [truncated, Encodable, Http3.truncated_eq_iff]

end Settings

namespace SettingsCodec

theorem readsBack (entry : SettingsEntry) :
    reader.ReadsBack SettingsEntry.encode SettingsEntry.truncated entry := by
  intro before after
  obtain ⟨identifier, val⟩ := entry
  have identifierRead := decodeVarint_encodeVarint identifier before (encodeVarint val ++ after)
  have valueRead := decodeVarint_encodeVarint val (before ++ encodeVarint identifier) after
  simp only [List.append_assoc, List.length_append] at valueRead
  show readEntry _ _ = _
  simp only [SettingsEntry.encode, List.append_assoc, List.length_append]
  rw [readEntry, identifierRead]
  dsimp only
  rw [valueRead, ← Nat.add_assoc]
  rfl

theorem decode_encode (val : Settings) : decode (encode val) = .ok val.truncated := by
  have read : decode (encode val) = .ok _ := Reader.scan_flatMap fun entry _ => readsBack entry
  rw [read]
  -- the entries that are sent set every field, the flags as well since they are unset by default
  obtain ⟨room, size, streams, connect, datagram⟩ := val
  cases connect <;> cases datagram <;> rfl

theorem length_flatMap_encode_le (sent : List SettingsEntry) :
    (sent.flatMap SettingsEntry.encode).length ≤ 16 * sent.length := by
  induction sent with
  | nil => simp
  | cons entry sent ih =>
    have identifier := varintSize_le entry.identifier
    have val := varintSize_le entry.value
    rw [List.flatMap_cons, List.length_append, List.length_cons, SettingsEntry.encode,
      List.length_append, encodeVarint_length, encodeVarint_length]
    omega

theorem encode_length_lt (val : Settings) : (encode val).length < limit := by
  have sent : (entries val).length ≤ 5 := by
    obtain ⟨room, size, streams, connect, datagram⟩ := val
    cases connect <;> cases datagram <;> simp [entries]
  have total := length_flatMap_encode_le (entries val)
  rw [encode, limit]
  omega

end SettingsCodec

end KmxAio.Http3
