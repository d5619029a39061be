import KmxAio.Knx.DataSecure.Telegram
import KmxAio.Knx.Secure.Session

/-!
# The Data Secure context

A context secures outgoing group telegrams, opens incoming ones and refuses what
must not pass. It keeps the last sequence number of every sender it knows and the
next one of its own, which it reserves in blocks from a durable store when it has
one. The clock and the store are outside: what they answer is an argument.
-/

namespace KmxAio.Knx.DataSecure

open Lib.Wire Cemi Secure

def maxTableEntries : Nat := 4096
def sequenceEpochMs : Nat := 1515110400000
def tpciUnnumberedData : UInt8 := 0x00
def maxStandardDataLength : Nat := 15
def standardFrameMask : UInt8 := 0x80
def addressTypeMask : UInt8 := 0x80

structure SenderSequence where
  address : UInt16
  lastValidSequence : Nat
  deriving DecidableEq

structure GroupKey where
  address : UInt16
  key : SecretKey

structure GroupSenders where
  address : UInt16
  senders : List UInt16

structure Configuration where
  localAddress : UInt16 := 0
  groupKeys : List GroupKey := []
  senders : List SenderSequence := []
  allowedSenders : List GroupSenders := []
  outgoing : Algorithm := .authenticatedEncryption
  reservationBlock : UInt32 := 1024

structure Context where
  configuration : Configuration
  /-- Whether the context was given a sequence store. -/
  stored : Bool
  valid : Bool
  nextSequence : Option Nat := none
  reservedUntil : Nat := 0
  counters : Statistics := {}

variable (cemi : Octets) (config : Configuration)

def Context.make (stored : Bool) : Context where
  configuration := config
  stored := stored
  valid := decide (config.groupKeys.length ≤ maxTableEntries ∧
    config.senders.length ≤ maxTableEntries)

/-- What the wall clock and the sequence store answer to one request for a sequence number. -/
structure SequenceSource where
  wallClockMs : Nat := 0
  loaded : Expected Nat := .ok 0
  reserved : Expected Unit := .ok ()

/-- The fields of a well-formed L_Data frame the context decides on. -/
structure FrameView where
  code : CemiMessageCode
  linkOffset : Nat
  controlField1 : UInt8
  binding : FrameBinding
  dataLength : UInt8
  group : Bool
  secured : Bool
  deriving DecidableEq

/-- What a frame with its link layer at `link` says of itself. -/
def viewAt (cemi : Octets) (code : CemiMessageCode) (link : Nat) : FrameView where
  code := code
  linkOffset := link
  controlField1 := octetAt cemi link
  binding :=
    { source := readU16 cemi (link + 2)
      destination := readU16 cemi (link + 4)
      controlField2 := octetAt cemi (link + 1)
      transportControl := octetAt cemi (link + linkHeaderSize) &&& tpciMask }
  dataLength := octetAt cemi (link + 6)
  group := octetAt cemi (link + 1) &&& addressTypeMask ≠ 0
  secured := (octetAt cemi (link + 6)).toNat ≥ 2 ∧
    octetAt cemi (link + linkHeaderSize) &&& serviceApciHigh = serviceApciHigh ∧
    octetAt cemi (link + linkHeaderSize + 1) = serviceApciLow

def view : Option FrameView :=
  if cemi.length < prologueSize then none
  else
    match lDataCode (octetAt cemi 0) with
    | none => none
    | some code =>
      let link := prologueSize + (octetAt cemi 1).toNat
      if link + linkHeaderSize + 1 > cemi.length ∨
          encodedSize (octetAt cemi 1).toNat (octetAt cemi (link + 6)) ≠ cemi.length then none
      else some (viewAt cemi code link)

def FrameView.securedApdu (frame : FrameView) (cemi : Octets) : Octets :=
  (cemi.drop (frame.linkOffset + linkHeaderSize + 2)).take (frame.dataLength.toNat - 1)

def Configuration.keyFor (group : UInt16) : Option SecretKey :=
  (config.groupKeys.find? (·.address == group)).map (·.key)

def Configuration.senderAllowed (source group : UInt16) : Bool :=
  match config.allowedSenders.find? (·.address == group) with
  | none => true
  | some listed => listed.senders.contains source

def lastValid (senders : List SenderSequence) (address : UInt16) : Option Nat :=
  (senders.find? (·.address == address)).map (·.lastValidSequence)

def recordSequence (address : UInt16) (seq : Nat) : List SenderSequence → List SenderSequence
  | [] => []
  | sender :: rest =>
    if sender.address = address then { sender with lastValidSequence := seq } :: rest
    else sender :: recordSequence address seq rest

namespace Context

variable (ctx : Context)

def withCounters (update : Statistics → Statistics) : Context :=
  { ctx with counters := update ctx.counters }

/-! ## Securing -/

/-- Milliseconds since the epoch of the sequence numbers, never zero. -/
def startingSequence (nowMs : Nat) : Nat :=
  max (if nowMs > sequenceEpochMs then nowMs - sequenceEpochMs else 0) 1

def withSequence (source : SequenceSource) : Context × Expected Nat :=
  match ctx.nextSequence with
  | some seq => (ctx, .ok seq)
  | none =>
    if ctx.stored then
      match source.loaded with
      | .error why => (ctx, .error why)
      | .ok loaded =>
        let seq := max loaded 1
        ({ ctx with nextSequence := some seq, reservedUntil := seq }, .ok seq)
    else
      let seq := startingSequence source.wallClockMs
      ({ ctx with nextSequence := some seq }, .ok seq)

def reservationLimit (seq : Nat) : Nat :=
  min (seq + max ctx.configuration.reservationBlock.toNat 1) (maxSequence + 1)

def takeSequence (source : SequenceSource) : Context × Expected Nat :=
  match ctx.withSequence source with
  | (ctx, .error why) => (ctx, .error why)
  | (ctx, .ok seq) =>
    if seq > maxSequence then (ctx, refuse .secureSessionClosed)
    else if ctx.stored ∧ seq ≥ ctx.reservedUntil then
      -- a block is recorded durably before its first number goes out
      match source.reserved with
      | .error why => (ctx, .error why)
      | .ok () =>
        ({ ctx with
            reservedUntil := ctx.reservationLimit seq
            nextSequence := some (seq + 1) }, .ok seq)
    else ({ ctx with nextSequence := some (seq + 1) }, .ok seq)

end Context

/-- Control field 1 with the frame type a data length requires. -/
def frameType (controlField1 : UInt8) (dataLength : Nat) : UInt8 :=
  if dataLength ≤ maxStandardDataLength then controlField1 ||| standardFrameMask
  else controlField1 &&& ~~~standardFrameMask

/-- Everything up to the data of a frame, with its frame type, source and data length replaced. -/
def rewriteHeader (frame : FrameView) (source : UInt16) (dataLength : Nat) : Octets :=
  cemi.take frame.linkOffset ++
    ([frameType frame.controlField1 dataLength, octetAt cemi (frame.linkOffset + 1)] ++
      (u16Octets source ++
        [octetAt cemi (frame.linkOffset + 4), octetAt cemi (frame.linkOffset + 5),
          UInt8.ofNat dataLength]))

namespace Context

variable (ctx : Context) (backend : CryptoBackend)

variable (frame : FrameView)

def buildSecured (plainCemi : Octets) (key : SecretKey) (seq : Nat) : Expected Octets :=
  let dataLength := frame.dataLength.toNat + 2 + securedApduOverhead
  let data := plainCemi.drop (frame.linkOffset + linkHeaderSize)
  -- the plain APDU is bound without its transport control bits
  let plain := (octetAt data 0 &&& ~~~tpciMask) :: (data.drop 1).take frame.dataLength.toNat
  match sealApdu backend (dataLength - 1) key
      { control := { algorithm := ctx.configuration.outgoing }
        sequence := seq
        binding := frame.binding } plain with
  | .error why => .error why
  | .ok secured =>
    .ok (rewriteHeader plainCemi frame frame.binding.source dataLength ++
      ([frame.binding.transportControl ||| serviceApciHigh, serviceApciLow] ++ secured))

def outgoingFrame : FrameView :=
  if frame.binding.source = 0 then
    { frame with binding := { frame.binding with source := ctx.configuration.localAddress } }
  else frame

/-- Point-to-point traffic, and group traffic to a group without a key, goes out as it is. -/
def groupKeyOf (frame : Option FrameView) : Option (FrameView × SecretKey) :=
  match frame with
  | none => none
  | some frame =>
    if frame.group then
      (ctx.configuration.keyFor frame.binding.destination).map (fun key => (frame, key))
    else none

def secureFrame (source : SequenceSource) (plainCemi : Octets) : Context × Expected Octets :=
  if ¬ ctx.valid then (ctx, refuse .invalidConfiguration)
  else
    match ctx.groupKeyOf (view plainCemi) with
    | none => (ctx, .ok plainCemi)
    | some (frame, key) =>
      if frame.secured ∨ frame.binding.transportControl ≠ tpciUnnumberedData ∨
          frame.dataLength = 0 then (ctx, refuse .secureUnsupported)
      else if frame.dataLength.toNat + 2 + securedApduOverhead > maxOctets then
        (ctx, refuse .payloadTooLarge)
      else
        let outgoing := ctx.outgoingFrame frame
        if outgoing.binding.source = 0 then (ctx, refuse .invalidConfiguration)
        else
          match ctx.takeSequence source with
          | (ctx, .error why) => (ctx, .error why)
          | (ctx, .ok seq) =>
            (ctx, ctx.buildSecured backend outgoing plainCemi key seq)

/-! ## Opening -/

/-- Whether a control octet is there and asks for plain data, neither for tool access nor for a
system broadcast. -/
def ordinaryData (secured : Octets) : Bool :=
  match if secured = [] then refuse .malformedFrame else decodeSecurityControl (octetAt secured 0) with
  | .error _ => false
  | .ok control => !control.toolAccess && !control.systemBroadcast && control.service == .data

/-- The key of a secured telegram the context takes: group data of an allowed sender. -/
def admitSecured (secured : Octets) : Context × Expected SecretKey :=
  if ¬ frame.group ∨ ordinaryData secured = false then
    (ctx.withCounters fun counters =>
      { counters with refusedServices := counters.refusedServices + 1 }, refuse .secureUnsupported)
  else
    match ctx.configuration.keyFor frame.binding.destination,
        ctx.configuration.senderAllowed frame.binding.source frame.binding.destination with
    | some key, true => (ctx, .ok key)
    | _, _ =>
      (ctx.withCounters fun counters =>
        { counters with missingKeys := counters.missingKeys + 1 }, refuse .secureKeyMissing)

/-- Takes a sequence number above the last one of its sender. A confirmation is taken to carry a
telegram this endpoint sent, and leaves the table alone. -/
def acceptSequence (seq : Nat) : Context × Expected Unit :=
  if frame.code = .lDataCon then (ctx, .ok ())
  else
    match lastValid ctx.configuration.senders frame.binding.source with
    | none =>
      (ctx.withCounters fun counters =>
        { counters with missingKeys := counters.missingKeys + 1 }, refuse .secureKeyMissing)
    | some last =>
      if seq ≤ last then
        (ctx.withCounters fun counters =>
          { counters with replays := counters.replays + 1 }, refuse .secureReplay)
      else
        ({ ctx with
            configuration := { ctx.configuration with
              senders := recordSequence frame.binding.source seq
                ctx.configuration.senders } }, .ok ())

def plainFrame (cemi plain : Octets) : Octets :=
  rewriteHeader cemi frame frame.binding.source (plain.length - 1) ++
    ((frame.binding.transportControl ||| (octetAt plain 0 &&& ~~~tpciMask)) :: plain.drop 1)

def openSecured (cemi : Octets) : Context × Expected Octets :=
  let secured := frame.securedApdu cemi
  match ctx.admitSecured frame secured with
  | (ctx, .error why) => (ctx, .error why)
  | (ctx, .ok key) =>
    match openApdu backend maxPlainApdu key frame.binding secured with
    | .error why =>
      (if why = .knx .secureAuthenticationFailed then
          ctx.withCounters fun counters =>
            { counters with authenticationFailures := counters.authenticationFailures + 1 }
        else ctx, .error why)
    | .ok plain =>
      -- the MAC has verified, so the sequence number can be believed
      match ctx.acceptSequence frame (sequenceOf secured) with
      | (ctx, .error why) => (ctx, .error why)
      | (ctx, .ok ()) =>
        if plain.length < apciSize then (ctx, refuse .malformedFrame)
        else (ctx, .ok (plainFrame frame cemi plain))

def openFrame (cemi : Octets) :
    Context × Expected Octets :=
  if ¬ ctx.valid then (ctx, refuse .invalidConfiguration)
  else
    match view cemi with
    | none => (ctx, .ok cemi)
    | some frame =>
      if frame.secured then ctx.openSecured backend frame cemi
      else if frame.group ∧ (ctx.configuration.keyFor frame.binding.destination).isSome then
        (ctx.withCounters fun counters =>
          { counters with unencryptedRefused := counters.unencryptedRefused + 1 },
          refuse .secureFrameRequired)
      else (ctx, .ok cemi)

end Context

end KmxAio.Knx.DataSecure
