import KmxAio.Avb.Am824
import KmxAio.Lib.Run

/-!
# The gPTP clock

A Sync and its Follow_Up together give the servo an offset, and a request, a response and its
follow-up together a path delay. The clock keeps the times of both in fields that later frames
overwrite, and compares little of what the frames say about themselves.
-/

namespace KmxAio.Avb

open Lib.Wire Lib.Run

inductive MsgType where
  | sync | pdelayReq | pdelayResp | followUp | pdelayRespFollowUp | announce | other
  deriving DecidableEq

structure PortIdentity where
  clockId : OctetArray 8
  portNumber : UInt16
  deriving DecidableEq

structure Timestamp where
  secondsMsb : OctetArray 6
  nanoseconds : UInt32
  deriving DecidableEq

def Timestamp.toNs (timestamp : Timestamp) : TaiTimestamp :=
  let sec : UInt64 :=
    timestamp.secondsMsb.toList.foldl (fun sec octet => sec <<< 8 ||| octet.toUInt64) 0
  sec * 1000000000 + timestamp.nanoseconds.toUInt64

/-! ## What the structures laid over a frame read from it

The header is packed and has 34 octets. A timestamp is not, so its nanoseconds come after two octets
of padding, and the body of a frame is two octets longer than the ten or twenty it is said to have. -/

section

variable (frame : Octets)

def msgType : MsgType :=
  match octetAt frame 0 &&& 0x0F with
  | 0x00 => .sync
  | 0x02 => .pdelayReq
  | 0x03 => .pdelayResp
  | 0x08 => .followUp
  | 0x0A => .pdelayRespFollowUp
  | 0x0B => .announce
  | _ => .other

def portIdentityAt (offset : Nat) : PortIdentity :=
  ⟨readArray 8 offset frame, readU16 frame (offset + 8)⟩

def sourcePortId : PortIdentity := portIdentityAt frame 20

def sequenceId : UInt16 := readU16 frame 30

/-- The correction in nanoseconds. -/
def correctionNs : Int64 :=
  (UInt64.ofNat (arrayNumber (readArray 8 8 frame))).toInt64 >>> 16

def timestampAt (offset nanoseconds : Nat) : Timestamp :=
  ⟨readArray 6 offset frame, UInt32.ofNat (arrayNumber (readArray 4 nanoseconds frame))⟩

def bodyTimestamp : Timestamp := timestampAt frame 34 42

/-- The timestamp of the message, whose ten octets follow each other. -/
def wireTimestamp : Timestamp := timestampAt frame 34 40

def requestingPortId : PortIdentity := portIdentityAt frame 46

end

def gptpHeaderSize : Nat := 34

def followUpFrameSize : Nat := 46

def pdelayFrameSize : Nat := 56

/-- The servo is the calls of its `update`. -/
structure PrimaryClock where
  servo : List (Int64 × Int64) := []
  localPortId : PortIdentity
  gmId : Option (OctetArray 8) := none
  syncSeqId : UInt16 := 0
  t2SyncRecv : TaiTimestamp := 0
  pdelaySeqId : UInt16 := 0
  t1PdelayReq : TaiTimestamp := 0
  t4PdelayRes : TaiTimestamp := 0
  t2Remote : TaiTimestamp := 0
  meanPathDelay : Int64 := 0
  deriving DecidableEq

namespace PrimaryClock

variable (smooth : Int64 → Int64 → Int64) (clock : PrimaryClock) (frame : Octets)
  (rxHwTs : TaiTimestamp)

def buildPdelayReq (now : TaiTimestamp) : PrimaryClock × Octets :=
  ({ clock with pdelaySeqId := clock.pdelaySeqId + 1, t1PdelayReq := now },
    [0x02, 0x02] ++ u16Octets (UInt16.ofNat pdelayFrameSize) ++ List.replicate 16 0 ++
      clock.localPortId.clockId.toList ++ u16Octets clock.localPortId.portNumber ++
      u16Octets clock.pdelaySeqId ++ List.replicate 24 0)

def onSync : PrimaryClock :=
  if frame.length < followUpFrameSize then clock
  else if clock.gmId.isSome ∧ some (sourcePortId frame).clockId ≠ clock.gmId then clock
  else { clock with syncSeqId := sequenceId frame, t2SyncRecv := rxHwTs }

def onFollowUp : PrimaryClock :=
  if frame.length < followUpFrameSize then clock
  else if sequenceId frame ≠ clock.syncSeqId then clock
  else if clock.t2SyncRecv = 0 then clock
  else
    let offset := clock.t2SyncRecv.toInt64 -
      ((bodyTimestamp frame).toNs + (correctionNs frame).toUInt64).toInt64
    { clock with servo := clock.servo ++ [(offset, clock.meanPathDelay)] }

def onPdelayResp : PrimaryClock :=
  if frame.length < pdelayFrameSize then clock
  else if requestingPortId frame ≠ clock.localPortId then clock
  else { clock with t4PdelayRes := rxHwTs, t2Remote := (bodyTimestamp frame).toNs }

/-- `smooth` is the moving average, computed in floating point. -/
def onPdelayRespFollowUp : PrimaryClock :=
  if frame.length < pdelayFrameSize then clock
  else if requestingPortId frame ≠ clock.localPortId then clock
  else if clock.t1PdelayReq = 0 ∨ clock.t4PdelayRes = 0 then clock
  else
    let t4_t1 := clock.t4PdelayRes.toInt64 - clock.t1PdelayReq.toInt64
    let t3_t2 := (bodyTimestamp frame).toNs.toInt64 - clock.t2Remote.toInt64
    { clock with
      meanPathDelay := smooth clock.meanPathDelay ((t4_t1 - t3_t2) / 2)
      t1PdelayReq := 0, t4PdelayRes := 0, t2Remote := 0 }

def onAnnounce : PrimaryClock :=
  if clock.gmId.isNone then { clock with gmId := some (sourcePortId frame).clockId } else clock

def dispatch : PrimaryClock :=
  if frame.length < gptpHeaderSize then clock
  else
    match msgType frame with
    | .sync => clock.onSync frame rxHwTs
    | .followUp => clock.onFollowUp frame
    | .pdelayResp => clock.onPdelayResp frame rxHwTs
    | .pdelayRespFollowUp => clock.onPdelayRespFollowUp smooth frame
    | .announce => clock.onAnnounce frame
    | _ => clock

end PrimaryClock

/-! ## What the times belong to -/

inductive ClockEvent where
  | buildPdelayReq (now : TaiTimestamp)
  | dispatch (frame : Octets) (rxHwTs : TaiTimestamp)

/-- A clock beside the frames its times are of: the last Sync it accepted, and whether that has
been followed up, and the request and the response of the measurement under way. -/
structure ClockHistory where
  clock : PrimaryClock
  sync : Option (Octets × TaiTimestamp) := none
  followed : Bool := false
  request : Option (Octets × TaiTimestamp) := none
  response : Option (Octets × TaiTimestamp) := none

namespace ClockHistory

variable (smooth : Int64 → Int64 → Int64)

def step (past : ClockHistory) : ClockEvent → ClockHistory
  | .buildPdelayReq now =>
    let (clock, frame) := past.clock.buildPdelayReq now
    { past with clock := clock, request := some (frame, now) }
  | .dispatch frame rxHwTs =>
    let clock := past.clock.dispatch smooth frame rxHwTs
    let next := { past with clock := clock }
    if frame.length < gptpHeaderSize then next
    else
      match msgType frame with
      | .sync =>
        if frame.length < followUpFrameSize ∨
          past.clock.gmId.isSome ∧ some (sourcePortId frame).clockId ≠ past.clock.gmId then next
        else { next with sync := some (frame, rxHwTs), followed := false }
      | .followUp =>
        { next with followed := past.followed || clock.servo != past.clock.servo }
      | .pdelayResp =>
        if frame.length < pdelayFrameSize ∨ requestingPortId frame ≠ past.clock.localPortId then next
        else { next with response := some (frame, rxHwTs) }
      | .pdelayRespFollowUp =>
        if frame.length < pdelayFrameSize ∨ requestingPortId frame ≠ past.clock.localPortId ∨
          past.clock.t1PdelayReq = 0 ∨ past.clock.t4PdelayRes = 0 then next
        else { next with request := none, response := none }
      | _ => next

/-- The servo is told nothing, or what one Sync and its own Follow_Up give, once. -/
def Paired (past : ClockHistory) (event : ClockEvent) : Prop :=
  (past.step smooth event).clock.servo = past.clock.servo ∨
    ∃ frame rxHwTs sync t2, event = .dispatch frame rxHwTs ∧ past.sync = some (sync, t2) ∧
      msgType frame = .followUp ∧ sourcePortId frame = sourcePortId sync ∧
      sequenceId frame = sequenceId sync ∧ past.followed = false ∧
      (past.step smooth event).clock.servo = past.clock.servo ++
        [(t2.toInt64 - ((wireTimestamp frame).toNs + (correctionNs frame).toUInt64).toInt64,
          past.clock.meanPathDelay)]

/-- The delay is kept, or changed by the four times of one exchange. -/
def Complete (past : ClockHistory) (event : ClockEvent) : Prop :=
  (past.step smooth event).clock.meanPathDelay = past.clock.meanPathDelay ∨
    ∃ frame rxHwTs request t1 response t4, event = .dispatch frame rxHwTs ∧
      past.request = some (request, t1) ∧ past.response = some (response, t4) ∧
      msgType frame = .pdelayRespFollowUp ∧ sequenceId response = sequenceId request ∧
      sequenceId frame = sequenceId request ∧ sourcePortId frame = sourcePortId response ∧
      (past.step smooth event).clock.meanPathDelay = smooth past.clock.meanPathDelay
        ((t4.toInt64 - t1.toInt64 -
          ((wireTimestamp frame).toNs.toInt64 - (wireTimestamp response).toNs.toInt64)) / 2)

/-- A Follow_Up with the number of the last Sync is the first from where the Sync came from, and has
its nanoseconds also where the structure has them. -/
def SyncOrdered (past : ClockHistory) : ClockEvent → Prop
  | .dispatch frame _ => msgType frame = .followUp → ∀ sync ∈ past.sync,
      sequenceId frame = sequenceId sync.1 →
        sourcePortId frame = sourcePortId sync.1 ∧ past.followed = false ∧
          bodyTimestamp frame = wireTimestamp frame
  | _ => True

/-- A response follow-up belongs with the response and the request that it finds, and both have their
nanoseconds also where the structure has them. -/
def ExchangeOrdered (past : ClockHistory) : ClockEvent → Prop
  | .dispatch frame _ => msgType frame = .pdelayRespFollowUp → ∀ request ∈ past.request,
      ∀ response ∈ past.response, sequenceId response.1 = sequenceId request.1 ∧
        sequenceId frame = sequenceId request.1 ∧ sourcePortId frame = sourcePortId response.1 ∧
        bodyTimestamp response.1 = wireTimestamp response.1 ∧ bodyTimestamp frame = wireTimestamp frame
  | _ => True

/-- The times of a clock are those of the frames beside it, and zero where there is none. -/
structure Tracks (past : ClockHistory) : Prop where
  sync : past.clock.t2SyncRecv = (past.sync.map Prod.snd).getD 0
  number : ∀ sync ∈ past.sync, past.clock.syncSeqId = sequenceId sync.1
  request : past.clock.t1PdelayReq = (past.request.map Prod.snd).getD 0
  response : past.clock.t4PdelayRes = (past.response.map Prod.snd).getD 0
  remote : past.clock.t2Remote = (past.response.map (bodyTimestamp ·.1 |>.toNs)).getD 0

variable {smooth} {past : ClockHistory} {event : ClockEvent}

theorem Tracks.step (tracks : past.Tracks) (event : ClockEvent) :
    (past.step smooth event).Tracks := by
  cases event with
  | buildPdelayReq now => exact { tracks with request := rfl }
  | dispatch frame rxHwTs =>
    by_cases short : frame.length < gptpHeaderSize
    · simpa only [ClockHistory.step, PrimaryClock.dispatch, if_pos short] using tracks
    simp only [ClockHistory.step, PrimaryClock.dispatch, if_neg short]
    cases msgType frame with
    | sync =>
      dsimp only [PrimaryClock.onSync]
      split_ifs <;> first | exact tracks | exact { tracks with sync := rfl, number := by simp } | tauto
    | followUp =>
      dsimp only [PrimaryClock.onFollowUp]
      split_ifs <;> exact { tracks with }
    | pdelayResp =>
      dsimp only [PrimaryClock.onPdelayResp]
      split_ifs <;> first | exact tracks | exact { tracks with response := rfl, remote := rfl } | tauto
    | pdelayRespFollowUp =>
      dsimp only [PrimaryClock.onPdelayRespFollowUp]
      split_ifs <;>
        first
        | exact tracks
        | exact { tracks with request := rfl, response := rfl, remote := rfl }
        | tauto
    | announce =>
      dsimp only [PrimaryClock.onAnnounce]
      split_ifs <;> exact { tracks with }
    | pdelayReq | other => exact tracks

theorem step_dispatch (frame : Octets) (rxHwTs : TaiTimestamp) :
    (past.step smooth (.dispatch frame rxHwTs)).clock =
      past.clock.dispatch smooth frame rxHwTs := by
  dsimp only [ClockHistory.step]
  split
  · rfl
  cases msgType frame <;> dsimp only <;> split_ifs <;> rfl

open PrimaryClock in
/-- Only a Follow_Up with the number of the Sync before it tells the servo anything. -/
theorem Tracks.paired (tracks : past.Tracks) (ordered : past.SyncOrdered event) :
    past.Paired smooth event := by
  cases event with
  | buildPdelayReq now => exact .inl rfl
  | dispatch frame rxHwTs =>
    rw [Paired, step_dispatch, PrimaryClock.dispatch]
    split
    · exact .inl rfl
    cases type : msgType frame with
    | followUp =>
      dsimp only [onFollowUp]
      split_ifs with small other unset
      · exact .inl rfl
      · exact .inl rfl
      · exact .inl rfl
      cases accepted : past.sync with
      | none => exact absurd (tracks.sync.trans (by rw [accepted]; rfl)) unset
      | some seen =>
        have number := (not_not.mp other).trans (tracks.number seen accepted)
        have time : past.clock.t2SyncRecv = seen.2 := tracks.sync.trans (by rw [accepted]; rfl)
        obtain ⟨same, unfollowed, laidOut⟩ := ordered type seen accepted number
        rw [time, laidOut]
        exact .inr ⟨frame, rxHwTs, _, _, rfl, rfl, type, same, number, unfollowed, rfl⟩
    | _ =>
      left
      dsimp only [onSync, onPdelayResp, onPdelayRespFollowUp, onAnnounce] <;> split_ifs <;> rfl

open PrimaryClock in
/-- Only a response follow-up that finds a request and a response changes the delay. -/
theorem Tracks.complete (tracks : past.Tracks) (ordered : past.ExchangeOrdered event) :
    past.Complete smooth event := by
  cases event with
  | buildPdelayReq now => exact .inl rfl
  | dispatch frame rxHwTs =>
    rw [Complete, step_dispatch, PrimaryClock.dispatch]
    split
    · exact .inl rfl
    cases type : msgType frame with
    | pdelayRespFollowUp =>
      dsimp only [onPdelayRespFollowUp]
      split_ifs with small foreign unset
      · exact .inl rfl
      · exact .inl rfl
      · exact .inl rfl
      obtain ⟨asked, answered⟩ := not_or.mp unset
      rw [tracks.request] at asked
      rw [tracks.response] at answered
      rw [tracks.request, tracks.response, tracks.remote]
      cases made : past.request with
      | none => exact absurd (by rw [made]; rfl) asked
      | some request =>
        cases heard : past.response with
        | none => exact absurd (by rw [heard]; rfl) answered
        | some response =>
          obtain ⟨same, own, source, laidOut, followUpLaidOut⟩ :=
            ordered type request made response heard
          simp only [Option.map_some, Option.getD_some, laidOut, followUpLaidOut]
          exact .inr ⟨frame, rxHwTs, _, _, _, _, rfl, rfl, rfl, type, same, own, source, rfl⟩
    | _ =>
      left
      dsimp only [onSync, onFollowUp, onPdelayResp, onAnnounce] <;> split_ifs <;> rfl

def start (localPortId : PortIdentity) : ClockHistory := { clock := { localPortId := localPortId } }

theorem start_tracks (localPortId : PortIdentity) : (start localPortId).Tracks :=
  ⟨rfl, nofun, rfl, rfl, rfl⟩

end ClockHistory

open ClockHistory

theorem updates_paired (smooth : Int64 → Int64 → Int64) (localPortId : PortIdentity)
    (events : List ClockEvent)
    (ordered : Admissible (step smooth) SyncOrdered (start localPortId) events) :
    Admissible (step smooth) (Paired smooth) (start localPortId) events :=
  ordered.imp (fun _ event tracks _ => Tracks.step tracks event)
    (fun _ _ tracks here => Tracks.paired tracks here) (start_tracks localPortId)

/-- A frame of port 2 or 3, for port 1, with a whole number of seconds. -/
def frameOf (source type number seconds : UInt8) : Octets :=
  type :: List.replicate 28 0 ++ [source, 0, number, 0, 0, 0, 0, 0, 0, 0, seconds] ++
    List.replicate 15 0 ++ [1]

def average (mean raw : Int64) : Int64 := (7 * mean + raw) / 8

theorem followUp_paired : Admissible (step average) (Paired average) (start ⟨zeroArray 8, 1⟩)
    [.dispatch (frameOf 2 0x00 5 0) 1000, .dispatch (frameOf 2 0x08 5 9) 0] := by
  refine updates_paired average _ _ ⟨fun sync => absurd sync (by decide), fun _ sync accepted _ => ?_,
    trivial⟩
  cases accepted
  exact ⟨rfl, rfl, by decide⟩

/-- A Follow_Up of another port is paired with the Sync, the right one a second time, and of one with
seven nanoseconds in the last octet of its timestamp another time is taken. -/
theorem followUp_of_other_paired :
    let synced := run (step average) (start ⟨zeroArray 8, 1⟩) [.dispatch (frameOf 2 0x00 5 0) 1000]
    ¬ Paired average synced (.dispatch (frameOf 3 0x08 5 9) 0) ∧
      ¬ Paired average (synced.step average (.dispatch (frameOf 2 0x08 5 9) 0))
        (.dispatch (frameOf 2 0x08 5 9) 0) ∧
      ¬ Paired average synced (.dispatch ((frameOf 2 0x08 5 9).set 43 7) 0) := by
  intro synced
  refine ⟨?_, ?_, ?_⟩
  · rintro (same | ⟨_, _, _, _, event, accepted, -, source, -⟩)
    · exact absurd same (by decide +kernel)
    · cases event
      cases accepted
      exact absurd source (by decide)
  · rintro (same | ⟨_, _, _, _, -, -, -, -, -, unfollowed, -⟩)
    · exact absurd same (by decide +kernel)
    · exact absurd unfollowed (by decide +kernel)
  · rintro (same | ⟨_, _, _, _, event, accepted, -, -, -, -, told⟩)
    · exact absurd same (by decide +kernel)
    · cases event
      cases accepted
      exact absurd told (by decide +kernel)

theorem delays_complete (smooth : Int64 → Int64 → Int64) (localPortId : PortIdentity)
    (events : List ClockEvent)
    (ordered : Admissible (step smooth) ExchangeOrdered (start localPortId) events) :
    Admissible (step smooth) (Complete smooth) (start localPortId) events :=
  ordered.imp (fun _ event tracks _ => Tracks.step tracks event)
    (fun _ _ tracks here => Tracks.complete tracks here) (start_tracks localPortId)

theorem exchange_complete : Admissible (step average) (Complete average) (start ⟨zeroArray 8, 1⟩)
    [.buildPdelayReq 100, .dispatch (frameOf 2 0x03 0 5) 300,
      .dispatch (frameOf 2 0x0A 0 6) 310] := by
  refine delays_complete average _ _ ⟨trivial, fun resp => absurd resp (by decide),
    fun _ request made response heard => ?_, trivial⟩
  cases made
  cases heard
  exact ⟨rfl, rfl, rfl, by decide, by decide⟩

/-- A late response follow-up meets the next request, and that of one port the response of another. -/
theorem exchange_mixed :
    ¬ Complete average (run (step average) (start ⟨zeroArray 8, 1⟩)
        [.buildPdelayReq 100, .dispatch (frameOf 2 0x03 0 5) 300, .buildPdelayReq 1000])
        (.dispatch (frameOf 2 0x0A 0 6) 1010) ∧
      ¬ Complete average (run (step average) (start ⟨zeroArray 8, 1⟩)
        [.buildPdelayReq 100, .dispatch (frameOf 2 0x03 0 5) 300])
        (.dispatch (frameOf 3 0x0A 0 6) 310) := by
  constructor
  · rintro (same | ⟨_, _, _, _, _, _, event, made, heard, -, number, -⟩)
    · exact absurd same (by decide +kernel)
    · cases made
      cases heard
      exact absurd number (by decide)
  · rintro (same | ⟨_, _, _, _, _, _, event, made, heard, -, -, -, source, -⟩)
    · exact absurd same (by decide +kernel)
    · cases event
      cases heard
      exact absurd source (by decide)

end KmxAio.Avb
