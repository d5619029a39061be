import KmxAio.Knx.SecureServerChannels
import KmxAio.Knx.ServerDelivery
import KmxAio.Knx.TunnellingSession

/-!
# The sequence numbers of a server channel

A send takes the next number of its channel under the lock of the table, and encodes
and hands over its request outside of it. Sends that overlap may hand over in
another order, and a number taken for a frame that is then not encoded is lost.
-/

namespace KmxAio.Knx

open Lib.Run Lib.Wire Knx.Frame Connection Function

open GenericServer

/-! ## Sends that overlap -/

inductive SendStage where
  | checked
  | claimed (transport : Option ServerTransport) (sequence : UInt8)
  | finished (result : Expected Unit)
  deriving DecidableEq

def SendStage.isClaimed : SendStage → Bool
  | .claimed _ _ => true
  | _ => false

structure SendCall where
  channelId : UInt8
  cemiBytes : Octets
  stage : SendStage
  deriving DecidableEq

/-- A request as it was handed to the transport of its channel. -/
structure HandedRequest where
  channelId : UInt8
  sequence : UInt8
  cemiBytes : Octets
  deriving DecidableEq

/-- A server and the calls of `send` on it. The calls that hold a number they have not handed over
are listed for each channel in the order they took it, beside what the source keeps. -/
structure ServerSends where
  server : GenericServer
  calls : List SendCall := []
  holders : UInt8 → List Nat := fun _ => []
  handed : List HandedRequest := []

/-- A call enters, takes its number, or hands over its request. -/
inductive SendEvent where
  | call (channelId : UInt8) (cemiBytes : Octets)
  | claim (index : Nat)
  | transmit (index : Nat) (conditions : Conditions)

namespace ServerSends

variable (sends : ServerSends) (index : Nat) (call : SendCall) (chan : UInt8)

def enter (cemiBytes : Octets) : ServerSends :=
  let stage :=
    match sends.server.checkSend chan cemiBytes with
    | .error why => .finished (.error why)
    | .ok _ => .checked
  { sends with calls := sends.calls ++ [⟨chan, cemiBytes, stage⟩] }

def setStage (stage : SendStage) : ServerSends :=
  { sends with calls := sends.calls.set index { call with stage := stage } }

def claim : ServerSends :=
  match sends.server.claimSequence call.channelId with
  | (_, none) => sends.setStage index call (.finished (refuse .invalidConfiguration))
  | (srv, some (transport, seq)) =>
    { sends.setStage index call (.claimed transport seq) with
      server := srv
      holders := update sends.holders call.channelId
        (sends.holders call.channelId ++ [index]) }

def reaches (transport : Option ServerTransport) (seq : UInt8) : Bool :=
  (encodeTunnellingRequestPacket maxDatagramSize call.channelId seq call.cemiBytes).isOk &&
    transport.isSome

def transmit (world : Conditions) (call : SendCall)
    (transport : Option ServerTransport) (seq : UInt8) : ServerSends :=
  let outcome := sends.server.sendClaimed world call.channelId call.cemiBytes transport seq
  { sends.setStage index call (.finished outcome.2) with
    server := outcome.1
    holders := update sends.holders call.channelId
      ((sends.holders call.channelId).erase index)
    handed :=
      if reaches call transport seq then
        sends.handed ++ [⟨call.channelId, seq, call.cemiBytes⟩]
      else sends.handed }

def step : SendEvent → ServerSends
  | .call chan cemiBytes => sends.enter chan cemiBytes
  | .claim index =>
    match sends.calls[index]? with
    | none => sends
    | some call =>
      match call.stage with
      | .checked => sends.claim index call
      | _ => sends
  | .transmit index world =>
    match sends.calls[index]? with
    | none => sends
    | some call =>
      match call.stage with
      | .claimed transport seq => sends.transmit index world call transport seq
      | _ => sends

def numbersOn : List UInt8 :=
  (sends.handed.filter (fun req => req.channelId == chan)).map (·.sequence)

/-- On this channel a number is taken only for a frame long enough to be encoded, and requests are
handed over in the order in which they took their numbers. -/
def Orderly (sends : ServerSends) : SendEvent → Prop
  | .call _ _ => True
  | .claim index =>
    ∀ call ∈ sends.calls[index]?, call.channelId = chan → call.stage = .checked →
      cemiMinSize ≤ call.cemiBytes.length
  | .transmit index _ =>
    ∀ call ∈ sends.calls[index]?, call.channelId = chan → call.stage.isClaimed = true →
      (sends.holders chan).head? = some index

instance (chan : UInt8) (sends : ServerSends) :
    (event : SendEvent) → Decidable (sends.Orderly chan event)
  | .call _ _ => .isTrue trivial
  | .claim _ => Option.decidableForallMem _
  | .transmit _ _ => Option.decidableForallMem _

/-! ## What each stage keeps -/

theorem channels_sendClaimed (srv : GenericServer) (world : Conditions) (chan : UInt8)
    (cemiBytes : Octets) (transport : Option ServerTransport) (seq : UInt8) (other : UInt8) :
    ∃ lastActivityMs,
      (srv.sendClaimed world chan cemiBytes transport seq).1.channels other =
        { srv.channels other with lastActivityMs := lastActivityMs } := by
  unfold sendClaimed
  split
  · exact ⟨_, rfl⟩
  · exact ⟨_, rfl⟩
  rename_i pkt destination _
  have same := (srv.sendDatagram_same world pkt destination).channels
  cases given : srv.sendDatagram world pkt destination with
  | mk after result =>
    rw [given] at same
    dsimp only at same
    cases result with
    | error why => exact ⟨_, by rw [same]⟩
    | ok done =>
      dsimp only
      unfold noteActivity
      split
      · by_cases named : other = chan
        · subst named
          exact ⟨world.nowMs, by simp [setChannel, same]⟩
        · refine ⟨(srv.channels other).lastActivityMs, ?_⟩
          simp [setChannel, update_of_ne named, same]
      · exact ⟨_, by rw [same]⟩

variable {seq : UInt8} {transport : Option ServerTransport}

theorem encode_sendable {chan : UInt8} {cemiBytes : Octets} (named : chan ≠ 0)
    (long : cemiMinSize ≤ cemiBytes.length) (bounded : cemiBytes.length ≤ Cemi.maxMessageSize) :
    (encodeTunnellingRequestPacket maxDatagramSize chan seq cemiBytes).isOk = true := by
  have fits : Cemi.maxMessageSize ≤ 600 := by decide
  unfold encodeTunnellingRequestPacket
  rw [if_neg, if_neg named, if_neg (Nat.not_lt.mpr long)]
  · rfl
  · simp only [communicationHeaderSize, tunnellingRequestHeaderSize, maxTotalLength,
      maxDatagramSize]
    omega

def consecutive (start count : Nat) : List UInt8 :=
  (List.range' start count).map UInt8.ofNat

/-- A call that holds this number of a channel, for a frame it can encode. -/
def Holds (sends : ServerSends) (chan : UInt8) (index num : Nat) : Prop :=
  ∃ (call : SendCall) (transport : ServerTransport), sends.calls[index]? = some call ∧
    call.channelId = chan ∧ call.stage = .claimed (some transport) (UInt8.ofNat num) ∧
    cemiMinSize ≤ call.cemiBytes.length ∧ call.cemiBytes.length ≤ Cemi.maxMessageSize

/-- Every call that is about to take a number of a channel has a frame that is not too long. -/
def Bounded (sends : ServerSends) (chan : UInt8) : Prop :=
  ∀ call ∈ sends.calls, call.channelId = chan → call.stage = .checked →
    call.cemiBytes.length ≤ Cemi.maxMessageSize

/-- What an orderly run keeps for a channel: the numbers handed over have no gap, the numbers held
follow them, and the next number follows those. -/
structure Numbered (channelId : UInt8) (sends : ServerSends) : Prop where
  named : channelId ≠ 0
  active : (sends.server.channels channelId).active = true
  transport : (sends.server.channels channelId).transport.isSome = true
  numbers : sends.numbersOn channelId = consecutive 0 (sends.numbersOn channelId).length
  next : (sends.server.channels channelId).sequence =
    UInt8.ofNat ((sends.numbersOn channelId).length + (sends.holders channelId).length)
  distinct : (sends.holders channelId).Nodup
  bounded : sends.Bounded channelId
  held : ∀ place index, (sends.holders channelId)[place]? = some index →
    sends.Holds channelId index ((sends.numbersOn channelId).length + place)

variable {sends} {after : ServerSends} {chan} {index} {num : Nat} {call}

theorem Holds.of_calls (holds : sends.Holds chan index num)
    (same : after.calls[index]? = sends.calls[index]?) : after.Holds chan index num := by
  obtain ⟨call, transport, present, rest⟩ := holds
  exact ⟨call, transport, same.trans present, rest⟩

theorem Numbered.frame (numbered : sends.Numbered chan)
    (channel : ∃ lastActivityMs, after.server.channels chan =
      { sends.server.channels chan with lastActivityMs := lastActivityMs })
    (handed : after.numbersOn chan = sends.numbersOn chan)
    (holders : after.holders chan = sends.holders chan)
    (calls : ∀ index num, sends.Holds chan index num → after.calls[index]? = sends.calls[index]?)
    (bounded : after.Bounded chan) : after.Numbered chan := by
  obtain ⟨lastActivityMs, channel⟩ := channel
  refine ⟨numbered.named, ?_, ?_, ?_, ?_, ?_, bounded, ?_⟩
  · rw [channel]
    exact numbered.active
  · rw [channel]
    exact numbered.transport
  · rw [handed]
    exact numbered.numbers
  · rw [channel, handed, holders]
    exact numbered.next
  · rw [holders]
    exact numbered.distinct
  · intro place index present
    rw [holders] at present
    rw [handed]
    have holds := numbered.held place index present
    exact holds.of_calls (calls index _ holds)

theorem enter_numbered (numbered : sends.Numbered chan) (named : UInt8)
    (cemiBytes : Octets) : (sends.enter named cemiBytes).Numbered chan := by
  refine numbered.frame ⟨_, rfl⟩ rfl rfl ?_ ?_
  · rintro index num ⟨call, transport, present, -⟩
    have inside := (List.getElem?_eq_some_iff.mp present).1
    exact List.getElem?_append_left inside
  · intro call present own checked
    rcases List.mem_append.mp present with before | entered
    · exact numbered.bounded call before own checked
    · obtain rfl := List.mem_singleton.mp entered
      split at checked
      · cases checked
      · rename_i passed
        unfold checkSend at passed
        split at passed
        · cases passed
        split at passed
        · cases passed
        split at passed
        · cases passed
        · rename_i bounded
          exact Nat.le_of_not_lt bounded

theorem bounded_set {stage : SendStage} (unchecked : stage ≠ .checked)
    (bounded : sends.Bounded chan)
    (set : after.calls = sends.calls.set index { call with stage := stage }) :
    after.Bounded chan := by
  intro other present own checked
  rw [set] at present
  rcases List.mem_or_eq_of_mem_set present with before | rfl
  · exact bounded other before own checked
  · exact absurd checked unchecked

theorem calls_set_of_ne {stage : SendStage} (present : sends.calls[index]? = some call)
    (other : call.channelId ≠ chan ∨ call.stage = .checked) :
    ∀ holder num, sends.Holds chan holder num →
      (sends.calls.set index { call with stage := stage })[holder]? = sends.calls[holder]? := by
  rintro holder num ⟨held, transport, listed, own, claimed, -⟩
  refine List.getElem?_set_ne ?_
  rintro rfl
  obtain rfl : call = held := Option.some.inj (present.symm.trans listed)
  rcases other with foreign | checked
  · exact foreign own
  · cases checked.symm.trans claimed

theorem Numbered.claimSequence (numbered : sends.Numbered chan) :
    sends.server.claimSequence chan =
      (sends.server.setChannel chan { sends.server.channels chan with
          sequence := (sends.server.channels chan).sequence + 1 },
        some ((sends.server.channels chan).transport, (sends.server.channels chan).sequence)) := by
  have opened : ¬ sends.server.channelOpen chan = false := by
    simp [GenericServer.channelOpen, numbered.named, numbered.active]
  unfold GenericServer.claimSequence
  rw [if_neg opened]

section

variable (numbered : sends.Numbered chan) (present : sends.calls[index]? = some call)

include numbered present

theorem Numbered.not_mem_holders (checked : call.stage = .checked) :
    index ∉ sends.holders chan := by
  intro listed
  obtain ⟨place, found⟩ := List.mem_iff_getElem?.mp listed
  obtain ⟨held, transport, other, -, holding, -⟩ := numbered.held place index found
  obtain rfl : call = held := Option.some.inj (present.symm.trans other)
  cases checked.symm.trans holding

theorem claim_own (own : call.channelId = chan) (checked : call.stage = .checked)
    (long : cemiMinSize ≤ call.cemiBytes.length) : (sends.claim index call).Numbered chan := by
  have inside := (List.getElem?_eq_some_iff.mp present).1
  have fresh := numbered.not_mem_holders present checked
  obtain ⟨transport, destination⟩ := Option.isSome_iff_exists.mp numbered.transport
  unfold claim
  rw [own, numbered.claimSequence]
  dsimp only
  rw [destination]
  refine ⟨numbered.named, ?_, ?_, numbered.numbers, ?_, ?_, ?_, ?_⟩
  · simp [setChannel, numbered.active]
  · simp [setChannel]
  · simp only [setChannel, update_self, numbered.next, List.length_append,
      List.length_singleton]
    rw [← Nat.add_assoc, UInt8.ofNat_add _ 1]
    rfl
  · simp only [update_self]
    exact List.nodup_append.mpr ⟨numbered.distinct, List.nodup_singleton _, by
      rintro first listed second single rfl
      rw [List.mem_singleton.mp single] at listed
      exact fresh listed⟩
  · exact bounded_set (by simp) numbered.bounded rfl
  · intro place holder listed
    simp only [update_self] at listed
    by_cases earlier : place < (sends.holders chan).length
    · rw [List.getElem?_append_left earlier] at listed
      have holds := numbered.held place holder listed
      exact holds.of_calls (calls_set_of_ne present (.inr checked) holder _ holds)
    · rw [List.getElem?_append_right (Nat.le_of_not_lt earlier)] at listed
      obtain ⟨last, rfl⟩ := List.getElem?_eq_some_iff.mp listed
      have final : place = (sends.holders chan).length := by
        simp only [List.length_singleton] at last
        omega
      subst final
      refine ⟨⟨call.channelId, call.cemiBytes, .claimed (some transport)
          (sends.server.channels chan).sequence⟩, transport, ?_, own, ?_, long,
        numbered.bounded call (List.mem_of_getElem? present) own checked⟩
      · simp only [Nat.sub_self, List.getElem_cons_zero]
        exact List.getElem?_set_self inside
      · exact congrArg (SendStage.claimed (some transport)) numbered.next

end

theorem numbersOn_transmit (sends : ServerSends) (index : Nat) (world : Conditions)
    (call : SendCall) (transport : Option ServerTransport) (seq chan : UInt8) :
    (sends.transmit index world call transport seq).numbersOn chan =
      sends.numbersOn chan ++
        if reaches call transport seq ∧ call.channelId = chan then [seq] else [] := by
  unfold transmit numbersOn
  by_cases reached : reaches call transport seq = true
  · by_cases own : call.channelId = chan <;> simp [reached, own]
  · simp [reached]

theorem consecutive_succ (start count : Nat) :
    consecutive start (count + 1) = consecutive start count ++ [UInt8.ofNat (start + count)] := by
  unfold consecutive
  rw [List.range'_concat, List.map_append]
  simp

theorem transmit_own (numbered : sends.Numbered chan)
    (present : sends.calls[index]? = some call) (own : call.channelId = chan)
    (claimed : call.stage = .claimed transport seq)
    (oldest : (sends.holders chan).head? = some index) (world : Conditions) :
    (sends.transmit index world call transport seq).Numbered chan := by
  obtain ⟨younger, holders⟩ := List.head?_eq_some_iff.mp oldest
  obtain ⟨held, destination, listed, -, holding, long, bounded⟩ :=
    numbered.held 0 index (by rw [holders]; rfl)
  obtain rfl : call = held := Option.some.inj (present.symm.trans listed)
  obtain ⟨rfl, num⟩ := SendStage.claimed.inj (claimed.symm.trans holding)
  have reached : reaches call (some destination) seq = true := by
    unfold reaches
    rw [own, encode_sendable numbered.named long bounded]
    rfl
  have numbers : (sends.transmit index world call (some destination) seq).numbersOn
      chan = sends.numbersOn chan ++ [seq] := by
    rw [numbersOn_transmit, if_pos ⟨reached, own⟩]
  have left : (sends.transmit index world call (some destination) seq).holders chan =
      younger := by
    unfold transmit
    rw [own]
    simp only [update_self, holders, List.erase_cons_head]
  obtain ⟨lastActivityMs, channel⟩ := channels_sendClaimed sends.server world call.channelId
    call.cemiBytes (some destination) seq chan
  have distinct := numbered.distinct
  have next := numbered.next
  rw [holders] at distinct next
  refine ⟨numbered.named, ?_, ?_, ?_, ?_, ?_, ?_, ?_⟩
  · exact (congrArg Channel.active channel).trans numbered.active
  · exact (congrArg (fun val : Channel => val.transport.isSome) channel).trans numbered.transport
  · rw [numbers, List.length_append, List.length_singleton, consecutive_succ, ← numbered.numbers,
      num]
    simp
  · refine ((congrArg Channel.sequence channel).trans next).trans ?_
    rw [numbers, left]
    simp only [List.length_append, List.length_cons, List.length_nil]
    congr 1
    omega
  · rw [left]
    exact distinct.of_cons
  · exact bounded_set (by simp) numbered.bounded rfl
  · intro place holder found
    rw [left] at found
    have other : index ≠ holder := by
      rintro rfl
      exact (List.nodup_cons.mp distinct).1 (List.mem_of_getElem? found)
    have holds := numbered.held (place + 1) holder (by rw [holders]; exact found)
    rw [numbers, List.length_append, List.length_singleton, Nat.add_assoc, Nat.add_comm 1 place]
    exact holds.of_calls (List.getElem?_set_ne other)

theorem step_numbered (sends : ServerSends) (event : SendEvent)
    (numbered : sends.Numbered chan) (orderly : sends.Orderly chan event) :
    (sends.step event).Numbered chan := by
  cases event with
  | call named cemiBytes => exact enter_numbered numbered named cemiBytes
  | claim index =>
    unfold step
    dsimp only
    split
    · exact numbered
    rename_i call present
    split
    · rename_i checked
      by_cases own : call.channelId = chan
      · exact claim_own numbered present own checked (orderly call present own checked)
      · unfold claim
        have kept : (sends.server.claimSequence call.channelId).1.channels chan =
            sends.server.channels chan := by
          unfold GenericServer.claimSequence
          split
          · rfl
          · exact update_of_ne (Ne.symm own) _ _
        cases given : sends.server.claimSequence call.channelId with
        | mk srv taken =>
          rw [given] at kept
          cases taken with
          | none =>
            exact numbered.frame ⟨_, rfl⟩ rfl rfl (calls_set_of_ne present (.inl own))
              (bounded_set (by simp) numbered.bounded rfl)
          | some num =>
            obtain ⟨transport, seq⟩ := num
            refine numbered.frame ⟨_, kept⟩ rfl ?_ (calls_set_of_ne present (.inl own))
              (bounded_set (by simp) numbered.bounded rfl)
            exact update_of_ne (Ne.symm own) _ _
    · exact numbered
  | transmit index world =>
    unfold step
    dsimp only
    split
    · exact numbered
    rename_i call present
    split
    · rename_i transport seq claimed
      by_cases own : call.channelId = chan
      · exact transmit_own numbered present own claimed
          (orderly call present own (by rw [claimed]; rfl)) world
      · have numbers : (sends.transmit index world call transport seq).numbersOn chan =
            sends.numbersOn chan := by
          rw [numbersOn_transmit, if_neg (fun both => own both.2), List.append_nil]
        refine numbered.frame (channels_sendClaimed _ _ _ _ _ _ _) numbers ?_
          (calls_set_of_ne present (.inl own)) (bounded_set (by simp) numbered.bounded rfl)
        exact update_of_ne (Ne.symm own) _ _
    · exact numbered

end ServerSends

/-! ## The client at the other end -/

namespace TunnellingSession

def TakesAll (sess : TunnellingSession) : List TunnellingRequestFrame → Prop
  | [] => True
  | req :: rest =>
    (sess.onIndication req).2 = .ok () ∧ (sess.onIndication req).1.TakesAll rest

def Expects (sess : TunnellingSession) (num : Nat) : Prop :=
  sess.incomingSequenceValid = true →
    sess.nextIncomingSequence = UInt8.ofNat num ∧ sess.lastIncomingSequence + 1 = UInt8.ofNat num

theorem takesAll_consecutive {sess : TunnellingSession} {requests : List TunnellingRequestFrame}
    {start : Nat} (connected : sess.state = .connected) (expects : sess.Expects start)
    (own : ∀ req ∈ requests, req.channelId.toUInt16 = sess.channelId ∧ req.cemiBytes ≠ [])
    (numbers : requests.map (·.sequenceNumber) =
      ServerSends.consecutive start requests.length) : sess.TakesAll requests := by
  induction requests generalizing sess start with
  | nil => trivial
  | cons req rest ih =>
    obtain ⟨⟨named, carries⟩, others⟩ := List.forall_mem_cons.mp own
    simp only [List.map_cons, List.length_cons, ServerSends.consecutive, List.range'_succ,
      List.cons.injEq] at numbers
    obtain ⟨first, later⟩ := numbers
    have inOrder : ¬ (sess.duplicateIndication req = true ∨
        sess.outOfOrderIndication req = true) := by
      rintro (repeated | misplaced)
      · simp only [duplicateIndication, Bool.and_eq_true, beq_iff_eq] at repeated
        obtain ⟨⟨-, valid⟩, same⟩ := repeated
        obtain ⟨-, last⟩ := expects valid
        rw [← same, first] at last
        have count := congrArg UInt8.toNat last
        rw [UInt8.toNat_add, UInt8.toNat_one] at count
        omega
      · simp only [outOfOrderIndication, Bool.and_eq_true, bne_iff_ne] at misplaced
        obtain ⟨⟨-, valid⟩, other⟩ := misplaced
        exact other (first.trans (expects valid).1.symm)
    unfold TakesAll onIndication
    rw [if_neg (not_not.mpr connected), if_neg (not_not.mpr named), if_neg carries, if_neg inOrder]
    refine ⟨rfl, ih connected ?_ others later⟩
    intro _
    rw [first, UInt8.ofNat_add]
    exact ⟨rfl, rfl⟩

end TunnellingSession

def Channel.Opened (channel : Channel) : Prop :=
  channel.active = true ∧ channel.transport.isSome = true ∧ channel.sequence = 0

instance (channel : Channel) : Decidable channel.Opened := inferInstanceAs (Decidable (_ ∧ _))

namespace ServerSends

/-- However sends on a server overlap, the requests of a channel are numbered from zero without a
gap, the next number follows those handed over and those still held, and a client that is connected
to the channel takes every request, where numbers are taken for whole frames and handed over in the
order they were taken. -/
theorem numbers_without_gap (srv : GenericServer) (chan : UInt8) (events : List SendEvent)
    (named : chan ≠ 0) (opened : (srv.channels chan).Opened)
    (orderly : Admissible step (Orderly chan) { server := srv } events) :
    let sends := run step { server := srv } events
    sends.numbersOn chan = consecutive 0 (sends.numbersOn chan).length ∧
      (sends.server.channels chan).sequence =
        UInt8.ofNat ((sends.numbersOn chan).length + (sends.holders chan).length) ∧
      ∀ (sess : TunnellingSession) (requests : List TunnellingRequestFrame),
        sess.state = .connected → sess.incomingSequenceValid = false →
        (∀ req ∈ requests, req.channelId.toUInt16 = sess.channelId ∧ req.cemiBytes ≠ []) →
        requests.map (·.sequenceNumber) = sends.numbersOn chan →
        sess.TakesAll requests := by
  intro sends
  have initially : ({ server := srv } : ServerSends).Numbered chan := by
    obtain ⟨active, transport, seq⟩ := opened
    refine ⟨named, active, transport, rfl, seq, List.nodup_nil, ?_, ?_⟩
    · intro call present
      cases present
    · intro place index present
      cases present
  have numbered : sends.Numbered chan :=
    invariant_run (fun state event holds allowed => step_numbered state event holds allowed)
      initially orderly
  refine ⟨numbered.numbers, numbered.next, ?_⟩
  intro sess requests connected untaken own numbers
  have size : requests.length = (sends.numbersOn chan).length := by
    rw [← numbers, List.length_map]
  refine TunnellingSession.takesAll_consecutive connected ?_ own
    (numbers.trans (numbered.numbers.trans (by rw [size])))
  intro valid
  rw [untaken] at valid
  cases valid

def overlappingSends (frames : List Octets) (order : List Nat) : List SendEvent :=
  frames.map (SendEvent.call 1) ++ (List.range frames.length).map SendEvent.claim ++
    order.map (fun index => .transmit index (deliveryConditions (fun pkt => .ok pkt.length)))

/-- Two sends that overlap and hand over in turn. -/
theorem numbers_without_gap_overlapping :
    let sends := run step { server := deliveryServer }
      (overlappingSends [deliveryCemi 0x81, deliveryCemi 0x80] [0, 1])
    sends.numbersOn 1 = [0, 1] ∧ (sends.server.channels 1).sequence = 2 ∧
      sends.numbersOn 1 = consecutive 0 (sends.numbersOn 1).length := by
  refine ⟨by decide +kernel, by decide +kernel, ?_⟩
  exact (numbers_without_gap deliveryServer 1 _ (by decide) (by decide +kernel)
    (by decide +kernel)).1

/-- A frame of one octet takes a number and is not encoded, which leaves a gap; two sends that
overlap hand over their numbers in the other order. -/
theorem numbers_lost_or_swapped :
    (deliveryServer.channels 1).Opened ∧ (run step { server := deliveryServer }
        (overlappingSends [deliveryCemi 0x81, [0x11], deliveryCemi 0x80] [0, 1, 2])).numbersOn 1 =
          [0, 2] ∧ (run step { server := deliveryServer }
        (overlappingSends [deliveryCemi 0x81, deliveryCemi 0x80] [1, 0])).numbersOn 1 = [1, 0] := by
  decide +kernel

end ServerSends

end KmxAio.Knx
