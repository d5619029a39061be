import KmxAio.Knx.ChannelIsolation

/-!
# The addresses of a plain server

A channel and its address are one slot. The address of a slot counts up from the
first address of the configuration and wraps after 0xFFFF; an address a client asks
for is taken back to its slot in plain integers, which do not wrap.
-/

namespace KmxAio.Knx

open Lib Connection

namespace GenericServer

/-- A plain server whose open channels are slots it has, each with the address of its slot. -/
structure Addressed (srv : GenericServer) : Prop where
  plain : srv.sessions = none
  within : ∀ id, (srv.channels id).active = true → srv.withinLimit id
  address : ∀ id, (srv.channels id).active = true →
    (srv.channels id).assignedAddress = srv.assignedAddress id

/-- The addresses from the first one to that of the slot do not pass 0xFFFF. -/
def Unwrapped (srv : GenericServer) (id : UInt8) : Prop :=
  srv.config.firstAssignedAddress.toNat + id.toNat ≤ 2 ^ 16

instance (srv : GenericServer) (id : UInt8) : Decidable (srv.Unwrapped id) :=
  inferInstanceAs (Decidable (_ ≤ _))

section Addresses

variable {srv : GenericServer} {world : Conditions} {id : UInt8}

/-! ## Along a run -/

theorem RowChange.addressed {activity : Bool} {val : Channel}
    (change : srv.RowChange world id activity val) (before : srv.Addressed)
    (active : val.active = true) :
    srv.withinLimit id ∧ val.assignedAddress = srv.assignedAddress id := by
  cases change with
  | kept | claimed opened | received opened seq | noted opened =>
    exact ⟨before.within id active, before.address id active⟩
  | released => cases active
  | opened _ opened => exact ⟨opened.within, opened.address before.plain⟩

theorem act_addressed (before : srv.Addressed) (action : ServerAction) :
    (srv.act world action).Addressed := by
  have setup := srv.act_setup world action
  refine ⟨setup.plain before.plain, fun id active => ?_, fun id active => ?_⟩
  · rw [withinLimit, setup.config]
    exact ((srv.act_row world action id).addressed before active).1
  · rw [assignedAddress, setup.config]
    exact ((srv.act_row world action id).addressed before active).2

theorem actAll_addressed (before : srv.Addressed) (steps : List (Conditions × ServerAction)) :
    (srv.actAll steps).Addressed := by
  induction steps generalizing srv with
  | nil => exact before
  | cons step rest ih => exact ih (act_addressed before step.2)

/-! ## From a slot to its address and back -/

theorem assignedAddress_toNat (positive : id ≠ 0) :
    (srv.assignedAddress id).toNat =
      (srv.config.firstAssignedAddress.toNat + id.toNat - 1) % 2 ^ 16 := by
  have nonzero : id.toNat ≠ 0 := fun zero => positive (UInt8.toNat_inj.mp zero)
  simp only [assignedAddress, UInt16.toNat_sub, UInt16.toNat_add, UInt8.toNat_toUInt16,
    UInt16.toNat_one]
  omega

theorem Addressed.distinct (addressed : srv.Addressed) {first second : UInt8}
    (one : (srv.channels first).active = true) (other : (srv.channels second).active = true)
    (same : (srv.channels first).assignedAddress = (srv.channels second).assignedAddress) :
    first = second := by
  rw [addressed.address first one, addressed.address second other] at same
  have equal := congrArg UInt16.toNat same
  rw [assignedAddress_toNat (addressed.within first one).1,
    assignedAddress_toNat (addressed.within second other).1] at equal
  have firstNonzero : first.toNat ≠ 0 :=
    fun zero => (addressed.within first one).1 (UInt8.toNat_inj.mp zero)
  have secondNonzero : second.toNat ≠ 0 :=
    fun zero => (addressed.within second other).1 (UInt8.toNat_inj.mp zero)
  have firstSmall := first.toNat_lt
  have secondSmall := second.toNat_lt
  refine UInt8.toNat_inj.mp ?_
  omega

/-- The address of a slot leads back to the slot, unless the addresses wrapped on the way to it. -/
theorem allocateChannel_assigned (within : srv.withinLimit id) :
    srv.allocateChannel (some (srv.assignedAddress id)) =
      if srv.Unwrapped id then
        if (srv.channels id).active then .error .connectionInUse else .ok id
      else .error .noTunnellingAddress := by
  have nonzero : id.toNat ≠ 0 := fun zero => within.1 (UInt8.toNat_inj.mp zero)
  have limited := within.2
  unfold allocateChannel
  dsimp only
  have slot : ((srv.assignedAddress id).toNat : Int) - srv.config.firstAssignedAddress.toNat + 1 =
      if srv.Unwrapped id then (id.toNat : Int) else id.toNat - 2 ^ 16 := by
    have nonzero : id.toNat ≠ 0 := fun zero => within.1 (UInt8.toNat_inj.mp zero)
    have small := id.toNat_lt
    have first := srv.config.firstAssignedAddress.toNat_lt
    rw [assignedAddress_toNat within.1]
    unfold Unwrapped
    split_ifs <;> omega
  rw [slot]
  by_cases unwrapped : srv.Unwrapped id
  · rw [if_pos unwrapped, if_pos unwrapped, if_neg (by omega), Int.toNat_natCast, UInt8.ofNat_toNat]
  · rw [if_neg unwrapped, if_neg unwrapped, if_pos (by omega)]

def Gives (srv : GenericServer) (id : UInt8) (offered : GenericServer × ConnectionOffer) : Prop :=
  offered.2 = ⟨id, .noError, srv.assignedAddress id, true⟩ ∧
    (offered.1.channels id).active = true ∧
    (offered.1.channels id).assignedAddress = srv.assignedAddress id

instance (srv : GenericServer) (id : UInt8) (offered : GenericServer × ConnectionOffer) :
    Decidable (srv.Gives id offered) :=
  inferInstanceAs (Decidable (_ ∧ _ ∧ _))

end Addresses

/-- Whatever a plain server went through, its open channels hold different addresses. A connect that
asks for the address of a free slot is given that slot, and one that asks for the address of an open
channel is told that it is in use, exactly for the slots before the addresses wrap. -/
theorem plain_addresses (config : ServerConfig) (hasSocket : Bool)
    (steps : List (Conditions × ServerAction)) :
    let srv := (create config hasSocket none).actAll steps
    (∀ first second, (srv.channels first).active = true →
      (srv.channels second).active = true →
      (srv.channels first).assignedAddress = (srv.channels second).assignedAddress →
      first = second) ∧
    ∀ (world : Conditions) (req : ConnectRequestFrame) (origin : Origin) (id : UInt8),
      origin.sessionId = 0 →
      (srv.withinLimit id → (srv.channels id).active = false →
        req.requestedAddress = some (srv.assignedAddress id) →
        (srv.Gives id (srv.offerTo world req origin) ↔ srv.Unwrapped id)) ∧
      ((srv.channels id).active = true →
        req.requestedAddress = some (srv.channels id).assignedAddress →
        (srv.offerTo world req origin = (srv, { status := .connectionInUse }) ↔
          srv.Unwrapped id)) := by
  intro srv
  have start : (create config hasSocket none).Addressed := by
    refine ⟨rfl, fun id active => ?_, fun id active => ?_⟩ <;> cases active
  have addressed : srv.Addressed := actAll_addressed start steps
  refine ⟨fun first second one other same => addressed.distinct one other same, ?_⟩
  intro world req origin id clear
  obtain ⟨refused, given⟩ : (∀ status, srv.allocateChannel req.requestedAddress = .error status →
      srv.offerTo world req origin = (srv, { status := status })) ∧ ∀ id, srv.allocateChannel
      req.requestedAddress = .ok id → srv.Gives id (srv.offerTo world req origin) := by
    have plain : ¬ origin.sessionId ≠ 0 := fun secure => secure clear
    unfold offerTo
    simp only [if_neg plain]
    unfold offerChannel
    refine ⟨fun status refused => ?_, fun id allocated => ?_⟩
    · rw [refused]
    · rw [allocated]
      refine ⟨rfl, ?_, ?_⟩ <;> dsimp only <;> rw [channels_setChannel, if_pos rfl]
  refine ⟨fun within free asked => ?_, fun active asked => ?_⟩
  · rw [asked, allocateChannel_assigned within] at refused given
    refine ⟨fun gives => ?_, fun unwrapped => given id (by simp [unwrapped, free])⟩
    by_contra wrapped
    rw [refused .noTunnellingAddress (if_neg wrapped)] at gives
    cases gives.1
  · rw [addressed.address id active] at asked
    rw [asked, allocateChannel_assigned (addressed.within id active)] at refused
    refine ⟨fun inUse => ?_, fun unwrapped => refused _ (by simp [unwrapped, active])⟩
    by_contra wrapped
    rw [refused .noTunnellingAddress (if_neg wrapped)] at inUse
    cases inUse

def connectAsking (address : IndividualAddress) : ConnectRequestFrame :=
  { controlEndpoint := Hpai.default
    dataEndpoint := Hpai.default
    knxLayer := tunnelLinkLayer
    requestedAddress := some address }

def twoSlots (first : IndividualAddress) : GenericServer :=
  create { maxChannels := 2, firstAssignedAddress := first } true none

def twoConnects : List (Conditions × ServerAction) :=
  [(conditionsAt 100, .receive secondConnect ⟨.socket, deliveryPeer, 0⟩),
    (conditionsAt 200, .receive secondConnect ⟨.socket, secondPeer, 0⟩)]

/-- The slots of a server that starts at 0xFFFF have the addresses 0xFFFF and 0x0000. The second one
is given out and cannot be asked for, neither while it is free nor while it is in use. -/
theorem wrappedAddress_refused :
    (twoSlots 0xFFFF).assignedAddress 2 = 0x0000 ∧
      ((twoSlots 0xFFFF).offerTo (conditionsAt 100) (connectAsking 0x0000)
        ⟨.socket, deliveryPeer, 0⟩).2 = { status := .noTunnellingAddress } ∧
      (((twoSlots 0xFFFF).actAll twoConnects).channels 2).active = true ∧
      (((twoSlots 0xFFFF).actAll twoConnects).channels 2).assignedAddress = 0x0000 ∧
      (((twoSlots 0xFFFF).actAll twoConnects).offerTo (conditionsAt 300) (connectAsking 0x0000)
        ⟨.socket, deliveryPeer, 0⟩).2 = { status := .noTunnellingAddress } := by
  decide +kernel

/-- On a server that starts one address earlier, the second slot is given to the client that asks
for it, and is in use afterwards. -/
theorem lastAddress_given :
    (twoSlots 0xFFFE).Gives 2 ((twoSlots 0xFFFE).offerTo (conditionsAt 100) (connectAsking 0xFFFF)
          ⟨.socket, deliveryPeer, 0⟩) ∧
      ((twoSlots 0xFFFE).actAll twoConnects).offerTo (conditionsAt 300) (connectAsking 0xFFFF)
          ⟨.socket, deliveryPeer, 0⟩ =
        ((twoSlots 0xFFFE).actAll twoConnects, { status := .connectionInUse }) := by
  obtain ⟨-, free⟩ := plain_addresses { maxChannels := 2, firstAssignedAddress := 0xFFFE } true []
  obtain ⟨-, used⟩ :=
    plain_addresses { maxChannels := 2, firstAssignedAddress := 0xFFFE } true twoConnects
  refine ⟨?_, ?_⟩
  · refine ((free (conditionsAt 100) (connectAsking 0xFFFF) ⟨.socket, deliveryPeer, 0⟩ 2 rfl).1
      ⟨by decide, ?_⟩ rfl ?_).mpr ?_ <;> decide +kernel
  · refine ((used (conditionsAt 300) (connectAsking 0xFFFF) ⟨.socket, deliveryPeer, 0⟩ 2 rfl).2
      ?_ ?_).mpr ?_ <;> decide +kernel

end GenericServer

end KmxAio.Knx
