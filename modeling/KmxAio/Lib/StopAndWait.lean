import Mathlib.Data.List.Basic
import Mathlib.Data.List.Forall2

/-!
# Stop and wait over faulty channels

A sender numbers its requests and makes the next one only when it has seen the last
one acknowledged; a receiver takes requests in turn and acknowledges those it has
taken. Requests and acknowledgements travel over two first-in first-out channels
that may lose and duplicate what they carry. The numbers here are the unbounded
ones.
-/

namespace KmxAio.Lib

/-! ## Faulty channels -/

/-- What may happen to one entry of a channel, counted from its front. -/
inductive ChannelFault where
  | lose (position : Nat)
  | duplicate (position : Nat)
  deriving DecidableEq

/-- The copy stands next to the entry, so that the order is kept. -/
def duplicateAt {α : Type} : List α → Nat → List α
  | [], _ => []
  | entry :: rest, 0 => entry :: entry :: rest
  | entry :: rest, spot + 1 => entry :: duplicateAt rest spot

def suffer {α : Type} (channel : List α) : ChannelFault → List α
  | .lose spot => channel.eraseIdx spot
  | .duplicate spot => duplicateAt channel spot

section Channels

variable {α β : Type} {channel : List α}

theorem mem_duplicateAt {entry : α} {spot : Nat} (present : entry ∈ duplicateAt channel spot) :
    entry ∈ channel := by
  induction channel generalizing spot with
  | nil => exact present
  | cons first rest ih =>
    cases spot with
    | zero => simpa [duplicateAt] using present
    | succ spot =>
      rcases List.mem_cons.mp present with rfl | later
      · exact List.mem_cons_self
      · exact List.mem_cons_of_mem _ (ih later)

theorem mem_suffer {entry : α} {fault : ChannelFault} (present : entry ∈ suffer channel fault) :
    entry ∈ channel := by
  cases fault with
  | lose spot => exact List.mem_of_mem_eraseIdx present
  | duplicate spot => exact mem_duplicateAt present

/-- No fault changes the order of what arrives. -/
theorem pairwise_suffer {relation : α → α → Prop} (reflexive : ∀ entry, relation entry entry)
    (ordered : channel.Pairwise relation) (fault : ChannelFault) :
    (suffer channel fault).Pairwise relation := by
  cases fault with
  | lose spot => exact ordered.sublist (List.eraseIdx_sublist ..)
  | duplicate spot =>
    simp only [suffer]
    induction channel generalizing spot with
    | nil => exact ordered
    | cons first rest ih =>
      obtain ⟨before, restOrdered⟩ := List.pairwise_cons.mp ordered
      cases spot with
      | zero =>
        simp only [duplicateAt, List.pairwise_cons, List.forall_mem_cons]
        exact ⟨⟨reflexive first, before⟩, before, restOrdered⟩
      | succ spot =>
        refine List.pairwise_cons.mpr ⟨?_, ih restOrdered spot⟩
        exact fun entry present => before entry (mem_duplicateAt present)

/-- Two channels that carry the same thing still do after the same fault. -/
theorem forall₂_suffer {relation : α → β → Prop} {other : List β}
    (related : List.Forall₂ relation channel other) (fault : ChannelFault) :
    List.Forall₂ relation (suffer channel fault) (suffer other fault) := by
  cases fault with
  | lose spot =>
    induction related generalizing spot with
    | nil => exact .nil
    | cons here rest ih =>
      cases spot with
      | zero => exact rest
      | succ spot => exact .cons here (ih spot)
  | duplicate spot =>
    induction related generalizing spot with
    | nil => exact .nil
    | cons here rest ih =>
      cases spot with
      | zero => exact .cons here (.cons here rest)
      | succ spot => exact .cons here (ih spot)

theorem forall₂_snoc {relation : α → β → Prop} {other : List β} {last : α} {otherLast : β}
    (related : List.Forall₂ relation channel other) (final : relation last otherLast) :
    List.Forall₂ relation (channel ++ [last]) (other ++ [otherLast]) := by
  induction related with
  | nil => exact .cons final .nil
  | cons here rest ih => exact .cons here ih

end Channels

/-! ## The exchange -/

/-- How many requests have been made, seen acknowledged and taken, and the numbers under way. -/
structure Exchange where
  made : Nat := 0
  acknowledged : Nat := 0
  taken : Nat := 0
  requests : List Nat := []
  acks : List Nat := []

namespace Exchange

/-- The three counts are within one of each other, and what is under way is in order and no older
than the entry before the one waited for. -/
structure Sound (exchange : Exchange) : Prop where
  made_le : exchange.made ≤ exchange.acknowledged + 1
  acknowledged_le : exchange.acknowledged ≤ exchange.taken
  taken_le : exchange.taken ≤ exchange.made
  requests_ordered : exchange.requests.Pairwise (· ≤ ·)
  requests_lt : ∀ index ∈ exchange.requests, index < exchange.made
  requests_recent : ∀ index ∈ exchange.requests, exchange.taken ≤ index + 1
  acks_ordered : exchange.acks.Pairwise (· ≤ ·)
  acks_lt : ∀ index ∈ exchange.acks, index < exchange.taken
  acks_recent : ∀ index ∈ exchange.acks, exchange.acknowledged ≤ index + 1

theorem sound_initially : Sound {} where
  made_le := Nat.zero_le _
  acknowledged_le := Nat.le_refl _
  taken_le := Nat.le_refl _
  requests_ordered := .nil
  requests_lt := by simp
  requests_recent := by simp
  acks_ordered := .nil
  acks_lt := by simp
  acks_recent := by simp

theorem ordered_snoc {entries : List Nat} {last : Nat} (ordered : entries.Pairwise (· ≤ ·))
    (bounded : ∀ entry ∈ entries, entry ≤ last) : (entries ++ [last]).Pairwise (· ≤ ·) := by
  refine List.pairwise_append.mpr ⟨ordered, List.pairwise_singleton _ _, ?_⟩
  intro entry present other only
  rw [List.mem_singleton.mp only]
  exact bounded entry present

theorem forall_mem_snoc {condition : Nat → Prop} {entries : List Nat} {last : Nat}
    (earlier : ∀ entry ∈ entries, condition entry) (final : condition last) :
    ∀ entry ∈ entries ++ [last], condition entry :=
  List.forall_mem_append.mpr ⟨earlier, List.forall_mem_singleton.mpr final⟩

/-! ## The sender's side -/

variable (exchange : Exchange) (later : List Nat)

def request : Exchange :=
  { exchange with
    made := exchange.made + 1
    requests := exchange.requests ++ [exchange.made] }

/-- The request waited for goes out again. -/
def resend : Exchange :=
  { exchange with requests := exchange.requests ++ [exchange.acknowledged] }

/-- The acknowledgement at the front is the one waited for. -/
def acknowledge : Exchange :=
  { exchange with acknowledged := exchange.acknowledged + 1, acks := later }

/-! ## The receiver's side -/

/-- The request at the front is the one in turn. -/
def take : Exchange :=
  { exchange with
    taken := exchange.taken + 1
    requests := later
    acks := exchange.acks ++ [exchange.taken] }

/-- The request at the front repeats the one taken last, and is acknowledged again. -/
def repeatAck (index : Nat) (later : List Nat) : Exchange :=
  { exchange with requests := later, acks := exchange.acks ++ [index] }

section Steps

variable {exchange}

theorem Sound.request (sound : exchange.Sound) (idle : exchange.made = exchange.acknowledged) :
    exchange.request.Sound :=
  { sound with
    made_le := by simp only [Exchange.request]; omega
    taken_le := Nat.le_succ_of_le sound.taken_le
    requests_ordered :=
      ordered_snoc sound.requests_ordered
        (fun index under => Nat.le_of_lt (sound.requests_lt index under))
    requests_lt :=
      forall_mem_snoc (fun index under => Nat.lt_succ_of_lt (sound.requests_lt index under))
        (Nat.lt_succ_self _)
    requests_recent :=
      forall_mem_snoc sound.requests_recent
        (Nat.le_succ_of_le sound.taken_le) }

theorem Sound.resend (sound : exchange.Sound) (pending : exchange.made = exchange.acknowledged + 1) :
    exchange.resend.Sound :=
  { sound with
    requests_ordered := by
      refine ordered_snoc sound.requests_ordered (fun index under => ?_)
      have := sound.requests_lt index under
      omega
    requests_lt :=
      forall_mem_snoc sound.requests_lt
        (Nat.lt_of_lt_of_eq (Nat.lt_succ_self _) pending.symm)
    requests_recent :=
      forall_mem_snoc sound.requests_recent
        (pending ▸ sound.taken_le) }

theorem Sound.sufferRequests (sound : exchange.Sound) (fault : ChannelFault) :
    { exchange with requests := suffer exchange.requests fault }.Sound :=
  { sound with
    requests_ordered := pairwise_suffer Nat.le_refl sound.requests_ordered fault
    requests_lt := fun index under => sound.requests_lt index (mem_suffer under)
    requests_recent := fun index under => sound.requests_recent index (mem_suffer under) }

theorem Sound.sufferAcks (sound : exchange.Sound) (fault : ChannelFault) :
    { exchange with acks := suffer exchange.acks fault }.Sound :=
  { sound with
    acks_ordered := pairwise_suffer Nat.le_refl sound.acks_ordered fault
    acks_lt := fun index under => sound.acks_lt index (mem_suffer under)
    acks_recent := fun index under => sound.acks_recent index (mem_suffer under) }

variable {later}

theorem Sound.front_request {index : Nat} (sound : exchange.Sound)
    (front : exchange.requests = index :: later) :
    index = exchange.taken ∨ index + 1 = exchange.taken := by
  have under : index ∈ exchange.requests := by simp [front]
  have := sound.requests_lt index under
  have := sound.requests_recent index under
  have := sound.made_le
  have := sound.acknowledged_le
  omega

/-- A waiting sender meets the acknowledgement it waits for or the one before. -/
theorem Sound.front_ack {index : Nat} (sound : exchange.Sound)
    (front : exchange.acks = index :: later) (pending : exchange.made = exchange.acknowledged + 1) :
    index = exchange.acknowledged ∨ index + 1 = exchange.acknowledged := by
  have under : index ∈ exchange.acks := by simp [front]
  have := sound.acks_lt index under
  have := sound.acks_recent index under
  have := sound.taken_le
  omega

theorem Sound.take (sound : exchange.Sound) (front : exchange.requests = exchange.taken :: later) :
    (exchange.take later).Sound := by
  have ordered := sound.requests_ordered
  rw [front] at ordered
  obtain ⟨first, laterOrdered⟩ := List.pairwise_cons.mp ordered
  have kept : ∀ index ∈ later, index ∈ exchange.requests :=
    fun index under => front ▸ List.mem_cons_of_mem _ under
  exact
    { made_le := sound.made_le
      acknowledged_le := Nat.le_succ_of_le sound.acknowledged_le
      taken_le := sound.requests_lt _ (front ▸ List.mem_cons_self)
      requests_ordered := laterOrdered
      requests_lt := fun index under => sound.requests_lt index (kept index under)
      requests_recent := fun index under => Nat.succ_le_succ (first index under)
      acks_ordered :=
        ordered_snoc sound.acks_ordered
          (fun index under => Nat.le_of_lt (sound.acks_lt index under))
      acks_lt :=
        forall_mem_snoc (fun index under => Nat.lt_succ_of_lt (sound.acks_lt index under))
          (Nat.lt_succ_self _)
      acks_recent :=
        forall_mem_snoc sound.acks_recent
          (Nat.le_succ_of_le sound.acknowledged_le) }

theorem Sound.repeatAck {index : Nat} (sound : exchange.Sound)
    (front : exchange.requests = index :: later) (behind : index + 1 = exchange.taken) :
    (exchange.repeatAck index later).Sound := by
  have kept : ∀ other ∈ later, other ∈ exchange.requests :=
    fun other under => front ▸ List.mem_cons_of_mem _ under
  have ordered := sound.requests_ordered
  rw [front] at ordered
  exact
    { sound with
      requests_ordered := (List.pairwise_cons.mp ordered).2
      requests_lt := fun other under => sound.requests_lt other (kept other under)
      requests_recent := fun other under => sound.requests_recent other (kept other under)
      acks_ordered := by
        refine ordered_snoc sound.acks_ordered (fun other under => ?_)
        have := sound.acks_lt other under
        omega
      acks_lt :=
        forall_mem_snoc sound.acks_lt
          (Nat.lt_of_lt_of_eq (Nat.lt_succ_self _) behind)
      acks_recent :=
        forall_mem_snoc sound.acks_recent
          (behind ▸ sound.acknowledged_le) }

theorem Sound.acknowledge (sound : exchange.Sound)
    (front : exchange.acks = exchange.acknowledged :: later) :
    (exchange.acknowledge later).Sound := by
  have ordered := sound.acks_ordered
  rw [front] at ordered
  obtain ⟨first, laterOrdered⟩ := List.pairwise_cons.mp ordered
  have kept : ∀ index ∈ later, index ∈ exchange.acks :=
    fun index under => front ▸ List.mem_cons_of_mem _ under
  exact
    { sound with
      made_le := Nat.le_succ_of_le sound.made_le
      acknowledged_le := sound.acks_lt _ (front ▸ List.mem_cons_self)
      acks_ordered := laterOrdered
      acks_lt := fun index under => sound.acks_lt index (kept index under)
      acks_recent := fun index under => Nat.succ_le_succ (first index under) }

end Steps

end Exchange

end KmxAio.Lib
