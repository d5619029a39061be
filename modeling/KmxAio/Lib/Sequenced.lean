import Mathlib.Data.List.Sort
import Mathlib.Data.List.Range
import Mathlib.Logic.Relation
import Mathlib.Logic.Function.Basic

/-!
# Numbered messages under keys that are used once

A party numbers what it sends under a key from zero, and takes what it receives
under a key only when its number is above the last one taken. It adopts a key
once, may hold several at a time, and forgets a key together with both counters.
Whatever order these things happen in, the numbers sent under one key are
`0, 1, 2, …` without a gap, and the numbers taken under one key increase.

Two such parties that only take what the other one sent under the same key take
an in-order, duplicate-free part of it.
-/

namespace KmxAio.Lib.Sequenced

open Function

/-- One message: the key it was protected under, its number, and what it carried. -/
structure Numbered (Key Payload : Type) where
  key : Key
  number : Nat
  payload : Payload
  deriving DecidableEq

/-- The two counters of a key in use: the next number to send and the last one taken. -/
structure Window where
  next : Nat
  last : Option Nat
  deriving DecidableEq

/-- Whether a number is above the last one taken. -/
def Window.Admits (window : Window) (num : Nat) : Prop :=
  ∀ taken, window.last = some taken → taken < num

/-- A party, with everything it ever sent and handed on. -/
structure Party (Key Payload : Type) where
  window : Key → Option Window
  used : List Key
  sent : List (Numbered Key Payload)
  delivered : List (Numbered Key Payload)

variable {Key Payload : Type} [DecidableEq Key]

/-- The messages of one key, in order. -/
def ofKey (key : Key) (messages : List (Numbered Key Payload)) : List (Numbered Key Payload) :=
  messages.filter (fun msg => msg.key = key)

@[simp] theorem ofKey_append (key : Key) (first second : List (Numbered Key Payload)) :
    ofKey key (first ++ second) = ofKey key first ++ ofKey key second :=
  List.filter_append ..

theorem ofKey_singleton_same (msg : Numbered Key Payload) : ofKey msg.key [msg] = [msg] := by
  simp [ofKey]

variable {key : Key} {msg : Numbered Key Payload} {limit : Nat} {party next : Party Key Payload}
  {window : Window}

theorem ofKey_singleton_other (other : msg.key ≠ key) : ofKey key [msg] = [] := by
  simp [ofKey, other]

theorem mem_ofKey {messages : List (Numbered Key Payload)} :
    msg ∈ ofKey key messages ↔ msg ∈ messages ∧ msg.key = key := by
  simp [ofKey]

/-- What a party may do. A taken message need not be handed on. -/
inductive Step (limit : Nat) : Party Key Payload → Party Key Payload → Prop where
  | adopt {party : Party Key Payload} (key : Key) (fresh : key ∉ party.used) :
      Step limit party
        { party with
          window := update party.window key (some ⟨0, none⟩)
          used := key :: party.used }
  | send {party : Party Key Payload} {key : Key} {window : Window} (payload : Payload)
      (current : party.window key = some window) (bounded : window.next ≤ limit) :
      Step limit party
        { party with
          window := update party.window key (some { window with next := window.next + 1 })
          sent := party.sent ++ [⟨key, window.next, payload⟩] }
  | take {party : Party Key Payload} {key : Key} {window : Window} (number : Nat)
      (handed : Option Payload) (current : party.window key = some window)
      (admits : window.Admits number) :
      Step limit party
        { party with
          window := update party.window key (some { window with last := some number })
          delivered := party.delivered ++ (handed.map (fun payload => ⟨key, number, payload⟩)).toList }
  | forget {party : Party Key Payload} (window : Key → Option Window)
      (kept : ∀ key, window key = none ∨ window key = party.window key) :
      Step limit party { party with window := window }

/-- A party that has done nothing. -/
def Party.initial : Party Key Payload := ⟨fun _ => none, [], [], []⟩

abbrev Steps (limit : Nat) : Party Key Payload → Party Key Payload → Prop :=
  Relation.ReflTransGen (Step limit)

theorem steps_take_forget (num : Nat) (handed : Option Payload)
    (current : party.window key = some window) (admits : window.Admits num)
    {after : Key → Option Window} (kept : ∀ other, after other = none ∨ after other =
      update party.window key (some { window with last := some num }) other) :
    Steps limit party
      { party with
        window := after
        delivered := party.delivered ++
          (handed.map (fun payload => ⟨key, num, payload⟩)).toList } :=
  (Relation.ReflTransGen.single (.take num handed current admits)).tail (.forget after kept)

/-- What holds of every party: a key in use has been adopted, its counters say what was sent and
bound what was taken, and a key that was never adopted carried nothing. -/
structure Party.Consistent (limit : Nat) (party : Party Key Payload) : Prop where
  adopted : ∀ key window, party.window key = some window → key ∈ party.used
  sent_next : ∀ key window, party.window key = some window →
    (ofKey key party.sent).map Numbered.number = List.range window.next
  sent_range : ∀ key, ∃ count, count ≤ limit + 1 ∧
    (ofKey key party.sent).map Numbered.number = List.range count
  taken_last : ∀ key window, party.window key = some window →
    ∀ message ∈ ofKey key party.delivered, ∃ taken, window.last = some taken ∧
      message.number ≤ taken
  taken_increasing : ∀ key, (ofKey key party.delivered).Pairwise
    (fun earlier later => earlier.number < later.number)
  unused : ∀ key, key ∉ party.used → ofKey key party.sent = [] ∧ ofKey key party.delivered = []

theorem consistent_initial (limit : Nat) :
    (Party.initial : Party Key Payload).Consistent limit where
  adopted := by intro key window current; cases current
  sent_next := by intro key window current; cases current
  sent_range := by intro key; exact ⟨0, Nat.zero_le _, rfl⟩
  taken_last := by intro key window current; cases current
  taken_increasing := by intro key; exact List.Pairwise.nil
  unused := by intro key _; exact ⟨rfl, rfl⟩

/-- Reading a window that was just written: the written key, or another one left alone. -/
theorem update_window_cases {windows : Key → Option Window} {other : Key} {written : Window}
    (current : update windows key (some written) other = some window) :
    other = key ∧ window = written ∨ other ≠ key ∧ windows other = some window := by
  by_cases same : other = key
  · subst same
    rw [update_self] at current
    exact .inl ⟨rfl, (Option.some.inj current).symm⟩
  · rw [update_of_ne same] at current
    exact .inr ⟨same, current⟩

theorem consistent_adopt (consistent : party.Consistent limit) (fresh : key ∉ party.used) :
    Party.Consistent limit
      { party with
        window := update party.window key (some ⟨0, none⟩)
        used := key :: party.used } where
  adopted := by
    intro other window current
    rcases update_window_cases current with ⟨rfl, -⟩ | ⟨-, old⟩
    · exact List.mem_cons_self
    · exact List.mem_cons_of_mem _ (consistent.adopted other window old)
  sent_next := by
    intro other window current
    rcases update_window_cases current with ⟨rfl, rfl⟩ | ⟨-, old⟩
    · simp [(consistent.unused other fresh).1]
    · exact consistent.sent_next other window old
  sent_range := consistent.sent_range
  taken_last := by
    intro other window current msg found
    rcases update_window_cases current with ⟨rfl, rfl⟩ | ⟨-, old⟩
    · simp [(consistent.unused other fresh).2] at found
    · exact consistent.taken_last other window old msg found
  taken_increasing := consistent.taken_increasing
  unused := by
    intro other unknown
    exact consistent.unused other (fun used => unknown (List.mem_cons_of_mem _ used))

theorem consistent_send (payload : Payload) (consistent : party.Consistent limit)
    (current : party.window key = some window) (bounded : window.next ≤ limit) :
    Party.Consistent limit
      { party with
        window := update party.window key (some { window with next := window.next + 1 })
        sent := party.sent ++ [⟨key, window.next, payload⟩] } := by
  -- Under the key itself the numbers grow by the next one; no other key gains a message.
  have same : (ofKey key (party.sent ++ [⟨key, window.next, payload⟩])).map Numbered.number =
      List.range (window.next + 1) := by
    rw [ofKey_append, List.map_append, consistent.sent_next key window current,
      ofKey_singleton_same ⟨key, window.next, payload⟩, List.range_succ]
    rfl
  have other : ∀ {found : Key}, found ≠ key →
      ofKey found (party.sent ++ [⟨key, window.next, payload⟩]) = ofKey found party.sent := by
    intro found different
    rw [ofKey_append, ofKey_singleton_other (Ne.symm different), List.append_nil]
  refine ⟨?_, ?_, ?_, ?_, consistent.taken_increasing, ?_⟩
  · intro found read present
    rcases update_window_cases present with ⟨rfl, -⟩ | ⟨-, old⟩
    · exact consistent.adopted found window current
    · exact consistent.adopted found read old
  · intro found read present
    rcases update_window_cases present with ⟨rfl, rfl⟩ | ⟨different, old⟩
    · exact same
    · rw [other different]
      exact consistent.sent_next found read old
  · intro found
    by_cases sameKey : found = key
    · subst sameKey
      exact ⟨window.next + 1, by omega, same⟩
    · rw [other sameKey]
      exact consistent.sent_range found
  · intro found read present msg taken
    rcases update_window_cases present with ⟨rfl, rfl⟩ | ⟨-, old⟩
    · exact consistent.taken_last found window current msg taken
    · exact consistent.taken_last found read old msg taken
  · intro found unknown
    have different : found ≠ key := by
      rintro rfl
      exact unknown (consistent.adopted found window current)
    rw [other different]
    exact consistent.unused found unknown

theorem consistent_take (num : Nat) (handed : Option Payload)
    (consistent : party.Consistent limit) (current : party.window key = some window)
    (admits : window.Admits num) :
    Party.Consistent limit
      { party with
        window := update party.window key (some { window with last := some num })
        delivered := party.delivered ++
          (handed.map (fun payload => ⟨key, num, payload⟩)).toList } := by
  have below : ∀ msg ∈ ofKey key party.delivered, msg.number < num := by
    intro msg found
    obtain ⟨taken, last, bound⟩ := consistent.taken_last key window current msg found
    exact Nat.lt_of_le_of_lt bound (admits taken last)
  -- What the step hands on is of this key and carries this number.
  have handedOn : ∀ found msg,
      msg ∈ ofKey found (handed.map (fun payload => Numbered.mk key num payload)).toList →
        msg.key = key ∧ msg.number = num ∧ found = key := by
    intro found msg present
    obtain ⟨inside, belongs⟩ := mem_ofKey.mp present
    obtain ⟨payload, -, rfl⟩ := Option.map_eq_some_iff.mp (Option.mem_toList.mp inside)
    exact ⟨rfl, rfl, belongs.symm⟩
  refine ⟨?_, ?_, consistent.sent_range, ?_, ?_, ?_⟩
  · intro found read present
    rcases update_window_cases present with ⟨rfl, -⟩ | ⟨-, old⟩
    · exact consistent.adopted found window current
    · exact consistent.adopted found read old
  · intro found read present
    rcases update_window_cases present with ⟨rfl, rfl⟩ | ⟨-, old⟩
    · exact consistent.sent_next found window current
    · exact consistent.sent_next found read old
  · intro found read present msg member
    rw [ofKey_append] at member
    rcases List.mem_append.mp member with earlier | now
    · rcases update_window_cases present with ⟨rfl, rfl⟩ | ⟨-, old⟩
      · exact ⟨num, rfl, Nat.le_of_lt (below msg earlier)⟩
      · exact consistent.taken_last found read old msg earlier
    · obtain ⟨-, same, rfl⟩ := handedOn found msg now
      rcases update_window_cases present with ⟨-, rfl⟩ | ⟨different, -⟩
      · exact ⟨num, rfl, Nat.le_of_eq same⟩
      · exact absurd rfl different
  · intro found
    rw [ofKey_append, List.pairwise_append]
    refine ⟨consistent.taken_increasing found, ?_, ?_⟩
    · cases handed with
      | none => exact List.Pairwise.nil
      | some payload => exact List.Pairwise.sublist List.filter_sublist (List.pairwise_singleton _ _)
    · intro earlier before later now
      obtain ⟨-, same, rfl⟩ := handedOn found later now
      rw [same]
      exact below earlier before
  · intro found unknown
    have different : found ≠ key := by
      rintro rfl
      exact unknown (consistent.adopted found window current)
    refine ⟨(consistent.unused found unknown).1, ?_⟩
    rw [ofKey_append, (consistent.unused found unknown).2, List.nil_append,
      List.eq_nil_iff_forall_not_mem]
    intro msg now
    exact different (handedOn found msg now).2.2

theorem consistent_forget {window : Key → Option Window} (consistent : party.Consistent limit)
    (kept : ∀ key, window key = none ∨ window key = party.window key) :
    Party.Consistent limit { party with window := window } := by
  have old : ∀ {key read}, window key = some read → party.window key = some read := by
    intro key read present
    rcases kept key with gone | same
    · rw [gone] at present
      cases present
    · rwa [same] at present
  exact ⟨fun key read present => consistent.adopted key read (old present),
    fun key read present => consistent.sent_next key read (old present),
    consistent.sent_range,
    fun key read present => consistent.taken_last key read (old present),
    consistent.taken_increasing, consistent.unused⟩

theorem steps_consistent (consistent : party.Consistent limit) (steps : Steps limit party next) :
    next.Consistent limit := by
  induction steps with
  | refl => exact consistent
  | tail _ step consistent =>
    cases step with
    | adopt key fresh => exact consistent_adopt consistent fresh
    | send payload current bounded => exact consistent_send payload consistent current bounded
    | take num handed current admits =>
      exact consistent_take num handed consistent current admits
    | forget window kept => exact consistent_forget consistent kept

/-! ## Two parties -/

/-- A party that only hands on, under a key, what another party sent under it hands on an in-order,
duplicate-free part of what was sent. -/
theorem delivered_sublist_sent {otherLimit : Nat} {receiver sender : Party Key Payload}
    (receiving : receiver.Consistent limit) (sending : sender.Consistent otherLimit) (key : Key)
    (authentic : ∀ msg ∈ ofKey key receiver.delivered, msg ∈ sender.sent) :
    (ofKey key receiver.delivered).Sublist (ofKey key sender.sent) := by
  have taken := receiving.taken_increasing key
  obtain ⟨count, -, numbers⟩ := sending.sent_range key
  have ordered : ((ofKey key sender.sent).map Numbered.number).Pairwise (· < ·) := by
    rw [numbers]
    exact List.pairwise_lt_range
  -- increasing lists: one whose members are all in the other is a sublist
  have distinct : (ofKey key receiver.delivered).Nodup :=
    taken.imp (fun less same => absurd (same ▸ less) (Nat.lt_irrefl _))
  refine List.sublist_of_subperm_of_pairwise (List.subperm_of_subset distinct ?_) taken
    (List.pairwise_map.mp ordered)
  intro msg present
  exact mem_ofKey.mpr ⟨authentic msg present, (mem_ofKey.mp present).2⟩

/-! ## Numbers under one mark -/

/-- Numbers that increase, none of them above the mark; without a mark there are none. -/
structure Marked (mark : Option Nat) (numbers : List Nat) : Prop where
  increasing : numbers.Pairwise (· < ·)
  bounded : ∀ number ∈ numbers, ∃ last, mark = some last ∧ number ≤ last

theorem marked_nil (mark : Option Nat) : Marked mark [] :=
  ⟨List.Pairwise.nil, nofun⟩

theorem Marked.raise {last higher : Nat} {numbers : List Nat} (marked : Marked (some last) numbers)
    (above : last ≤ higher) : Marked (some higher) numbers := by
  refine ⟨marked.increasing, ?_⟩
  intro num present
  obtain ⟨bound, same, below⟩ := marked.bounded num present
  obtain rfl := Option.some.inj same
  exact ⟨higher, rfl, by omega⟩

theorem Marked.take {last num : Nat} {numbers : List Nat} (marked : Marked (some last) numbers)
    (above : last < num) : Marked (some num) (numbers ++ [num]) := by
  constructor
  · refine List.pairwise_append.mpr ⟨marked.increasing, List.pairwise_singleton _ _, ?_⟩
    intro earlier present later isLast
    obtain ⟨bound, same, below⟩ := marked.bounded earlier present
    obtain rfl := Option.some.inj same
    obtain rfl := List.mem_singleton.mp isLast
    omega
  · intro earlier present
    refine ⟨num, rfl, ?_⟩
    rcases List.mem_append.mp present with before | here
    · obtain ⟨bound, same, below⟩ := marked.bounded earlier before
      obtain rfl := Option.some.inj same
      omega
    · exact (List.mem_singleton.mp here).le

end KmxAio.Lib.Sequenced
