import Mathlib.Data.List.Basic

/-!
# Reading a stream of items to its end

A reader finds one item at an offset of a stream and says where the next one begins.
A scan reads item after item until the stream is used up, and folds what it reads into
a state. If every item is read back from its encoding, wherever it stands and whatever
follows, then a scan of concatenated encodings folds exactly the items.
-/

namespace KmxAio.Lib.Scan

variable {Symbol Item Other State Failure : Type}

/-- Reads one item, and always moves on. -/
structure Reader (Symbol Item Failure : Type) where
  read : List Symbol → Nat → Except Failure (Item × Nat)
  advances : ∀ {stream offset item next}, read stream offset = .ok (item, next) → offset < next

namespace Reader

variable (reader : Reader Symbol Item Failure) (apply : State → Item → State)

/-- Reads at most as many items as it is allowed to, from an offset on. -/
def scanFrom (stream : List Symbol) : Nat → Nat → State → Except Failure State
  | 0, _, state => .ok state
  | count + 1, offset, state =>
    if offset < stream.length then
      match reader.read stream offset with
      | .error why => .error why
      | .ok (item, next) => scanFrom stream count next (apply state item)
    else .ok state

/-- Reads every item of a stream, which has at most as many items as symbols. -/
def scan (stream : List Symbol) (state : State) : Except Failure State :=
  reader.scanFrom apply stream stream.length 0 state

variable {reader apply} {stream : List Symbol} {count offset : Nat} {state : State}

/-- Before the end an item is read, and the scan goes on behind it. How many items are allowed does
not matter as long as there is one for every symbol that is left. -/
theorem scanFrom_next (inside : offset < stream.length) (enough : stream.length - offset ≤ count) :
    reader.scanFrom apply stream count offset state =
      match reader.read stream offset with
      | .error why => .error why
      | .ok (item, next) => reader.scanFrom apply stream (count - 1) next (apply state item) := by
  obtain ⟨rest, rfl⟩ : ∃ rest, count = rest + 1 := ⟨count - 1, by omega⟩
  rw [scanFrom, if_pos inside, Nat.add_sub_cancel]

theorem scanFrom_read {item : Item} {next : Nat} (inside : offset < stream.length)
    (enough : stream.length - offset ≤ count) (found : reader.read stream offset = .ok (item, next)) :
    reader.scanFrom apply stream count offset state =
      reader.scanFrom apply stream (count - 1) next (apply state item) := by
  rw [scanFrom_next inside enough, found]

/-! ## Concatenated encodings -/

section Encoded

variable {encode : Other → List Symbol} {view : Other → Item} {items : List Other}

/-- An item is read from its encoding, between any two others. -/
def ReadsBack (reader : Reader Symbol Item Failure) (encode : Other → List Symbol)
    (view : Other → Item) (item : Other) : Prop :=
  ∀ before after, reader.read (before ++ (encode item ++ after)) before.length =
    .ok (view item, before.length + (encode item).length)

theorem room_for_item {item rest : List Symbol} (before : List Symbol) (positive : 0 < item.length)
    (enough : item.length + rest.length ≤ count) :
    before.length < (before ++ (item ++ rest)).length ∧
      (before ++ (item ++ rest)).length - before.length ≤ count := by
  simp only [List.length_append]
  omega

/-- A scan folds the items it has read back and stops behind them. -/
theorem scanFrom_flatMap (readsBack : ∀ item ∈ items, reader.ReadsBack encode view item)
    (before : List Symbol) (enough : (items.flatMap encode).length ≤ count) :
    reader.scanFrom apply (before ++ items.flatMap encode) count before.length state =
      .ok (items.foldl (fun state item => apply state (view item)) state) := by
  induction items generalizing before count state with
  | nil =>
    cases count with
    | zero => rfl
    | succ count => exact if_neg (by simp)
  | cons item items ih =>
    have itemReadsBack := readsBack item List.mem_cons_self
    have positive : 0 < (encode item).length := by
      simpa using reader.advances (itemReadsBack [] [])
    rw [List.flatMap_cons, List.length_append] at enough
    obtain ⟨inside, allowed⟩ := room_for_item before positive enough
    rw [List.flatMap_cons, scanFrom_read inside allowed (itemReadsBack before _),
      ← List.length_append, ← List.append_assoc, List.foldl_cons]
    exact ih (fun other member => readsBack other (List.mem_cons_of_mem _ member))
      (before ++ encode item) (by omega)

theorem scan_flatMap (readsBack : ∀ item ∈ items, reader.ReadsBack encode view item) :
    reader.scan apply (items.flatMap encode) state =
      .ok (items.foldl (fun state item => apply state (view item)) state) := by
  have read : reader.scanFrom apply ([] ++ items.flatMap encode) (items.flatMap encode).length
      ([] : List Symbol).length state = _ := scanFrom_flatMap readsBack [] (Nat.le_refl _)
  exact read

end Encoded

/-! ## Collecting the items -/

section Collected

variable {items found : List Item} {encode : Item → List Symbol} {Faithful : Item → Prop}

variable (reader) in
/-- The items of a stream, in order. -/
def collect (stream : List Symbol) : Except Failure (List Item) :=
  reader.scan (fun items item => items ++ [item]) stream []

theorem scanFrom_extends
    (result : reader.scanFrom (fun items item => items ++ [item]) stream count offset items =
      .ok found) : ∃ more, found = items ++ more := by
  induction count generalizing offset items with
  | zero =>
    cases result
    exact ⟨[], (List.append_nil _).symm⟩
  | succ count ih =>
    rw [scanFrom] at result
    by_cases inside : offset < stream.length
    · rw [if_pos inside] at result
      cases read : reader.read stream offset with
      | error why =>
        rw [read] at result
        cases result
      | ok next =>
        rw [read] at result
        obtain ⟨more, rfl⟩ := ih result
        exact ⟨next.1 :: more, by simp⟩
    · rw [if_neg inside] at result
      cases result
      exact ⟨[], (List.append_nil _).symm⟩

section

variable (encoded : ∀ item, 0 < (encode item).length)
  (readsBack : ∀ item, Faithful item → reader.ReadsBack encode id item)
  (onlyFaithful : ∀ item before after next,
    reader.read (before ++ (encode item ++ after)) before.length = .ok (item, next) → Faithful item)

include encoded readsBack onlyFaithful

/-- If the items are collected from their encodings, each of them was read as itself, so each of them
is one that is. -/
theorem faithful_of_scanFrom (before : List Symbol) (enough : (items.flatMap encode).length ≤ count)
    (result : reader.scanFrom (fun items item => items ++ [item]) (before ++ items.flatMap encode)
      count before.length found = .ok (found ++ items)) : ∀ item ∈ items, Faithful item := by
  induction items generalizing before count found with
  | nil => simp
  | cons item items ih =>
    have positive := encoded item
    rw [List.flatMap_cons, List.length_append] at enough
    obtain ⟨inside, allowed⟩ := room_for_item before positive enough
    rw [List.flatMap_cons] at result
    -- The first item read is the one that stands first in the result.
    have faithful : Faithful item := by
      rw [scanFrom_next inside allowed] at result
      cases read : reader.read (before ++ (encode item ++ items.flatMap encode)) before.length with
      | error why =>
        rw [read] at result
        cases result
      | ok next =>
        rw [read] at result
        obtain ⟨more, same⟩ := scanFrom_extends result
        rw [List.append_assoc, List.append_cancel_left_eq] at same
        obtain ⟨rfl, _⟩ := List.cons.inj same
        exact onlyFaithful _ before _ next.2 read
    rw [scanFrom_read inside allowed (readsBack item faithful before _), ← List.length_append,
      ← List.append_assoc] at result
    have next : found ++ item :: items = (found ++ [id item]) ++ items := by simp
    rw [next] at result
    have rest := ih (before ++ encode item) (by omega) result
    exact List.forall_mem_cons.mpr ⟨faithful, rest⟩

/-- Exactly the lists of items that are read as themselves are collected from their encodings. -/
theorem collect_flatMap_iff :
    reader.collect (items.flatMap encode) = .ok items ↔ ∀ item ∈ items, Faithful item := by
  constructor
  · intro result
    exact faithful_of_scanFrom encoded readsBack onlyFaithful [] (Nat.le_refl _) result
  · intro faithful
    have result : reader.collect (items.flatMap encode) = .ok _ :=
      scan_flatMap fun item member => readsBack item (faithful item member)
    rw [result, List.foldl_append_eq_append, List.nil_append, ← List.flatMap_def]
    exact congrArg _ (List.flatMap_singleton' items)

end

end Collected

end Reader

end KmxAio.Lib.Scan
