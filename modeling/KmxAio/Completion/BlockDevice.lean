import KmxAio.Lib.Run
import Mathlib.Data.List.Basic

/-!
# The memory-backed block device

Without a storage backend the device keeps its blocks one after another in memory. A read or a
write names its first block by a 64-bit number and finds the octets by a product in 64-bit
arithmetic. As long as no product wraps, the device is an array of blocks.
-/

namespace KmxAio.Completion.BlockDevice

open KmxAio.Lib.Run

inductive Error where
  | badDescriptor
  | invalidArgument
  | bufferOverflow
  | notEnoughMemory
  deriving DecidableEq

structure DeviceConfig where
  bdevName : String
  blockSize : UInt32 := 4096
  blockCount : UInt64 := 1024
  deriving DecidableEq

structure State where
  config : DeviceConfig
  storage : List UInt8
  deriving DecidableEq

/-- A device that was moved from has no state. -/
structure Device where
  state : Option State
  deriving DecidableEq

/-- The octets of the storage. `std::size_t` has 64 bits, so every such number is a size. -/
def validateCreateConfig (config : DeviceConfig) : Except Error UInt64 :=
  if config.bdevName.isEmpty ∨ config.blockSize = 0 ∨ config.blockCount = 0 then
    .error .invalidArgument
  else if config.blockCount > 0xFFFFFFFFFFFFFFFF / config.blockSize.toUInt64 then
    .error .invalidArgument
  else .ok (config.blockCount * config.blockSize.toUInt64)

def create (config : DeviceConfig) (allocates : Bool) : Except Error Device :=
  match validateCreateConfig config with
  | .error why => .error why
  | .ok totalBytes =>
    if allocates then .ok ⟨some ⟨config, List.replicate totalBytes.toNat 0⟩⟩
    else .error .notEnoughMemory

/-- The checks `read` and `write` make of a buffer that is not empty, and where its octets are. -/
def State.locate (state : State) (lba : UInt64) (size : Nat) : Except Error Nat :=
  if size % state.config.blockSize.toNat ≠ 0 then .error .invalidArgument
  else
    let offset := (lba * state.config.blockSize.toUInt64).toNat
    if offset > state.storage.length then .error .invalidArgument
    else if size > state.storage.length - offset then .error .bufferOverflow
    else .ok offset

namespace Device

/-- What is put into a buffer of `size` octets. -/
def read (device : Device) (lba : UInt64) (size : Nat) : Except Error (List UInt8) :=
  match device.state with
  | none => .error .badDescriptor
  | some state =>
    if size = 0 then .ok []
    else (state.locate lba size).map fun offset => (state.storage.drop offset).take size

def write (device : Device) (lba : UInt64) (octets : List UInt8) : Device × Except Error Nat :=
  match device.state with
  | none => (device, .error .badDescriptor)
  | some state =>
    if octets = [] then (device, .ok 0)
    else match state.locate lba octets.length with
      | .error why => (device, .error why)
      | .ok offset =>
        (⟨some { state with
            storage := state.storage.take offset ++ octets ++
              state.storage.drop (offset + octets.length) }⟩, .ok octets.length)

end Device

/-- An operation on whole blocks: how many are read, or what is written to each. -/
inductive Operation where
  | read (lba : UInt64) (count : Nat)
  | write (lba : UInt64) (blocks : List (List UInt8))
  deriving DecidableEq

namespace Operation

def lba : Operation → UInt64
  | read lba _ | write lba _ => lba

/-- At least one block, and every block of the size of a block. -/
def WellFormed (blockSize : Nat) : Operation → Prop
  | read _ count => 0 < count
  | write _ blocks => blocks ≠ [] ∧ ∀ block ∈ blocks, block.length = blockSize

end Operation

/-- The device and what each operation of a run returned: the octets read, or none for a write. -/
structure Session where
  device : Device
  answers : List (Except Error (List UInt8)) := []
  deriving DecidableEq

def Session.step (blockSize : Nat) (sess : Session) : Operation → Session
  | .read lba count =>
    { sess with
      answers := sess.answers ++ [sess.device.read lba (count * blockSize)] }
  | .write lba blocks =>
    let (device, written) := sess.device.write lba blocks.flatten
    { device := device, answers := sess.answers ++ [written.map fun _ => []] }

/-- An array of blocks, and what it answers: nothing to an operation beyond its end. -/
structure Disk where
  blocks : List (List UInt8)
  answers : List (Option (List UInt8)) := []

def Disk.step (disk : Disk) : Operation → Disk
  | .read lba count =>
    { disk with
      answers := disk.answers ++
        [if lba.toNat + count ≤ disk.blocks.length then
          some ((disk.blocks.drop lba.toNat).take count).flatten
        else none] }
  | .write lba blocks =>
    if lba.toNat + blocks.length ≤ disk.blocks.length then
      { blocks := disk.blocks.take lba.toNat ++ blocks ++
          disk.blocks.drop (lba.toNat + blocks.length)
        answers := disk.answers ++ [some []] }
    else { disk with answers := disk.answers ++ [none] }

def Disk.blank (config : DeviceConfig) : Disk :=
  { blocks := List.replicate config.blockCount.toNat (List.replicate config.blockSize.toNat 0) }

section Uniform

variable {size : Nat} {blocks : List (List UInt8)}

theorem flatten_length (uniform : ∀ block ∈ blocks, block.length = size) :
    blocks.flatten.length = blocks.length * size := by
  rw [List.length_flatten, List.map_congr_left uniform, List.map_const', List.sum_replicate_nat]

theorem flatten_split (uniform : ∀ block ∈ blocks, block.length = size) {count : Nat}
    (inside : count ≤ blocks.length) :
    blocks.flatten.take (count * size) = (blocks.take count).flatten ∧
      blocks.flatten.drop (count * size) = (blocks.drop count).flatten := by
  have front : (blocks.take count).flatten.length = count * size := by
    rw [flatten_length fun block member => uniform block (List.mem_of_mem_take member),
      List.length_take_of_le inside]
  have whole : blocks.flatten = (blocks.take count).flatten ++ (blocks.drop count).flatten := by
    rw [← List.flatten_append, List.take_append_drop]
  rw [whole]
  exact ⟨List.take_left' front, List.drop_left' front⟩

end Uniform

/-- The storage holds the blocks of the disk one after another, and the answers agree. -/
structure Refines (config : DeviceConfig) (session : Session) (disk : Disk) : Prop where
  device : session.device = ⟨some ⟨config, disk.blocks.flatten⟩⟩
  uniform : ∀ block ∈ disk.blocks, block.length = config.blockSize.toNat
  positive : 0 < config.blockSize.toNat
  answers : session.answers.map Except.toOption = disk.answers

variable {config : DeviceConfig} {sess : Session} {disk : Disk}

theorem locate_blocks {blocks : List (List UInt8)} (lba : UInt64) (count : Nat)
    (uniform : ∀ block ∈ blocks, block.length = config.blockSize.toNat)
    (positive : 0 < config.blockSize.toNat) (fits : lba.toNat * config.blockSize.toNat < UInt64.size) :
    (lba.toNat + count ≤ blocks.length ∧
      State.locate ⟨config, blocks.flatten⟩ lba (count * config.blockSize.toNat) =
        .ok (lba.toNat * config.blockSize.toNat)) ∨
    (¬lba.toNat + count ≤ blocks.length ∧ ∃ why,
      State.locate ⟨config, blocks.flatten⟩ lba (count * config.blockSize.toNat) = .error why) := by
  have offset : (lba * config.blockSize.toUInt64).toNat = lba.toNat * config.blockSize.toNat := by
    rw [UInt64.toNat_mul, UInt32.toNat_toUInt64, Nat.mod_eq_of_lt fits]
  have inside : lba.toNat + count ≤ blocks.length ↔
      lba.toNat * config.blockSize.toNat + count * config.blockSize.toNat ≤
        blocks.length * config.blockSize.toNat := by
    rw [← Nat.add_mul, Nat.mul_le_mul_right_iff positive]
  unfold State.locate
  simp only [offset, inside, flatten_length uniform, Nat.mul_mod_left, ne_eq, not_true, if_false]
  split
  · exact .inr ⟨by omega, _, rfl⟩
  split
  · exact .inr ⟨by omega, _, rfl⟩
  · exact .inl ⟨by omega, rfl⟩

theorem Disk.step_length (disk : Disk) (op : Operation) :
    (disk.step op).blocks.length = disk.blocks.length := by
  cases op with
  | read lba count => rfl
  | write lba blocks =>
    simp only [Disk.step]
    split
    · simp only [List.length_append, List.length_take, List.length_drop]
      omega
    · rfl

theorem Refines.step (refines : Refines config sess disk) {op : Operation}
    (wellFormed : op.WellFormed config.blockSize.toNat)
    (fits : op.lba.toNat * config.blockSize.toNat < UInt64.size) :
    Refines config (sess.step config.blockSize.toNat op) (disk.step op) := by
  obtain ⟨device, uniform, positive, answers⟩ := refines
  cases op with
  | read lba count =>
    refine ⟨device, uniform, positive, ?_⟩
    have some : count * config.blockSize.toNat ≠ 0 :=
      Nat.mul_ne_zero (Nat.ne_of_gt wellFormed) (Nat.ne_of_gt positive)
    simp only [Session.step, Disk.step, device, Device.read, if_neg some, List.map_append, answers,
      List.map_cons, List.map_nil]
    rcases locate_blocks lba count uniform positive fits with
      ⟨inside, found⟩ | ⟨beyond, why, refused⟩
    · have rest : ∀ block ∈ disk.blocks.drop lba.toNat, block.length = config.blockSize.toNat :=
        fun block member => uniform block (List.mem_of_mem_drop member)
      have enough : count ≤ (disk.blocks.drop lba.toNat).length := by
        rw [List.length_drop]
        exact Nat.le_sub_of_add_le' inside
      rw [found, if_pos inside, ← (flatten_split rest enough).1,
        ← (flatten_split uniform (Nat.le_of_add_right_le inside)).2]
      rfl
    · rw [refused, if_neg beyond]
      rfl
  | write lba blocks =>
    obtain ⟨nonempty, sized⟩ := wellFormed
    have length := flatten_length sized
    have some : blocks.flatten ≠ [] := by
      rw [← List.length_pos_iff, length]
      exact Nat.mul_pos (List.length_pos_iff.mpr nonempty) positive
    simp only [Session.step, Disk.step, device, Device.write, if_neg some, length]
    rcases locate_blocks lba blocks.length uniform positive fits with
      ⟨inside, found⟩ | ⟨beyond, why, refused⟩
    · simp only [found, if_pos inside]
      refine ⟨?_, ?_, positive, ?_⟩
      · rw [← Nat.add_mul, List.flatten_append, List.flatten_append,
          (flatten_split uniform (Nat.le_of_add_right_le inside)).1, (flatten_split uniform inside).2]
      · simp only [List.mem_append]
        rintro block ((front | middle) | back)
        · exact uniform block (List.mem_of_mem_take front)
        · exact sized block middle
        · exact uniform block (List.mem_of_mem_drop back)
      · rw [List.map_append, answers]
        rfl
    · rw [refused, if_neg beyond]
      refine ⟨rfl, uniform, positive, ?_⟩
      rw [List.map_append, answers]
      rfl

/-- A device is an array of blocks as long as no operation names a block whose octets would begin at
or beyond `2 ^ 64`: an operation succeeds exactly when its blocks are below the number of blocks, a
write changes these blocks only, a failed operation changes nothing, and a read returns what the
blocks hold. -/
theorem device_is_block_array (config : DeviceConfig) (allocates : Bool) (device : Device)
    (operations : List Operation) (created : create config allocates = .ok device)
    (wellFormed : ∀ op ∈ operations, op.WellFormed config.blockSize.toNat)
    (fits : ∀ op ∈ operations, op.lba.toNat * config.blockSize.toNat < UInt64.size) :
    let sess := run (Session.step config.blockSize.toNat) { device } operations
    let disk := run Disk.step (Disk.blank config) operations
    sess.answers.map Except.toOption = disk.answers ∧
      sess.device = ⟨some ⟨config, disk.blocks.flatten⟩⟩ ∧
      disk.blocks.length = config.blockCount.toNat := by
  have preserved : ∀ (sess : Session) (disk : Disk) (op : Operation),
      Refines config sess disk ∧ disk.blocks.length = config.blockCount.toNat →
      op ∈ operations →
      Refines config (sess.step config.blockSize.toNat op) (disk.step op) ∧
        (disk.step op).blocks.length = config.blockCount.toNat :=
    fun _ disk op ⟨refines, length⟩ member =>
      ⟨refines.step (wellFormed op member) (fits op member), (disk.step_length op).trans length⟩
  have createRefines : Refines config { device } (Disk.blank config) := by
    unfold create validateCreateConfig at created
    split_ifs at created with incomplete large allocated
    simp only [not_or, UInt64.lt_iff_toNat_lt, UInt64.toNat_div, UInt32.toNat_toUInt64, Nat.not_lt,
      gt_iff_lt] at incomplete large
    have positive : 0 < config.blockSize.toNat :=
      Nat.pos_of_ne_zero fun zero => incomplete.2.1 (UInt32.toNat_inj.mp zero)
    have total : config.blockCount.toNat * config.blockSize.toNat < UInt64.size :=
      Nat.lt_of_le_of_lt ((Nat.le_div_iff_mul_le positive).mp large) (by decide)
    refine ⟨?_, ?_, positive, rfl⟩
    · rw [Disk.blank, List.flatten_replicate_replicate]
      simp only [UInt64.toNat_mul, UInt32.toNat_toUInt64, Nat.mod_eq_of_lt total] at created
      exact (Except.ok.inj created).symm
    · intro block member
      rw [List.eq_of_mem_replicate member, List.length_replicate]
  obtain ⟨refined, length⟩ := simulation_run preserved
    ⟨createRefines, List.length_replicate ..⟩ fun _ member => member
  exact ⟨refined.answers, refined.device, length⟩

theorem device_is_block_array_two :
    create ⟨"memory", 2, 2⟩ true = .ok ⟨some ⟨⟨"memory", 2, 2⟩, [0, 0, 0, 0]⟩⟩ ∧
      ((run (Session.step 2) ⟨⟨some ⟨⟨"memory", 2, 2⟩, [0, 0, 0, 0]⟩⟩, []⟩
          [.write 1 [[7, 8]], .read 0 2, .read 1 2]).answers.map Except.toOption =
        [some [], some [0, 0, 7, 8], none]) :=
  ⟨by decide +kernel,
    (device_is_block_array ⟨"memory", 2, 2⟩ true _ [.write 1 [[7, 8]], .read 0 2, .read 1 2]
      (by decide +kernel) (by simp [Operation.WellFormed]) (by decide)).1⟩

/-- Block `2 ^ 63` of a device of one block of two octets is read as block zero: the product wraps. -/
theorem read_wraps_around :
    create ⟨"memory", 2, 1⟩ true = .ok ⟨some ⟨⟨"memory", 2, 1⟩, [0, 0]⟩⟩ ∧
      Device.read ⟨some ⟨⟨"memory", 2, 1⟩, [0, 0]⟩⟩ 0x8000000000000000 2 = .ok [0, 0] ∧
      ¬(0x8000000000000000 : UInt64).toNat + 1 ≤ 1 := by
  decide +kernel

end KmxAio.Completion.BlockDevice
