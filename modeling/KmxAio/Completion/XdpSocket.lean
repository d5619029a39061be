import KmxAio.Lib.Run
import Mathlib.Algebra.Group.Nat.Even
import Mathlib.Data.List.Nodup

/-!
# Frames of the AF_XDP socket

The frames of one memory area circulate through a free list, four rings shared with the kernel and
the hands of the application. They are conserved as long as the kernel reports a received frame by
the address at which the frame begins. The size of the area is a product of 32 bits.
-/

namespace KmxAio.Completion.Xdp

open KmxAio.Lib.Run

structure SocketConfig where
  frameSize : UInt32
  frameCount : UInt32
  fillRingSize : UInt32
  compRingSize : UInt32
  rxRingSize : UInt32
  txRingSize : UInt32
  deriving DecidableEq

def isValidRingSize (size : UInt32) : Bool := size ≠ 0 && size &&& (size - 1) == 0

/-- The checks of the sizes. The last is the one of `initialize_af_xdp_backend`, which every two
numbers of 32 bits pass. -/
def SocketConfig.valid (config : SocketConfig) : Bool :=
  let rings := [config.fillRingSize, config.compRingSize, config.rxRingSize, config.txRingSize]
  config.frameSize ≠ 0 && config.frameCount ≠ 0 && rings.all isValidRingSize &&
    rings.all (· ≤ config.frameCount) &&
    config.frameCount.toNat ≤ 0xFFFFFFFFFFFFFFFF / config.frameSize.toNat

/-- Addresses by where they are; `writes` are the octets `send` copied and where to. -/
structure Socket where
  config : SocketConfig
  umemSize : UInt64
  free : List Nat
  fill : List Nat := []
  rx : List Nat := []
  rxInflight : List Nat := []
  tx : List Nat := []
  comp : List Nat := []
  writes : List (Nat × Nat) := []
  deriving DecidableEq

def seedFreeFrames (config : SocketConfig) : List Nat :=
  (List.range config.frameCount.toNat).map (· * config.frameSize.toNat)

namespace Socket

variable (sock : Socket)

def recycleSentFrames : Socket :=
  let count := sock.config.compRingSize.toNat
  { sock with
    free := sock.free ++ sock.comp.take count
    comp := sock.comp.drop count }

/-- The loop of `refill_fill_ring`, which takes at least one address from the free list each time it
goes on. A reservation gets as many entries as it asks for, or none. -/
def refillLoop : Nat → Socket → Socket
  | 0, sock => sock
  | passes + 1, sock =>
    let want := min sock.free.length sock.config.fillRingSize.toNat
    if want = 0 ∨ sock.fill.length + want > sock.config.fillRingSize.toNat then sock
    else refillLoop passes
      { sock with
        fill := sock.fill ++ sock.free.take want
        free := sock.free.drop want }

def refillFillRing : Socket := refillLoop sock.free.length sock

def create (config : SocketConfig) : Option Socket :=
  if config.valid then
    some (refillFillRing
      { config, umemSize := (config.frameCount * config.frameSize).toUInt64
        free := seedFreeFrames config })
  else none

def send (size : Nat) : Socket :=
  if size = 0 ∨ size > sock.config.frameSize.toNat then sock
  else
    let sock := sock.recycleSentFrames
    match sock.free with
    | [] => sock
    | addr :: free =>
      let sock := { sock with writes := sock.writes ++ [(addr, size)] }
      if sock.tx.length < sock.config.txRingSize.toNat then
        { sock with free := free, tx := sock.tx ++ [addr] }
      else sock

def recv : Socket :=
  let sock := sock.recycleSentFrames.refillFillRing
  match sock.rx with
  | [] => sock
  | addr :: rx => { sock with rx := rx, rxInflight := sock.rxInflight.insert addr }

def releaseFrame (addr : Nat) : Socket :=
  let returned :=
    if addr ∈ sock.rxInflight then
      { sock with rxInflight := sock.rxInflight.erase addr, free := sock.free ++ [addr] }
    else sock
  returned.recycleSentFrames.refillFillRing

end Socket

/-- A call, or the kernel: it fills a frame and reports an address `offset` octets into it, or
finishes with a frame that was sent. -/
inductive Event where
  | send (size : Nat)
  | recv
  | releaseFrame (addr : Nat)
  | received (offset : Nat)
  | sent
  deriving DecidableEq

def Event.AtStart : Event → Prop
  | .received offset => offset = 0
  | _ => True

namespace Socket

def step (sock : Socket) : Event → Socket
  | .send size => sock.send size
  | .recv => sock.recv
  | .releaseFrame addr => sock.releaseFrame addr
  | .received offset =>
    match sock.fill with
    | [] => sock
    | addr :: fill => { sock with fill := fill, rx := sock.rx ++ [addr + offset] }
  | .sent =>
    match sock.tx with
    | [] => sock
    | addr :: tx => { sock with tx := tx, comp := sock.comp ++ [addr] }

/-- All the addresses, place by place. -/
def places (sock : Socket) : List Nat :=
  sock.free ++ sock.fill ++ sock.rx ++ sock.rxInflight ++ sock.tx ++ sock.comp

/-- What a step leaves as it was: each address is still there as often, in whichever place. -/
structure Conserves (before after : Socket) : Prop where
  config : after.config = before.config
  area : after.umemSize = before.umemSize
  places : ∀ addr, after.places.count addr = before.places.count addr
  writes : after.writes = before.writes

variable {before after later sock : Socket}

theorem Conserves.refl (sock : Socket) : Conserves sock sock := ⟨rfl, rfl, fun _ => rfl, rfl⟩

theorem Conserves.trans (first : Conserves before after) (second : Conserves after later) :
    Conserves before later :=
  ⟨second.config.trans first.config, second.area.trans first.area,
    fun addr => (second.places addr).trans (first.places addr), second.writes.trans first.writes⟩

theorem count_split (list : List Nat) (count addr : Nat) :
    (list.take count).count addr + (list.drop count).count addr = list.count addr := by
  rw [← List.count_append, List.take_append_drop]

theorem conserves_recycle (sock : Socket) : Conserves sock sock.recycleSentFrames := by
  refine ⟨rfl, rfl, fun addr => ?_, rfl⟩
  have split := count_split sock.comp sock.config.compRingSize.toNat addr
  simp only [places, recycleSentFrames, List.count_append]
  omega

theorem conserves_refillLoop (passes : Nat) (sock : Socket) :
    Conserves sock (refillLoop passes sock) := by
  induction passes generalizing sock with
  | zero => exact .refl sock
  | succ passes ih =>
    unfold refillLoop
    dsimp only
    split
    · exact .refl sock
    · refine Conserves.trans ?_ (ih _)
      refine ⟨rfl, rfl, fun addr => ?_, rfl⟩
      have split := count_split sock.free (min sock.free.length sock.config.fillRingSize.toNat) addr
      simp only [places, List.count_append]
      omega

theorem conserves_refill (sock : Socket) : Conserves sock sock.refillFillRing :=
  conserves_refillLoop _ sock

theorem conserves_refresh (sock : Socket) :
    Conserves sock sock.recycleSentFrames.refillFillRing :=
  (conserves_recycle sock).trans (conserves_refill _)

/-- Every frame is in one place, and `send` has written into one frame at a time. -/
structure Sound (config : SocketConfig) (socket : Socket) : Prop where
  same : socket.config = config
  area : socket.umemSize = (config.frameCount * config.frameSize).toUInt64
  places : socket.places.Perm (seedFreeFrames config)
  writes : ∀ write ∈ socket.writes, write.1 ∈ seedFreeFrames config ∧ write.2 ≤ config.frameSize.toNat

variable {config : SocketConfig}

theorem Sound.conserves (sound : Sound config before) (same : Conserves before after) :
    Sound config after :=
  ⟨same.config.trans sound.same, same.area.trans sound.area,
    (List.perm_iff_count.mpr same.places).trans sound.places, same.writes ▸ sound.writes⟩

theorem seedFreeFrames_nodup (positive : 0 < config.frameSize.toNat) : (seedFreeFrames config).Nodup :=
  List.Nodup.map (fun _ _ equal => Nat.eq_of_mul_eq_mul_right positive equal) List.nodup_range

theorem Sound.send (sound : Sound config sock) (size : Nat) : Sound config (sock.send size) := by
  unfold Socket.send
  split
  · exact sound
  rename_i sized
  rw [sound.same] at sized
  have recycled := sound.conserves (conserves_recycle sock)
  generalize sock.recycleSentFrames = sock at recycled
  obtain ⟨rfl, area, places, writes⟩ := recycled
  dsimp only
  split
  · exact ⟨rfl, area, places, writes⟩
  rename_i addr free line
  have wrote : Sound sock.config { sock with writes := sock.writes ++ [(addr, size)] } := by
    refine ⟨rfl, area, places, ?_⟩
    rw [List.forall_mem_append, List.forall_mem_singleton]
    refine ⟨writes, places.subset ?_, by omega⟩
    simp [Socket.places, line]
  split
  · refine wrote.conserves ⟨rfl, rfl, fun other => ?_, rfl⟩
    simp only [Socket.places, line, List.count_append, List.count_cons, List.count_nil]
    omega
  · exact wrote

theorem Sound.recv (positive : 0 < config.frameSize.toNat) (sound : Sound config sock) :
    Sound config sock.recv := by
  have refreshed := sound.conserves (conserves_refresh sock)
  unfold Socket.recv
  generalize sock.recycleSentFrames.refillFillRing = sock at refreshed
  dsimp only
  split
  · exact refreshed
  rename_i addr rx line
  have absent : addr ∉ sock.rxInflight := by
    intro held
    have once := List.nodup_iff_count_le_one.mp
      (refreshed.places.nodup_iff.mpr (seedFreeFrames_nodup positive)) addr
    have again := List.count_pos_iff.mpr held
    simp only [Socket.places, line, List.count_append, List.count_cons_self] at once
    omega
  refine refreshed.conserves ⟨rfl, rfl, fun other => ?_, rfl⟩
  simp only [Socket.places, line, List.insert_of_not_mem absent, List.count_append, List.count_cons]
  omega

theorem Sound.releaseFrame (sound : Sound config sock) (addr : Nat) :
    Sound config (sock.releaseFrame addr) := by
  refine Sound.conserves ?_ (conserves_refresh _)
  split
  · rename_i held
    refine sound.conserves ⟨rfl, rfl, fun other => ?_, rfl⟩
    have taken := (List.perm_cons_erase held).count_eq other
    simp only [Socket.places, List.count_append, List.count_cons, List.count_nil] at taken ⊢
    omega
  · exact sound

theorem Sound.step (positive : 0 < config.frameSize.toNat) (sound : Sound config sock) {event : Event}
    (atStart : event.AtStart) : Sound config (sock.step event) := by
  cases event with
  | send size => exact sound.send size
  | recv => exact sound.recv positive
  | releaseFrame addr => exact sound.releaseFrame addr
  | received offset =>
    cases (atStart : offset = 0)
    simp only [Socket.step]
    split
    · exact sound
    rename_i addr fill line
    refine sound.conserves ⟨rfl, rfl, fun other => ?_, rfl⟩
    simp only [Socket.places, line, List.count_append, List.count_cons, List.count_nil,
      Nat.add_zero]
    omega
  | sent =>
    simp only [Socket.step]
    split
    · exact sound
    rename_i addr tx line
    refine sound.conserves ⟨rfl, rfl, fun other => ?_, rfl⟩
    simp only [Socket.places, line, List.count_append, List.count_cons, List.count_nil]
    omega

theorem area_covers_iff (config : SocketConfig) :
    (∀ frame < config.frameCount.toNat, (frame + 1) * config.frameSize.toNat ≤
        (config.frameCount * config.frameSize).toUInt64.toNat) ↔
      config.frameCount.toNat * config.frameSize.toNat < 2 ^ 32 := by
  rw [UInt32.toNat_toUInt64, UInt32.toNat_mul]
  constructor
  · intro covered
    by_contra wraps
    have some : config.frameCount.toNat ≠ 0 := fun none => wraps (by simp [none])
    have last := covered (config.frameCount.toNat - 1) (by omega)
    rw [Nat.sub_add_cancel (by omega)] at last
    exact wraps (Nat.lt_of_le_of_lt last (Nat.mod_lt _ (by decide)))
  · intro fits frame below
    rw [Nat.mod_eq_of_lt fits]
    exact Nat.mul_le_mul_right _ below

/-- Where the kernel reports every frame by its beginning, each frame is in exactly one place at any
time, every free address is the beginning of a frame, and every `send` writes into one frame. The
frames lie in the area exactly if its size does not wrap. -/
theorem frames_conserved (config : SocketConfig) (sock : Socket) (events : List Event)
    (created : create config = some sock) (atStart : ∀ event ∈ events, event.AtStart) :
    let after := run step sock events
    after.places.Perm (seedFreeFrames config) ∧ (seedFreeFrames config).Nodup ∧
      (∀ addr ∈ after.free, ∃ frame < config.frameCount.toNat,
        addr = frame * config.frameSize.toNat) ∧
      (∀ write ∈ after.writes, write.2 ≤ config.frameSize.toNat ∧
        ∃ frame < config.frameCount.toNat, write.1 = frame * config.frameSize.toNat) ∧
      ((∀ addr ∈ seedFreeFrames config, addr + config.frameSize.toNat ≤ after.umemSize.toNat) ↔
        config.frameCount.toNat * config.frameSize.toNat < 2 ^ 32) := by
  unfold create at created
  split at created
  · rename_i valid
    cases created
    have positive : 0 < config.frameSize.toNat := by
      simp only [SocketConfig.valid, Bool.and_eq_true, decide_eq_true_eq] at valid
      exact Nat.pos_of_ne_zero fun none => valid.1.1.1.1 (UInt32.toNat_inj.mp none)
    have seeded : Sound config
        { config, umemSize := (config.frameCount * config.frameSize).toUInt64
          free := seedFreeFrames config } :=
      ⟨rfl, rfl, by simp [places], by simp⟩
    obtain ⟨-, area, kept, writes⟩ := invariant_run (fun _ _ sound => sound.step positive)
      (seeded.conserves (conserves_refill _)) (admissible_of_events atStart)
    have seed : ∀ addr ∈ seedFreeFrames config, ∃ frame < config.frameCount.toNat,
        addr = frame * config.frameSize.toNat := by
      intro addr member
      obtain ⟨frame, below, rfl⟩ := List.mem_map.mp member
      exact ⟨frame, List.mem_range.mp below, rfl⟩
    refine ⟨kept, seedFreeFrames_nodup positive, fun addr member => ?_, fun write member => ?_, ?_⟩
    · exact seed addr (kept.subset (by simp only [places, List.mem_append, member, true_or]))
    · exact ⟨(writes write member).2, seed _ (writes write member).1⟩
    · rw [area, ← area_covers_iff config]
      simp only [seedFreeFrames, List.forall_mem_map, List.mem_range, Nat.add_mul, Nat.one_mul]
  · cases created

theorem frames_conserved_one :
    create ⟨4, 1, 1, 1, 1, 1⟩ =
        some { config := ⟨4, 1, 1, 1, 1, 1⟩, umemSize := 4, free := [], fill := [0] } ∧
      (run step { config := ⟨4, 1, 1, 1, 1, 1⟩, umemSize := 4, free := [], fill := [0] }
        [.received 0, .recv, .releaseFrame 0]).places.Perm [0] :=
  ⟨by decide, (frames_conserved ⟨4, 1, 1, 1, 1, 1⟩ _ [.received 0, .recv, .releaseFrame 0]
    (by decide) (by simp [Event.AtStart])).1⟩

/-- A frame of four octets whose data begin at its third is given back as address two. -/
theorem released_inside_frame :
    (create ⟨4, 2, 1, 1, 1, 1⟩).map (fun sock =>
      (run step sock [.received 2, .recv, .releaseFrame 2]).free) = some [2] := by
  decide

end Socket

end KmxAio.Completion.Xdp
