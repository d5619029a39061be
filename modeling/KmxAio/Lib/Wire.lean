import Mathlib.Data.List.Induction
import Mathlib.Data.Vector.Basic
import Mathlib.Algebra.Group.Nat.Even
import Mathlib.Tactic.Ring

/-!
# Octet strings and big-endian numbers

Every format of the library is a run of octets read from a span. A span is a
list of octets, a fixed-size array is a list that carries its length, and the
numbers in both are big-endian. The lemmas here are the two round trips of the
number format and what reading a fixed-size field out of a concatenation gives.
-/

namespace KmxAio.Lib.Wire

/-- A run of octets of any length. -/
abbrev Octets := List UInt8

/-- A fixed-size array of octets. -/
abbrev OctetArray (size : Nat) := List.Vector UInt8 size

/-- The octet of an ASCII character. -/
def octetOf (character : Char) : UInt8 := UInt8.ofNat character.toNat

/-- The octets of an ASCII text. -/
def ascii (text : String) : Octets := text.toList.map octetOf

/-- What holds of the 256 octets holds of every octet. -/
theorem forall_octet {P : UInt8 → Prop} (all : ∀ num < 256, P (UInt8.ofNat num))
    (octet : UInt8) : P octet := by
  have known := all octet.toNat octet.toNat_lt
  rwa [UInt8.ofNat_toNat] at known

/-! ## Big-endian numbers -/

/-- The `width` low-order octets of a number, most significant first. -/
def toBigEndian : Nat → Nat → Octets
  | 0, _ => []
  | width + 1, val => toBigEndian width (val / 256) ++ [UInt8.ofNat val]

/-- The number a run of octets denotes, most significant octet first. -/
def ofBigEndian (octets : Octets) : Nat :=
  octets.foldl (fun val octet => val * 256 + octet.toNat) 0

@[simp] theorem toBigEndian_length (width val : Nat) :
    (toBigEndian width val).length = width := by
  induction width generalizing val with
  | zero => rfl
  | succ width ih => simp [toBigEndian, ih]

@[simp] theorem ofBigEndian_nil : ofBigEndian [] = 0 := rfl

theorem ofBigEndian_append_singleton (octets : Octets) (last : UInt8) :
    ofBigEndian (octets ++ [last]) = ofBigEndian octets * 256 + last.toNat := by
  simp [ofBigEndian, List.foldl_append]

theorem ofBigEndian_lt (octets : Octets) : ofBigEndian octets < 256 ^ octets.length := by
  induction octets using List.reverseRecOn with
  | nil => exact Nat.one_pos
  | append_singleton octets last ih =>
    have small : last.toNat < 256 := last.toNat_lt
    rw [ofBigEndian_append_singleton, List.length_append, List.length_singleton, pow_succ]
    omega

@[simp] theorem ofBigEndian_toBigEndian (width val : Nat) :
    ofBigEndian (toBigEndian width val) = val % 256 ^ width := by
  induction width generalizing val with
  | zero => simp [toBigEndian, Nat.mod_one]
  | succ width ih =>
    have last : (UInt8.ofNat val).toNat = val % 256 := by simp
    rw [toBigEndian, ofBigEndian_append_singleton, ih, last, pow_succ, mul_comm (256 ^ width),
      Nat.mod_mul]
    ring

theorem ofBigEndian_toBigEndian_of_lt {width val : Nat} (fits : val < 256 ^ width) :
    ofBigEndian (toBigEndian width val) = val := by
  rw [ofBigEndian_toBigEndian, Nat.mod_eq_of_lt fits]

/-- Two numbers that fit a width and have the same octets there are one number. -/
theorem toBigEndian_inj {width first second : Nat} (firstFits : first < 256 ^ width)
    (secondFits : second < 256 ^ width)
    (same : toBigEndian width first = toBigEndian width second) : first = second := by
  rw [← ofBigEndian_toBigEndian_of_lt firstFits, same, ofBigEndian_toBigEndian_of_lt secondFits]

/-! ## Fields of fixed size -/

/-- A big-endian number in an array of its own width. -/
def numberArray (width val : Nat) : OctetArray width :=
  ⟨toBigEndian width val, toBigEndian_length width val⟩

/-- The number an array denotes. -/
def arrayNumber {size : Nat} (array : OctetArray size) : Nat := ofBigEndian array.toList

/-- The all-zero array. -/
def zeroArray (size : Nat) : OctetArray size := List.Vector.replicate size 0

/-- Copies `size` octets found at `offset` into an array; octets the source does not have stay zero. -/
def readArray (size offset : Nat) (octets : Octets) : OctetArray size :=
  ⟨(octets.drop offset).takeD size 0, List.takeD_length _ _ _⟩

/-- The octet at an index of a span that is known to be long enough. -/
def octetAt (octets : Octets) (index : Nat) : UInt8 := octets.getD index 0

/-- The big-endian 16-bit number at an index. -/
def readU16 (octets : Octets) (index : Nat) : UInt16 :=
  UInt16.ofNat ((octetAt octets index).toNat * 256 + (octetAt octets (index + 1)).toNat)

/-- The two octets of a 16-bit number. -/
def u16Octets (val : UInt16) : Octets := toBigEndian 2 val.toNat

@[simp] theorem u16Octets_length (val : UInt16) : (u16Octets val).length = 2 :=
  toBigEndian_length 2 _

theorem u16Octets_inj {first second : UInt16} (same : u16Octets first = u16Octets second) :
    first = second :=
  UInt16.toNat_inj.mp (toBigEndian_inj first.toNat_lt second.toNat_lt same)

variable {size index : Nat} {octets : Octets}

variable (before after : Octets) (octet : UInt8) (array : OctetArray size)

@[simp] theorem array_length : array.toList.length = size :=
  array.toList_length

theorem octetAt_append_left (inside : index < before.length) :
    octetAt (before ++ after) index = octetAt before index := by
  simp [octetAt, List.getElem?_append_left inside]

theorem octetAt_append_right (past : before.length ≤ index) :
    octetAt (before ++ after) index = octetAt after (index - before.length) := by
  simp [octetAt, List.getElem?_append_right past]

theorem octetAt_take {count : Nat} (octets : Octets) (inside : index < count) :
    octetAt (octets.take count) index = octetAt octets index := by
  simp [octetAt, List.getElem?_take_of_lt inside]

theorem octetAt_append_add {before : Octets} (sized : before.length = size) (index : Nat)
    (after : Octets) : octetAt (before ++ after) (size + index) = octetAt after index := by
  rw [octetAt_append_right _ _ (by omega), sized, Nat.add_sub_cancel_left]

theorem readArray_append_right {offset : Nat} (past : before.length ≤ offset) :
    readArray size offset (before ++ after) = readArray size (offset - before.length) after := by
  apply List.Vector.eq
  show List.takeD size (List.drop offset (before ++ after)) 0 = List.takeD size (List.drop _ after) 0
  rw [List.drop_append, List.drop_eq_nil_of_le past, List.nil_append]

theorem readArray_append_left (after : Octets) :
    readArray size 0 (array.toList ++ after) = array := by
  apply List.Vector.eq
  show List.takeD size (array.toList ++ after) 0 = array.toList
  rw [List.takeD_eq_take _ (by simp)]
  exact List.take_left' array.toList_length

theorem readArray_self : readArray size 0 array.toList = array := by
  simpa using readArray_append_left array []

theorem readU16_append_of_lt (inside : index + 1 < before.length) :
    readU16 (before ++ after) index = readU16 before index := by
  rw [readU16, octetAt_append_left before after (by omega), octetAt_append_left before after inside,
    readU16]

theorem readU16_append_right (past : before.length ≤ index) :
    readU16 (before ++ after) index = readU16 after (index - before.length) := by
  have next : index + 1 - before.length = index - before.length + 1 := by omega
  rw [readU16, octetAt_append_right _ _ past, octetAt_append_right _ _ (by omega), next, readU16]

theorem readU16_append_add {before : Octets} (sized : before.length = size) (index : Nat)
    (after : Octets) : readU16 (before ++ after) (size + index) = readU16 after index := by
  rw [readU16_append_right _ _ (by omega), sized, Nat.add_sub_cancel_left]

theorem readU16_append_left (val : UInt16) (after : Octets) :
    readU16 (u16Octets val ++ after) 0 = val := by
  have first : octetAt (u16Octets val ++ after) 0 = UInt8.ofNat (val.toNat / 256) := by
    simp [octetAt, u16Octets, toBigEndian]
  have second : octetAt (u16Octets val ++ after) 1 = UInt8.ofNat val.toNat := by
    simp [octetAt, u16Octets, toBigEndian]
  have bound : val.toNat < 65536 := val.toNat_lt
  rw [readU16, first, second]
  apply UInt16.toNat_inj.mp
  simp only [UInt8.toNat_ofNat', UInt16.toNat_ofNat']
  omega

theorem drop_eq_octetAt_cons (inside : index < octets.length) :
    octets.drop index = octetAt octets index :: octets.drop (index + 1) := by
  simp [octetAt, inside]

/-! ## Writing back what was read -/

theorem readArray_toList {offset : Nat} (enough : offset + size ≤ octets.length) :
    (readArray size offset octets).toList = (octets.drop offset).take size :=
  List.takeD_eq_take _ (by rw [List.length_drop]; omega)

theorem u16Octets_readU16 (enough : index + 2 ≤ octets.length) :
    u16Octets (readU16 octets index) = (octets.drop index).take 2 := by
  rw [drop_eq_octetAt_cons (by omega : index < octets.length),
    drop_eq_octetAt_cons (by omega : index + 1 < octets.length)]
  have high : (octetAt octets index).toNat < 256 := (octetAt octets index).toNat_lt
  have low : (octetAt octets (index + 1)).toNat < 256 := (octetAt octets (index + 1)).toNat_lt
  have num : (readU16 octets index).toNat =
      (octetAt octets index).toNat * 256 + (octetAt octets (index + 1)).toNat :=
    UInt16.toNat_ofNat_of_lt' (by simp only [UInt16.size]; omega)
  have highOctet : UInt8.ofNat ((readU16 octets index).toNat / 256) = octetAt octets index := by
    apply UInt8.toNat_inj.mp
    rw [num, UInt8.toNat_ofNat']
    omega
  have lowOctet : UInt8.ofNat (readU16 octets index).toNat = octetAt octets (index + 1) := by
    apply UInt8.toNat_inj.mp
    rw [num, UInt8.toNat_ofNat']
    omega
  simp [u16Octets, toBigEndian, highOctet, lowOctet]

theorem take_append_drop_add (octets : Octets) (offset size : Nat) :
    (octets.drop offset).take size ++ octets.drop (offset + size) = octets.drop offset := by
  rw [← List.drop_drop, List.take_append_drop]

/-! ## Masks -/

theorem and_or_distrib (first second : UInt8) :
    octet &&& (first ||| second) = (octet &&& first) ||| (octet &&& second) := by
  apply UInt8.toBitVec_inj.mp
  simp only [UInt8.toBitVec_and, UInt8.toBitVec_or, BitVec.and_or_distrib_left]

theorem and_or_and_not (mask : UInt8) : (octet &&& mask) ||| (octet &&& ~~~mask) = octet := by
  rw [← and_or_distrib, UInt8.or_not_self, UInt8.and_neg_one]

theorem or_mask_and_not (mask : UInt8) : (octet ||| mask) &&& ~~~mask = octet &&& ~~~mask := by
  rw [UInt8.and_comm, and_or_distrib, UInt8.not_and_self, UInt8.or_zero, UInt8.and_comm]

theorem and_not_or_mask (mask : UInt8) : (octet &&& ~~~mask) ||| mask = octet ||| mask := by
  have absorbed : (octet &&& mask) ||| mask = mask := by
    rw [UInt8.and_comm]
    nth_rewrite 2 [← UInt8.and_neg_one (a := mask)]
    rw [← and_or_distrib, UInt8.or_neg_one, UInt8.and_neg_one]
  calc (octet &&& ~~~mask) ||| mask
      = ((octet &&& mask) ||| (octet &&& ~~~mask)) ||| mask := by
        rw [UInt8.or_comm (octet &&& mask), UInt8.or_assoc, absorbed]
    _ = octet ||| mask := by rw [and_or_and_not]

theorem and_not_of_and_eq_zero {octet mask : UInt8} (clear : octet &&& mask = 0) :
    octet &&& ~~~mask = octet := by
  have parts := and_or_and_not octet mask
  rwa [clear, UInt8.zero_or] at parts

end KmxAio.Lib.Wire
