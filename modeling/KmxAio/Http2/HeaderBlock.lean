import KmxAio.Lib.Wire

/-!
# HTTP/2 header blocks

The encoder writes a field as a literal without indexing: a zero octet, then the name and the value,
each behind one octet with the low seven bits of its length. The frame builder puts the block behind
a header that says how long it is. A reader that follows RFC 7541 takes a length octet of 127 for the
start of a longer number, so only shorter names and values are read as they were written.
-/

namespace KmxAio.Http2

open Lib.Wire

inductive BuildError where
  | invalidArgument (text : String)
  | runtimeError (text : String)

abbrev Header := Octets × Octets

namespace HpackEncoder

def encodedSizeLiteral (header : Header) : Nat := 1 + 1 + header.1.length + 1 + header.2.length

def encodedSize (headers : List Header) : Nat := (headers.map encodedSizeLiteral).sum

def lengthOctet (text : Octets) : UInt8 := UInt8.ofNat (text.length &&& 0x7F)

def literal (header : Header) : Octets :=
  0x00 :: lengthOctet header.1 :: (header.1 ++ lengthOctet header.2 :: header.2)

def encodeLiteral (room : Nat) (header : Header) : Except BuildError Octets :=
  if room < encodedSizeLiteral header then
    .error (.invalidArgument "Buffer too small for HPACK literal encoding")
  else .ok (literal header)

def encode (room : Nat) : List Header → Except BuildError Octets
  | [] => .ok []
  | header :: rest => do
    let chunk ← encodeLiteral room header
    let block ← encode (room - chunk.length) rest
    .ok (chunk ++ block)

theorem literal_length (header : Header) : (literal header).length = encodedSizeLiteral header := by
  simp only [literal, encodedSizeLiteral, List.length_cons, List.length_append]
  omega

theorem flatMap_literal_length (headers : List Header) :
    (headers.flatMap literal).length = encodedSize headers := by
  simp only [List.length_flatMap, literal_length, encodedSize]

theorem encode_ok {room : Nat} {headers : List Header} (fits : encodedSize headers ≤ room) :
    encode room headers = .ok (headers.flatMap literal) := by
  induction headers generalizing room with
  | nil => rfl
  | cons header rest ih =>
    rw [encodedSize, List.map_cons, List.sum_cons, ← literal_length] at fits
    rw [encode, encodeLiteral, ← literal_length, if_neg (by omega)]
    change (encode (room - (literal header).length) rest >>= fun block => _) = _
    rw [ih (by unfold encodedSize; omega)]
    rfl

end HpackEncoder

open HpackEncoder

/-- The octets of a HEADERS frame in a buffer of so many. -/
def makeHeaders (room : Nat) (streamId : UInt32) (endStream : Bool) (headers : List Header) :
    Except BuildError Octets :=
  let hpackLen := encodedSize headers
  if 0xFFFFFF < hpackLen then .error (.runtimeError "Header block too large")
  else if room < 9 + hpackLen then
    .error (.invalidArgument "Buffer too small for HEADERS frame")
  else do
    let payload ← encode hpackLen headers
    .ok (toBigEndian 3 hpackLen ++ [0x01, if endStream then 0x04 ||| 0x01 else 0x04] ++
      toBigEndian 4 streamId.toNat ++ payload)

/-! ## A reader that follows RFC 7541 -/

/-- The octets behind a full length octet hold seven bits each, the lowest first. -/
def readContinuation (val scale : Nat) : Octets → Option (Nat × Octets)
  | [] => none
  | octet :: rest =>
    if octet.toNat < 128 then some (val + octet.toNat * scale, rest)
    else readContinuation (val + (octet.toNat - 128) * scale) (scale * 128) rest

def readLength : Octets → Option (Nat × Octets)
  | [] => none
  | first :: rest =>
    if first.toNat < 127 then some (first.toNat, rest)
    -- the high bit announces a Huffman code
    else if first.toNat = 127 then readContinuation 127 1 rest else none

def readString (block : Octets) : Option (Octets × Octets) := do
  let (length, rest) ← readLength block
  if length ≤ rest.length then some (rest.splitAt length) else none

/-- Literal fields without indexing and with new names; at most as many as there is fuel for. -/
def readFields : Nat → Octets → Option (List Header)
  | _, [] => some []
  | 0, _ => none
  | fuel + 1, kind :: block =>
    if kind ≠ 0x00 then none
    else do
      let (name, block) ← readString block
      let (value, block) ← readString block
      let rest ← readFields fuel block
      some ((name, value) :: rest)

def readBlock (block : Octets) : Option (List Header) := readFields block.length block

theorem readString_written {text : Octets} (short : text.length < 127) (rest : Octets) :
    readString (lengthOctet text :: (text ++ rest)) = some (text, rest) := by
  have length : (lengthOctet text).toNat = text.length := by
    rw [lengthOctet, Nat.and_two_pow_sub_one_eq_mod _ 7, UInt8.toNat_ofNat']
    omega
  simp [readString, readLength, length, short]

theorem readFields_written {headers : List Header} {fuel : Nat}
    (enough : (headers.flatMap literal).length ≤ fuel)
    (short : ∀ header ∈ headers, header.1.length < 127 ∧ header.2.length < 127) :
    readFields fuel (headers.flatMap literal) = some headers := by
  induction headers generalizing fuel with
  | nil => cases fuel <;> rfl
  | cons header rest ih =>
    obtain ⟨⟨name, value⟩, others⟩ := List.forall_mem_cons.mp short
    cases fuel with
    | zero => cases enough
    | succ fuel =>
      rw [List.flatMap_cons, List.length_append, literal, List.length_cons] at enough
      have read := readString_written name (lengthOctet header.2 :: (header.2 ++ rest.flatMap literal))
      have later : readFields fuel (rest.flatMap literal) = some rest := ih (by omega) others
      simp [readFields, literal, read, readString_written value, later]

/-- The length field of a HEADERS frame counts the octets of its block, and the block is read as the
headers it was made of where each name and value is shorter than 127 octets. -/
theorem header_block_read (room : Nat) (streamId : UInt32) (endStream : Bool) (headers : List Header)
    (frame : Octets) (built : makeHeaders room streamId endStream headers = .ok frame) :
    ofBigEndian (frame.take 3) = (frame.drop 9).length ∧
      ((∀ header ∈ headers, header.1.length < 127 ∧ header.2.length < 127) →
        readBlock (frame.drop 9) = some headers) := by
  unfold makeHeaders at built
  dsimp only at built
  split at built
  · cases built
  rename_i small
  split at built
  · cases built
  rw [encode_ok (Nat.le_refl _)] at built
  cases built
  have behind : (toBigEndian 3 (encodedSize headers) ++
      [0x01, if endStream then 0x04 ||| 0x01 else 0x04] ++ toBigEndian 4 streamId.toNat ++
        headers.flatMap literal).drop 9 = headers.flatMap literal :=
    List.drop_left' (by simp)
  rw [behind]
  refine ⟨?_, readFields_written (Nat.le_refl _)⟩
  rw [List.append_assoc, List.append_assoc, List.take_left' (toBigEndian_length 3 _),
    flatMap_literal_length]
  exact ofBigEndian_toBigEndian_of_lt (by omega)

theorem header_block_read_one :
    readBlock [0x00, 0x01, 0x61, 0x01, 0x62] = some [([0x61], [0x62])] :=
  (header_block_read 14 1 true [([0x61], [0x62])]
    [0, 0, 5, 1, 5, 0, 0, 0, 1, 0x00, 0x01, 0x61, 0x01, 0x62] rfl).2 (by simp)

/-- The length octet of 127 takes the first letter of the name for the rest of the length. -/
theorem long_name_unread :
    ∃ frame, makeHeaders 200 1 true [(List.replicate 127 0x61, [])] = .ok frame ∧
      readBlock (frame.drop 9) = none := by
  rw [makeHeaders, if_neg (by decide +kernel), if_neg (by decide +kernel), encode_ok (Nat.le_refl _)]
  exact ⟨_, rfl, by decide +kernel⟩

end KmxAio.Http2
