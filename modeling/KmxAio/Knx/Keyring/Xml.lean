import Mathlib.Data.List.Basic
import KmxAio.Lib.Wire
import KmxAio.Knx.Error

/-!
# The XML of a keyring

A bounded reader for the part of XML a keyring is written in. The reader is a
cursor in the document, and here the cursor is the text that is left. Every loop
of it leaves less than it found.
-/

namespace KmxAio.Knx.Keyring

open Lib.Wire

structure XmlLimits where
  maxDocumentSize : Nat := 1048576
  maxElements : Nat := 4096
  maxAttributes : Nat := 16
  maxDepth : Nat := 8
  maxNameSize : Nat := 64
  maxValueSize : Nat := 4096

structure XmlAttribute where
  name : Octets
  value : Octets
  deriving DecidableEq

inductive XmlEventKind where
  | start
  | finish
  deriving DecidableEq

structure XmlEvent where
  kind : XmlEventKind
  name : Octets
  attributes : List XmlAttribute := []
  deriving DecidableEq

def malformed {α : Type} : Expected α := refuse .malformedFrame

/-! ## Characters -/

variable (val : UInt8) (limits : XmlLimits) (text : Octets)

def isSpace : Bool :=
  val = octetOf ' ' ∨ val = octetOf '\t' ∨ val = octetOf '\r' ∨ val = octetOf '\n'

def isNameStart : Bool :=
  octetOf 'A' ≤ val ∧ val ≤ octetOf 'Z' ∨ octetOf 'a' ≤ val ∧ val ≤ octetOf 'z' ∨
    val = octetOf '_' ∨ val = octetOf ':'

def isNameChar : Bool :=
  isNameStart val ∨ octetOf '0' ≤ val ∧ val ≤ octetOf '9' ∨ val = octetOf '-' ∨ val = octetOf '.'

def allowedCodePoint (val : Nat) : Bool :=
  val = 0x9 ∨ val = 0xA ∨ val = 0xD ∨ 0x20 ≤ val ∧ val ≤ 0xD7FF ∨
    0xE000 ≤ val ∧ val ≤ 0xFFFD ∨ 0x10000 ≤ val ∧ val ≤ 0x10FFFF

/-- What `append_utf8` appends. -/
def utf8 (val : Nat) : Octets :=
  let continuation (shift : Nat) : UInt8 := UInt8.ofNat (0x80 ||| ((val >>> shift) &&& 0x3F))
  if val < 0x80 then [UInt8.ofNat val]
  else if val < 0x800 then [UInt8.ofNat (0xC0 ||| (val >>> 6)), continuation 0]
  else if val < 0x10000 then
    [UInt8.ofNat (0xE0 ||| (val >>> 12)), continuation 6, continuation 0]
  else [UInt8.ofNat (0xF0 ||| (val >>> 18)), continuation 12, continuation 6, continuation 0]

def digitValue (base : Nat) (val : UInt8) : Option Nat :=
  let digit : Option Nat :=
    if octetOf '0' ≤ val ∧ val ≤ octetOf '9' then some (val.toNat - (octetOf '0').toNat)
    else if octetOf 'a' ≤ val ∧ val ≤ octetOf 'z' then
      some (val.toNat - (octetOf 'a').toNat + 10)
    else if octetOf 'A' ≤ val ∧ val ≤ octetOf 'Z' then
      some (val.toNat - (octetOf 'A').toNat + 10)
    else none
  digit.filter (· < base)

/-- `std::from_chars` over the whole of a text, into an unsigned number of some bits. -/
def fromChars (base bits : Nat) (text : Octets) : Option Nat :=
  if text = [] then none
  else
    let num := text.foldlM (fun val character =>
      (digitValue base character).map (val * base + ·)) 0
    num.filter (· < 2 ^ bits)

/-! ## The cursor -/

def lookingAt (pattern : String) (text : Octets) : Bool := (ascii pattern).isPrefixOf text

/-- What is left behind the first place where a pattern stands. -/
def findPast (pattern : String) : Octets → Option Octets
  | [] => none
  | val :: rest =>
    if lookingAt pattern (val :: rest) then some ((val :: rest).drop (ascii pattern).length)
    else findPast pattern rest

def skipSpaces : Octets := text.dropWhile isSpace

theorem findPast_length {pattern : String} {text rest : Octets}
    (found : findPast pattern text = some rest) : rest.length ≤ text.length := by
  induction text with
  | nil => cases found
  | cons val more ih =>
    rw [findPast] at found
    split at found
    · cases found
      rw [List.length_drop]
      omega
    · exact Nat.le_succ_of_le (ih found)

theorem skipSpaces_length (text : Octets) : (skipSpaces text).length ≤ text.length :=
  (List.dropWhile_suffix isSpace).length_le

theorem length_of_lookingAt {pattern : String} {text : Octets}
    (looking : lookingAt pattern text = true) : (ascii pattern).length ≤ text.length :=
  (List.isPrefixOf_iff_prefix.mp looking).length_le

def skipDeclaration : Expected Octets :=
  if lookingAt "<?xml" text = false then .ok text
  else if (text.drop 5).head?.any (fun val => !isSpace val && val ≠ octetOf '?') then malformed
  else
    match findPast "?>" (text.drop 5) with
    | none => malformed
    | some rest => .ok rest

def skipMisc (text : Octets) : Expected Octets :=
  if _ : lookingAt "<!--" (skipSpaces text) then
    match _ : findPast "-->" ((skipSpaces text).drop 4) with
    | none => malformed
    | some rest => skipMisc rest
  else .ok (skipSpaces text)
termination_by text.length
decreasing_by
  have comment : 4 ≤ (skipSpaces text).length :=
    length_of_lookingAt ‹lookingAt "<!--" (skipSpaces text)›
  have past := findPast_length ‹findPast _ _ = some _›
  rw [List.length_drop] at past
  have spaces := skipSpaces_length text
  omega

def readName : Expected (Octets × Octets) :=
  if text.head?.any isNameStart = false then malformed
  else if limits.maxNameSize < (text.takeWhile isNameChar).length then malformed
  else .ok (text.takeWhile isNameChar, text.dropWhile isNameChar)

/-! ## Attributes -/

/-- Appends the character of a numeric reference, given without its `&#` and `;`. -/
def appendCharacterReference (val digits : Octets) : Expected Octets :=
  let hexadecimal := lookingAt "x" digits
  match fromChars (if hexadecimal then 16 else 10) 32
      (if hexadecimal then digits.drop 1 else digits) with
  | none => malformed
  | some codePoint =>
    if allowedCodePoint codePoint then .ok (val ++ utf8 codePoint) else malformed

def predefined : List (Octets × UInt8) :=
  [(ascii "amp", octetOf '&'), (ascii "lt", octetOf '<'), (ascii "gt", octetOf '>'),
    (ascii "quot", octetOf '"'), (ascii "apos", octetOf '\'')]

/-- Appends what the reference named before the next semicolon stands for. -/
def appendReference (value name : Octets) : Expected Octets :=
  if lookingAt "#" name then appendCharacterReference value (name.drop 1)
  else
    match predefined.find? (·.1 = name) with
    | none => malformed
    | some entry => .ok (value ++ [entry.2])

def longestReference : Nat := 10

def readReference (value text : Octets) : Expected (Octets × Octets) :=
  let reference := text.takeWhile (· ≠ octetOf ';')
  match text.dropWhile (· ≠ octetOf ';') with
  | [] => malformed
  | _ :: rest =>
    if reference.length > longestReference then malformed
    else (appendReference value (reference.drop 1)).map (·, rest)

theorem readReference_length {value text more rest : Octets}
    (read : readReference value text = .ok (more, rest)) : rest.length < text.length := by
  have dropped : (text.dropWhile (· ≠ octetOf ';')).length ≤ text.length :=
    (List.dropWhile_suffix _).length_le
  unfold readReference at read
  dsimp only at read
  split at read
  · cases read
  rename_i found
  rw [found, List.length_cons] at dropped
  split at read
  · cases read
  cases appended : appendReference value ((text.takeWhile (· ≠ octetOf ';')).drop 1) with
  | error reason =>
    rw [appended] at read
    cases read
  | ok after =>
    rw [appended] at read
    cases read
    exact dropped

/-- The character a raw one reads as: white space becomes a space. -/
def normalised (character : UInt8) : UInt8 :=
  if character = octetOf '\t' ∨ character = octetOf '\n' ∨ character = octetOf '\r' then octetOf ' '
  else character

/-- The loop of `read_value`, with the value read so far. -/
def readValueTo (limits : XmlLimits) (quote : UInt8) (value : Octets) :
    Octets → Expected (Octets × Octets)
  | [] => malformed
  | character :: rest =>
    if limits.maxValueSize < value.length then malformed
    else if character = quote then .ok (value, rest)
    else if character = octetOf '<' then malformed
    else if character = octetOf '&' then
      match _ : readReference value (character :: rest) with
      | .error reason => .error reason
      | .ok (more, left) => readValueTo limits quote more left
    else
      -- a carriage return and a line feed read as one character
      readValueTo limits quote (value ++ [normalised character])
        (if character = octetOf '\r' ∧ rest.head? = some (octetOf '\n') then rest.drop 1 else rest)
termination_by text => text.length
decreasing_by
  · exact readReference_length ‹_›
  · split
    · rw [List.length_drop, List.length_cons]
      omega
    · exact Nat.lt_succ_self _

def readValue : Octets → Expected (Octets × Octets)
  | [] => malformed
  | quote :: rest =>
    if quote ≠ octetOf '"' ∧ quote ≠ octetOf '\'' then malformed
    else readValueTo limits quote [] rest

def readAttribute (attributes : List XmlAttribute) (text : Octets) :
    Expected (List XmlAttribute × Octets) := do
  let (name, rest) ← readName limits text
  if lookingAt "=" (skipSpaces rest) = false then malformed
  else
    let (val, rest) ← readValue limits (skipSpaces ((skipSpaces rest).drop 1))
    if name ∈ attributes.map (·.name) ∨ limits.maxAttributes ≤ attributes.length then malformed
    else return (attributes ++ [⟨name, val⟩], rest)

variable {limits} {text} {rest : Octets}

structure NameWithin (limits : XmlLimits) (name : Octets) : Prop where
  start : name.head?.any isNameStart = true
  short : name.length ≤ limits.maxNameSize

theorem readName_ok {name : Octets} (read : readName limits text = .ok (name, rest)) :
    name ++ rest = text ∧ NameWithin limits name := by
  unfold readName at read
  split at read
  · cases read
  rename_i start
  split at read
  · cases read
  rename_i short
  cases read
  refine ⟨List.takeWhile_append_dropWhile, ?_, Nat.le_of_not_lt short⟩
  obtain _ | ⟨first, more⟩ := text
  · exact absurd rfl start
  · have starts : isNameStart first = true := by simpa using start
    have taken : isNameChar first = true := by simp [isNameChar, starts]
    simpa [taken] using starts

theorem readValueTo_ok {quote : UInt8} {val after : Octets}
    (read : readValueTo limits quote val text = .ok (after, rest)) :
    rest.length ≤ text.length ∧ after.length ≤ limits.maxValueSize := by
  fun_induction readValueTo limits quote val text with
  | case1 | case2 | case4 | case5 => cases read
  | case3 val rest short =>
    cases read
    exact ⟨Nat.le_succ _, Nat.le_of_not_lt short⟩
  | case6 val more short _ _ after left reference ih =>
    have shorter := readReference_length reference
    exact ⟨(ih read).1.trans (Nat.le_of_lt shorter), (ih read).2⟩
  | case7 val character more short _ _ _ ih =>
    refine ⟨(ih read).1.trans ?_, (ih read).2⟩
    split
    · rw [List.length_drop, List.length_cons]
      omega
    · exact Nat.le_succ _

theorem readValue_ok {val : Octets} (read : readValue limits text = .ok (val, rest)) :
    rest.length ≤ text.length ∧ val.length ≤ limits.maxValueSize := by
  unfold readValue at read
  split at read
  · cases read
  split at read
  · cases read
  · exact ⟨(readValueTo_ok read).1.trans (Nat.le_succ _), (readValueTo_ok read).2⟩

theorem readAttribute_ok {attributes after : List XmlAttribute}
    (read : readAttribute limits attributes text = .ok (after, rest)) :
    rest.length ≤ text.length ∧ ∃ added : XmlAttribute, after = attributes ++ [added] ∧
      attributes.length < limits.maxAttributes ∧ added.name ∉ attributes.map (·.name) ∧
      NameWithin limits added.name ∧ added.value.length ≤ limits.maxValueSize := by
  obtain ⟨⟨name, past⟩, named, read⟩ := bind_ok read
  obtain ⟨whole, nameWithin⟩ := readName_ok named
  dsimp only at read
  split at read
  · cases read
  obtain ⟨⟨val, left⟩, valued, read⟩ := bind_ok read
  obtain ⟨shorter, valueShort⟩ := readValue_ok valued
  dsimp only at read
  split at read
  · cases read
  rename_i fits
  cases read
  rw [not_or, Nat.not_le] at fits
  refine ⟨?_, _, rfl, fits.2, fits.1, nameWithin, valueShort⟩
  have spaces := skipSpaces_length past
  have more := skipSpaces_length ((skipSpaces past).drop 1)
  rw [List.length_drop] at more
  rw [← whole, List.length_append]
  omega

/-- The loop of `read_start_tag`: the attributes, whether the element is empty, and what is left. -/
def readAttributes (limits : XmlLimits) (attributes : List XmlAttribute) (text : Octets) :
    Expected (List XmlAttribute × Bool × Octets) :=
  let here := skipSpaces text
  if lookingAt "/>" here then .ok (attributes, true, here.drop 2)
  else if lookingAt ">" here then .ok (attributes, false, here.drop 1)
  else if _ : here.length = text.length ∨ here = [] then malformed
  else
    match _ : readAttribute limits attributes here with
    | .error why => .error why
    | .ok (more, rest) => readAttributes limits more rest
termination_by text.length
decreasing_by
  have spaces : here.length ≤ text.length := skipSpaces_length text
  have past := (readAttribute_ok ‹_›).1
  omega

/-! ## Elements -/

/-- The elements that are open, the innermost first, and what was read. -/
structure XmlParser where
  opened : List Octets := []
  events : List XmlEvent := []
  elementCount : Nat := 0

def finishStartTag (limits : XmlLimits) (parser : XmlParser) (event : XmlEvent) (empty : Bool) :
    Expected XmlParser :=
  if limits.maxElements < parser.elementCount + 1 ∨ limits.maxDepth < parser.opened.length + 1 then
    malformed
  else
    .ok {
      opened := if empty then parser.opened else event.name :: parser.opened
      events := parser.events ++ event :: if empty then [⟨.finish, event.name, []⟩] else []
      elementCount := parser.elementCount + 1 }

def readStartTag (limits : XmlLimits) (parser : XmlParser) (text : Octets) :
    Expected (XmlParser × Octets) := do
  let (name, rest) ← readName limits (text.drop 1)
  let (attributes, empty, rest) ← readAttributes limits [] rest
  return (← finishStartTag limits parser ⟨.start, name, attributes⟩ empty, rest)

def readEndTag (limits : XmlLimits) (parser : XmlParser) (text : Octets) :
    Expected (XmlParser × Octets) := do
  let (name, rest) ← readName limits (text.drop 2)
  if lookingAt ">" (skipSpaces rest) = false ∨ parser.opened.head? ≠ some name then malformed
  else
    return ({ parser with
      opened := parser.opened.tail, events := parser.events ++ [⟨.finish, name, []⟩] },
      (skipSpaces rest).drop 1)

/-- Attributes as a start tag may have them. -/
structure AttributesWithin (limits : XmlLimits) (attributes : List XmlAttribute) : Prop where
  few : attributes.length ≤ limits.maxAttributes
  distinct : (attributes.map (·.name)).Nodup
  short : ∀ held ∈ attributes, NameWithin limits held.name ∧ held.value.length ≤ limits.maxValueSize

theorem readAttributes_ok {attributes after : List XmlAttribute} {empty : Bool}
    (within : AttributesWithin limits attributes)
    (read : readAttributes limits attributes text = .ok (after, empty, rest)) :
    rest.length ≤ text.length ∧ AttributesWithin limits after := by
  fun_induction readAttributes limits attributes text with
  | case1 attributes text here closes | case2 attributes text here _ closes =>
    cases read
    have spaces : here.length ≤ text.length := skipSpaces_length text
    exact ⟨by rw [List.length_drop]; omega, within⟩
  | case3 | case4 => cases read
  | case5 attributes text here _ _ _ more left attributeRead ih =>
    have spaces : here.length ≤ text.length := skipSpaces_length text
    obtain ⟨shorter, added, rfl, room, new, short⟩ := readAttribute_ok attributeRead
    have extended : AttributesWithin limits (attributes ++ [added]) := by
      refine ⟨by rw [List.length_append]; exact room, ?_, ?_⟩
      · simpa [List.nodup_append, within.distinct] using new
      · simpa [or_imp, forall_and] using
          ⟨⟨fun held listed => (within.short held listed).1, short.1⟩,
            fun held listed => (within.short held listed).2, short.2⟩
    obtain ⟨restShorter, afterWithin⟩ := ih extended read
    exact ⟨by omega, afterWithin⟩

variable {after parser : XmlParser}

theorem readStartTag_ok (read : readStartTag limits parser text = .ok (after, rest)) :
    rest.length ≤ text.length - 1 ∧ ∃ name attributes empty, NameWithin limits name ∧
      AttributesWithin limits attributes ∧
      finishStartTag limits parser ⟨.start, name, attributes⟩ empty = .ok after := by
  obtain ⟨⟨name, past⟩, named, read⟩ := bind_ok read
  obtain ⟨whole, nameWithin⟩ := readName_ok named
  obtain ⟨⟨attributes, empty, left⟩, listed, read⟩ := bind_ok read
  obtain ⟨shorter, within⟩ := readAttributes_ok (by constructor <;> simp) listed
  obtain ⟨finished, ended, read⟩ := bind_ok read
  cases read
  refine ⟨?_, name, attributes, empty, nameWithin, within, ended⟩
  have size := congrArg List.length whole
  rw [List.length_append, List.length_drop] at size
  omega

theorem readEndTag_ok (read : readEndTag limits parser text = .ok (after, rest)) :
    rest.length ≤ text.length - 2 ∧ ∃ name, parser.opened.head? = some name ∧
      after = { parser with
        opened := parser.opened.tail, events := parser.events ++ [⟨.finish, name, []⟩] } := by
  obtain ⟨⟨name, past⟩, named, read⟩ := bind_ok read
  obtain ⟨whole, -⟩ := readName_ok named
  dsimp only at read
  split at read
  · cases read
  rename_i ends
  rw [not_or, not_not] at ends
  cases read
  refine ⟨?_, name, ends.2, rfl⟩
  have size := congrArg List.length whole
  have spaces := skipSpaces_length past
  rw [List.length_append, List.length_drop] at size
  rw [List.length_drop]
  omega

theorem skipMisc_length (skipped : skipMisc text = .ok rest) : rest.length ≤ text.length := by
  fun_induction skipMisc text with
  | case1 => cases skipped
  | case2 text looking more found ih =>
    have past := findPast_length found
    have spaces := skipSpaces_length text
    rw [List.length_drop] at past
    have shorter := ih skipped
    omega
  | case3 text looking =>
    cases skipped
    exact skipSpaces_length text

/-- What stands where a tag may: it must be an end tag or a start tag. -/
def readTag (limits : XmlLimits) (parser : XmlParser) (text : Octets) :
    Expected (XmlParser × Octets) :=
  if lookingAt "<" text = false ∨ lookingAt "<!" text ∨ lookingAt "<?" text then malformed
  else if lookingAt "</" text then readEndTag limits parser text
  else readStartTag limits parser text

theorem readTag_length
    (read : readTag limits parser text = .ok (after, rest)) : rest.length < text.length := by
  unfold readTag at read
  split at read
  · cases read
  rename_i tag
  have one : lookingAt "<" text = true := by simpa using (not_or.mp tag).1
  have positive : 1 ≤ text.length := length_of_lookingAt one
  split at read
  · have shorter := (readEndTag_ok read).1
    omega
  · have shorter := (readStartTag_ok read).1
    omega

def readContent (limits : XmlLimits) (parser : XmlParser) (text : Octets) :
    Expected (XmlParser × Octets) :=
  if parser.opened = [] then .ok (parser, text)
  else
    match _ : skipMisc text with
    | .error why => .error why
    | .ok here =>
      match _ : readTag limits parser here with
      | .error why => .error why
      | .ok (after, rest) => readContent limits after rest
termination_by text.length
decreasing_by exact Nat.lt_of_lt_of_le (readTag_length ‹_›) (skipMisc_length ‹_›)

/-- `xml_parser::run`. -/
def readXml (limits : XmlLimits) (document : Octets) : Expected (List XmlEvent) :=
  if document = [] ∨ limits.maxDocumentSize < document.length then refuse .invalidLength
  else do
    let text := if [0xEF, 0xBB, 0xBF].isPrefixOf document then document.drop 3 else document
    let text ← skipMisc (← skipDeclaration text)
    if lookingAt "<" text = false then malformed
    else
      let (parser, rest) ← readStartTag limits {} text
      let (parser, rest) ← readContent limits parser rest
      -- one root, and nothing behind it but white space and comments
      match skipMisc rest with
      | .ok [] => return parser.events
      | _ => malformed

end KmxAio.Knx.Keyring
