import KmxAio.Knx.Keyring.Xml

/-!
# What a document is read into

The events of a document are those of a tree of elements. While the document is
read, the levels above the cursor are known with the elements ahead of them, and
a tag opens a level, ends one, or adds an element to the innermost one.
-/

namespace KmxAio.Knx.Keyring

open Lib.Wire

/-- Elements beside each other, the first with its children. -/
inductive XmlForest where
  | nil
  | element (name : Octets) (attributes : List XmlAttribute) (children rest : XmlForest)
  deriving DecidableEq

namespace XmlForest

def events : XmlForest → List XmlEvent
  | nil => []
  | element name attributes children rest =>
    ⟨.start, name, attributes⟩ :: (children.events ++ ⟨.finish, name, []⟩ :: rest.events)

def depth : XmlForest → Nat
  | nil => 0
  | element _ _ children rest => max (children.depth + 1) rest.depth

def size : XmlForest → Nat
  | nil => 0
  | element _ _ children rest => children.size + 1 + rest.size

def Within (limits : XmlLimits) : XmlForest → Prop
  | nil => True
  | element name attributes children rest =>
    (NameWithin limits name ∧ AttributesWithin limits attributes) ∧
      children.Within limits ∧ rest.Within limits

def append : XmlForest → XmlForest → XmlForest
  | nil, second => second
  | element name attributes children rest, second =>
    element name attributes children (rest.append second)

variable (first second : XmlForest)

theorem events_append : (first.append second).events = first.events ++ second.events := by
  induction first with
  | nil => rfl
  | element name attributes children rest _ ih => simp [append, events, ih]

theorem depth_append : (first.append second).depth = max first.depth second.depth := by
  induction first with
  | nil => simp [append, depth]
  | element name attributes children rest _ ih => simp [append, depth, ih, Nat.max_assoc]

theorem size_append : (first.append second).size = first.size + second.size := by
  induction first with
  | nil => simp [append, size]
  | element name attributes children rest _ ih =>
    simp only [append, size, ih]
    omega

theorem within_append {limits : XmlLimits} :
    (first.append second).Within limits ↔ first.Within limits ∧ second.Within limits := by
  induction first with
  | nil => simp [append, Within]
  | element name attributes children rest _ ih => simp [append, Within, ih, and_assoc]

end XmlForest

open XmlForest

/-! ## A tree that is being read -/

/-- An element that is open, with the elements ahead of it. -/
structure Level where
  before : XmlForest
  name : Octets
  attributes : List XmlAttribute

def levelEvents : List Level → List XmlEvent
  | [] => []
  | level :: outer =>
    levelEvents outer ++ (level.before.events ++ [⟨.start, level.name, level.attributes⟩])

def levelSize : List Level → Nat
  | [] => 0
  | level :: outer => levelSize outer + level.before.size + 1

def LevelsWithin (limits : XmlLimits) : List Level → Prop
  | [] => True
  | level :: outer =>
    (NameWithin limits level.name ∧ AttributesWithin limits level.attributes) ∧
      level.before.Within limits ∧ outer.length + level.before.depth ≤ limits.maxDepth ∧
      LevelsWithin limits outer

/-- There is one root: what was read is it, or stands inside of it. -/
def Rooted (levels : List Level) (tail : XmlForest) : Prop :=
  match levels.getLast? with
  | none => ∃ name attributes children, tail = .element name attributes children .nil
  | some outermost => outermost.before = .nil

theorem rooted_cons {level : Level} {outer : List Level} {tail : XmlForest} :
    Rooted (level :: outer) tail ↔ (outer.getLast?.getD level).before = .nil := by
  rw [Rooted, List.getLast?_cons]

/-- What a parser has read: the levels that are open and the elements at the end of the innermost. -/
structure XmlParser.Stands (limits : XmlLimits) (parser : XmlParser) (levels : List Level)
    (tail : XmlForest) : Prop where
  opened : parser.opened = levels.map (·.name)
  events : parser.events = levelEvents levels ++ tail.events
  count : parser.elementCount = levelSize levels + tail.size
  few : parser.elementCount ≤ limits.maxElements
  levelsWithin : LevelsWithin limits levels
  tailWithin : tail.Within limits
  deep : levels.length + tail.depth ≤ limits.maxDepth

variable {limits : XmlLimits} {parser after : XmlParser} {levels : List Level} {tail : XmlForest}

theorem XmlParser.Stands.finishStartTag (stands : parser.Stands limits levels tail) {name : Octets}
    {attributes : List XmlAttribute} {empty : Bool}
    (within : NameWithin limits name ∧ AttributesWithin limits attributes)
    (finished : finishStartTag limits parser ⟨.start, name, attributes⟩ empty = .ok after) :
    if empty then after.Stands limits levels (tail.append (.element name attributes .nil .nil))
    else after.Stands limits (⟨tail, name, attributes⟩ :: levels) .nil := by
  unfold Keyring.finishStartTag at finished
  split at finished
  · cases finished
  rename_i room
  rw [not_or, stands.opened, List.length_map] at room
  cases finished
  cases empty with
  | true =>
    exact {
      opened := stands.opened
      events := by simp [stands.events, XmlForest.events_append, XmlForest.events]
      count := by simp [stands.count, XmlForest.size_append, XmlForest.size, Nat.add_assoc]
      few := Nat.le_of_not_lt room.1
      levelsWithin := stands.levelsWithin
      tailWithin := (within_append _ _).mpr ⟨stands.tailWithin, within, trivial, trivial⟩
      deep := by
        have deep := stands.deep
        simp only [depth_append, depth]
        omega }
  | false =>
    exact {
      opened := congrArg (name :: ·) stands.opened
      events := by simp [stands.events, levelEvents, XmlForest.events]
      count := by simp [stands.count, levelSize, XmlForest.size]
      few := Nat.le_of_not_lt room.1
      levelsWithin := ⟨within, stands.tailWithin, stands.deep, stands.levelsWithin⟩
      tailWithin := trivial
      deep := Nat.le_of_not_lt room.2 }

theorem XmlParser.Stands.endTag {level : Level}
    (stands : parser.Stands limits (level :: levels) tail) :
    ({ parser with
        opened := parser.opened.tail
        events := parser.events ++ [⟨.finish, level.name, []⟩] } : XmlParser).Stands limits levels
      (level.before.append (.element level.name level.attributes tail .nil)) := by
  obtain ⟨within, beforeWithin, beforeDeep, levelsWithin⟩ := stands.levelsWithin
  exact {
    opened := congrArg List.tail stands.opened
    events := by simp [stands.events, levelEvents, XmlForest.events_append, XmlForest.events]
    count := by
      have count := stands.count
      simp only [levelSize] at count
      simp only [count, XmlForest.size_append, XmlForest.size]
      omega
    few := stands.few
    levelsWithin
    tailWithin := (within_append _ _).mpr
      ⟨beforeWithin, within, stands.tailWithin, trivial⟩
    deep := by
      have deep := stands.deep
      rw [List.length_cons] at deep
      simp only [depth_append, depth]
      omega }

theorem readContent_stands {text rest : Octets} (stands : parser.Stands limits levels tail)
    (rooted : Rooted levels tail) (read : readContent limits parser text = .ok (after, rest)) :
    ∃ tree, after.Stands limits [] tree ∧ Rooted [] tree := by
  fun_induction readContent limits parser text generalizing levels tail with
  | case1 parser text closed =>
    cases read
    obtain rfl : levels = [] := by simpa [closed] using stands.opened.symm
    exact ⟨tail, stands, rooted⟩
  | case2 | case3 => cases read
  | case4 parser text opened here skipped next left tag ih =>
    cases levels with
    | nil => exact absurd stands.opened opened
    | cons level outer =>
      obtain ⟨levels, tail, stands, rooted⟩ : ∃ outer tail, next.Stands limits outer tail ∧ Rooted
          outer tail := by
        unfold readTag at tag
        split at tag
        · cases tag
        split at tag
        · obtain ⟨-, name, innermost, rfl⟩ := readEndTag_ok tag
          rw [stands.opened] at innermost
          cases innermost
          refine ⟨outer, _, stands.endTag, ?_⟩
          cases outer with
          | nil =>
            rw [show level.before = .nil from rooted]
            exact ⟨level.name, level.attributes, tail, rfl⟩
          | cons outer more => simpa [rooted_cons, List.getLast?_cons] using rooted
        · obtain ⟨-, name, attributes, empty, short, within, finished⟩ := readStartTag_ok tag
          have next := stands.finishStartTag ⟨short, within⟩ finished
          cases empty with
          | true | false => exact ⟨_, _, next, by simpa [rooted_cons,
            List.getLast?_cons] using rooted⟩
      exact ih stands rooted read

/-- What is accepted are the events of a tree of elements within the limits. -/
theorem readXml_ok {document : Octets} {events : List XmlEvent}
    (result : readXml limits document = .ok events) :
    ∃ name attributes children,
      let tree := element name attributes children .nil
      events = tree.events ∧ tree.depth ≤ limits.maxDepth ∧ tree.size ≤ limits.maxElements ∧
        tree.Within limits := by
  unfold readXml at result
  split at result
  · cases result
  obtain ⟨declared, -, result⟩ := bind_ok result
  obtain ⟨text, -, result⟩ := bind_ok result
  split at result
  · cases result
  obtain ⟨⟨opened, past⟩, root, result⟩ := bind_ok result
  obtain ⟨⟨read, left⟩, content, result⟩ := bind_ok result
  obtain ⟨-, name, attributes, empty, nameWithin, within, finished⟩ := readStartTag_ok root
  have start : ({} : XmlParser).Stands limits [] .nil :=
    ⟨rfl, rfl, rfl, Nat.zero_le _, trivial, trivial, Nat.zero_le _⟩
  have next := start.finishStartTag ⟨nameWithin, within⟩ finished
  obtain ⟨tree, stands, name, attributes, children, rfl⟩ :
      ∃ tree, read.Stands limits [] tree ∧ Rooted [] tree := by
    cases empty with
    | true => exact readContent_stands next ⟨name, attributes, .nil, rfl⟩ content
    | false => exact readContent_stands next rfl content
  dsimp only at result
  split at result
  · cases result
    refine ⟨name, attributes, children, stands.events, ?_, ?_, stands.tailWithin⟩
    · exact (Nat.zero_add _).symm.trans_le stands.deep
    · exact (stands.count.trans (Nat.zero_add _)).symm.trans_le stands.few
  · cases result

/-- Whatever the document and the limits, the reader returns: with an error, or with the events of a
tree of elements within the limits. -/
theorem readXml_sound (limits : XmlLimits) (document : Octets) :
    (∃ why, readXml limits document = .error why) ∨
      ∃ name attributes children,
        let tree := element name attributes children .nil
        readXml limits document = .ok tree.events ∧ tree.depth ≤ limits.maxDepth ∧
          tree.size ≤ limits.maxElements ∧ tree.Within limits := by
  cases result : readXml limits document with
  | error why => exact .inl ⟨why, rfl⟩
  | ok events =>
    obtain ⟨name, attributes, children, rfl, bounded⟩ := readXml_ok result
    exact .inr ⟨name, attributes, children, rfl, bounded⟩

end KmxAio.Knx.Keyring
