import KmxAio.Knx.Secure.ServerSessionTable
import KmxAio.Knx.Secure.ClientRun

/-!
# Runs of a server's session table

A history is a session table with every wrapper it produced, every frame it
handed to a tunnel and every session key it took into use. No two sessions of a
table share a key, so each session's counters are the window of its key, and
each call is a few steps of a party that numbers messages under keys used once.
-/

namespace KmxAio.Knx.Secure

open Lib.Wire Lib.Sequenced

/-! ## Sessions by key -/

def SessionEntry.window (entry : SessionEntry) : Window :=
  ⟨entry.nextSequence, entry.lastReceivedSequence⟩

variable (sessions : List SessionEntry)

def sessionOfKey (key : SecretKey) : Option SessionEntry :=
  sessions.find? (fun entry => entry.sessionKey = key)

def sessionWindows (key : SecretKey) : Option Window :=
  (sessionOfKey sessions key).map SessionEntry.window

def DistinctKeys : Prop :=
  (sessions.map SessionEntry.sessionKey).Nodup

variable {sessions} {kept : List SessionEntry} {entry : SessionEntry}
  {change : SessionEntry → SessionEntry}

theorem sessionOfKey_of_mem (distinct : DistinctKeys sessions) (present : entry ∈ sessions) :
    sessionOfKey sessions entry.sessionKey = some entry := by
  induction sessions with
  | nil => cases present
  | cons first rest ih =>
    obtain ⟨unlike, restDistinct⟩ := List.nodup_cons.mp distinct
    rcases List.mem_cons.mp present with rfl | later
    · simp [sessionOfKey]
    · have different : first.sessionKey ≠ entry.sessionKey := by
        intro same
        exact unlike (same ▸ List.mem_map_of_mem later)
      simpa [sessionOfKey, different] using ih restDistinct later

theorem DistinctKeys.sublist (distinct : DistinctKeys sessions) (sublist : kept.Sublist sessions) :
    DistinctKeys kept :=
  List.Nodup.sublist (sublist.map _) distinct

variable (sid : UInt16)

theorem modifySession_map {α : Type} {field : SessionEntry → α}
    (kept : ∀ entry, field (change entry) = field entry) (sessions : List SessionEntry) :
    (modifySession sid change sessions).map field = sessions.map field := by
  induction sessions with
  | nil => rfl
  | cons first rest ih =>
    by_cases same : first.sessionId = sid
    · simp [modifySession, same, kept]
    · simp [modifySession, same, ih]

theorem DistinctKeys.modify (distinct : DistinctKeys sessions)
    (keyed : ∀ entry, (change entry).sessionKey = entry.sessionKey) :
    DistinctKeys (modifySession sid change sessions) := by
  rwa [DistinctKeys, modifySession_map sid keyed]

theorem modifySession_append {sid : UInt16} {before after : List SessionEntry}
    (unlike : ∀ other ∈ before, other.sessionId ≠ sid) (same : entry.sessionId = sid) :
    modifySession sid change (before ++ entry :: after) = before ++ change entry :: after := by
  induction before with
  | nil => simp [modifySession, same]
  | cons first rest ih =>
    obtain ⟨different, others⟩ := List.forall_mem_cons.mp unlike
    simp [modifySession, different, ih others]

theorem sessionWindows_modify {sid : UInt16} (change : SessionEntry → SessionEntry)
    (keyed : ∀ entry, (change entry).sessionKey = entry.sessionKey)
    (distinct : DistinctKeys sessions)
    (found : sessions.find? (fun candidate => candidate.sessionId == sid) = some entry) :
    sessionWindows (modifySession sid change sessions) =
      Function.update (sessionWindows sessions) entry.sessionKey (some (change entry).window) := by
  obtain ⟨same, before, after, rfl, unlike⟩ := List.find?_eq_some_iff_append.mp found
  rw [modifySession_append (by simpa using unlike) (by simpa using same)]
  funext key
  by_cases sameKey : key = entry.sessionKey
  · subst sameKey
    have unheld : before.find? (·.sessionKey = entry.sessionKey) = none := by
      rw [DistinctKeys, List.map_append, List.nodup_append] at distinct
      simpa using fun other present =>
        distinct.2.2 _ (List.mem_map_of_mem present) _ List.mem_cons_self
    simp [sessionWindows, sessionOfKey, List.find?_append, unheld, keyed]
  · simp [sessionWindows, sessionOfKey, List.find?_append, keyed, sameKey, Ne.symm sameKey]

theorem sessionWindows_append_singleton {key : SecretKey} (keyEq : entry.sessionKey = key)
    (next : entry.nextSequence = 0) (last : entry.lastReceivedSequence = none)
    (absent : key ∉ sessions.map SessionEntry.sessionKey) :
    sessionWindows (sessions ++ [entry]) =
      Function.update (sessionWindows sessions) key (some ⟨0, none⟩) := by
  funext other
  by_cases same : other = key
  · subst same
    have unheld : sessions.find? (fun candidate => candidate.sessionKey = other) = none := by
      rw [List.find?_eq_none]
      intro candidate present
      have different : candidate.sessionKey ≠ other :=
        fun equal => absent (equal ▸ List.mem_map_of_mem present)
      simpa using different
    simp [sessionWindows, sessionOfKey, List.find?_append, unheld, keyEq, SessionEntry.window, next,
      last]
  · have different : ¬ key = other := fun equal => same equal.symm
    simp [sessionWindows, sessionOfKey, List.find?_append, keyEq, same, different]

theorem modifySession_modifySession {first second : SessionEntry → SessionEntry}
    (named : ∀ entry, (first entry).sessionId = entry.sessionId) (sessions : List SessionEntry) :
    modifySession sid second (modifySession sid first sessions) =
      modifySession sid (second ∘ first) sessions := by
  induction sessions with
  | nil => rfl
  | cons entry rest ih =>
    by_cases same : entry.sessionId = sid
    · simp [modifySession, same, named]
    · simp [modifySession, same, ih]

/-- The sessions of `after` are those of `before`, less the forgotten ones: every window is gone or
as it was. -/
structure Shrinks (before after : List SessionEntry) : Prop where
  distinct : DistinctKeys before → DistinctKeys after
  windows : DistinctKeys before → ∀ key, sessionWindows after key = none ∨
    sessionWindows after key = sessionWindows before key

theorem shrinks_refl (sessions : List SessionEntry) : Shrinks sessions sessions :=
  ⟨id, fun _ _ => .inr rfl⟩

theorem shrinks_filter (sessions : List SessionEntry) (keep : SessionEntry → Bool) :
    Shrinks sessions (sessions.filter keep) := by
  refine ⟨fun distinct => distinct.sublist List.filter_sublist, fun distinct key => ?_⟩
  cases found : sessionOfKey (sessions.filter keep) key with
  | none => exact .inl (by simp [sessionWindows, found])
  | some entry =>
    have present := List.filter_sublist.subset (List.mem_of_find?_eq_some found)
    obtain rfl : entry.sessionKey = key := by simpa using List.find?_some found
    refine .inr ?_
    simp only [sessionWindows, found, sessionOfKey_of_mem distinct present]

def openedEntry (origin : ClientOrigin) (req : SessionRequestFrame) (keyPair : X25519KeyPair)
    (sessionKey : SecretKey) (sid : UInt16) (nowMs : UInt64) : SessionEntry :=
  { sessionId := sid
    connection := origin.connection
    peer := origin.peer
    clientPublicKey := req.clientPublicKey
    serverPublicKey := keyPair.publicKey
    sessionKey := sessionKey
    createdMs := nowMs
    lastReceivedMs := nowMs }

namespace ServerSessionTable

/-! ## What each call does to the sessions -/

variable (backend : CryptoBackend) (table : ServerSessionTable)

theorem sealLocked_cases (req : SealRequest) :
    (∃ why, table.sealLocked backend req = (table, .error why)) ∨
      ∃ sess pkt, table.find req.sessionId = some sess ∧
        sess.nextSequence ≤ maxSequence ∧ wireSequence pkt = sess.nextSequence ∧
        table.sealLocked backend req =
          (table.modify req.sessionId SessionEntry.spend,
            .ok ⟨pkt, sess.sessionKey, req.plainFrame⟩) := by
  unfold sealLocked
  split
  · exact .inl ⟨_, rfl⟩
  rename_i sess found
  split
  · exact .inl ⟨_, rfl⟩
  rename_i usable
  have small : sess.nextSequence ≤ maxSequence := by omega
  split
  · exact .inl ⟨_, rfl⟩
  · rename_i pkt succeeded
    exact .inr ⟨sess, pkt, found, small, wireSequence_sealed small rfl succeeded, rfl⟩

/-- What a table makes of the frame of a wrapper it took. -/
inductive Applied (sess : SessionEntry) (plain : Octets) :
    ServerSessionTable × Expected ServerOpenedFrame → Prop where
  | keptAlive : Applied sess plain (table, .ok ⟨sess.sessionId, [], .keepAlive⟩)
  | refused : Applied sess plain (table.noteRefusedService, refuse .unsupportedService)
  | closed (counters : Statistics) :
      Applied sess plain ({ table with counters := counters }.erase sess.sessionId,
        .ok ⟨sess.sessionId, [], .closed⟩)
  | tunnelled {why : ErrorCode} (known : sess.user.isSome = true)
      (notStatus : decodeSessionStatusPacket plain = .error why) :
      Applied sess plain (table, .ok ⟨sess.sessionId, plain, .tunnel⟩)
  | denied (nobody : sess.user = none) :
      Applied sess plain (table.noteUnauthenticated,
        .ok ⟨sess.sessionId, [], .refusedAuthentication⟩)
  | authenticated {user : TunnellingUser} {val : SessionAuthenticateFrame} (counters : Statistics)
      (nobody : sess.user = none) (configured : user ∈ table.configuration.users)
      (decoded : decodeSessionAuthenticatePacket plain = .ok val)
      (claimed : val.userId = user.userId)
      (verifies : verifySessionAuthenticate backend user.passwordKey val sess.clientPublicKey
        sess.serverPublicKey = .ok ()) :
      Applied sess plain
        ({ table.modify sess.sessionId (fun entry => { entry with user := some user }) with
            counters := counters }, .ok ⟨sess.sessionId, [], .authenticated⟩)

theorem apply_applied (sess : SessionEntry) (plain : Octets) :
    table.Applied backend sess plain (table.apply backend sess plain) := by
  unfold apply
  split
  · unfold applyStatus
    split
    · exact .keptAlive
    split
    · exact .refused
    · exact .closed _
  rename_i notStatus
  split
  · rename_i known
    exact .tunnelled known notStatus
  rename_i unauthenticated
  have nobody : sess.user = none := by simpa using unauthenticated
  split
  · exact .refused
  rename_i val decoded
  unfold authenticate
  dsimp only
  split
  · exact .denied nobody
  rename_i user found
  split
  · exact .denied nobody
  rename_i verifies
  have claimed : user.userId = val.userId := by simpa using List.find?_some found
  exact .authenticated _ nobody (List.mem_of_find?_eq_some found) decoded claimed.symm verifies

theorem Applied.shrinks {table : ServerSessionTable} {sess : SessionEntry} {plain : Octets}
    {call : ServerSessionTable × Expected ServerOpenedFrame}
    (applied : table.Applied backend sess plain call) : Shrinks table.sessions call.1.sessions := by
  cases applied with
  | keptAlive | refused | tunnelled | denied => exact shrinks_refl _
  | closed => exact shrinks_filter _ _
  | authenticated =>
    refine ⟨fun distinct => distinct.modify _ fun _ => rfl, fun _ key => .inr ?_⟩
    have windows : ∀ sessions key, sessionWindows sessions key =
        ((sessions.map fun entry => (entry.sessionKey, entry.window)).find? (·.1 = key)).map
          (·.2) := by
      simp [sessionWindows, sessionOfKey, List.find?_map, Function.comp_def]
    change sessionWindows (modifySession _ _ table.sessions) key = _
    rw [windows, windows, modifySession_map]
    exact fun _ => rfl

def received (num : Nat) (nowMs : UInt64) (entry : SessionEntry) : SessionEntry :=
  { entry with lastReceivedSequence := some num, lastReceivedMs := nowMs }

/-- Whether a wrapper is taken: it names a session of the connection and peer it came from, opens
under the session's key, and has a number and a frame that session admits. -/
def admits (backend : CryptoBackend) (table : ServerSessionTable) (origin : ClientOrigin)
    (wrap : WrapperFrame) (room : Nat) : Bool :=
  match table.find wrap.sessionId with
  | none => false
  | some sess =>
    decide (sess.connection = origin.connection) && samePeer sess.peer origin.peer &&
      match openWrapper backend room sess.sessionKey wrap with
      | .error _ => false
      | .ok plain =>
        match (table.admitWrapper sess wrap plain).2 with
        | .error _ => false
        | .ok _ => true

theorem openFrame_cases (origin : ClientOrigin) (wrap : WrapperFrame) (room : Nat)
    (nowMs : UInt64) :
    (∃ refused why, table.openFrame backend origin wrap room nowMs =
        (refused, .error why) ∧ refused.sessions = table.sessions ∧
        refused.nextSessionId = table.nextSessionId ∧
        refused.configuration = table.configuration ∧
        table.admits backend origin wrap room = false) ∨
      ∃ sess plain admitted, table.find wrap.sessionId = some sess ∧
        (sess.connection = origin.connection ∧ samePeer sess.peer origin.peer = true ∧
          table.admits backend origin wrap room = true) ∧
        openWrapper backend room sess.sessionKey wrap = .ok plain ∧
        (∀ last, sess.lastReceivedSequence = some last → last < decodeSequence wrap.sequence) ∧
        admitted.sessions = modifySession wrap.sessionId
          (received (decodeSequence wrap.sequence) nowMs) table.sessions ∧
        (admitted.nextSessionId = table.nextSessionId ∧
          admitted.configuration = table.configuration) ∧
        table.openFrame backend origin wrap room nowMs = apply backend admitted sess plain := by
  unfold openFrame admits
  cases found : table.find wrap.sessionId with
  | none => exact .inl ⟨_, _, rfl, rfl, rfl, rfl, rfl⟩
  | some sess =>
    have named : sess.sessionId = wrap.sessionId := by
      simpa using List.find?_some found
    dsimp only
    split
    · rename_i elsewhere
      refine .inl ⟨_, _, rfl, rfl, rfl, rfl, ?_⟩
      rcases elsewhere with other | other <;> simp [other]
    · rename_i here
      have connected : sess.connection = origin.connection :=
        by_contra fun elsewhere => here (.inl elsewhere)
      have peered : samePeer sess.peer origin.peer = true :=
        by_contra fun elsewhere => here (.inr elsewhere)
      cases opened : openWrapper backend room sess.sessionKey wrap with
      | error why =>
        refine .inl ⟨_, _, rfl, ?_, ?_, ?_, by simp⟩ <;> split <;> rfl
      | ok plain =>
        dsimp only
        cases admission : table.admitWrapper sess wrap plain with
        | mk admitted verdict =>
          unfold admitWrapper at admission
          dsimp only at admission
          split at admission
          · cases admission
            exact .inl ⟨_, _, rfl, rfl, rfl, rfl, by simp [refuse]⟩
          rename_i behind
          split at admission <;> cases admission
          · exact .inl ⟨_, _, rfl, rfl, rfl, rfl, by simp⟩
          have forward : ∀ last, sess.lastReceivedSequence = some last →
              last < decodeSequence wrap.sequence :=
            fun last present => Nat.lt_of_not_le fun stale => behind ⟨last, present, stale⟩
          refine .inr ⟨sess, plain, _, rfl, ⟨connected, peered, ?_⟩, opened, forward, ?_, ?_, rfl⟩
          · simp [connected, peered]
          · rw [← named]
            refine (modifySession_modifySession _ ?_ _).trans rfl
            intro entry
            rfl
          · exact ⟨rfl, rfl⟩

/-- What a table makes of a session request. A number no response could be made for is passed. -/
inductive Requested (generated : Expected X25519KeyPair) (origin : ClientOrigin)
    (req : SessionRequestFrame) (nowMs : UInt64) :
    ServerSessionTable × Expected SessionResponseFrame → Prop where
  | refused {next : UInt16} {why : ErrorCode}
      (passed : next = table.nextSessionId ∨ ∃ sid, table.allocateSessionId = some (sid, next)) :
      Requested generated origin req nowMs ({ table with nextSessionId := next }, .error why)
  | opened {keyPair : X25519KeyPair} {sessionKey : SecretKey} {sid next : UInt16} {mac : Mac}
      (given : generated = .ok keyPair) (admitted : table.admitRequest origin.peer = .ok ())
      (derived : deriveSessionKey backend keyPair.privateKey req.clientPublicKey = .ok sessionKey)
      (allocated : table.allocateSessionId = some (sid, next)) :
      Requested generated origin req nowMs
        ({ table with
            nextSessionId := next
            sessions := table.sessions ++ [openedEntry origin req keyPair sessionKey sid nowMs] },
          .ok ⟨sid, keyPair.publicKey, mac⟩)

theorem onSessionRequest_requested (generated : Expected X25519KeyPair) (origin : ClientOrigin)
    (req : SessionRequestFrame) (nowMs : UInt64) :
    table.Requested backend generated origin req nowMs
      (table.onSessionRequest backend generated origin req nowMs) := by
  unfold onSessionRequest
  split
  · exact .refused (.inl rfl)
  split
  · exact .refused (.inl rfl)
  rename_i admitted
  split
  · exact .refused (.inl rfl)
  split
  · exact .refused (.inl rfl)
  rename_i derived
  split
  · exact .refused (.inl rfl)
  rename_i allocated
  split
  · exact .refused (.inr ⟨_, allocated⟩)
  · exact .opened rfl admitted derived allocated

end ServerSessionTable

open ServerSessionTable

/-! ## Histories -/

/-- A session table with what it has done since it was created. -/
structure ServerHistory where
  table : ServerSessionTable
  keys : List SecretKey := []
  produced : List Produced := []
  handed : List Handed := []

namespace ServerHistory

def initial (config : ServerConfiguration) : ServerHistory :=
  { table := { configuration := config } }

def adoptedBy : ServerEvent → List SecretKey
  | .onSessionRequest backend (.ok keyPair) _ req _ =>
    match deriveSessionKey backend keyPair.privateKey req.clientPublicKey with
    | .ok key => [key]
    | .error _ => []
  | _ => []

variable (hist : ServerHistory) (event : ServerEvent)

def handedBy (wrap : WrapperFrame) : Expected ServerOpenedFrame → List Handed
  | .error _ => []
  | .ok frame =>
    match hist.table.find wrap.sessionId with
    | none => []
    | some sess =>
      if frame.kind = .tunnel then [⟨sess.sessionKey, wrap, frame.plain⟩] else []

def record (after : ServerSessionTable) : ServerOutcome → ServerHistory
  | .quiet => { hist with table := after }
  | .responded _ => { hist with table := after, keys := adoptedBy event ++ hist.keys }
  | .produced wrap =>
    { hist with table := after, produced := hist.produced ++ [wrap] }
  | .opened frame =>
    { hist with
      table := after
      handed :=
        match event with
        | .openFrame _ _ wrap _ _ => hist.handed ++ hist.handedBy wrap (.ok frame)
        | _ => hist.handed }

def step : ServerHistory :=
  hist.record event (hist.table.step event).1 (hist.table.step event).2

def FreshKey : Prop :=
  ∀ key ∈ adoptedBy event, key ∉ hist.keys

instance (hist : ServerHistory) (event : ServerEvent) : Decidable (hist.FreshKey event) :=
  ClientHistory.decidableFresh (adoptedBy event) hist.keys

def party : Party SecretKey Octets where
  window := sessionWindows hist.table.sessions
  used := hist.keys
  sent := hist.produced.map Produced.numbered
  delivered := hist.handed.map Handed.numbered

/-- What a call means for the party: some steps of it, and sessions with distinct keys. -/
structure Refines (hist : ServerHistory) (event : ServerEvent) : Prop where
  steps : Steps maxSequence hist.party (hist.step event).party
  distinct : DistinctKeys (hist.step event).table.sessions

variable {hist} {after : ServerSessionTable}

theorem refines_quiet {event : ServerEvent} (stepEq : hist.table.step event = (after, .quiet))
    (distinct : DistinctKeys hist.table.sessions)
    (shrinks : Shrinks hist.table.sessions after.sessions) : hist.Refines event := by
  have result : hist.step event = { hist with table := after } := by
    simp [step, stepEq, record]
  exact ⟨by rw [result]; exact .single (.forget _ (shrinks.windows distinct)),
    by rw [result]; exact shrinks.distinct distinct⟩

theorem refines_sealLocked {event : ServerEvent} {backend : CryptoBackend}
    {req : ServerSessionTable.SealRequest} (stepEq : hist.table.step event =
      (hist.table.sealLocked backend req).map id (ServerOutcome.ofExpected .produced))
    (distinct : DistinctKeys hist.table.sessions) : hist.Refines event := by
  rcases sealLocked_cases backend hist.table req with
    ⟨why, failed⟩ | ⟨sess, pkt, found, small, num, sealed⟩
  · rw [failed] at stepEq
    exact refines_quiet stepEq distinct (shrinks_refl _)
  · rw [sealed] at stepEq
    have result : hist.step event =
        { hist with
          table := hist.table.modify req.sessionId SessionEntry.spend
          produced := hist.produced ++ [⟨pkt, sess.sessionKey, req.plainFrame⟩] } := by
      simp [step, stepEq, Prod.map, ServerOutcome.ofExpected, record]
    have present := List.mem_of_find?_eq_some found
    have current : hist.party.window sess.sessionKey = some sess.window := by
      simp [party, sessionWindows, sessionOfKey_of_mem distinct present]
    have send : Step maxSequence hist.party _ := .send req.plainFrame current small
    constructor
    · refine .single ?_
      convert send using 1
      rw [result]
      simp only [party, ServerSessionTable.modify, List.map_append, List.map_cons, List.map_nil,
        Produced.numbered, num]
      congr 1
      exact sessionWindows_modify SessionEntry.spend (fun _ => rfl) distinct found
    · rw [result]
      exact distinct.modify req.sessionId (fun _ => rfl)

theorem refines_onSessionRequest (backend : CryptoBackend) (generated : Expected X25519KeyPair)
    (origin : ClientOrigin) (req : SessionRequestFrame) (nowMs : UInt64)
    (distinct : DistinctKeys hist.table.sessions)
    (adopted : ∀ entry ∈ hist.table.sessions, entry.sessionKey ∈ hist.keys)
    (fresh : hist.FreshKey (.onSessionRequest backend generated origin req nowMs)) :
    hist.Refines (.onSessionRequest backend generated origin req nowMs) := by
  have requested := onSessionRequest_requested backend hist.table generated
    origin req nowMs
  generalize called : hist.table.onSessionRequest backend generated origin req nowMs = call
    at requested
  cases requested with
  | @refused next =>
    have quiet : hist.table.step (.onSessionRequest backend generated origin req nowMs) =
        ({ hist.table with nextSessionId := next }, .quiet) := by
      simp [ServerSessionTable.step, called, Prod.map, ServerOutcome.ofExpected]
    exact refines_quiet quiet distinct (shrinks_refl _)
  | @opened keyPair key sid next mac given admitted derived =>
    subst given
    have adopts : adoptedBy (.onSessionRequest backend (.ok keyPair) origin req nowMs) = [key] := by
      simp [adoptedBy, derived]
    have unused : key ∉ hist.keys := fresh key (by rw [adopts]; exact List.mem_singleton_self key)
    have result : hist.step (.onSessionRequest backend (.ok keyPair) origin req nowMs) =
        { hist with
          table :=
            { hist.table with
              nextSessionId := next
              sessions := hist.table.sessions ++ [openedEntry origin req keyPair key sid nowMs] }
          keys := key :: hist.keys } := by
      simp [step, ServerSessionTable.step, called, Prod.map, ServerOutcome.ofExpected, record,
        adopts]
    have absent : key ∉ hist.table.sessions.map SessionEntry.sessionKey := by
      intro present
      obtain ⟨other, member, rfl⟩ := List.mem_map.mp present
      exact unused (adopted other member)
    have adopt : Step maxSequence hist.party _ := .adopt key unused
    constructor
    · refine .single ?_
      convert adopt using 1
      rw [result]
      simp only [party]
      congr 1
      exact sessionWindows_append_singleton rfl rfl rfl absent
    · rw [result]
      change (List.map _ (hist.table.sessions ++ [_])).Nodup
      rw [List.map_append, List.map_singleton]
      exact List.Nodup.append distinct (List.nodup_singleton key)
        (by simpa [List.disjoint_singleton, openedEntry] using absent)

theorem step_openFrame {backend : CryptoBackend} {origin : ClientOrigin} {wrap : WrapperFrame}
    {room : Nat} {nowMs : UInt64} {result : Expected ServerOpenedFrame}
    (opened : hist.table.openFrame backend origin wrap room nowMs = (after, result)) :
    hist.step (.openFrame backend origin wrap room nowMs) =
      { hist with
        table := after
        handed := hist.handed ++ hist.handedBy wrap result } := by
  cases result with
  | error why =>
    simp [step, ServerSessionTable.step, opened, Prod.map, ServerOutcome.ofExpected, record,
      handedBy]
  | ok frame =>
    simp [step, ServerSessionTable.step, opened, Prod.map, ServerOutcome.ofExpected, record]

theorem refines_openFrame (backend : CryptoBackend) (origin : ClientOrigin) (wrap : WrapperFrame)
    (room : Nat) (nowMs : UInt64) (distinct : DistinctKeys hist.table.sessions) :
    hist.Refines (.openFrame backend origin wrap room nowMs) := by
  rcases openFrame_cases backend hist.table origin wrap room nowMs with
    ⟨refused, why, verdict, same, -⟩ |
    ⟨sess, plain, admitted, found, -, opened, forward, sessions, -, applied⟩
  · have quiet : hist.table.step (.openFrame backend origin wrap room nowMs) =
        (refused, .quiet) := by
      simp [ServerSessionTable.step, verdict, Prod.map, ServerOutcome.ofExpected]
    exact refines_quiet quiet distinct (same ▸ shrinks_refl _)
  · have shrinks := (ServerSessionTable.apply_applied backend admitted sess plain).shrinks
    cases outcome : ServerSessionTable.apply backend admitted sess plain with
    | mk after result =>
      rw [outcome] at applied shrinks
      have present := List.mem_of_find?_eq_some found
      have current : hist.party.window sess.sessionKey = some sess.window := by
        simp [party, sessionWindows, sessionOfKey_of_mem distinct present]
      have moved := sessionWindows_modify
        (received (decodeSequence wrap.sequence) nowMs) (fun _ => rfl)
        distinct found
      have admittedDistinct : DistinctKeys admitted.sessions := by
        rw [sessions]
        exact distinct.modify wrap.sessionId (fun _ => rfl)
      have recorded : (hist.handedBy wrap result).map Handed.numbered =
          (((hist.handedBy wrap result).head?.map Handed.plain).map (fun plain =>
            ⟨sess.sessionKey, decodeSequence wrap.sequence, plain⟩)).toList := by
        cases result with
        | error why => rfl
        | ok frame =>
          by_cases tunnel : frame.kind = .tunnel <;>
            simp [handedBy, found, tunnel, Handed.numbered]
      have kept : ∀ key, sessionWindows after.sessions key = none ∨
          sessionWindows after.sessions key =
            Function.update hist.party.window sess.sessionKey
              (some { sess.window with last := some (decodeSequence wrap.sequence) }) key := by
        intro key
        have windows := shrinks.windows admittedDistinct key
        rw [sessions, moved] at windows
        exact windows
      have taken : Steps maxSequence hist.party _ :=
        steps_take_forget (decodeSequence wrap.sequence)
          ((hist.handedBy wrap result).head?.map Handed.plain) current forward kept
      constructor
      · rw [step_openFrame applied]
        convert taken using 1
        simp only [party, List.map_append, recorded]
      · rw [step_openFrame applied]
        exact shrinks.distinct admittedDistinct

theorem step_refines (hist : ServerHistory) (event : ServerEvent)
    (distinct : DistinctKeys hist.table.sessions)
    (adopted : ∀ entry ∈ hist.table.sessions, entry.sessionKey ∈ hist.keys)
    (fresh : hist.FreshKey event) : hist.Refines event := by
  cases event with
  | onSessionRequest backend generated origin req nowMs =>
    exact refines_onSessionRequest backend generated origin req nowMs distinct adopted fresh
  | openFrame backend origin wrap room nowMs =>
    exact refines_openFrame backend origin wrap room nowMs distinct
  | sealTunnel backend conn sid plainFrame room
  | sealStatus backend conn sid status room =>
    exact refines_sealLocked rfl distinct
  | close sid | closeConnection conn | reap nowMs =>
    exact refines_quiet rfl distinct (shrinks_filter _ _)
  | noteUnencrypted => exact refines_quiet rfl distinct (shrinks_refl _)

structure Sound (hist : ServerHistory) : Prop where
  consistent : hist.party.Consistent maxSequence
  distinct : DistinctKeys hist.table.sessions

theorem Sound.adopted (sound : hist.Sound) :
    ∀ entry ∈ hist.table.sessions, entry.sessionKey ∈ hist.keys := by
  intro entry present
  apply sound.consistent.adopted entry.sessionKey entry.window
  simp [party, sessionWindows, sessionOfKey_of_mem sound.distinct present]

theorem initial_sound (config : ServerConfiguration) : (initial config).Sound :=
  ⟨consistent_initial maxSequence, List.nodup_nil⟩

theorem step_sound (hist : ServerHistory) (event : ServerEvent) (sound : hist.Sound)
    (fresh : hist.FreshKey event) : (hist.step event).Sound := by
  have refined := hist.step_refines event sound.distinct sound.adopted fresh
  exact ⟨steps_consistent sound.consistent refined.steps, refined.distinct⟩

end ServerHistory

end KmxAio.Knx.Secure
