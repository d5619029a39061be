import KmxAio.Knx.Secure.ServerRun

/-!
# Who owns a session

A session belongs to the connection it was opened on and, once authenticated, to
one user. Session ids are never zero and no two sessions of a table share one. An
authenticated session keeps its owner until it ends.
-/

namespace KmxAio.Knx.Secure

open Lib.Wire

/-- The connection a session was opened on, and the user it was authenticated for. -/
structure SessionOwner where
  connection : TransportId
  user : Option TunnellingUser
  deriving DecidableEq

def SessionEntry.owner (entry : SessionEntry) : SessionOwner := ⟨entry.connection, entry.user⟩

namespace ServerSessionTable

def ownerOf (table : ServerSessionTable) (sid : UInt16) : Option SessionOwner :=
  (table.find sid).map SessionEntry.owner

structure Numbered (table : ServerSessionTable) : Prop where
  distinct : (table.sessions.map SessionEntry.sessionId).Nodup
  nonzero : 0 ∉ table.sessions.map SessionEntry.sessionId
  next : table.nextSessionId ≠ 0

theorem numbered_initially (config : ServerConfiguration) :
    ServerSessionTable.Numbered { configuration := config } :=
  ⟨List.nodup_nil, List.not_mem_nil, (by decide : (1 : UInt16) ≠ 0)⟩

structure Persists (before after : ServerSessionTable) : Prop where
  owner : ∀ {sessionId connection user},
    before.ownerOf sessionId = some ⟨connection, some user⟩ →
      after.ownerOf sessionId = some ⟨connection, some user⟩
  numbered : before.Numbered → after.Numbered

theorem Persists.refl (table : ServerSessionTable) : Persists table table := ⟨id, id⟩

theorem Persists.trans {first second third : ServerSessionTable} (left : Persists first second)
    (right : Persists second third) : Persists first third :=
  ⟨fun owned => right.owner (left.owner owned),
    fun numbered => right.numbered (left.numbered numbered)⟩

variable {table after : ServerSessionTable} {sid : UInt16} {entry : SessionEntry}
variable {change : SessionEntry → SessionEntry}
  {before : ServerSessionTable} {keep : SessionEntry → Bool} {owner : SessionOwner}

theorem find_named (found : table.find sid = some entry) :
    entry.sessionId = sid := by
  simpa using List.find?_some found

theorem find_mem (found : table.find sid = some entry) :
    entry ∈ table.sessions :=
  List.mem_of_find?_eq_some found

theorem Numbered.find_of_mem (numbered : table.Numbered)
    (present : entry ∈ table.sessions) : table.find entry.sessionId = some entry := by
  cases found : table.find entry.sessionId with
  | none => simpa using List.find?_eq_none.mp found entry present
  | some other =>
    have same := List.inj_on_of_nodup_map numbered.distinct (find_mem found) present
      (find_named found)
    rw [same]

/-! ## Rewriting a session -/

section

variable (named : ∀ entry, (change entry).sessionId = entry.sessionId)

include named

theorem find_modify (table : ServerSessionTable) (sid other : UInt16) :
    (table.modify sid change).find other =
      if other = sid then (table.find other).map change else table.find other := by
  unfold find modify
  induction table.sessions with
  | nil => simp [modifySession]
  | cons first rest ih =>
    by_cases same : first.sessionId = sid
    · by_cases asked : sid = other
      · simp [modifySession, same, named, asked]
      · have different : ¬ other = sid := fun equal => asked equal.symm
        simp [modifySession, same, named, asked, different]
    · by_cases asked : first.sessionId = other
      · have different : ¬ other = sid := fun equal => same (asked.trans equal)
        simp [modifySession, asked, different]
      · simpa [modifySession, same, asked] using ih

theorem Numbered.modify (numbered : table.Numbered) (sid : UInt16) :
    (table.modify sid change).Numbered := by
  have ids := modifySession_map sid named table.sessions
  exact ⟨ids.symm ▸ numbered.distinct, ids.symm ▸ numbered.nonzero, numbered.next⟩

theorem ownerOf_modify (kept : ∀ entry, (change entry).owner = entry.owner)
    (table : ServerSessionTable) (sid other : UInt16) :
    (table.modify sid change).ownerOf other = table.ownerOf other := by
  rw [ownerOf, find_modify named table sid other]
  split
  · rw [Option.map_map, ownerOf]
    congr 1
    exact funext kept
  · rfl

theorem persists_modify (kept : ∀ entry, (change entry).owner = entry.owner)
    (table : ServerSessionTable) (sid : UInt16) : Persists table (table.modify sid change) where
  owner := fun owned => (ownerOf_modify named kept table sid _).trans owned
  numbered := fun numbered => numbered.modify named sid

/-- Nothing is lost by rewriting a session that is not authenticated. -/
theorem persists_unauthenticated
    (unauthenticated : ∀ conn user, before.ownerOf sid ≠ some ⟨conn, some user⟩) :
    Persists before (before.modify sid change) where
  owner := by
    intro other conn user owned
    have different : other ≠ sid := by
      rintro rfl
      exact unauthenticated conn user owned
    rw [ownerOf, find_modify named before sid other, if_neg different]
    exact owned
  numbered := fun numbered => numbered.modify named sid

end

theorem ownerOf_of_sessions (same : after.sessions = before.sessions)
    (sid : UInt16) : after.ownerOf sid = before.ownerOf sid := by
  rw [ownerOf, find, same]
  rfl

theorem persists_of_sessions (same : after.sessions = before.sessions)
    (next : before.nextSessionId ≠ 0 → after.nextSessionId ≠ 0) : Persists before after where
  owner := fun owned => (ownerOf_of_sessions same _).trans owned
  numbered := fun numbered =>
    ⟨same ▸ numbered.distinct, same ▸ numbered.nonzero, next numbered.next⟩

/-! ## Ending sessions -/

theorem Numbered.filter (numbered : before.Numbered)
    (kept : after.sessions = before.sessions.filter keep)
    (next : after.nextSessionId = before.nextSessionId) : after.Numbered where
  distinct := by
    rw [kept]
    exact numbered.distinct.sublist (List.filter_sublist.map _)
  nonzero := by
    rw [kept]
    exact fun present => numbered.nonzero ((List.filter_sublist.map _).subset present)
  next := next ▸ numbered.next

theorem find_filter (kept : after.sessions = before.sessions.filter keep)
    (found : before.find sid = some entry) (stays : keep entry = true) :
    after.find sid = some entry := by
  obtain ⟨asked, earlier, later, sessions, others⟩ := List.find?_eq_some_iff_append.mp found
  rw [find, kept, List.find?_filter]
  refine List.find?_eq_some_iff_append.mpr ⟨by simp [stays, asked], earlier, later, sessions, ?_⟩
  intro other before
  have unasked := others other before
  rw [Bool.not_eq_true', decide_eq_false_iff_not]
  rintro ⟨-, same⟩
  rw [same] at unasked
  cases unasked

theorem reap_sessions (table : ServerSessionTable) (nowMs : UInt64) :
    (table.reap nowMs).1.sessions =
      table.sessions.filter (fun entry => !table.expired nowMs entry) := rfl

theorem Numbered.reap (numbered : table.Numbered) (nowMs : UInt64) :
    (table.reap nowMs).1.Numbered :=
  numbered.filter (table.reap_sessions nowMs) rfl

theorem Numbered.reap_owner (numbered : table.Numbered)
    {nowMs : UInt64} (alive : (table.reap nowMs).1.alive sid = true)
    (owned : table.ownerOf sid = some owner) : (table.reap nowMs).1.ownerOf sid = some owner := by
  obtain ⟨kept, found⟩ := Option.isSome_iff_exists.mp alive
  have present := find_mem found
  have before := numbered.find_of_mem (List.mem_of_mem_filter present)
  rw [find_named found] at before
  rw [ownerOf, found, ← owned, ownerOf, before]

theorem reap_none {nowMs : UInt64} (none : (table.reap nowMs).2 = 0) :
    (table.reap nowMs).1.sessions = table.sessions := by
  rw [reap_sessions, List.filter_eq_self]
  intro entry present
  have unexpired := List.countP_eq_zero.mp none entry present
  simpa using unexpired

theorem close_owner {other : UInt16} (different : other ≠ sid)
    (owned : table.ownerOf other = some owner) : (table.close sid).ownerOf other = some owner := by
  obtain ⟨entry, found, owns⟩ := Option.map_eq_some_iff.mp owned
  have stays : (entry.sessionId != sid) = true := by simp [find_named found, different]
  have still : (table.close sid).find other = some entry := find_filter rfl found stays
  rw [ownerOf, still, ← owns]
  rfl

theorem Numbered.close (numbered : table.Numbered) (sid : UInt16) : (table.close sid).Numbered :=
  numbered.filter rfl rfl

theorem closeConnection_owner {conn : TransportId}
    (elsewhere : owner.connection ≠ conn) (owned : table.ownerOf sid = some owner) :
    (table.closeConnection conn).ownerOf sid = some owner := by
  obtain ⟨entry, found, rfl⟩ := Option.map_eq_some_iff.mp owned
  have stays : (entry.connection != conn) = true := bne_iff_ne.mpr elsewhere
  have still : (table.closeConnection conn).find sid = some entry :=
    find_filter rfl found stays
  rw [ownerOf, still]
  rfl

theorem Numbered.closeConnection (numbered : table.Numbered) (conn : TransportId) :
    (table.closeConnection conn).Numbered :=
  numbered.filter rfl rfl

/-! ## The other calls -/

section

variable (backend : CryptoBackend)

include backend table

theorem sealLocked_persists (req : SealRequest) :
    Persists table (table.sealLocked backend req).1 := by
  rcases sealLocked_cases backend table req
      with ⟨why, failed⟩ | ⟨sess, pkt, -, -, -, sealed⟩
  · rw [failed]
    exact Persists.refl table
  · rw [sealed]
    exact @persists_modify SessionEntry.spend (fun _ => rfl) (fun _ => rfl) table _

theorem sealTunnel_persists (conn : TransportId) (sid : UInt16) (plainFrame : Octets) (room : Nat) :
    Persists table (table.sealTunnel backend conn sid plainFrame room).1 :=
  sealLocked_persists backend _

theorem sealStatus_persists (conn : TransportId) (sid : UInt16) (status : SessionStatus)
    (room : Nat) : Persists table (table.sealStatus backend conn sid status room).1 := by
  unfold sealStatus
  split
  · exact Persists.refl table
  · exact sealLocked_persists backend _

end

theorem followingId_ne_zero (sid : UInt16) : followingId sid ≠ 0 := by
  unfold followingId
  split
  · decide
  rename_i below
  intro zero
  have numbers := congrArg UInt16.toNat zero
  have small := sid.toNat_lt
  have high : sid.toNat ≠ 65535 := fun last => below (UInt16.toNat_inj.mp last)
  simp only [UInt16.toNat_add, UInt16.toNat_ofNat] at numbers
  omega

theorem searchSessionId_spec {sessions : List SessionEntry} {fuel : Nat} {candidate next : UInt16}
    (nonzero : candidate ≠ 0) (found : searchSessionId sessions fuel candidate = some (sid, next)) :
    sid ∉ sessions.map SessionEntry.sessionId ∧ sid ≠ 0 ∧ next ≠ 0 := by
  induction fuel generalizing candidate with
  | zero => cases found
  | succ fuel ih =>
    unfold searchSessionId at found
    split at found
    · exact ih (followingId_ne_zero _) found
    rename_i unheld
    cases found
    refine ⟨?_, nonzero, followingId_ne_zero _⟩
    simpa using unheld

theorem persists_append (added : after.sessions = before.sessions ++ [entry])
    (fresh : entry.sessionId ∉ before.sessions.map SessionEntry.sessionId)
    (nonzero : entry.sessionId ≠ 0) (next : after.nextSessionId ≠ 0) : Persists before after where
  owner := by
    intro sid conn user owned
    obtain ⟨held, found, owns⟩ := Option.map_eq_some_iff.mp owned
    have still : after.find sid = some held := by
      unfold find at found ⊢
      rw [added, List.find?_append, found]
      rfl
    rw [ownerOf, still, ← owns]
    rfl
  numbered := fun numbered =>
    { distinct := by
        rw [added, List.map_append, List.nodup_append]
        refine ⟨numbered.distinct, List.nodup_singleton _, ?_⟩
        rintro id held other only rfl
        rw [List.map_singleton, List.mem_singleton] at only
        exact fresh (only ▸ held)
      nonzero := by
        rw [added, List.map_append, List.mem_append]
        rintro (held | only)
        · exact numbered.nonzero held
        · exact nonzero (List.mem_singleton.mp only).symm
      next := next }

theorem onSessionRequest_persists (backend : CryptoBackend) (table : ServerSessionTable)
    (generated : Expected X25519KeyPair) (origin : ClientOrigin) (req : SessionRequestFrame)
    (nowMs : UInt64) (numbered : table.Numbered) :
    Persists table (table.onSessionRequest backend generated origin req nowMs).1 := by
  have requested := onSessionRequest_requested backend table generated origin req nowMs
  generalize table.onSessionRequest backend generated origin req nowMs = call at requested ⊢
  cases requested with
  | refused passed =>
    refine persists_of_sessions rfl (fun nonzero => ?_)
    rcases passed with rfl | ⟨sid, allocated⟩
    · exact nonzero
    · exact (searchSessionId_spec numbered.next allocated).2.2
  | opened _ _ _ allocated =>
    obtain ⟨fresh, nonzero, next⟩ := searchSessionId_spec numbered.next allocated
    exact persists_append rfl fresh nonzero next

/-- What came of a wrapper that was taken: a closing status ends the one session, and nothing else
ends any session or gives it away. -/
structure Opened (before after : ServerSessionTable) (session : SessionEntry)
    (frame : ServerOpenedFrame) : Prop where
  named : frame.sessionId = session.sessionId
  closed : frame.kind = .closed →
    after.sessions = (before.close session.sessionId).sessions ∧
      after.nextSessionId = before.nextSessionId
  persists : frame.kind ≠ .closed → Persists before after
  refused : frame.kind = .refusedAuthentication → session.user = none
  tunnelled : frame.kind = .tunnel → session.user.isSome = true

section Opening

variable {backend : CryptoBackend} {origin : ClientOrigin} {wrap : WrapperFrame} {room : Nat}
  {nowMs : UInt64}

section

variable {admitted : ServerSessionTable}
  (sessions : admitted.sessions = modifySession wrap.sessionId
    (received (decodeSequence wrap.sequence) nowMs) table.sessions)

include sessions

theorem admitted_owner (other : UInt16) : admitted.ownerOf other = table.ownerOf other :=
  (ownerOf_of_sessions sessions other).trans
    (@ownerOf_modify (received (decodeSequence wrap.sequence) nowMs) (fun _ => rfl) (fun _ => rfl)
      table wrap.sessionId other)

theorem admitted_persists (next : admitted.nextSessionId = table.nextSessionId) :
    Persists table admitted :=
  (@persists_modify (received (decodeSequence wrap.sequence) nowMs) (fun _ => rfl) (fun _ => rfl)
    table wrap.sessionId).trans
    (persists_of_sessions sessions (fun nonzero => next ▸ nonzero))

end

theorem openFrame_error {why : ErrorCode}
    (done : table.openFrame backend origin wrap room nowMs = (after, .error why)) :
    Persists table after := by
  rcases openFrame_cases backend table origin wrap room nowMs with
    ⟨refused, _, verdict, same, next, -⟩ |
    ⟨sess, plain, admitted, found, -, -, -, sessions, ⟨next, -⟩, applied⟩
  · rw [verdict] at done
    cases done
    exact persists_of_sessions same (fun nonzero => next ▸ nonzero)
  · rw [applied] at done
    refine (admitted_persists sessions next).trans ?_
    have judged := apply_applied backend admitted sess plain
    rw [done] at judged
    cases judged
    exact persists_of_sessions rfl id

theorem openFrame_opened {frame : ServerOpenedFrame}
    (done : table.openFrame backend origin wrap room nowMs = (after, .ok frame)) :
    ∃ sess, table.find frame.sessionId = some sess ∧
      sess.connection = origin.connection ∧
      (frame.kind = .closed → (table.Numbered → after.Numbered) ∧
        ∀ other owner, other ≠ frame.sessionId → table.ownerOf other = some owner →
          after.ownerOf other = some owner) ∧
      (frame.kind ≠ .closed → Persists table after) ∧
      (frame.kind = .refusedAuthentication → sess.user = none) ∧
      (frame.kind = .tunnel → sess.user.isSome = true) := by
  rcases openFrame_cases backend table origin wrap room nowMs with
    ⟨refused, _, verdict, -⟩ |
    ⟨sess, plain, admitted, found, ⟨connected, -⟩, -, -, sessions, ⟨next, -⟩, applied⟩
  · rw [verdict] at done
    cases done
  · rw [applied] at done
    have named := find_named found
    have admits := admitted_persists sessions next
    have owned : admitted.ownerOf sess.sessionId = some sess.owner := by
      rw [admitted_owner sessions, ownerOf, named, found]
      rfl
    have opened : Opened admitted after sess frame := by
      have applied := apply_applied backend admitted sess plain
      rw [done] at applied
      cases applied with
      | keptAlive => exact ⟨rfl, nofun, fun _ => Persists.refl _, nofun, nofun⟩
      | closed => exact ⟨rfl, fun _ => ⟨rfl, rfl⟩, fun other => absurd rfl other, nofun, nofun⟩
      | tunnelled known => exact ⟨rfl, nofun, fun _ => Persists.refl _, nofun, fun _ => known⟩
      | denied nobody =>
        exact ⟨rfl, nofun, fun _ => persists_of_sessions rfl id, fun _ => nobody, nofun⟩
      | @authenticated user _ counters nobody =>
        refine ⟨rfl, nofun, fun _ => ?_, nofun, nofun⟩
        refine (@persists_unauthenticated sess.sessionId (fun entry => { entry with user }) admitted
          (fun _ => rfl) fun conn user other => ?_).trans (persists_of_sessions rfl id)
        rw [owned, SessionEntry.owner, nobody] at other
        cases other
    refine ⟨sess, ?_, connected, ?_, fun other => admits.trans (opened.persists other),
      opened.refused, opened.tunnelled⟩
    · rw [opened.named, named, found]
    · intro closed
      obtain ⟨ended, unchanged⟩ := opened.closed closed
      refine ⟨fun numbered => ?_, fun other owner different owns => ?_⟩
      · exact (persists_of_sessions ended (fun nonzero => unchanged ▸ nonzero)).numbered
          ((admits.numbered numbered).close sess.sessionId)
      · rw [ownerOf_of_sessions ended]
        exact close_owner (opened.named ▸ different) ((admitted_owner sessions other).trans owns)

end Opening

end ServerSessionTable

end KmxAio.Knx.Secure
