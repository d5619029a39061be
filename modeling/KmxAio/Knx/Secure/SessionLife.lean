import Mathlib.Data.List.Forall2
import KmxAio.Knx.Secure.SessionOwners

/-!
# The life of a session

A session is opened by a request and stays the session of one connection, one peer
and one pair of public keys until it ends. In between it may be authenticated once
and takes wrappers with growing numbers. Every call of the table continues some of
its sessions in this sense, or continues all of them and opens one more.
-/

namespace KmxAio.Knx.Secure

open Lib.Wire Connection

structure SessionIdentity where
  sessionId : UInt16
  connection : TransportId
  peer : TransportPeer
  clientPublicKey : X25519PublicKey
  serverPublicKey : X25519PublicKey
  sessionKey : SecretKey
  createdMs : UInt64
  deriving DecidableEq

def SessionEntry.identity (entry : SessionEntry) : SessionIdentity :=
  ⟨entry.sessionId, entry.connection, entry.peer, entry.clientPublicKey, entry.serverPublicKey,
    entry.sessionKey, entry.createdMs⟩

theorem SessionEntry.sessionId_of_identity {first second : SessionEntry}
    (same : first.identity = second.identity) : first.sessionId = second.sessionId :=
  congrArg SessionIdentity.sessionId same

/-- The call brings, from the connection and peer of the session, a wrapper that opens under the
session's key and carries a SESSION_AUTHENTICATE whose MAC verifies under the user's password key
and the public keys of the session. -/
inductive Authenticates (session : SessionIdentity) (user : TunnellingUser) : ServerEvent → Prop
  | verified (backend : CryptoBackend) (origin : ClientOrigin) (wrapper : WrapperFrame)
      (capacity : Nat) (nowMs : UInt64) (plain : Octets) (value : SessionAuthenticateFrame)
      (named : wrapper.sessionId = session.sessionId)
      (connected : session.connection = origin.connection)
      (peered : samePeer session.peer origin.peer = true)
      (opened : openWrapper backend capacity session.sessionKey wrapper = .ok plain)
      (decoded : decodeSessionAuthenticatePacket plain = .ok value)
      (claimed : value.userId = user.userId)
      (verifies : verifySessionAuthenticate backend user.passwordKey value
        session.clientPublicKey session.serverPublicKey = .ok ()) :
      Authenticates session user (.openFrame backend origin wrapper capacity nowMs)

/-- The call is a request that opens the session: on its connection, from its peer, with its public
keys and the key derived from them. -/
inductive OpensSession (entry : SessionEntry) : ServerEvent → Prop
  | requested (backend : CryptoBackend) (keyPair : X25519KeyPair) (origin : ClientOrigin)
      (request : SessionRequestFrame) (nowMs : UInt64) (sessionKey : SecretKey)
      (derived : deriveSessionKey backend keyPair.privateKey request.clientPublicKey =
        .ok sessionKey)
      (built : entry = openedEntry origin request keyPair sessionKey entry.sessionId nowMs) :
      OpensSession entry (.onSessionRequest backend (.ok keyPair) origin request nowMs)

namespace ServerSessionTable

variable (table : ServerSessionTable)

def next (event : ServerEvent) : ServerSessionTable :=
  (table.step event).1

def acceptedBy : ServerEvent → Option (UInt16 × Nat)
  | .openFrame backend origin wrap room _ =>
    if table.admits backend origin wrap room then
      some (wrap.sessionId, decodeSequence wrap.sequence)
    else none
  | _ => none

/-- What one call makes of a session that does not end: the session stays what it is, is
authenticated only by an authentication that verifies, and takes a wrapper only above the last. -/
structure Continues (table : ServerSessionTable) (event : ServerEvent) (now was : SessionEntry) :
    Prop where
  identity : now.identity = was.identity
  user : now.user = was.user ∨ ∃ user ∈ table.configuration.users,
    was.user = none ∧ now.user = some user ∧ Authenticates was.identity user event
  accepted : ∀ number, table.acceptedBy event = some (was.sessionId, number) →
    now.lastReceivedSequence = some number ∧ ∀ last ∈ was.lastReceivedSequence, last < number
  idle : (∀ number, table.acceptedBy event ≠ some (was.sessionId, number)) →
    now.lastReceivedSequence = was.lastReceivedSequence

theorem continues_refl {table : ServerSessionTable} {event : ServerEvent} {entry : SessionEntry}
    (idle : ∀ num, table.acceptedBy event ≠ some (entry.sessionId, num)) :
    Continues table event entry entry where
  identity := rfl
  user := .inl rfl
  accepted := fun num accepted => absurd accepted (idle num)
  idle := fun _ => rfl

/-- Some of the sessions go on, in their order, and the others end. -/
def Continued (event : ServerEvent) (after : List SessionEntry) : Prop :=
  List.SublistForall₂ (Continues table event) after table.sessions

theorem continued_of_sublist {table : ServerSessionTable} {event : ServerEvent}
    {after : List SessionEntry} (idle : table.acceptedBy event = none)
    (sublist : after.Sublist table.sessions) : table.Continued event after := by
  refine List.sublistForall₂_iff.mpr ⟨after, List.forall₂_same.mpr ?_, sublist⟩
  intro entry _
  exact continues_refl (fun num accepted => by rw [idle] at accepted; cases accepted)

theorem forall₂_modifySession {sessions : List SessionEntry} {sid : UInt16}
    {change : SessionEntry → SessionEntry} {Relation : SessionEntry → SessionEntry → Prop}
    (distinct : (sessions.map SessionEntry.sessionId).Nodup)
    (kept : ∀ entry, entry.sessionId ≠ sid → Relation entry entry)
    (changed : ∀ entry ∈ sessions, entry.sessionId = sid → Relation (change entry) entry) :
    List.Forall₂ Relation (modifySession sid change sessions) sessions := by
  induction sessions with
  | nil => exact .nil
  | cons first rest ih =>
    obtain ⟨unlike, restDistinct⟩ := List.nodup_cons.mp distinct
    by_cases same : first.sessionId = sid
    · rw [modifySession, if_pos same]
      refine .cons (changed first List.mem_cons_self same) (List.forall₂_same.mpr ?_)
      intro entry present
      refine kept entry (fun also => unlike ?_)
      exact List.mem_map.mpr ⟨entry, present, also.trans same.symm⟩
    · rw [modifySession, if_neg same]
      refine .cons (kept first same) (ih restDistinct ?_)
      exact fun entry present => changed entry (List.mem_cons_of_mem _ present)

theorem filter_modifySession (sid : UInt16) {change : SessionEntry → SessionEntry}
    (named : ∀ entry, (change entry).sessionId = entry.sessionId) (sessions : List SessionEntry) :
    (modifySession sid change sessions).filter (fun entry => entry.sessionId != sid) =
      sessions.filter (fun entry => entry.sessionId != sid) := by
  induction sessions with
  | nil => rfl
  | cons first rest ih =>
    by_cases same : first.sessionId = sid
    · simp [modifySession, same, named]
    · simp [modifySession, same, ih]

theorem received_named (num : Nat) (nowMs : UInt64) (entry : SessionEntry) :
    (received num nowMs entry).sessionId = entry.sessionId := rfl

/-! ## The calls -/

section Calls

variable (backend : CryptoBackend)

theorem sealLocked_continued {event : ServerEvent} (numbered : table.Numbered)
    (idle : table.acceptedBy event = none) (req : SealRequest) :
    table.Continued event (table.sealLocked backend req).1.sessions := by
  rcases sealLocked_cases backend table req
      with ⟨why, failed⟩ | ⟨sess, pkt, -, -, -, sealed⟩
  · rw [failed]
    exact continued_of_sublist idle (List.Sublist.refl _)
  · rw [sealed]
    have unaccepted : ∀ (entry : SessionEntry) (num : Nat),
        table.acceptedBy event ≠ some (entry.sessionId, num) := by
      intro entry num accepted
      rw [idle] at accepted
      cases accepted
    refine List.sublistForall₂_iff.mpr ⟨table.sessions, ?_, List.Sublist.refl _⟩
    refine forall₂_modifySession numbered.distinct ?_ ?_
    · exact fun entry _ => continues_refl (unaccepted entry)
    · exact fun entry _ _ =>
        ⟨rfl, .inl rfl, fun num accepted => absurd accepted (unaccepted entry num), fun _ => rfl⟩

theorem openFrame_continued (numbered : table.Numbered) (origin : ClientOrigin)
    (wrap : WrapperFrame) (room : Nat) (nowMs : UInt64) :
    (table.openFrame backend origin wrap room nowMs).1.configuration =
        table.configuration ∧ table.Continued (.openFrame backend origin wrap room nowMs)
        (table.openFrame backend origin wrap room nowMs).1.sessions := by
  rcases openFrame_cases backend table origin wrap room nowMs with
    ⟨refused, why, verdict, same, -, config, rejected⟩ |
    ⟨sess, plain, admitted, found, ⟨connected, peered, taken⟩, opened, forward, sessions,
      ⟨-, config⟩, applied⟩
  · rw [verdict]
    refine ⟨config, continued_of_sublist (by simp [acceptedBy, rejected]) ?_⟩
    rw [same]
  have named := find_named found
  have accepted : table.acceptedBy (.openFrame backend origin wrap room nowMs) =
      some (wrap.sessionId, decodeSequence wrap.sequence) := by
    simp [acceptedBy, taken]
  have others : ∀ entry : SessionEntry, entry.sessionId ≠ wrap.sessionId →
      Continues table (.openFrame backend origin wrap room nowMs) entry entry := by
    intro entry different
    refine continues_refl (fun num also => different ?_)
    rw [accepted] at also
    exact (congrArg Prod.fst (Option.some.inj also)).symm
  -- the wrapper's session goes on with the wrapper's number, whatever else is written into it
  have continues : ∀ change : SessionEntry → SessionEntry,
      (change sess).identity = sess.identity →
      (change sess).lastReceivedSequence = some (decodeSequence wrap.sequence) →
      ((change sess).user = sess.user ∨ ∃ user ∈ table.configuration.users,
        sess.user = none ∧ (change sess).user = some user ∧
          Authenticates sess.identity user
            (.openFrame backend origin wrap room nowMs)) →
      table.Continued (.openFrame backend origin wrap room nowMs)
        (modifySession wrap.sessionId change table.sessions) := by
    intro change identity last user
    refine List.sublistForall₂_iff.mpr ⟨table.sessions, ?_, List.Sublist.refl _⟩
    refine forall₂_modifySession numbered.distinct others (fun entry present same => ?_)
    have only : entry = sess := by
      have held := numbered.find_of_mem present
      rw [same, found] at held
      exact (Option.some.inj held).symm
    subst only
    refine ⟨identity, user, fun num also => ?_, fun idle => absurd (named ▸ accepted) (idle _)⟩
    rw [accepted] at also
    obtain rfl := congrArg Prod.snd (Option.some.inj also)
    exact ⟨last, forward⟩
  rw [applied]
  have judged := apply_applied backend admitted sess plain
  generalize admitted.apply backend sess plain = call at judged ⊢
  cases judged with
  | keptAlive | refused | tunnelled | denied =>
    refine ⟨config, ?_⟩
    change table.Continued _ admitted.sessions
    rw [sessions]
    exact continues _ rfl rfl (.inl rfl)
  | closed =>
    refine ⟨config, ?_⟩
    dsimp only [erase]
    rw [sessions, named, filter_modifySession _ (received_named _ _)]
    refine List.sublistForall₂_iff.mpr ⟨_, List.forall₂_same.mpr ?_, List.filter_sublist⟩
    intro entry present
    exact others entry (by simpa using (List.mem_filter.mp present).2)
  | authenticated _ nobody configured decoded claimed verifies =>
    refine ⟨config, ?_⟩
    dsimp only [modify]
    rw [sessions, named, modifySession_modifySession _ (received_named _ _)]
    refine continues _ rfl rfl (.inr ⟨_, config ▸ configured, nobody, rfl, ?_⟩)
    exact .verified backend origin wrap room nowMs plain _ named.symm connected peered
      opened decoded claimed verifies

end Calls

variable {table}

/-! ## One call -/

theorem next_numbered (numbered : table.Numbered)
    (event : ServerEvent) : (table.next event).Numbered := by
  cases event with
  | onSessionRequest backend generated origin req nowMs =>
    exact (onSessionRequest_persists backend table generated origin req nowMs
      numbered).numbered numbered
  | openFrame backend origin wrap room nowMs =>
    change (table.openFrame backend origin wrap room nowMs).1.Numbered
    cases result : table.openFrame backend origin wrap room nowMs with
    | mk after outcome =>
      cases outcome with
      | error why => exact (openFrame_error result).numbered numbered
      | ok frame =>
        obtain ⟨-, -, -, closed, persists, -⟩ := openFrame_opened result
        by_cases ends : frame.kind = .closed
        · exact (closed ends).1 numbered
        · exact (persists ends).numbered numbered
  | sealTunnel backend conn sid plainFrame room =>
    exact (sealTunnel_persists backend conn sid plainFrame room).numbered numbered
  | sealStatus backend conn sid status room =>
    exact (sealStatus_persists backend conn sid status room).numbered numbered
  | close sid => exact numbered.close sid
  | closeConnection conn => exact numbered.closeConnection conn
  | reap nowMs => exact numbered.reap nowMs
  | noteUnencrypted => exact ⟨numbered.distinct, numbered.nonzero, numbered.next⟩

inductive Lives (table : ServerSessionTable) (event : ServerEvent) : Prop
  | continued (sessions : table.Continued event (table.next event).sessions)
      (response : ∀ response, (table.step event).2 ≠ .responded response)
  | opened (entry : SessionEntry) (response : SessionResponseFrame)
      (opens : OpensSession entry event) (admitted : table.admitRequest entry.peer = .ok ())
      (nobody : entry.user = none) (silent : entry.lastReceivedSequence = none)
      (fresh : entry.sessionId ∉ table.sessions.map SessionEntry.sessionId)
      (responded : (table.step event).2 = .responded response)
      (named : response.sessionId = entry.sessionId)
      (sessions : (table.next event).sessions = table.sessions ++ [entry])

theorem onSessionRequest_lives (numbered : table.Numbered)
    (backend : CryptoBackend) (generated : Expected X25519KeyPair) (origin : ClientOrigin)
    (req : SessionRequestFrame) (nowMs : UInt64) :
    table.Lives (.onSessionRequest backend generated origin req nowMs) := by
  have requested := onSessionRequest_requested backend table generated origin req nowMs
  generalize called : table.onSessionRequest backend generated origin req nowMs = call at requested
  cases requested with
  | refused =>
    refine .continued (continued_of_sublist rfl ?_) ?_
    · simp [next, step, called]
    · intro resp responded
      simp [step, ServerOutcome.ofExpected, called] at responded
  | @opened keyPair sessionKey sid next mac given admitted derived allocated =>
    subst given
    refine .opened (openedEntry origin req keyPair sessionKey sid nowMs)
      ⟨sid, keyPair.publicKey, mac⟩
      (.requested backend keyPair origin req nowMs sessionKey derived rfl) admitted rfl rfl
      (searchSessionId_spec numbered.next allocated).1 ?_ rfl ?_
    · simp [step, ServerOutcome.ofExpected, called]
    · simp [ServerSessionTable.next, step, called]

theorem next_lives (numbered : table.Numbered) (event : ServerEvent) :
    table.Lives event := by
  cases event with
  | onSessionRequest backend generated origin req nowMs =>
    exact onSessionRequest_lives numbered backend generated origin req nowMs
  | openFrame backend origin wrap room nowMs =>
    refine .continued
      (openFrame_continued table backend numbered origin wrap room nowMs).2 ?_
    intro resp
    cases result : (table.openFrame backend origin wrap room nowMs).2 <;>
      simp [step, ServerOutcome.ofExpected, result]
  | sealTunnel backend conn sid plainFrame room =>
    refine .continued (sealLocked_continued table backend numbered rfl _) ?_
    intro resp
    cases result : (table.sealTunnel backend conn sid plainFrame room).2 <;>
      simp [step, ServerOutcome.ofExpected, result]
  | sealStatus backend conn sid status room =>
    refine .continued ?_ ?_
    · change table.Continued _
        (table.sealStatus backend conn sid status room).1.sessions
      unfold sealStatus
      split
      · exact continued_of_sublist rfl (List.Sublist.refl _)
      · exact sealLocked_continued table backend numbered rfl _
    · intro resp
      cases result : (table.sealStatus backend conn sid status room).2 <;>
        simp [step, ServerOutcome.ofExpected, result]
  | close sid | closeConnection conn | reap nowMs =>
    exact .continued (continued_of_sublist rfl List.filter_sublist) (by simp [step])
  | noteUnencrypted =>
    exact .continued (continued_of_sublist rfl (List.Sublist.refl _)) (by simp [step])

theorem sealLocked_configuration (table : ServerSessionTable) (backend : CryptoBackend)
    (req : SealRequest) : (table.sealLocked backend req).1.configuration = table.configuration := by
  rcases sealLocked_cases backend table req
      with ⟨why, failed⟩ | ⟨sess, pkt, -, -, -, sealed⟩
  · rw [failed]
  · rw [sealed]
    rfl

theorem next_configuration (numbered : table.Numbered)
    (event : ServerEvent) : (table.next event).configuration = table.configuration := by
  cases event with
  | onSessionRequest backend generated origin req nowMs =>
    have requested := onSessionRequest_requested backend table generated origin req nowMs
    change (table.onSessionRequest backend generated origin req nowMs).1.configuration = _
    generalize table.onSessionRequest backend generated origin req nowMs = call at requested ⊢
    cases requested <;> rfl
  | openFrame backend origin wrap room nowMs =>
    exact (openFrame_continued table backend numbered origin wrap room nowMs).1
  | sealTunnel backend conn sid plainFrame room =>
    exact sealLocked_configuration table backend _
  | sealStatus backend conn sid status room =>
    change (table.sealStatus backend conn sid status room).1.configuration = _
    unfold sealStatus
    split
    · rfl
    · exact sealLocked_configuration table backend _
  | close sid | closeConnection conn | reap nowMs | noteUnencrypted => rfl

end ServerSessionTable

end KmxAio.Knx.Secure
