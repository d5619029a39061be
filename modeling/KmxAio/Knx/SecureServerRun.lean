import KmxAio.Knx.SecureServerChannels

/-!
# Runs of a secure server

Whatever connections, frames, polls and ends of sessions and connections follow each
other, every channel of a secure server belongs to a session.
-/

namespace KmxAio.Knx

open Lib.Run Lib.Wire Knx.Frame Connection Function
open KmxAio.Knx.Secure (ServerSessionTable SessionOwner)
open KmxAio.Knx.Secure.ServerSessionTable (Persists Numbered)

namespace GenericServer

/-- The channel was opened in a session that is alive and authenticated: it is held over the
session's link, under one of the tunnel addresses of the session's user. -/
def InSession (srv : GenericServer) (table : ServerSessionTable) (val : Channel) : Prop :=
  ∃ conn user spot, val.sessionId ≠ 0 ∧
    table.ownerOf val.sessionId = some ⟨conn, some user⟩ ∧
    val.assignedAddress ∈ user.tunnelAddresses ∧
    srv.sessionLink conn val.sessionId = some spot ∧
    val.transport = some (.link conn spot)

structure ChannelsOwned (srv : GenericServer) (table : ServerSessionTable) : Prop where
  present : srv.sessions = some table
  numbered : table.Numbered
  inSession : ∀ id, (srv.channels id).active = true → srv.InSession table (srv.channels id)
  distinct : ∀ first second, (srv.channels first).active = true →
    (srv.channels second).active = true →
    (srv.channels first).assignedAddress = (srv.channels second).assignedAddress →
    first = second
  unused : (srv.channels 0).active = false

def Owned (srv : GenericServer) : Prop := ∃ table, srv.ChannelsOwned table

section Shrinking

variable {before after : GenericServer} {table later : ServerSessionTable}

/-- Channels stay owned when no channel is opened or given away, and every channel that is left
still has its session and its link. -/
theorem ChannelsOwned.shrink (owned : before.ChannelsOwned table)
    (row : ∀ id, (after.channels id).active = true →
      (before.channels id).active = true ∧
        (after.channels id).transport = (before.channels id).transport ∧
        (after.channels id).assignedAddress = (before.channels id).assignedAddress ∧
        (after.channels id).sessionId = (before.channels id).sessionId)
    (present : after.sessions = some later) (numbered : later.Numbered)
    (kept : ∀ id, (after.channels id).active = true → ∀ conn user spot,
      table.ownerOf (before.channels id).sessionId = some ⟨conn, some user⟩ →
      before.sessionLink conn (before.channels id).sessionId = some spot →
      (before.channels id).transport = some (.link conn spot) →
        later.ownerOf (before.channels id).sessionId = some ⟨conn, some user⟩ ∧
          after.sessionLink conn (before.channels id).sessionId = some spot) :
    after.ChannelsOwned later where
  present := present
  numbered := numbered
  inSession := by
    intro id active
    obtain ⟨was, transport, address, sess⟩ := row id active
    obtain ⟨conn, user, spot, nonzero, owner, permitted, link, held⟩ :=
      owned.inSession id was
    obtain ⟨owner', link'⟩ := kept id active conn user spot owner link held
    refine ⟨conn, user, spot, ?_, ?_, ?_, ?_, ?_⟩
    · rwa [sess]
    · rwa [sess]
    · rwa [address]
    · rwa [sess]
    · rwa [transport]
  distinct := by
    intro first second firstActive secondActive shared
    obtain ⟨firstWas, -, firstAddress, -⟩ := row first firstActive
    obtain ⟨secondWas, -, secondAddress, -⟩ := row second secondActive
    refine owned.distinct first second firstWas secondWas ?_
    rw [← firstAddress, shared, secondAddress]
  unused := by
    cases active : (after.channels 0).active with
    | false => rfl
    | true =>
      have was := (row 0 active).1
      rw [owned.unused] at was
      cases was

theorem ChannelsOwned.keeps (owned : before.ChannelsOwned table) (keeps : Keeps before after) :
    after.Owned := by
  obtain ⟨later, found, persists⟩ := keeps.sessions table owned.present
  refine ⟨later, owned.shrink keeps.row found (persists.numbered owned.numbered) ?_⟩
  intro id active conn user spot owner link held
  refine ⟨persists.owner owner, ?_⟩
  rwa [sessionLink, findConnection, keeps.connections]

theorem ChannelsOwned.withSessions (owned : before.ChannelsOwned table)
    (persists : Persists table later) : (before.withSessions later).ChannelsOwned later := by
  refine owned.shrink (fun id active => ⟨active, rfl, rfl, rfl⟩) rfl
    (persists.numbered owned.numbered) ?_
  exact fun id active conn user spot owner link held => ⟨persists.owner owner, link⟩

end Shrinking

/-! ## Opening a channel -/

variable {address : IndividualAddress}

variable {srv : GenericServer}

theorem addressInUse_false (free : srv.addressInUse address = false)
    (id : UInt8) (active : (srv.channels id).active = true) :
    (srv.channels id).assignedAddress ≠ address := by
  intro taken
  have used : srv.addressInUse address = true := by
    refine List.any_eq_true.mpr ⟨id.toNat, List.mem_range.mpr id.toNat_lt, ?_⟩
    simp [active, taken]
  rw [free] at used
  cases used

theorem permittedAddress_ok {permitted : List IndividualAddress}
    {requested : Option IndividualAddress}
    (granted : srv.permittedAddress permitted requested = .ok address) :
    address ∈ permitted ∧ srv.addressInUse address = false := by
  unfold permittedAddress at granted
  cases requested with
  | some asked =>
    dsimp only at granted
    split at granted
    · cases granted
    rename_i own
    split at granted
    · cases granted
    rename_i free
    cases granted
    exact ⟨not_not.mp own, by simpa using free⟩
  | none =>
    dsimp only at granted
    split at granted
    · rename_i found
      cases granted
      exact ⟨List.mem_of_find?_eq_some found, by simpa using List.find?_some found⟩
    · cases granted

section Offering

variable {table : ServerSessionTable} {chan : UInt8} {val : Channel}

theorem ChannelsOwned.setChannel (owned : srv.ChannelsOwned table) (nonzero : chan ≠ 0)
    (inSession : srv.InSession table val) (free : srv.addressInUse val.assignedAddress = false) :
    (srv.setChannel chan val).ChannelsOwned table where
  present := owned.present
  numbered := owned.numbered
  inSession := by
    intro id active
    by_cases same : id = chan
    · simp only [GenericServer.setChannel, same, update_self]
      exact inSession
    · simp only [GenericServer.setChannel, update_of_ne same] at active ⊢
      exact owned.inSession id active
  distinct := by
    intro first second firstActive secondActive shared
    by_cases firstNew : first = chan <;> by_cases secondNew : second = chan
    · exact firstNew.trans secondNew.symm
    · simp only [GenericServer.setChannel, firstNew, update_self,
        update_of_ne secondNew] at secondActive shared
      exact absurd shared.symm (addressInUse_false free second secondActive)
    · simp only [GenericServer.setChannel, secondNew, update_self,
        update_of_ne firstNew] at firstActive shared
      exact absurd shared (addressInUse_false free first firstActive)
    · simp only [GenericServer.setChannel, update_of_ne firstNew,
        update_of_ne secondNew] at firstActive secondActive shared
      exact owned.distinct first second firstActive secondActive shared
  unused := by
    simpa [GenericServer.setChannel, update_of_ne (Ne.symm nonzero)] using owned.unused

theorem ChannelsOwned.offerTo (owned : srv.ChannelsOwned table) (world : Conditions)
    (req : ConnectRequestFrame) {conn : TransportId} {spot : Nat}
    {peer : TransportPeer} {sid : UInt16} {owner : SessionOwner}
    (owns : table.ownerOf sid = some owner) (opened : owner.connection = conn)
    (link : srv.sessionLink conn sid = some spot) :
    (srv.offerTo world req ⟨.link conn spot, peer, sid⟩).1.ChannelsOwned table := by
  have nonzero : sid ≠ 0 := by
    rintro rfl
    obtain ⟨sess, found, -⟩ := Option.map_eq_some_iff.mp owns
    exact owned.numbered.nonzero (List.mem_map.mpr
      ⟨sess, ServerSessionTable.find_mem found, ServerSessionTable.find_named found⟩)
  unfold GenericServer.offerTo
  rw [if_pos nonzero, offerSecureChannel, owned.present]
  split
  · exact owned
  rename_i address granted
  split
  · exact owned
  rename_i chan allocated
  obtain ⟨permitted, free⟩ := permittedAddress_ok granted
  change address ∈ table.tunnelAddresses sid at permitted
  unfold ServerSessionTable.tunnelAddresses at permitted
  split at permitted
  · cases permitted
  rename_i sess found
  split at permitted
  · cases permitted
  rename_i user known
  have authenticated : table.ownerOf sid = some ⟨sess.connection, some user⟩ := by
    simp [ServerSessionTable.ownerOf, found, Secure.SessionEntry.owner, known]
  have same : owner = ⟨sess.connection, some user⟩ := Option.some.inj (owns.symm.trans authenticated)
  subst same opened
  exact owned.setChannel (allocateChannel_free allocated).1.1
    ⟨sess.connection, user, spot, nonzero, authenticated, permitted, link, rfl⟩ free

end Offering

theorem ChannelsOwned.ne_zero {table : ServerSessionTable}
    (owned : srv.ChannelsOwned table) {id : UInt8}
    (active : (srv.channels id).active = true) : id ≠ 0 := by
  rintro rfl
  rw [owned.unused] at active
  cases active

/-! ## Connections -/

theorem findConnection_named {conn : TransportId}
    {state : SecureConnection} (found : srv.findConnection conn = some state) :
    state.connection = conn := by
  simpa using List.find?_some found

section Connections

variable {table : ServerSessionTable}

theorem ChannelsOwned.modifyConnection (owned : srv.ChannelsOwned table)
    (conn : TransportId) {change : SecureConnection → SecureConnection}
    (named : ∀ state, (change state).connection = state.connection)
    (extended : ∀ state, state.links <+: (change state).links) :
    (srv.modifyConnection conn change).ChannelsOwned table := by
  refine owned.shrink (fun id active => ⟨active, rfl, rfl, rfl⟩) owned.present owned.numbered ?_
  intro id active other user spot owner link held
  -- links are only ever added to a connection, so a session's link stays where it is
  refine ⟨owner, ?_⟩
  obtain ⟨state, found, located⟩ := Option.bind_eq_some_iff.mp link
  have stays : ∀ state : SecureConnection,
      (if state.connection = conn then change state else state).connection = state.connection := by
    intro state
    split
    · exact named state
    · rfl
  have changed : (srv.modifyConnection conn change).findConnection other =
      some (if state.connection = conn then change state else state) := by
    rw [findConnection, GenericServer.modifyConnection, List.find?_map]
    have same : (fun state : SecureConnection => state.connection == other) ∘
        (fun state => if state.connection = conn then change state else state) =
          fun state => state.connection == other := by
      funext state
      simp only [comp_apply, stays]
    rw [same]
    exact congrArg (Option.map _) found
  refine Option.bind_eq_some_iff.mpr ⟨_, changed, ?_⟩
  split
  · obtain ⟨more, links⟩ := extended state
    rw [← links, List.findIdx?_append, located]
    rfl
  · exact located

theorem ChannelsOwned.takeOn (owned : srv.ChannelsOwned table) (world : Conditions)
    (conn : TransportId) : (srv.takeOn world conn).ChannelsOwned table := by
  unfold GenericServer.takeOn
  split
  · exact owned
  refine owned.shrink (fun id active => ⟨active, rfl, rfl, rfl⟩) owned.present owned.numbered ?_
  intro id active other user spot owner link held
  obtain ⟨state, found, located⟩ := Option.bind_eq_some_iff.mp link
  refine ⟨owner, Option.bind_eq_some_iff.mpr ⟨state, ?_, located⟩⟩
  rw [findConnection] at found ⊢
  rw [List.find?_append, found]
  rfl

/-! ## Ends -/

theorem releaseWhere_left {condition : Channel → Bool} {id : UInt8} (nonzero : id ≠ 0)
    (active : ((srv.releaseWhere condition).channels id).active = true) :
    condition (srv.channels id) = false := by
  unfold releaseWhere at active
  dsimp only at active
  split at active
  · cases active
  · rename_i kept
    exact Bool.eq_false_iff.mpr (fun meets => kept ⟨nonzero, meets⟩)

theorem releaseChannelsOf_left {transport : ServerTransport} {id : UInt8} (nonzero : id ≠ 0)
    (active : ((srv.releaseChannelsOf transport).channels id).active = true) :
    (srv.channels id).transport ≠ some transport := by
  simpa using releaseWhere_left nonzero active

theorem releaseLinks (conn : TransportId) (positions : List Nat) (srv : GenericServer) :
    let released := positions.foldl
      (fun srv spot => srv.releaseChannelsOf (.link conn spot)) srv
    Keeps srv released ∧ released.sessions = srv.sessions ∧
      ∀ id, id ≠ 0 → (released.channels id).active = true → ∀ spot ∈ positions,
        (srv.channels id).transport ≠ some (.link conn spot) := by
  induction positions generalizing srv with
  | nil => exact ⟨keeps_refl srv, rfl, fun _ _ _ _ listed => nomatch listed⟩
  | cons first rest ih =>
    obtain ⟨keeps, sessions, gone⟩ := ih (srv.releaseChannelsOf (.link conn first))
    have firstKeeps : Keeps srv (srv.releaseChannelsOf (.link conn first)) :=
      srv.releaseWhere_keeps _
    refine ⟨firstKeeps.trans keeps, sessions, fun id nonzero active spot listed => ?_⟩
    have still := (keeps.row id active).1
    have transport := (firstKeeps.row id still).2.1
    rcases List.mem_cons.mp listed with rfl | later
    · exact releaseChannelsOf_left nonzero still
    · rw [← transport]
      exact gone id nonzero active spot later

variable {conn : TransportId} {state : SecureConnection}

theorem ChannelsOwned.endSecureConnection (owned : srv.ChannelsOwned table)
    (found : srv.findConnection conn = some state) :
    (srv.endSecureConnection state).Owned := by
  have named := findConnection_named found
  obtain ⟨keeps, sessions, gone⟩ :=
    releaseLinks state.connection (List.range state.links.length) srv
  refine ⟨table.closeConnection state.connection,
    owned.shrink (fun id active => keeps.row id active) ?_ (owned.numbered.closeConnection _) ?_⟩
  · simp [GenericServer.endSecureConnection, sessions, owned.present]
  intro id active other user spot owner link held
  have nonzero : id ≠ 0 := owned.ne_zero (keeps.row id active).1
  obtain ⟨holder, holds, located⟩ := Option.bind_eq_some_iff.mp link
  have elsewhere : other ≠ state.connection := by
    rintro rfl
    rw [named, found] at holds
    cases holds
    have within := (List.findIdx?_eq_some_iff_getElem.mp located).1
    exact gone id nonzero active spot (List.mem_range.mpr within) held
  refine ⟨ServerSessionTable.closeConnection_owner elsewhere owner, ?_⟩
  refine Option.bind_eq_some_iff.mpr ⟨holder, ?_, located⟩
  rw [findConnection, GenericServer.endSecureConnection, keeps.connections, List.find?_filter]
  have same : (fun candidate : SecureConnection =>
      decide ((candidate.connection != state.connection) = true ∧
        (candidate.connection == other) = true)) =
      fun candidate => candidate.connection == other := by
    funext candidate
    by_cases asked : candidate.connection = other
    · simp [asked, elsewhere]
    · simp [asked]
  rw [same]
  exact holds

theorem Owned.finish (owned : srv.Owned) (conn : TransportId) : (srv.finish conn).Owned := by
  obtain ⟨table, owned⟩ := owned
  unfold GenericServer.finish
  split
  · exact ⟨table, owned⟩
  · rename_i found
    exact owned.endSecureConnection found

theorem ChannelsOwned.reapSessions (owned : srv.ChannelsOwned table) (world : Conditions) :
    (srv.reapSessions world).Owned := by
  unfold GenericServer.reapSessions
  rw [owned.present]
  dsimp only
  split
  · refine ⟨(table.reap world.secureNowMs).1,
      owned.shrink (releaseWhere_keeps _ _).row rfl (owned.numbered.reap _) ?_⟩
    intro id active conn user spot owner link held
    have was : (srv.channels id).active = true := ((releaseWhere_keeps _ _).row id active).1
    have left := releaseWhere_left (owned.ne_zero was) active
    obtain ⟨-, -, -, named, -⟩ := owned.inSession id was
    have alive : (table.reap world.secureNowMs).1.alive (srv.channels id).sessionId = true := by
      simpa [orphaned, was, named] using left
    exact ⟨owned.numbered.reap_owner alive owner, link⟩
  · rename_i none
    have same := ServerSessionTable.reap_none (Nat.eq_zero_of_not_pos none)
    exact ⟨_, owned.withSessions (ServerSessionTable.persists_of_sessions same id)⟩

theorem Owned.keeps {after : GenericServer} (owned : srv.Owned) (keeps : Keeps srv after) :
    after.Owned := by
  obtain ⟨table, owned⟩ := owned
  exact owned.keeps keeps

theorem Owned.poll (owned : srv.Owned) (world : Conditions) : (srv.poll world).1.Owned := by
  obtain ⟨table, present⟩ := owned
  unfold GenericServer.poll
  split
  · exact ⟨table, present⟩
  split
  · exact present.reapSessions world
  · exact (present.reapSessions world).keeps (releaseWhere_keeps _ _)

theorem Owned.connectionIdle (owned : srv.Owned) (world : Conditions)
    (state : SecureConnection) : (srv.connectionIdle world state).1.Owned := by
  obtain ⟨table, owned⟩ := owned
  unfold GenericServer.connectionIdle
  rw [owned.present]
  exact ⟨table, owned.modifyConnection _ (fun _ => rfl) (fun _ => List.prefix_refl _)⟩

theorem Owned.servePass (owned : srv.Owned) (world : Conditions)
    (state : SecureConnection) (stopRequested : Bool) :
    (srv.servePass world state stopRequested).Owned := by
  have polled := owned.poll world
  unfold GenericServer.servePass
  split
  · exact owned.finish state.connection
  split <;> rename_i outcome <;> rw [outcome] at polled
  · exact polled.finish state.connection
  rename_i middle _
  have looked := polled.connectionIdle world state
  split <;> rename_i idle <;> rw [idle] at looked
  · exact looked.finish state.connection
  · exact looked

/-! ## Frames of a connection -/

theorem sendInClear_same (srv : GenericServer) (world : Conditions)
    (encoded : Expected Octets) (conn : TransportId) :
    SameChannels srv (srv.sendInClear world encoded conn).1 := by
  unfold sendInClear
  split
  · exact sameChannels_refl srv
  rename_i pkt
  have sent := srv.sendDatagram_same world pkt (.connection conn)
  split <;> rename_i returned <;> rwa [returned] at sent

section

variable (owned : srv.ChannelsOwned table)

include owned

variable (world : Conditions)

theorem ChannelsOwned.answerSessionRequest (state : SecureConnection)
    (req : Secure.SessionRequestFrame) (peer : TransportPeer) :
    (srv.answerSessionRequest world state table req peer).1.Owned := by
  have persists := ServerSessionTable.onSessionRequest_persists world.backend table
    world.generated ⟨state.connection, peer⟩ req world.secureNowMs owned.numbered
  unfold GenericServer.answerSessionRequest
  split
  · exact ⟨table, owned⟩
  split <;> rename_i outcome <;> rw [outcome] at persists
  · exact (owned.withSessions persists).keeps (sendInClear_same _ _ _ _).keeps
  rename_i later resp
  have linked : ((srv.withSessions later).modifyConnection state.connection
      (fun other => { other with links := other.links ++ [resp.sessionId] })).ChannelsOwned
        later :=
    (owned.withSessions persists).modifyConnection state.connection (fun _ => rfl)
      (fun other => List.prefix_append other.links _)
  exact linked.keeps (sendInClear_same _ _ _ _).keeps

/-- The channel of a session is held over the link the session has on its connection, and the
session is authenticated. -/
theorem ChannelsOwned.row_link {id : UInt8} (active : (srv.channels id).active = true)
    {owner : SessionOwner} (owns : table.ownerOf (srv.channels id).sessionId = some owner) :
    owner.user.isSome = true ∧ ∃ spot,
      srv.sessionLink owner.connection (srv.channels id).sessionId = some spot ∧
        (srv.channels id).transport = some (.link owner.connection spot) := by
  obtain ⟨conn, user, spot, -, authenticated, -, link, held⟩ := owned.inSession id active
  have same : owner = ⟨conn, some user⟩ := Option.some.inj (owns.symm.trans authenticated)
  subst same
  exact ⟨rfl, spot, link, held⟩

theorem ChannelsOwned.withoutSession {after : GenericServer} {later : ServerSessionTable}
    {sid : UInt16} (row : ∀ id, (after.channels id).active = true →
      (srv.channels id).active = true ∧
        (after.channels id).transport = (srv.channels id).transport ∧
        (after.channels id).assignedAddress = (srv.channels id).assignedAddress ∧
        (after.channels id).sessionId = (srv.channels id).sessionId)
    (connections : after.connections = srv.connections) (present : after.sessions = some later)
    (numbered : later.Numbered)
    (others : ∀ other owner, other ≠ sid → table.ownerOf other = some owner →
      later.ownerOf other = some owner)
    (gone : ∀ id, (after.channels id).active = true → (srv.channels id).sessionId ≠ sid) :
    after.ChannelsOwned later := by
  refine owned.shrink row present numbered ?_
  intro id active conn user spot owner link held
  refine ⟨others _ _ (gone id active) owner, ?_⟩
  rwa [sessionLink, findConnection, connections]

theorem ChannelsOwned.serveSessionFrame {spot : Nat}
    {sid : UInt16} {owner : SessionOwner} (pkt : Octets) (peer : TransportPeer)
    (owns : table.ownerOf sid = some owner) (opened : owner.connection = conn)
    (link : srv.sessionLink conn sid = some spot) :
    (srv.serveSessionFrame world conn spot sid pkt peer).1.Owned := by
  have handled : (srv.handleReceived world pkt
      ⟨.link conn spot, peer, sid⟩).1.Owned := by
    rcases srv.handleReceived_stream world pkt
        (show (Origin.mk (.link conn spot) peer sid).transport.streamOriented = true
          from rfl) with keeps | ⟨req, keeps⟩
    · exact owned.keeps keeps
    · exact (owned.offerTo world req owns opened link).keeps keeps
  unfold GenericServer.serveSessionFrame
  split <;> rename_i outcome <;> rwa [outcome] at handled

/-- A frame in a session never leaves a channel behind whose session has ended. -/
theorem ChannelsOwned.acceptWrapper
    (found : srv.findConnection state.connection = some state) (wrap : Secure.WrapperFrame)
    (peer : TransportPeer) : (srv.acceptWrapper world state table wrap peer).1.Owned := by
  unfold GenericServer.acceptWrapper
  split
  · rename_i after why failed
    exact ⟨after, owned.withSessions (ServerSessionTable.openFrame_error failed)⟩
  rename_i after opened done
  obtain ⟨sess, known, connected, closes, persists, refused, tunnelled⟩ :=
    ServerSessionTable.openFrame_opened done
  have owns : table.ownerOf opened.sessionId = some sess.owner := by
    rw [ServerSessionTable.ownerOf, known]
    rfl
  have located : srv.sessionLink state.connection opened.sessionId =
      state.links.findIdx? (fun link => link == opened.sessionId) := by
    rw [sessionLink, found]
    rfl
  have held : ∀ id, (srv.channels id).active = true →
      (srv.channels id).sessionId = opened.sessionId → ∃ spot,
        state.links.findIdx? (fun link => link == opened.sessionId) = some spot ∧
          (srv.channels id).transport = some (.link state.connection spot) := by
    intro id active same
    obtain ⟨-, spot, link, carried⟩ := owned.row_link active (same ▸ owns)
    rw [show sess.owner.connection = state.connection from connected] at link carried
    exact ⟨spot, by rw [← located, ← same, link], carried⟩
  split
  · rename_i missing
    by_cases closed : opened.kind = .closed
    · obtain ⟨numbered, others⟩ := closes closed
      refine ⟨after, owned.withoutSession (fun id active => ⟨active, rfl, rfl, rfl⟩) rfl rfl
        (numbered owned.numbered) others (fun id active same => ?_)⟩
      obtain ⟨spot, link, -⟩ := held id active same
      rw [missing] at link
      cases link
    · exact ⟨after, owned.withSessions (persists closed)⟩
  rename_i spot link
  split <;> rename_i kind
  · have served := owned.withSessions (persists (by rw [kind]; decide))
    obtain ⟨user, authenticated⟩ := Option.isSome_iff_exists.mp (tunnelled kind)
    have still := (persists (by rw [kind]; decide)).owner
        (by rw [owns, Secure.SessionEntry.owner, authenticated])
    exact served.serveSessionFrame world opened.plain peer still connected (located.trans link)
  · have kept := persists (by rw [kind]; decide)
    exact ⟨_, owned.withSessions (kept.trans (ServerSessionTable.sealStatus_persists _ _ _ _ _))⟩
  · have kept := (persists (by rw [kind]; decide)).trans
      (ServerSessionTable.sealStatus_persists world.backend state.connection
        opened.sessionId .authenticationFailed maxDatagramSize)
    refine ⟨_, (owned.withSessions kept).withoutSession
      (fun id active => ⟨active, rfl, rfl, rfl⟩) rfl rfl
      ((kept.numbered owned.numbered).close opened.sessionId)
      (fun other owner different => ServerSessionTable.close_owner different)
      (fun id active same => ?_)⟩
    have authenticated := (owned.row_link active (same ▸ owns)).1
    rw [show sess.owner.user = none from refused kind] at authenticated
    cases authenticated
  · obtain ⟨numbered, others⟩ := closes kind
    have keeps : Keeps (srv.withSessions after)
        ((srv.withSessions after).releaseChannelsOf (.link state.connection spot)) :=
      releaseWhere_keeps _ _
    refine ⟨after, owned.withoutSession keeps.row rfl rfl (numbered owned.numbered) others
      (fun id active same => ?_)⟩
    have was := (keeps.row id active).1
    obtain ⟨place, placed, carried⟩ := held id was same
    have samePlace : spot = place := Option.some.inj (link.symm.trans placed)
    exact releaseChannelsOf_left (owned.ne_zero was) active (samePlace ▸ carried)
  · exact ⟨after, owned.withSessions (persists (by rw [kind]; decide))⟩

end

theorem refusesInClear_secured (present : srv.sessions = some table)
    (transport : ServerTransport) (peer : TransportPeer) :
    srv.refusesInClear ⟨transport, peer, 0⟩ = true := by
  simp [refusesInClear, secured, present]

section

variable (owned : srv.ChannelsOwned table) (world : Conditions)
  (found : srv.findConnection state.connection = some state)

include owned world found

theorem ChannelsOwned.routeSecureFrame (pkt : Octets) (peer : TransportPeer) :
    (srv.routeSecureFrame world state table pkt peer).1.Owned := by
  unfold GenericServer.routeSecureFrame
  split
  · exact ⟨table, owned⟩
  split
  · exact owned.answerSessionRequest world state _ peer
  · exact owned.acceptWrapper world found _ peer
  · exact owned.keeps (srv.dispatch_inClear world _
      (refusesInClear_secured owned.present _ peer)).keeps

theorem ChannelsOwned.serveReceived (received : Expected (Octets × TransportPeer)) :
    (srv.serveReceived world state table received).1.Owned := by
  have present : srv.Owned := ⟨table, owned⟩
  unfold GenericServer.serveReceived
  split
  · split
    · exact present
    · exact present.finish state.connection
  · rename_i pkt peer
    split
    · exact present.finish state.connection
    have routed := owned.routeSecureFrame world found pkt peer
    dsimp only
    split
    · exact routed
    · exact routed.finish state.connection

end

/-! ## Runs -/

theorem Owned.step (owned : srv.Owned) (event : SecureEvent) : (srv.step event).Owned := by
  obtain ⟨table, present⟩ := owned
  have owned : srv.Owned := ⟨table, present⟩
  cases event with
  | connect conn world => exact ⟨table, present.takeOn world conn⟩
  | pass conn world stopRequested =>
    dsimp only [GenericServer.step]
    split
    · exact owned
    · exact owned.servePass world _ stopRequested
  | receive conn world received =>
    dsimp only [GenericServer.step]
    split
    · rename_i state other found sessions
      rw [present.present] at sessions
      cases sessions
      exact present.serveReceived world (findConnection_named found ▸ found) received
    · exact owned
  | datagram world pkt peer =>
    exact present.keeps (srv.handleReceived_inClear world pkt
      (refusesInClear_secured present.present _ peer)).keeps
  | poll world => exact owned.poll world
  | send world chan cemiBytes =>
    exact present.keeps (srv.send_keeps world chan cemiBytes)
  | disconnect chan => exact present.keeps (srv.disconnect_keeps chan)
  | shutdown | reset =>
    exact present.keeps
      ⟨(srv.releaseWhere_keeps (fun _ => true)).row, rfl, (keeps_refl srv).sessions⟩

theorem run_owned (config : ServerConfig) (hasSocket : Bool)
    (configuration : Secure.ServerConfiguration) (events : List SecureEvent) :
    (run GenericServer.step (create config hasSocket (some configuration)) events).Owned :=
  invariant_run (fun _ event owned _ => owned.step event)
    ⟨{ configuration := configuration }, rfl,
      Secure.ServerSessionTable.numbered_initially configuration, nofun, nofun, rfl⟩
    (admissible_of_events (fun _ _ => trivial : ∀ event ∈ events, True))

end Connections

end GenericServer

end KmxAio.Knx
