import KmxAio.Knx.Secure.SessionOwners
import KmxAio.Knx.ServerStages
import KmxAio.Knx.Unreadable

/-!
# The channels of a secure server

A send changes counters only, a request on a channel opens none, and what arrives in
the clear changes no channel.
-/

namespace KmxAio.Knx

open Lib.Run Lib.Wire Knx.Frame Connection
open KmxAio.Knx.Secure (ServerSessionTable SessionOwner)
open KmxAio.Knx.Secure.ServerSessionTable (Persists Numbered)

namespace GenericServer

/-! ## What a handler leaves alone -/

/-- The channels and the connections are as they were, and no authenticated session has gone. -/
structure SameChannels (before after : GenericServer) : Prop where
  channels : after.channels = before.channels
  connections : after.connections = before.connections
  sessions : ∀ table, before.sessions = some table →
    ∃ later, after.sessions = some later ∧ Persists table later

/-- No channel is opened or given away, though some may be released. -/
structure Keeps (before after : GenericServer) : Prop where
  row : ∀ id, (after.channels id).active = true →
    (before.channels id).active = true ∧
      (after.channels id).transport = (before.channels id).transport ∧
      (after.channels id).assignedAddress = (before.channels id).assignedAddress ∧
      (after.channels id).sessionId = (before.channels id).sessionId
  connections : after.connections = before.connections
  sessions : ∀ table, before.sessions = some table →
    ∃ later, after.sessions = some later ∧ Persists table later

variable (srv : GenericServer)

theorem sameChannels_refl : SameChannels srv srv :=
  ⟨rfl, rfl, fun table present => ⟨table, present, .refl table⟩⟩

theorem SameChannels.keeps {before after : GenericServer} (same : SameChannels before after) :
    Keeps before after where
  row := fun id active => by
    rw [same.channels] at active ⊢
    exact ⟨active, rfl, rfl, rfl⟩
  connections := same.connections
  sessions := same.sessions

theorem keeps_refl : Keeps srv srv := (sameChannels_refl srv).keeps

theorem Keeps.trans {first second third : GenericServer} (left : Keeps first second)
    (right : Keeps second third) : Keeps first third where
  row := by
    intro id active
    obtain ⟨middle, transport, address, sess⟩ := right.row id active
    obtain ⟨before, transport', address', session'⟩ := left.row id middle
    exact ⟨before, transport.trans transport', address.trans address', sess.trans session'⟩
  connections := right.connections.trans left.connections
  sessions := by
    intro table present
    obtain ⟨middle, found, persists⟩ := left.sessions table present
    obtain ⟨later, last, still⟩ := right.sessions middle found
    exact ⟨later, last, persists.trans still⟩

theorem SameChannels.trans {first second third : GenericServer} (left : SameChannels first second)
    (right : SameChannels second third) : SameChannels first third where
  channels := right.channels.trans left.channels
  connections := right.connections.trans left.connections
  sessions := (left.keeps.trans right.keeps).sessions

/-! ## Sending changes counters only -/

theorem sendDatagram_same (world : Conditions) (pkt : Octets) (transport : ServerTransport) :
    SameChannels srv (srv.sendDatagram world pkt transport).1 := by
  have sent : SameChannels srv (srv.transportSend world pkt transport).1 := by
    cases transport with
    | socket | connection id => exact sameChannels_refl srv
    | link connection spot =>
      dsimp only [transportSend]
      unfold sendOverLink
      split
      · rename_i table sid present _
        have persists := @ServerSessionTable.sealTunnel_persists table world.backend connection
          sid pkt maxDatagramSize
        split <;> rename_i returned <;> rw [returned] at persists <;>
          · refine ⟨rfl, rfl, fun other found => ⟨_, rfl, ?_⟩⟩
            rw [present] at found
            cases found
            exact persists
      · exact sameChannels_refl srv
  unfold sendDatagram
  split <;> rename_i returned <;> rwa [returned] at sent

theorem noteUnencrypted_same : SameChannels srv srv.noteUnencrypted := by
  refine ⟨rfl, rfl, fun table present => ⟨table.noteUnencrypted, ?_, ?_⟩⟩
  · simp [noteUnencrypted, present]
  · exact ServerSessionTable.persists_of_sessions rfl id

/-! ## Requests on a channel -/

theorem setChannel_keeps {srv : GenericServer} {chan : UInt8} {val : Channel}
    (row : val.active = true →
      (srv.channels chan).active = true ∧
        val.transport = (srv.channels chan).transport ∧
        val.assignedAddress = (srv.channels chan).assignedAddress ∧
        val.sessionId = (srv.channels chan).sessionId) :
    Keeps srv (srv.setChannel chan val) where
  row := by
    intro id active
    by_cases same : id = chan
    · subst same
      simp only [setChannel, Function.update_self] at active ⊢
      exact row active
    · simpa [setChannel, Function.update_of_ne same] using active
  connections := rfl
  sessions := (keeps_refl srv).sessions

section

variable (world : Conditions) (chan : UInt8)

theorem noteActivity_keeps : Keeps srv (srv.noteActivity world chan) := by
  unfold noteActivity
  split
  · exact setChannel_keeps (fun active => ⟨active, rfl, rfl, rfl⟩)
  · exact keeps_refl srv

theorem releaseChannel_keeps : Keeps srv (srv.releaseChannel chan) := by
  unfold releaseChannel
  split
  · exact keeps_refl srv
  · exact setChannel_keeps nofun

theorem releaseWhere_keeps (condition : Channel → Bool) :
    Keeps srv (srv.releaseWhere condition) where
  row := by
    intro id active
    unfold releaseWhere at active ⊢
    dsimp only at active ⊢
    split at active
    · cases active
    rename_i kept
    rw [if_neg kept]
    exact ⟨active, rfl, rfl, rfl⟩
  connections := rfl
  sessions := (keeps_refl srv).sessions

theorem claimSequence_keeps : Keeps srv (srv.claimSequence chan).1 := by
  unfold claimSequence
  split
  · exact keeps_refl srv
  · exact setChannel_keeps (fun active => ⟨active, rfl, rfl, rfl⟩)

theorem sendClaimed_keeps (cemiBytes : Octets) (transport : Option ServerTransport) (seq : UInt8) :
    Keeps srv (srv.sendClaimed world chan cemiBytes transport seq).1 := by
  unfold sendClaimed
  split
  · exact keeps_refl srv
  · exact keeps_refl srv
  rename_i pkt transport _
  have sent := srv.sendDatagram_same world pkt transport
  split <;> rename_i outcome <;> rw [outcome] at sent
  · exact sent.keeps
  · exact sent.keeps.trans (noteActivity_keeps _ world chan)

theorem send_keeps (cemiBytes : Octets) : Keeps srv (srv.send world chan cemiBytes).1 := by
  have claimed := srv.claimSequence_keeps chan
  unfold send
  split
  · exact keeps_refl srv
  split <;> rename_i outcome <;> rw [outcome] at claimed
  · exact claimed
  · exact claimed.trans (sendClaimed_keeps _ world chan cemiBytes _ _)

theorem disconnect_keeps : Keeps srv (srv.disconnect chan).1 := by
  unfold disconnect
  split
  · exact keeps_refl srv
  · exact srv.releaseChannel_keeps chan

end

/-! ## Datagrams -/

section Datagrams

variable (world : Conditions) {origin : Origin}

theorem proceed_keeps (stage : HandlerStage) (origin : Origin) :
    Keeps srv (srv.proceed world stage origin).1 := by
  cases stage with
  | ended result => exact keeps_refl srv
  | sending pkt remaining =>
    have sent := srv.sendDatagram_same world pkt origin.transport
    unfold proceed
    dsimp only
    split <;> rename_i returned <;> rw [returned] at sent
    · exact sent.keeps
    · refine sent.keeps.trans ?_
      cases remaining with
      | report result => exact keeps_refl _
      | note event => exact noteActivity_keeps _ world event.channelId
      | release chan =>
        dsimp only [finishHandling]
        split
        · exact releaseChannel_keeps _ chan
        · exact keeps_refl _

theorem proceed_same {stage : HandlerStage} (reports : OnlyReports stage) (origin : Origin) :
    SameChannels srv (srv.proceed world stage origin).1 := by
  cases stage with
  | ended result => exact sameChannels_refl srv
  | sending pkt remaining =>
    have sent := srv.sendDatagram_same world pkt origin.transport
    unfold proceed
    dsimp only
    cases remaining with
    | note event | release chan => exact reports.elim
    | report result => split <;> rename_i returned <;> rwa [returned] at sent

theorem dispatch_inClear (val : Datagram) (refused : srv.refusesInClear origin = true) :
    SameChannels srv (srv.dispatch world val origin).1 := by
  have comes := srv.beginHandling_comesTo world val origin
  unfold dispatch
  generalize srv.beginHandling world val origin = begun at comes ⊢
  cases comes with
  | reported reports => exact srv.proceed_same world reports origin
  | counted reports => exact srv.noteUnencrypted_same.trans (proceed_same _ world reports origin)
  | offered inside | offeredIpv6 inside | answering inside | leaving inside | noted inside
  | received inside =>
    rw [refused] at inside
    cases inside

theorem handleReceived_inClear (pkt : Octets) (refused : srv.refusesInClear origin = true) :
    SameChannels srv (srv.handleReceived world pkt origin).1 := by
  unfold handleReceived
  split
  · exact sameChannels_refl srv
  · exact srv.dispatch_inClear world _ refused

theorem handleReceived_stream (pkt : Octets) (stream : origin.transport.streamOriented = true) :
    Keeps srv (srv.handleReceived world pkt origin).1 ∨
      ∃ req, Keeps (srv.offerTo world req origin).1
        (srv.handleReceived world pkt origin).1 := by
  unfold handleReceived
  split
  · exact .inl (keeps_refl srv)
  rename_i val _
  have comes := srv.beginHandling_comesTo world val origin
  unfold dispatch
  generalize srv.beginHandling world val origin = begun at comes ⊢
  have proceeded := begun.1.proceed_keeps world begun.2 origin
  cases comes with
  | reported | answering | leaving => exact .inl proceeded
  | counted => exact .inl (srv.noteUnencrypted_same.keeps.trans proceeded)
  | offered inside req => exact .inr ⟨req, proceeded⟩
  | offeredIpv6 inside datagrams =>
    rw [stream] at datagrams
    cases datagrams
  | noted => exact .inl ((srv.noteActivity_keeps world _).trans proceeded)
  | received =>
    refine .inl (Keeps.trans ?_ proceeded)
    exact setChannel_keeps (fun active => ⟨active, rfl, rfl, rfl⟩)

end Datagrams

end GenericServer

end KmxAio.Knx
