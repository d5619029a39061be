import KmxAio.Knx.ServerSends

/-!
# The steps of a server

Between the stages of a handler the server serves others. So it takes its steps one
at a time, and each step rewrites single rows of the table.
-/

namespace KmxAio.Knx

open Lib.Run Lib.Wire Knx.Frame Connection

/-- A step of the server: a datagram handled up to its answer, a handler that goes on after it, the
number of a send taken and the send done, and the calls that release channels. -/
inductive ServerAction where
  | receive (value : Datagram) (origin : Origin)
  | resume (remaining : Remaining) (origin : Origin)
  | claim (channelId : UInt8)
  | sent (channelId : UInt8)
  | poll
  | disconnect (channelId : UInt8)
  | closeConnection (transport : ServerTransport)
  | shutdown
  | reset

namespace GenericServer

variable (srv : GenericServer)

def act (world : Conditions) : ServerAction → GenericServer
  | .receive val origin => (srv.beginHandling world val origin).1
  | .resume remaining origin => (srv.finishHandling world remaining origin).1
  | .claim chan => (srv.claimSequence chan).1
  | .sent chan => srv.noteActivity world chan
  | .poll => (srv.poll world).1
  | .disconnect chan => (srv.disconnect chan).1
  | .closeConnection transport => srv.releaseChannelsOf transport
  | .shutdown => srv.shutdown
  | .reset => srv.reset

/-- Where a sequence of steps leads, each with the conditions it was taken under. -/
def actAll (steps : List (Conditions × ServerAction)) : GenericServer :=
  Lib.Run.run (fun srv step => srv.act step.1 step.2) srv steps

/-- Whether a step is activity on a channel: it opens it, a request on it is answered, or a frame is
sent on it. -/
def activityOn (world : Conditions) (id : UInt8) : ServerAction → Bool
  | .receive val origin =>
    !(srv.channels id).active &&
        ((srv.beginHandling world val origin).1.channels id).active ||
      (srv.beginHandling world val origin).2.endsOn id && srv.channelOpen id
  | .resume (.note event) _ => event.channelId == id && srv.channelOpen id
  | .sent chan => chan == id && srv.channelOpen id
  | _ => false

/-- The row of a channel that has just been given out: the slot was free, and on a plain server the
address is the one of the slot. -/
structure Opened (srv : GenericServer) (world : Conditions) (id : UInt8) (value : Channel) :
    Prop where
  within : srv.withinLimit id
  free : (srv.channels id).active = false
  active : value.active = true
  fresh : value.lastActivityMs = world.nowMs
  address : srv.sessions = none → value.assignedAddress = srv.assignedAddress id

/-- What a step makes of one row of the table, and whether it is activity on the channel. -/
inductive RowChange (srv : GenericServer) (world : Conditions) (id : UInt8) :
    Bool → Channel → Prop where
  | kept : RowChange srv world id false (srv.channels id)
  | released : RowChange srv world id false {}
  | claimed (opened : srv.channelOpen id = true) :
      RowChange srv world id false
        { srv.channels id with sequence := (srv.channels id).sequence + 1 }
  | received (opened : srv.channelOpen id = true) (sequence : UInt8) :
      RowChange srv world id false
        { srv.channels id with
          incomingSequenceValid := true
          lastIncomingSequence := sequence
          nextIncomingSequence := sequence + 1 }
  | noted (opened : srv.channelOpen id = true) :
      RowChange srv world id true
        { srv.channels id with lastActivityMs := world.nowMs }
  | opened (value : Channel) (opened : srv.Opened world id value) :
      RowChange srv world id true value

section Rows

variable {srv} {world : Conditions} {id : UInt8}

theorem channels_setChannel (srv : GenericServer) (chan : UInt8) (val : Channel) :
    (srv.setChannel chan val).channels id = if id = chan then val else srv.channels id := by
  simp [setChannel, Function.update_apply]

theorem RowChange.of_row {val : Channel} (row : val = {} ∨ val = srv.channels id) :
    srv.RowChange world id false val := by
  rcases row with rfl | rfl
  · exact .released
  · exact .kept

variable (chan : UInt8) {origin : Origin}
  (requested : Option IndividualAddress) (dataPeer : TransportPeer) (dataEndpoint : Hpai)
  (req : ConnectRequestFrame)

theorem RowChange.of_noteActivity : srv.RowChange world id (chan == id && srv.channelOpen id)
      ((srv.noteActivity world chan).channels id) := by
  unfold noteActivity
  by_cases same : chan = id
  · subst same
    cases opened : srv.channelOpen chan with
    | false => simpa [opened] using RowChange.kept
    | true => simpa [opened, channels_setChannel] using RowChange.noted opened
  · have other : ¬ id = chan := fun equal => same equal.symm
    rw [beq_false_of_ne same, Bool.false_and]
    split_ifs
    · rw [channels_setChannel, if_neg other]
      exact .kept
    · exact .kept

/-! ### Opening a channel -/

/-- A step that gives out free slots and touches no other row. -/
def Opens (srv : GenericServer) (world : Conditions) (after : GenericServer) : Prop :=
  ∀ id, after.channels id = srv.channels id ∨ srv.Opened world id (after.channels id)

theorem opens_of_same {after : GenericServer} (same : after.channels = srv.channels) :
    srv.Opens world after :=
  fun id => .inl (congrFun same id)

theorem opens_setChannel {val : Channel} (opened : srv.Opened world id val) :
    srv.Opens world (srv.setChannel id val) := by
  intro other
  rw [channels_setChannel]
  by_cases same : other = id
  · subst same
    rw [if_pos rfl]
    exact .inr opened
  · rw [if_neg same]
    exact .inl rfl

theorem offerChannel_opens :
    srv.Opens world (srv.offerChannel world origin requested dataPeer dataEndpoint).1 := by
  unfold offerChannel
  cases allocated : srv.allocateChannel requested with
  | error status => exact opens_of_same rfl
  | ok chan =>
    obtain ⟨within, free⟩ := allocateChannel_free allocated
    exact opens_setChannel ⟨within, free, rfl, rfl, fun _ => rfl⟩

theorem offerTo_opens (origin : Origin) :
    srv.Opens world (srv.offerTo world req origin).1 := by
  unfold offerTo
  split
  · unfold offerSecureChannel
    dsimp only
    cases permitted : srv.permittedAddress
        ((srv.sessions.map (·.tunnelAddresses origin.sessionId)).getD []) req.requestedAddress with
    | error status => exact opens_of_same rfl
    | ok address =>
      cases allocated : srv.allocateChannel none with
      | error status => exact opens_of_same rfl
      | ok chan =>
        obtain ⟨within, free⟩ := allocateChannel_free allocated
        refine opens_setChannel ⟨within, free, rfl, rfl, fun plain => ?_⟩
        rw [plain] at permitted
        unfold permittedAddress at permitted
        cases asked : req.requestedAddress <;> simp [asked] at permitted
  · exact offerChannel_opens _ _ _

/-- The rows a handler leaves when it comes to its send, or to its end. -/
def Begins (srv : GenericServer) (world : Conditions)
    (begun : GenericServer × HandlerStage) : Prop :=
  ∀ id, srv.RowChange world id
    (!(srv.channels id).active && (begun.1.channels id).active ||
      begun.2.endsOn id && srv.channelOpen id) (begun.1.channels id)

theorem begins_of_opens {begun : GenericServer × HandlerStage}
    (opens : srv.Opens world begun.1) (unended : ∀ id, begun.2.endsOn id = false) :
    srv.Begins world begun := by
  intro id
  rw [unended, Bool.false_and, Bool.or_false]
  rcases opens id with same | opened
  · rw [same, Bool.not_and_self]
    exact .kept
  · rw [opened.free, opened.active]
    exact .opened _ opened

theorem awaiting_endsOn (encoded : Expected Octets) (remaining : Remaining) (id : UInt8) :
    (HandlerStage.awaiting encoded remaining).endsOn id = false := by
  cases encoded <;> rfl

theorem OnlyReports.endsOn {stage : HandlerStage} (reports : OnlyReports stage) (id : UInt8) :
    stage.endsOn id = false := by
  cases stage with
  | sending pkt remaining => rfl
  | ended result =>
    cases result with
    | error why => rfl
    | ok event => exact absurd rfl (reports event)

theorem noteActivity_active :
    ((srv.noteActivity world chan).channels id).active = (srv.channels id).active := by
  unfold noteActivity
  split_ifs
  · rw [channels_setChannel]
    split_ifs with same
    · rw [same]
    · rfl
  · rfl

theorem ComesTo.begins {dataEndpoint : Bool} {begun : GenericServer × HandlerStage}
    (comes : srv.ComesTo world origin dataEndpoint begun) : srv.Begins world begun := by
  cases comes with
  | reported reports => exact begins_of_opens (opens_of_same rfl) reports.endsOn
  | counted reports => exact begins_of_opens (opens_of_same rfl) reports.endsOn
  | offered inside req reports => exact begins_of_opens (offerTo_opens req origin) reports.endsOn
  | offeredIpv6 inside datagrams dataPeer reports =>
    exact begins_of_opens (offerChannel_opens _ _ _) reports.endsOn
  | answering inside holds encoded =>
    exact begins_of_opens (opens_of_same rfl) (awaiting_endsOn _ _)
  | leaving inside control chan encoded =>
    exact begins_of_opens (opens_of_same rfl) (awaiting_endsOn _ _)
  | @noted inside event holds =>
    intro id
    rw [noteActivity_active, Bool.not_and_self, Bool.false_or]
    exact .of_noteActivity event.channelId
  | @received inside event holds seq encoded =>
    intro id
    rw [awaiting_endsOn, Bool.false_and, Bool.or_false, channels_setChannel]
    by_cases same : id = event.channelId
    · subst same
      rw [if_pos rfl, Bool.not_and_self]
      exact .received (Bool.and_eq_true_iff.mp holds).1 seq
    · rw [if_neg same, Bool.not_and_self]
      exact .kept

/-! ### The other steps -/

theorem act_row (srv : GenericServer) (world : Conditions) (action : ServerAction)
    (id : UInt8) : srv.RowChange world id (srv.activityOn world id action)
      ((srv.act world action).channels id) := by
  cases action with
  | receive val origin => exact (srv.beginHandling_comesTo world val origin).begins id
  | resume remaining origin =>
    cases remaining with
    | report result => exact .kept
    | note event => exact .of_noteActivity event.channelId
    | release chan =>
      dsimp only [act, finishHandling, releaseChannel, activityOn]
      split_ifs with held zero
      · exact .kept
      · rw [channels_setChannel]
        split_ifs with same
        · exact .released
        · exact .kept
      · exact .kept
  | claim chan =>
    dsimp only [act, claimSequence, activityOn]
    split_ifs with closed
    · exact .kept
    rw [channels_setChannel]
    split_ifs with same
    · subst same
      exact .claimed (by simpa using closed)
    · exact .kept
  | sent chan => exact .of_noteActivity chan
  | poll => exact .of_row (srv.poll_row world id)
  | disconnect chan =>
    refine .of_row ?_
    dsimp only [act, disconnect, releaseChannel]
    split_ifs with closed zero
    · exact .inr rfl
    · exact .inr rfl
    rw [channels_setChannel]
    split_ifs
    · exact .inl rfl
    · exact .inr rfl
  | closeConnection transport =>
    exact .of_row (srv.releaseWhere_row (fun val => val.transport == some transport) id)
  | shutdown =>
    exact .of_row (releaseWhere_row { srv with stopped := true } (fun _ => true) id)
  | reset => exact .of_row (srv.releaseWhere_row (fun _ => true) id)

/-! ### What no step changes -/

/-- The configuration of a server, and that it is a plain one, are there to stay. -/
structure SameSetup (before after : GenericServer) : Prop where
  config : after.config = before.config
  plain : before.sessions = none → after.sessions = none

theorem sameSetup_refl (srv : GenericServer) : SameSetup srv srv := ⟨rfl, id⟩

theorem SameSetup.trans {before between after : GenericServer} (first : SameSetup before between)
    (second : SameSetup between after) : SameSetup before after :=
  ⟨second.config.trans first.config, fun plain => second.plain (first.plain plain)⟩

theorem noteActivity_setup : SameSetup srv (srv.noteActivity world chan) := by
  unfold noteActivity
  split_ifs <;> exact ⟨rfl, id⟩

theorem offerChannel_setup :
    SameSetup srv (srv.offerChannel world origin requested dataPeer dataEndpoint).1 := by
  unfold offerChannel
  cases srv.allocateChannel requested <;> exact ⟨rfl, id⟩

theorem ComesTo.setup {dataEndpoint : Bool} {begun : GenericServer × HandlerStage}
    (comes : srv.ComesTo world origin dataEndpoint begun) : SameSetup srv begun.1 := by
  cases comes with
  | reported reports => exact sameSetup_refl srv
  | counted reports => exact ⟨rfl, fun plain => by simp [noteUnencrypted, plain]⟩
  | offered inside req reports =>
    unfold offerTo
    split
    · unfold offerSecureChannel
      dsimp only
      cases srv.permittedAddress
          ((srv.sessions.map (·.tunnelAddresses origin.sessionId)).getD [])
          req.requestedAddress with
      | error status => exact ⟨rfl, id⟩
      | ok address =>
        cases srv.allocateChannel none <;> exact ⟨rfl, id⟩
    · exact offerChannel_setup _ _ _
  | offeredIpv6 inside datagrams dataPeer reports => exact offerChannel_setup _ _ _
  | answering inside holds encoded => exact sameSetup_refl srv
  | leaving inside control chan encoded => exact sameSetup_refl srv
  | noted inside holds => exact noteActivity_setup _
  | received inside holds seq encoded => exact ⟨rfl, id⟩

theorem releaseChannel_setup : SameSetup srv (srv.releaseChannel chan) := by
  unfold releaseChannel
  split_ifs <;> exact ⟨rfl, id⟩

theorem reapSessions_setup : SameSetup srv (srv.reapSessions world) := by
  unfold reapSessions
  cases sessions : srv.sessions with
  | none => exact sameSetup_refl srv
  | some table =>
    have secure : ¬srv.sessions = none := by simp [sessions]
    dsimp only
    split_ifs <;> exact ⟨rfl, fun plain => absurd plain secure⟩

theorem act_setup (srv : GenericServer) (world : Conditions) (action : ServerAction) :
    SameSetup srv (srv.act world action) := by
  cases action with
  | receive val origin => exact (srv.beginHandling_comesTo world val origin).setup
  | resume remaining origin =>
    cases remaining with
    | report result => exact sameSetup_refl srv
    | note event => exact noteActivity_setup event.channelId
    | release chan =>
      dsimp only [act, finishHandling]
      split_ifs
      · exact releaseChannel_setup chan
      · exact sameSetup_refl srv
  | claim chan =>
    dsimp only [act, claimSequence]
    split_ifs <;> exact ⟨rfl, id⟩
  | sent chan => exact noteActivity_setup chan
  | poll =>
    dsimp only [act, poll]
    split_ifs with stopped timeless
    · exact sameSetup_refl srv
    · exact reapSessions_setup
    · exact SameSetup.trans reapSessions_setup ⟨rfl, id⟩
  | disconnect chan =>
    dsimp only [act, disconnect]
    split_ifs
    · exact sameSetup_refl srv
    · exact releaseChannel_setup chan
  | closeConnection transport | shutdown | reset => exact ⟨rfl, id⟩

end Rows

end GenericServer

end KmxAio.Knx
