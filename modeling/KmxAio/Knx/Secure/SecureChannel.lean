import KmxAio.Knx.Secure.Nonces

/-!
# A client and a server over a hostile network

One client session and one server's session table, with a network that may drop,
delay, reorder, repeat or inject anything. Encryption is ideal for the key in
question: what opens under it was sealed under it, by one of the two. Nothing in
a wrapper names its direction, so a wrapper may also come back to its sender.
-/

namespace KmxAio.Knx.Secure

open Lib.Wire Lib.Sequenced Lib.Run

/-! ## Where a produced wrapper comes from -/

/-- A wrapper that was sealed with the reference primitives, from the frame recorded beside it. -/
def Genuine (reference : CryptoBackend) (produced : Produced) : Prop :=
  ∃ backend fields, CryptoBackend.Computes backend reference ∧
    Nonempty (Sealed backend produced.key fields produced.plainFrame produced.packet)

variable {reference : CryptoBackend} {produced : Produced}

theorem genuine_of_sealWrapper {backend : CryptoBackend} {room : Nat}
    {key : SecretKey} {fields : WrapperFields} {plainFrame pkt : Octets}
    (computes : backend.Computes reference)
    (succeeded : sealWrapper backend room key fields plainFrame = .ok pkt) :
    Genuine reference ⟨pkt, key, plainFrame⟩ :=
  ⟨backend, fields, computes, (sealWrapper_ok succeeded).nonempty⟩

theorem Genuine.opened {opener : CryptoBackend} {wrap : WrapperFrame} {room : Nat} {plain : Octets}
    (genuine : Genuine reference produced) (computes : opener.Computes reference)
    (inverse : reference.CtrInverse) (decoded : decodeWrapperPacket produced.packet = .ok wrap)
    (opens : openWrapper opener room produced.key wrap = .ok plain) :
    plain = produced.plainFrame ∧
      (⟨produced.key, wrap, plain⟩ : Handed).numbered = produced.numbered := by
  obtain ⟨backend, fields, sealComputes, ⟨wrapped⟩⟩ := genuine
  have same : wrapped.frame = wrap := by
    have both := (decodeWrapperPacket_sealed wrapped).symm.trans decoded
    exact Except.ok.inj both
  subst same
  have plainEq := openWrapper_sealed sealComputes computes inverse wrapped opens
  refine ⟨plainEq, ?_⟩
  simp only [Handed.numbered, Produced.numbered, wireSequence, decoded, plainEq]

def ClientEvent.backend? : ClientEvent → Option CryptoBackend
  | .onSessionResponse backend _ _ _ => some backend
  | .openFrame backend _ _ _ => some backend
  | .sealTunnel backend _ _ _ => some backend
  | .prepareKeepAlive backend _ _ => some backend
  | .prepareClose backend _ _ => some backend
  | _ => none

def ServerEvent.backend? : ServerEvent → Option CryptoBackend
  | .onSessionRequest backend _ _ _ _ => some backend
  | .openFrame backend _ _ _ _ => some backend
  | .sealTunnel backend _ _ _ _ => some backend
  | .sealStatus backend _ _ _ _ => some backend
  | _ => none

namespace ClientSession

variable {backend reference : CryptoBackend} {sess after : ClientSession} {room : Nat}
  {nowMs : UInt64} {produced : Produced} {resp : SessionResponseFrame}

theorem sealFrame_genuine {plainFrame : Octets} (computes : backend.Computes reference)
    (sealed : sess.sealFrame backend plainFrame room nowMs = (after, .ok produced)) :
    Genuine reference produced := by
  unfold sealFrame at sealed
  split at sealed
  · cases sealed
  split at sealed
  · cases sealed
  · rename_i pkt succeeded
    cases sealed
    exact genuine_of_sealWrapper computes succeeded

theorem sealStatus_genuine {status : SessionStatus} (computes : backend.Computes reference)
    (sealed : sess.sealStatus backend status room nowMs = (after, .ok produced)) :
    Genuine reference produced := by
  obtain ⟨plain, statusEq⟩ := sealStatus_eq backend sess status room nowMs
  exact sealFrame_genuine computes (statusEq.symm.trans sealed)

theorem onSessionResponse_genuine (computes : backend.Computes reference)
    (sealed : sess.onSessionResponse backend resp room nowMs = (after, .ok produced)) :
    Genuine reference produced := by
  unfold onSessionResponse at sealed
  split at sealed
  · cases sealed
  split at sealed
  · cases sealed
  split at sealed
  · cases sealed
  rename_i authenticated
  cases sealed
  unfold authenticate at authenticated
  split at authenticated
  · cases authenticated
  split at authenticated
  · cases authenticated
  split at authenticated
  · cases authenticated
  exact sealFrame_genuine computes authenticated

theorem step_genuine {event : ClientEvent}
    (served : ∀ backend ∈ event.backend?, CryptoBackend.Computes backend reference)
    (outcome : (sess.step event).2 = .produced produced) : Genuine reference produced := by
  -- a call that only returns what it sealed
  have returned : ∀ result : ClientSession × Expected Produced,
      (result.map id Outcome.ofProduced).2 = .produced produced →
        ∃ after, result = (after, .ok produced) := by
    rintro ⟨after, why | wrap⟩ same
    · cases same
    · cases same
      exact ⟨after, rfl⟩
  cases event with
  | onSessionResponse backend resp room nowMs =>
    obtain ⟨after, sealed⟩ := returned _ outcome
    exact onSessionResponse_genuine (served backend rfl) sealed
  | sealTunnel backend plainFrame room nowMs =>
    obtain ⟨after, sealed⟩ :=
      returned (sess.sealTunnel backend plainFrame room nowMs) outcome
    unfold sealTunnel at sealed
    split at sealed
    · cases sealed
    · exact sealFrame_genuine (served backend rfl) sealed
  | prepareKeepAlive backend room nowMs =>
    obtain ⟨after, sealed⟩ := returned (sess.prepareKeepAlive backend room nowMs) outcome
    unfold prepareKeepAlive at sealed
    split at sealed
    · cases sealed
    · exact sealStatus_genuine (served backend rfl) sealed
  | prepareClose backend room nowMs =>
    obtain ⟨after, sealed⟩ := returned (sess.prepareClose backend room nowMs) outcome
    unfold prepareClose at sealed
    split at sealed
    · cases sealed
    have result := congrArg Prod.snd sealed
    have computes := served backend rfl
    exact @sealStatus_genuine backend reference sess _ room nowMs produced .close computes
      (Prod.ext rfl result)
  | openFrame backend wrap room nowMs =>
    dsimp only [step] at outcome
    generalize sess.openFrame backend wrap room nowMs = opened at outcome
    rcases opened with ⟨after, _ | _⟩ <;> cases outcome
  | begin | onUnwrappedStatus | checkTimeout | noteUnauthenticated | noteUnencrypted | close =>
    cases outcome

end ClientSession

theorem ServerSessionTable.step_genuine {table : ServerSessionTable} {event : ServerEvent}
    (served : ∀ backend ∈ event.backend?, CryptoBackend.Computes backend reference)
    (outcome : (table.step event).2 = .produced produced) : Genuine reference produced := by
  have returned : ∀ result : ServerSessionTable × Expected Produced,
      (result.map id (ServerOutcome.ofExpected .produced)).2 = .produced produced →
        ∃ after, result = (after, .ok produced) := by
    rintro ⟨after, why | wrap⟩ same
    · cases same
    · cases same
      exact ⟨after, rfl⟩
  cases event with
  | sealTunnel backend conn sid plainFrame room
  | sealStatus backend conn sid status room =>
    obtain ⟨after, sealed⟩ := returned _ outcome
    split at sealed
    · cases sealed
    split at sealed
    · cases sealed
    · split at sealed
      · cases sealed
      · rename_i pkt succeeded
        cases sealed
        exact genuine_of_sealWrapper (served backend rfl) succeeded
  | onSessionRequest backend generated origin req nowMs =>
    dsimp only [step] at outcome
    generalize table.onSessionRequest backend generated origin req nowMs = answered at outcome
    rcases answered with ⟨after, _ | _⟩ <;> cases outcome
  | openFrame backend origin wrap room nowMs =>
    dsimp only [step] at outcome
    generalize table.openFrame backend origin wrap room nowMs = opened at outcome
    rcases opened with ⟨after, _ | _⟩ <;> cases outcome
  | close | closeConnection | reap | noteUnencrypted => cases outcome

/-! ## Wrappers that arrive -/

/-- A frame that is a SESSION_STATUS belongs to the session and not to the tunnel. -/
def IsStatus (plain : Octets) : Prop :=
  (decodeSessionStatusPacket plain).isOk = true

instance (plain : Octets) : Decidable (IsStatus plain) :=
  inferInstanceAs (Decidable (_ = _))

/-- A wrapper given to the session it names: the session's key, the last number it took, and
whether it carries the tunnel yet. -/
structure Reception where
  backend : CryptoBackend
  capacity : Nat
  key : SecretKey
  last : Option Nat
  carriesTunnel : Bool
  wrapper : WrapperFrame

namespace Reception

variable (reception : Reception)

/-- The wrapper's number is above every number taken before. -/
def Forward : Prop :=
  ∀ last ∈ reception.last, last < decodeSequence reception.wrapper.sequence

/-- Ideal encryption: what opens under the key was sealed under it. -/
def Authentic (sealed : List Produced) : Prop :=
  (openWrapper reception.backend reception.capacity reception.key reception.wrapper).isOk = true →
    ∃ produced ∈ sealed, produced.key = reception.key ∧
      decodeWrapperPacket produced.packet = .ok reception.wrapper

/-- The receiver's own wrapper, come back while the session would still take its number, with a
frame that is the tunnel's. -/
def Reflected (own : List Produced) : Prop :=
  reception.carriesTunnel = true ∧ reception.Forward ∧
    ∃ produced ∈ own, produced.key = reception.key ∧
      decodeWrapperPacket produced.packet = .ok reception.wrapper ∧ ¬ IsStatus produced.plainFrame

instance (reception : Reception) : Decidable reception.Forward :=
  inferInstanceAs (Decidable (∀ last ∈ reception.last, _))

instance (reception : Reception) (sealed : List Produced) :
    Decidable (reception.Authentic sealed) :=
  inferInstanceAs (Decidable (_ = _ → _))

instance (reception : Reception) (own : List Produced) : Decidable (reception.Reflected own) :=
  inferInstanceAs (Decidable (_ ∧ _ ∧ _))

/-- What has to hold for the frame of a wrapper to reach the tunnel. -/
structure HandsOn (reception : Reception) (plain : Octets) : Prop where
  carriesTunnel : reception.carriesTunnel = true
  forward : reception.Forward
  opened : openWrapper reception.backend reception.capacity reception.key reception.wrapper =
    .ok plain
  tunnel : ¬ IsStatus plain

/-- With ideal encryption, what reaches the tunnel and is not the receiver's own was sealed by the
other party. -/
theorem HandsOn.sealed_by_other {reference : CryptoBackend} {reception : Reception}
    {plain : Octets} {own other : List Produced} (inverse : reference.CtrInverse)
    (served : reception.backend.Computes reference) (handsOn : reception.HandsOn plain)
    (ownGenuine : ∀ produced ∈ own, Genuine reference produced)
    (otherGenuine : ∀ produced ∈ other, Genuine reference produced)
    (authentic : reception.Authentic (own ++ other)) (notReflected : ¬ reception.Reflected own) :
    (⟨reception.key, reception.wrapper, plain⟩ : Handed).numbered ∈
      other.map Produced.numbered := by
  obtain ⟨produced, present, sameKey, decoded⟩ := authentic (by rw [handsOn.opened]; rfl)
  have opens := handsOn.opened
  rw [← sameKey] at opens ⊢
  rcases List.mem_append.mp present with mine | theirs
  · have plainEq := ((ownGenuine produced mine).opened served inverse decoded opens).1
    refine absurd ⟨handsOn.carriesTunnel, handsOn.forward, produced, mine, sameKey, decoded, ?_⟩
      notReflected
    rw [← plainEq]
    exact handsOn.tunnel
  · have numbered := ((otherGenuine produced theirs).opened served inverse decoded opens).2
    rw [numbered]
    exact List.mem_map_of_mem theirs

end Reception

theorem not_isStatus {plain : Octets} {why : ErrorCode}
    (failed : decodeSessionStatusPacket plain = .error why) : ¬ IsStatus plain := by
  simp [IsStatus, failed, Except.isOk, Except.toBool]

namespace ClientHistory

def reception (hist : ClientHistory) : ClientEvent → Option Reception
  | .openFrame backend wrap room _ =>
    some ⟨backend, room, hist.session.sessionKey, hist.session.lastReceivedSequence,
      hist.session.established, wrap⟩
  | _ => none

variable {hist : ClientHistory} {event : ClientEvent}

theorem step_produced {produced : Produced} (present : produced ∈ (hist.step event).produced) :
    produced ∈ hist.produced ∨ (hist.session.step event).2 = .produced produced := by
  unfold step at present
  cases outcome : (hist.session.step event).2 with
  | quiet | opened frame =>
    rw [outcome] at present
    exact .inl present
  | produced wrap =>
    rw [outcome] at present
    rcases List.mem_append.mp present with old | new
    · exact .inl old
    · rw [List.mem_singleton.mp new]
      exact .inr rfl

theorem produced_subset : hist.produced ⊆ (hist.step event).produced := by
  unfold step record
  split <;> simp

theorem openFrame_handed {backend : CryptoBackend} {wrap : WrapperFrame} {room : Nat}
    {nowMs : UInt64} {after : ClientSession} {verdict : Expected OpenedFrame} {handed : Handed}
    (cleared : hist.session.Cleared)
    (result : hist.session.openFrame backend wrap room nowMs = (after, verdict))
    (present : handed ∈ hist.handedBy wrap verdict) :
    Reception.HandsOn ⟨backend, room, hist.session.sessionKey,
        hist.session.lastReceivedSequence, hist.session.established, wrap⟩ handed.plain ∧
      handed = ⟨hist.session.sessionKey, wrap, handed.plain⟩ := by
  cases verdict with
  | error why => cases present
  | ok frame =>
    by_cases tunnel : frame.forTunnel = true
    · rw [handedBy, if_pos tunnel] at present
      have same := List.mem_singleton.mp present
      subst same
      refine ⟨?_, rfl⟩
      rcases ClientSession.openFrame_stages backend hist.session wrap room nowMs with
        ⟨refused, why, verdict, -⟩ | ⟨plain, -, ⟨keyed, -, opened⟩, forward, -, applied⟩
      · rw [verdict] at result
        cases result
      · have live := ClientSession.live_of_keyed cleared keyed
        rcases ClientSession.apply_cases
          { hist.session with
            lastReceivedSequence := some (decodeSequence wrap.sequence)
            lastReceivedMs := nowMs } plain live with
          ⟨why, ended⟩ | ⟨_, outcome, applies, -, -, -, -, onSuccess⟩
        · rw [applied, ended] at result
          cases result
        · rw [applied, applies] at result
          cases result
          obtain ⟨plainEq, forTunnel⟩ := onSuccess frame rfl
          obtain ⟨established, why, notStatus⟩ := forTunnel tunnel
          subst plainEq
          exact ⟨established, forward, opened, not_isStatus notStatus⟩
    · rw [handedBy, if_neg tunnel] at present
      cases present

theorem step_handed {handed : Handed} (cleared : hist.session.Cleared)
    (present : handed ∈ (hist.step event).handed) :
    handed ∈ hist.handed ∨
      ∃ reception, hist.reception event = some reception ∧ reception.HandsOn handed.plain ∧
        handed = ⟨reception.key, reception.wrapper, handed.plain⟩ := by
  cases event with
  | openFrame backend wrap room nowMs =>
    cases result : hist.session.openFrame backend wrap room nowMs with
    | mk after verdict =>
      rw [step_openFrame result] at present
      rcases List.mem_append.mp present with old | new
      · exact .inl old
      · exact .inr ⟨_, rfl, openFrame_handed cleared result new⟩
  | _ =>
    unfold step at present
    generalize (hist.session.step _).2 = outcome at present
    cases outcome <;> exact .inl present

end ClientHistory

namespace ServerHistory

def reception (hist : ServerHistory) : ServerEvent → Option Reception
  | .openFrame backend _ wrap room _ =>
    (hist.table.find wrap.sessionId).map (fun sess =>
      ⟨backend, room, sess.sessionKey, sess.lastReceivedSequence, sess.user.isSome, wrap⟩)
  | _ => none

variable {hist : ServerHistory} {event : ServerEvent}

theorem step_produced {produced : Produced} (present : produced ∈ (hist.step event).produced) :
    produced ∈ hist.produced ∨ (hist.table.step event).2 = .produced produced := by
  unfold step at present
  cases outcome : (hist.table.step event).2 with
  | produced wrap =>
    rw [outcome] at present
    rcases List.mem_append.mp present with old | new
    · exact .inl old
    · rw [List.mem_singleton.mp new]
      exact .inr rfl
  | _ =>
    rw [outcome] at present
    exact .inl present

theorem produced_subset : hist.produced ⊆ (hist.step event).produced := by
  unfold step record
  split <;> simp

theorem openFrame_handed {backend : CryptoBackend} {origin : ClientOrigin} {wrap : WrapperFrame}
    {room : Nat} {nowMs : UInt64} {after : ServerSessionTable}
    {verdict : Expected ServerOpenedFrame} {handed : Handed}
    (result : hist.table.openFrame backend origin wrap room nowMs = (after, verdict))
    (present : handed ∈ hist.handedBy wrap verdict) :
    ∃ reception, hist.reception (.openFrame backend origin wrap room nowMs) =
        some reception ∧ reception.HandsOn handed.plain ∧
      handed = ⟨reception.key, reception.wrapper, handed.plain⟩ := by
  rcases ServerSessionTable.openFrame_cases backend hist.table origin wrap room nowMs with
    ⟨refused, why, refusal, -⟩ |
    ⟨sess, plain, admitted, found, -, opened, forward, -, -, applied⟩
  · rw [refusal] at result
    cases result
    cases present
  · rw [applied] at result
    have judged := ServerSessionTable.apply_applied backend admitted sess plain
    rw [result] at judged
    cases judged with
    | tunnelled known notStatus =>
      simp only [handedBy, found, if_true] at present
      cases List.mem_singleton.mp present
      have received : hist.reception (.openFrame backend origin wrap room nowMs) =
          some ⟨backend, room, sess.sessionKey, sess.lastReceivedSequence,
            sess.user.isSome, wrap⟩ := by
        simp only [reception, found, Option.map_some]
      exact ⟨_, received, ⟨known, forward, opened, not_isStatus notStatus⟩, rfl⟩
    | refused => cases present
    | _ => simp [handedBy, found] at present

theorem step_handed {handed : Handed} (present : handed ∈ (hist.step event).handed) :
    handed ∈ hist.handed ∨
      ∃ reception, hist.reception event = some reception ∧ reception.HandsOn handed.plain ∧
        handed = ⟨reception.key, reception.wrapper, handed.plain⟩ := by
  cases event with
  | openFrame backend origin wrap room nowMs =>
    cases result : hist.table.openFrame backend origin wrap room nowMs with
    | mk after verdict =>
      rw [step_openFrame result] at present
      rcases List.mem_append.mp present with old | new
      · exact .inl old
      · exact .inr (openFrame_handed result new)
  | _ =>
    unfold step at present
    generalize (hist.table.step _).2 = outcome at present
    cases outcome <;> exact .inl present

end ServerHistory

/-! ## The channel -/

/-- A client and a server's table, each with what it has done. The network is in the events: it
gives either of them any wrapper at any time. -/
structure SecureChannel where
  client : ClientHistory
  server : ServerHistory

inductive ChannelEvent where
  | client (event : ClientEvent)
  | server (event : ServerEvent)

def ChannelEvent.backend? : ChannelEvent → Option CryptoBackend
  | .client event => event.backend?
  | .server event => event.backend?

namespace SecureChannel

def initial (credentials : TunnellingCredentials) (config : ServerConfiguration) :
    SecureChannel :=
  ⟨.initial credentials, .initial config⟩

variable (channel : SecureChannel)

def step : ChannelEvent → SecureChannel
  | .client event => { channel with client := channel.client.step event }
  | .server event => { channel with server := channel.server.step event }

def reception : ChannelEvent → Option Reception
  | .client event => channel.client.reception event
  | .server event => channel.server.reception event

def own : ChannelEvent → List Produced
  | .client _ => channel.client.produced
  | .server _ => channel.server.produced

def FreshKey : ChannelEvent → Prop
  | .client event => channel.client.FreshKey event
  | .server event => channel.server.FreshKey event

/-- Encryption under `key` is ideal, and no party takes a key into use twice. -/
structure Assumed (key : SecretKey) (channel : SecureChannel) (event : ChannelEvent) : Prop where
  freshKey : channel.FreshKey event
  authentic : ∀ reception ∈ channel.reception event, reception.key = key →
    reception.Authentic (channel.client.produced ++ channel.server.produced)

/-- The network gives a party its own wrapper back, at a moment when its number would be taken. -/
def Reflects (key : SecretKey) (channel : SecureChannel) (event : ChannelEvent) : Prop :=
  ∃ reception ∈ channel.reception event, reception.key = key ∧
    reception.Reflected (channel.own event)

/-- What one party handed on under `key` is what the other sealed under it: in order, each once. -/
structure Delivers (key : SecretKey) (handed : List Handed) (sealed : List Produced) : Prop where
  inOrder : (ofKey key (handed.map Handed.numbered)).Sublist
    (ofKey key (sealed.map Produced.numbered))
  once : ((ofKey key (handed.map Handed.numbered)).map Numbered.number).Nodup

structure Intact (key : SecretKey) (channel : SecureChannel) : Prop where
  toClient : Delivers key channel.client.handed channel.server.produced
  toServer : Delivers key channel.server.handed channel.client.produced

/-- What every run keeps: both histories are sound, every wrapper is genuine, and what was handed on
under the key was sealed by the other party. -/
structure Sound (reference : CryptoBackend) (key : SecretKey) (channel : SecureChannel) : Prop where
  client : channel.client.Sound
  server : channel.server.Sound
  clientGenuine : ∀ produced ∈ channel.client.produced, Genuine reference produced
  serverGenuine : ∀ produced ∈ channel.server.produced, Genuine reference produced
  toClient : ∀ handed ∈ channel.client.handed, handed.key = key →
    handed.numbered ∈ channel.server.produced.map Produced.numbered
  toServer : ∀ handed ∈ channel.server.handed, handed.key = key →
    handed.numbered ∈ channel.client.produced.map Produced.numbered

instance (channel : SecureChannel) : (event : ChannelEvent) → Decidable (channel.FreshKey event)
  | .client event => inferInstanceAs (Decidable (channel.client.FreshKey event))
  | .server event => inferInstanceAs (Decidable (channel.server.FreshKey event))

instance (key : SecretKey) (channel : SecureChannel) (event : ChannelEvent) :
    Decidable (channel.Assumed key event) :=
  decidable_of_iff (channel.FreshKey event ∧ ∀ reception ∈ channel.reception event,
      reception.key = key →
        reception.Authentic (channel.client.produced ++ channel.server.produced))
    ⟨fun both => ⟨both.1, both.2⟩, fun assumed => ⟨assumed.freshKey, assumed.authentic⟩⟩

instance (key : SecretKey) (channel : SecureChannel) (event : ChannelEvent) :
    Decidable (channel.Reflects key event) :=
  inferInstanceAs (Decidable (∃ reception ∈ channel.reception event, _))

/-- Every backend computes the reference primitives whenever it answers. -/
def Served (reference : CryptoBackend) (event : ChannelEvent) : Prop :=
  ∀ backend ∈ event.backend?, CryptoBackend.Computes backend reference

theorem initial_sound (reference : CryptoBackend) (key : SecretKey)
    (credentials : TunnellingCredentials) (config : ServerConfiguration) :
    (initial credentials config).Sound reference key where
  client := ClientHistory.initial_sound credentials
  server := ServerHistory.initial_sound config
  clientGenuine := by intro produced present; cases present
  serverGenuine := by intro produced present; cases present
  toClient := by intro handed present; cases present
  toServer := by intro handed present; cases present

variable {channel} {key : SecretKey}

theorem step_client_sound {event : ClientEvent} (inverse : reference.CtrInverse)
    (sound : channel.Sound reference key) (served : Served reference (.client event))
    (assumed : channel.Assumed key (.client event))
    (notReflected : ¬ channel.Reflects key (.client event)) :
    (channel.step (.client event)).Sound reference key where
  client := channel.client.step_sound event sound.client assumed.freshKey
  server := sound.server
  clientGenuine := by
    intro produced present
    rcases ClientHistory.step_produced present with old | new
    · exact sound.clientGenuine produced old
    · exact ClientSession.step_genuine served new
  serverGenuine := sound.serverGenuine
  toClient := by
    intro handed present underKey
    rcases ClientHistory.step_handed sound.client.cleared present with
      old | ⟨reception, received, handsOn, same⟩
    · exact sound.toClient handed old underKey
    · have sameKey : reception.key = key := by rw [← underKey, same]
      have computes : reception.backend.Computes reference := by
        cases event <;> cases received
        exact served _ rfl
      rw [same]
      exact handsOn.sealed_by_other inverse computes sound.clientGenuine sound.serverGenuine
        (assumed.authentic reception received sameKey)
        (fun reflected => notReflected ⟨reception, received, sameKey, reflected⟩)
  toServer := fun handed present underKey =>
    List.map_subset _ ClientHistory.produced_subset (sound.toServer handed present underKey)

theorem step_server_sound {event : ServerEvent} (inverse : reference.CtrInverse)
    (sound : channel.Sound reference key) (served : Served reference (.server event))
    (assumed : channel.Assumed key (.server event))
    (notReflected : ¬ channel.Reflects key (.server event)) :
    (channel.step (.server event)).Sound reference key where
  client := sound.client
  server := channel.server.step_sound event sound.server assumed.freshKey
  clientGenuine := sound.clientGenuine
  serverGenuine := by
    intro produced present
    rcases ServerHistory.step_produced present with old | new
    · exact sound.serverGenuine produced old
    · exact ServerSessionTable.step_genuine served new
  toClient := fun handed present underKey =>
    List.map_subset _ ServerHistory.produced_subset (sound.toClient handed present underKey)
  toServer := by
    intro handed present underKey
    rcases ServerHistory.step_handed present with old | ⟨reception, received, handsOn, same⟩
    · exact sound.toServer handed old underKey
    have computes : reception.backend.Computes reference := by
      cases event with
      | openFrame backend origin wrap room nowMs =>
        obtain ⟨sess, -, rfl⟩ := Option.map_eq_some_iff.mp received
        exact served backend rfl
      | _ => cases received
    have sameKey : reception.key = key := by rw [← underKey, same]
    rw [same]
    refine handsOn.sealed_by_other inverse computes sound.serverGenuine sound.clientGenuine ?_
      (fun reflected => notReflected ⟨reception, received, sameKey, reflected⟩)
    intro opened
    obtain ⟨produced, present, facts⟩ := assumed.authentic reception received sameKey opened
    exact ⟨produced, (List.perm_append_comm.mem_iff).mp present, facts⟩

theorem delivers_of_sealed {handed : List Handed} {sealed : List Produced}
    {receiver sender : Party SecretKey Octets} (receiving : receiver.Consistent maxSequence)
    (sending : sender.Consistent maxSequence)
    (delivered : receiver.delivered = handed.map Handed.numbered)
    (sent : sender.sent = sealed.map Produced.numbered)
    (fromSealed : ∀ entry ∈ handed, entry.key = key → entry.numbered ∈ sealed.map Produced.numbered) :
    Delivers key handed sealed := by
  have inOrder := delivered_sublist_sent receiving sending key (by
    intro msg present
    obtain ⟨member, sameKey⟩ := mem_ofKey.mp present
    rw [delivered] at member
    obtain ⟨entry, handedOn, rfl⟩ := List.mem_map.mp member
    rw [sent]
    exact fromSealed entry handedOn sameKey)
  have increasing := receiving.taken_increasing key
  rw [delivered] at inOrder increasing
  rw [sent] at inOrder
  refine ⟨inOrder, ?_⟩
  rw [List.Nodup, List.pairwise_map]
  exact increasing.imp (fun less => Nat.ne_of_lt less)

theorem Sound.intact (sound : channel.Sound reference key) : channel.Intact key where
  toClient := delivers_of_sealed sound.client.consistent sound.server.consistent rfl rfl
    sound.toClient
  toServer := delivers_of_sealed sound.server.consistent sound.client.consistent rfl rfl
    sound.toServer

end SecureChannel

open SecureChannel

/-- In every run in which no party is given its own wrapper back while it would take it, what each
party hands to the tunnel under a session key is what the other sealed under it, in order and each
once. -/
theorem tunnel_intact_without_reflection (reference : CryptoBackend)
    (inverse : reference.CtrInverse) (key : SecretKey) (credentials : TunnellingCredentials)
    (config : ServerConfiguration) (events : List ChannelEvent)
    (served : ∀ event ∈ events, Served reference event) (admissible : Admissible step
      (fun channel event => channel.Assumed key event ∧ ¬ channel.Reflects key event)
      (.initial credentials config) events) :
    (run step (.initial credentials config) events).Intact key := by
  suffices sound : (run step (.initial credentials config) events).Sound
      reference key from sound.intact
  refine invariant_run ?_ (initial_sound reference key credentials config)
    (admissible.and_events served)
  rintro channel (event | event) sound ⟨servedHere, assumed, notReflected⟩
  · exact step_client_sound inverse sound servedHere assumed notReflected
  · exact step_server_sound inverse sound servedHere assumed notReflected

/-- Calls of both sides of the recorded exchange, those of the client first. -/
def exchangeCalls (client : List ClientEvent) (server : List ServerEvent) : List ChannelEvent :=
  client.map .client ++ server.map .server

/-- The recorded exchange up to the client's first request. -/
def exchangeHandshake : List ChannelEvent :=
  exchangeCalls (exchangeClientEvents.take 1) (exchangeServerEvents.take 1) ++
    exchangeCalls ((exchangeClientEvents.drop 1).take 1) ((exchangeServerEvents.drop 1).take 2) ++
    exchangeCalls ((exchangeClientEvents.drop 2).take 2) []

/-- One frame each way after the handshake, with both wrappers given to the receivers twice. -/
def exchangeTraffic : List ChannelEvent :=
  exchangeHandshake ++ exchangeCalls [] (exchangeServerEvents.drop 3) ++
    exchangeCalls (exchangeClientEvents.drop 4)
      [.openFrame exchangeRecording.backend exchangeOrigin
        (wrapperOfPacket exchangeRequestPacket) 1472 5] ++
    [.client (.openFrame exchangeRecording.backend (wrapperOfPacket exchangeAckPacket) 1472 6)]

def exchangeReflection : List ChannelEvent :=
  exchangeHandshake ++
    [.client (.openFrame exchangeRecording.backend (wrapperOfPacket exchangeRequestPacket) 1472 4)]

theorem exchange_served {events : List ChannelEvent}
    (all : ∀ event ∈ events, event.backend? = none ∨
      event.backend? = some exchangeRecording.backend) :
    ∀ event ∈ events, Served exchangeRecording.backend event := by
  intro event present backend uses
  rcases all event present with none | some
  · rw [none] at uses
    cases uses
  · rw [some] at uses
    cases uses
    exact CryptoBackend.computes_refl _

/-- The recorded exchange with replays: each side hands on the other's frame once. -/
theorem tunnel_intact_without_reflection_exchange :
    ((run step (.initial exchangeCredentials exchangeConfiguration)
        exchangeTraffic).client.handed.map Handed.plain = [exchangeAck] ∧
      (run step (.initial exchangeCredentials exchangeConfiguration)
        exchangeTraffic).server.handed.map Handed.plain = [exchangeRequest]) ∧
      (run step (.initial exchangeCredentials exchangeConfiguration)
        exchangeTraffic).Intact exchangeKey :=
  ⟨by decide +kernel,
    tunnel_intact_without_reflection exchangeRecording.backend exchangeRecording.backend_ctrInverse
      exchangeKey exchangeCredentials exchangeConfiguration exchangeTraffic
      (exchange_served (by
        simp [exchangeTraffic, exchangeHandshake, exchangeCalls, exchangeClientEvents,
          exchangeServerEvents, ChannelEvent.backend?, ClientEvent.backend?,
          ServerEvent.backend?]))
      (by decide +kernel)⟩

/-- A wrapper reflected to its sender is handed to the sender's tunnel, although encryption is ideal
and the server never sealed that frame. -/
theorem reflected_request_handed_to_its_sender :
    (∀ event ∈ exchangeReflection, Served exchangeRecording.backend event) ∧
      Admissible step (Assumed exchangeKey)
        (.initial exchangeCredentials exchangeConfiguration) exchangeReflection ∧
      (run step (.initial exchangeCredentials exchangeConfiguration)
        exchangeReflection).client.handed.map Handed.plain = [exchangeRequest] ∧
      (run step (.initial exchangeCredentials exchangeConfiguration)
        exchangeReflection).server.produced.map Produced.plainFrame = [exchangeStatus] ∧
      ¬ (run step (.initial exchangeCredentials exchangeConfiguration)
        exchangeReflection).Intact exchangeKey := by
  refine ⟨exchange_served ?_, by decide +kernel, by decide +kernel, by decide +kernel, ?_⟩
  · simp [exchangeReflection, exchangeHandshake, exchangeCalls, exchangeClientEvents,
      exchangeServerEvents, ChannelEvent.backend?, ClientEvent.backend?, ServerEvent.backend?]
  · intro intact
    have inOrder := intact.toClient.inOrder
    revert inOrder
    decide +kernel

end KmxAio.Knx.Secure
