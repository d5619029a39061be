import KmxAio.Knx.Secure.ClientSession
import KmxAio.Lib.Sequenced
import KmxAio.Lib.Run

/-!
# Runs of a client session

A history is a client session with every wrapper it produced, every frame it
handed to the tunnel and every session key it took into use. Read through its
counters it is a party that numbers messages under keys used once: each call of
the session is a few steps of that party.
-/

namespace KmxAio.Knx.Secure

open Lib.Wire Lib.Sequenced Connection Function

def wireSequence (pkt : Octets) : Nat :=
  match decodeWrapperPacket pkt with
  | .error _ => 0
  | .ok wrap => decodeSequence wrap.sequence

/-- A frame handed to the tunnel, with the key and the wrapper it came in. -/
structure Handed where
  key : SecretKey
  wrapper : WrapperFrame
  plain : Octets
  deriving DecidableEq

def Produced.numbered (produced : Produced) : Numbered SecretKey Octets :=
  ⟨produced.key, wireSequence produced.packet, produced.plainFrame⟩

def Handed.numbered (handed : Handed) : Numbered SecretKey Octets :=
  ⟨handed.key, decodeSequence handed.wrapper.sequence, handed.plain⟩

theorem wireSequence_sealed {backend : CryptoBackend} {room num : Nat} {key : SecretKey}
    {fields : WrapperFields} {plainFrame pkt : Octets} (small : num ≤ maxSequence)
    (numbered : fields.sequence = encodeSequence num)
    (succeeded : sealWrapper backend room key fields plainFrame = .ok pkt) :
    wireSequence pkt = num := by
  obtain ⟨wrap, -⟩ := sealWrapper_ok succeeded
  rw [wireSequence, decodeWrapperPacket_sealed wrap]
  show decodeSequence fields.sequence = num
  rw [numbered]
  exact decodeSequence_encodeSequence small

namespace ClientSession

variable (sess : ClientSession)

def Live : Prop :=
  sess.phase = .authenticating ∨ sess.phase = .established

instance (sess : ClientSession) : Decidable sess.Live :=
  inferInstanceAs (Decidable (_ ∨ _))

def window (key : SecretKey) : Option Window :=
  if sess.Live ∧ sess.sessionKey = key then
    some ⟨sess.nextSequence, sess.lastReceivedSequence⟩
  else none

/-- Outside a session there is no key, and both counters stand at their start. -/
def Cleared : Prop :=
  ¬ sess.Live → secretEmpty sess.sessionKey = true ∧ sess.nextSequence = 0 ∧
    sess.lastReceivedSequence = none

variable {sess}

theorem window_live (live : sess.Live) :
    sess.window sess.sessionKey = some ⟨sess.nextSequence, sess.lastReceivedSequence⟩ := by
  simp [window, live]

theorem window_of_not_live (idle : ¬ sess.Live) (key : SecretKey) :
    sess.window key = none := by
  simp [window, idle]

theorem close_not_live (sess : ClientSession) : ¬ sess.close.Live := by
  rintro (impossible | impossible) <;> cases impossible

theorem close_cleared (sess : ClientSession) : sess.close.Cleared := by
  intro _
  by_cases known : sess.established <;> simp [close, known, forget] <;> decide

/-! ## What each call does to key and counters -/

/-- The fields a session's window is read from are unchanged. -/
structure SameSession (before after : ClientSession) : Prop where
  phase : after.phase = before.phase
  sessionKey : after.sessionKey = before.sessionKey
  nextSequence : after.nextSequence = before.nextSequence
  lastReceivedSequence : after.lastReceivedSequence = before.lastReceivedSequence

theorem SameSession.window {before after : ClientSession} (same : SameSession before after) :
    after.window = before.window := by
  have live : after.Live ↔ before.Live := by simp [Live, same.phase]
  funext found
  simp only [ClientSession.window, live, same.sessionKey, same.nextSequence,
    same.lastReceivedSequence]

theorem SameSession.cleared {before after : ClientSession} (same : SameSession before after)
    (cleared : before.Cleared) : after.Cleared := by
  intro idle
  have idleBefore : ¬ before.Live := by
    intro live
    exact idle (by simpa [Live, same.phase] using live)
  rw [same.sessionKey, same.nextSequence, same.lastReceivedSequence]
  exact cleared idleBefore

def OnlyCounted (before after : ClientSession) : Prop :=
  ∃ counter, after = { before with counters := before.counters.count counter }

def Holds (sess : ClientSession) (backend : CryptoBackend) (wrap : WrapperFrame) (room : Nat)
    (plain : Octets) : Prop :=
  secretEmpty sess.sessionKey = false ∧ wrap.sessionId = sess.sessionId ∧
    openWrapper backend room sess.sessionKey wrap = .ok plain

variable (backend : CryptoBackend)

section

variable (sess : ClientSession)

theorem sealFrame_cases (plainFrame : Octets) (room : Nat) (nowMs : UInt64) :
    (∃ why, sess.sealFrame backend plainFrame room nowMs = (sess, .error why)) ∨
      ∃ pkt, sess.nextSequence ≤ maxSequence ∧
        wireSequence pkt = sess.nextSequence ∧
        sess.sealFrame backend plainFrame room nowMs =
          ({ sess with nextSequence := sess.nextSequence + 1, lastSentMs := nowMs },
            .ok ⟨pkt, sess.sessionKey, plainFrame⟩) := by
  unfold sealFrame
  split
  · exact .inl ⟨_, rfl⟩
  rename_i small
  split
  · exact .inl ⟨_, rfl⟩
  rename_i pkt succeeded
  exact .inr ⟨pkt, Nat.not_lt.mp small,
    wireSequence_sealed (Nat.not_lt.mp small) rfl succeeded, rfl⟩

theorem sealStatus_eq (status : SessionStatus) (room : Nat) (nowMs : UInt64) :
    ∃ plain, sess.sealStatus backend status room nowMs = sess.sealFrame backend plain room nowMs :=
  ⟨_, rfl⟩

variable (wrap : WrapperFrame) (resp : SessionResponseFrame) (room : Nat)
  (nowMs : UInt64)

theorem onSessionResponse_cases :
    (∃ why, sess.onSessionResponse backend resp room nowMs =
        (sess, .error why)) ∨
      (∃ closing why, sess.onSessionResponse backend resp room nowMs =
        (close closing, .error why)) ∨
      ∃ key adopted pkt plain,
        sess.phase = .requested ∧
        deriveSessionKey backend sess.keyPair.privateKey resp.serverPublicKey = .ok key ∧
        sess.nextSequence ≤ maxSequence ∧ wireSequence pkt = sess.nextSequence ∧
        sess.onSessionResponse backend resp room nowMs = (adopted, .ok ⟨pkt, key, plain⟩) ∧
        adopted.phase = .authenticating ∧ adopted.sessionKey = key ∧
        adopted.nextSequence = sess.nextSequence + 1 ∧
        adopted.lastReceivedSequence = sess.lastReceivedSequence := by
  unfold onSessionResponse
  split
  · exact .inl ⟨_, rfl⟩
  rename_i requested
  obtain ⟨same, pair⟩ : SameSession sess (sess.verifyResponse backend resp).1 ∧ (sess.verifyResponse
      backend resp).1.keyPair = sess.keyPair := by
    unfold verifyResponse
    split
    · exact ⟨⟨rfl, rfl, rfl, rfl⟩, rfl⟩
    split
    · exact ⟨⟨rfl, rfl, rfl, rfl⟩, rfl⟩
    · split
      · exact ⟨⟨rfl, rfl, rfl, rfl⟩, rfl⟩
      · split <;> exact ⟨⟨rfl, rfl, rfl, rfl⟩, rfl⟩
  split
  · exact .inr (.inl ⟨_, _, rfl⟩)
  rename_i verified _ verification
  rw [verification] at same pair
  cases attempt : verified.authenticate backend resp room nowMs with
  | mk attempted verdict =>
  cases verdict with
  | error why => exact .inr (.inl ⟨attempted, why, rfl⟩)
  | ok produced =>
    unfold authenticate at attempt
    split at attempt
    · cases attempt
    rename_i key derived
    dsimp only at attempt
    split at attempt
    · cases attempt
    split at attempt
    · cases attempt
    rename_i plain _
    rcases sealFrame_cases backend
      { verified with
        sessionKey := key
        sessionId := resp.sessionId
        keyPair := { verified.keyPair with privateKey := clearedSecret 32 } }
      plain room nowMs with ⟨why, failed⟩ | ⟨pkt, small, num, sealed⟩
    · cases failed.symm.trans attempt
    · cases sealed.symm.trans attempt
      rw [pair] at derived
      rw [← same.nextSequence, ← same.lastReceivedSequence]
      exact .inr (.inr ⟨key, _, pkt, plain, not_not.mp requested, derived, small, num, rfl, rfl,
        rfl, rfl, rfl⟩)

theorem apply_cases (plain : Octets) (live : sess.Live) :
    (∃ why, sess.apply plain = (sess.close, .error why)) ∨
      ∃ after result, sess.apply plain = (after, result) ∧ after.Live ∧
        after.sessionKey = sess.sessionKey ∧ after.nextSequence = sess.nextSequence ∧
        after.lastReceivedSequence = sess.lastReceivedSequence ∧
        ∀ frame, result = .ok frame → frame.plain = plain ∧
          (frame.forTunnel = true → sess.established = true ∧
            ∃ why, decodeSessionStatusPacket plain = .error why) := by
  unfold apply
  split
  · rename_i why notStatus
    split
    · rename_i known
      refine .inr ⟨sess, _, rfl, live, rfl, rfl, rfl, ?_⟩
      rintro frame ⟨rfl⟩
      exact ⟨rfl, fun _ => ⟨known, why, notStatus⟩⟩
    · exact .inr ⟨sess.noteRefusedService, _, rfl, live, rfl, rfl, rfl, nofun⟩
  · split
    · split
      · exact .inl ⟨_, rfl⟩
      · refine .inr ⟨_, _, rfl, .inr rfl, rfl, rfl, rfl, ?_⟩
        rintro frame ⟨rfl⟩
        exact ⟨rfl, nofun⟩
    · split
      · exact .inl ⟨_, rfl⟩
      · refine .inr ⟨sess, _, rfl, live, rfl, rfl, rfl, ?_⟩
        rintro frame ⟨rfl⟩
        exact ⟨rfl, nofun⟩

/-- A wrapper is refused by the MAC, the sequence number or its service and only counted, or the
library fails, or its frame is judged by the phase. -/
theorem openFrame_stages :
    (∃ after why, sess.openFrame backend wrap room nowMs = (after, .error why) ∧
        SameSession sess after ∧ (sess.OnlyCounted after ∨ after = sess ∧
          CompositionFailure why ∧ ∀ plain, ¬ sess.Holds backend wrap room plain)) ∨
      ∃ plain header, sess.Holds backend wrap room plain ∧
        (∀ last ∈ sess.lastReceivedSequence, last < decodeSequence wrap.sequence) ∧
        checkWrappedFrame plain = .ok header ∧
        sess.openFrame backend wrap room nowMs =
          { sess with
            lastReceivedSequence := some (decodeSequence wrap.sequence)
            lastReceivedMs := nowMs }.apply plain := by
  unfold openFrame authenticateWrapper
  by_cases foreign : secretEmpty sess.sessionKey ∨ wrap.sessionId ≠ sess.sessionId
  · simp only [if_pos foreign]
    exact .inl ⟨_, _, rfl, ⟨rfl, rfl, rfl, rfl⟩, .inl ⟨.authenticationFailures, rfl⟩⟩
  obtain ⟨keyed, named⟩ := not_or.mp foreign
  simp only [if_neg foreign]
  cases opened : openWrapper backend room sess.sessionKey wrap with
  | error why =>
    have unheld : ∀ plain, ¬ sess.Holds backend wrap room plain := by
      rintro plain ⟨-, -, held⟩
      rw [opened] at held
      cases held
    rcases openWrapper_fails _ _ _ _ why opened with failed | rfl
    · simp only [if_neg failed.ne_authentication]
      exact .inl ⟨sess, why, rfl, ⟨rfl, rfl, rfl, rfl⟩, .inr ⟨rfl, failed, unheld⟩⟩
    · exact .inl ⟨_, _, rfl, ⟨rfl, rfl, rfl, rfl⟩, .inl ⟨.authenticationFailures, rfl⟩⟩
  | ok plain =>
    unfold admitWrapper
    by_cases stale : ∃ last ∈ sess.lastReceivedSequence, decodeSequence wrap.sequence ≤ last
    · simp only [if_pos stale]
      exact .inl ⟨_, _, rfl, ⟨rfl, rfl, rfl, rfl⟩, .inl ⟨.replays, rfl⟩⟩
    simp only [if_neg stale]
    cases checked : checkWrappedFrame plain with
    | error why => exact .inl ⟨_, _, rfl, ⟨rfl, rfl, rfl, rfl⟩, .inl ⟨.refusedServices, rfl⟩⟩
    | ok header =>
      refine .inr ⟨plain, header, ⟨Bool.eq_false_iff.mpr keyed, not_not.mp named, opened⟩,
        fun last known => ?_, checked, rfl⟩
      exact Nat.lt_of_not_le fun behind => stale ⟨last, known, behind⟩

theorem forget_secretEmpty : secretEmpty sess.forget.sessionKey = true := by
  change secretEmpty (clearedSecret 16) = true
  decide

end

/-- A call that leaves key and counters alone, or leaves no session behind. -/
def Harmless (before after : ClientSession) : Prop :=
  SameSession before after ∨ ¬ after.Live ∧ after.Cleared

theorem harmless_close (before sess : ClientSession) : Harmless before sess.close :=
  .inr ⟨close_not_live sess, close_cleared sess⟩

theorem begin_harmless (sess : ClientSession) (generated : Expected X25519KeyPair)
    (room : Nat) (controlEndpoint : Hpai) (nowMs : UInt64) :
    Harmless sess (sess.begin generated room controlEndpoint nowMs).1 := by
  unfold begin
  repeat' split
  all_goals first
    | exact .inl ⟨rfl, rfl, rfl, rfl⟩
    | skip
  refine .inr ⟨?_, fun _ => ⟨forget_secretEmpty sess, rfl, rfl⟩⟩
  rintro (impossible | impossible) <;> cases impossible

theorem onUnwrappedStatus_harmless (sess : ClientSession) (status : SessionStatus) :
    Harmless sess (sess.onUnwrappedStatus status).1 := by
  unfold onUnwrappedStatus
  split
  · exact .inl ⟨rfl, rfl, rfl, rfl⟩
  · exact harmless_close sess sess

theorem checkTimeout_harmless (sess : ClientSession) (nowMs : UInt64) :
    Harmless sess (sess.checkTimeout nowMs).1 := by
  unfold checkTimeout
  dsimp only
  split
  · exact .inl ⟨rfl, rfl, rfl, rfl⟩
  · refine .inr ⟨?_, fun _ => ⟨forget_secretEmpty sess, rfl, rfl⟩⟩
    rintro (impossible | impossible) <;> cases impossible

theorem window_eq_update (live : sess.Live) :
    sess.window = update (fun _ => none) sess.sessionKey
      (some ⟨sess.nextSequence, sess.lastReceivedSequence⟩) := by
  funext key
  by_cases same : key = sess.sessionKey
  · subst same
    rw [update_self, window_live live]
  · rw [update_of_ne same, window, if_neg]
    exact fun holds => same holds.2.symm

theorem live_of_keyed (cleared : sess.Cleared) (keyed : secretEmpty sess.sessionKey = false) :
    sess.Live := by
  by_contra idle
  rw [(cleared idle).1] at keyed
  cases keyed

end ClientSession

open ClientSession

/-! ## Histories -/

/-- A client session with what it has done since it was created. -/
structure ClientHistory where
  session : ClientSession
  keys : List SecretKey := []
  produced : List Produced := []
  handed : List Handed := []

namespace ClientHistory

def initial (credentials : TunnellingCredentials) : ClientHistory :=
  { session := { credentials := credentials } }

variable (hist : ClientHistory) (event : ClientEvent)

def record (after : ClientSession) : Outcome → ClientHistory
  | .quiet => { hist with session := after }
  | .produced wrap =>
    { hist with
      session := after
      keys :=
        match event with
        | .onSessionResponse .. => wrap.key :: hist.keys
        | _ => hist.keys
      produced := hist.produced ++ [wrap] }
  | .opened frame =>
    { hist with
      session := after
      handed :=
        match event with
        | .openFrame _ wrap _ _ =>
          if frame.forTunnel then
            hist.handed ++ [⟨hist.session.sessionKey, wrap, frame.plain⟩]
          else hist.handed
        | _ => hist.handed }

def step : ClientHistory :=
  hist.record event (hist.session.step event).1 (hist.session.step event).2

/-- The session key the key pair of a session yields with the server key of a response. -/
def offeredBy : ClientEvent → List SecretKey
  | .onSessionResponse backend resp _ _ =>
    match deriveSessionKey backend hist.session.keyPair.privateKey
        resp.serverPublicKey with
    | .ok key => [key]
    | .error _ => []
  | _ => []

def FreshKey : Prop :=
  ∀ key ∈ hist.offeredBy event, key ∉ hist.keys

/-- Decided over the list: keys are a finite type too, and far too many to go through. -/
def decidableFresh (offered used : List SecretKey) : Decidable (∀ key ∈ offered, key ∉ used) :=
  List.decidableBAll (fun key => key ∉ used) offered

instance (hist : ClientHistory) (event : ClientEvent) : Decidable (hist.FreshKey event) :=
  decidableFresh (hist.offeredBy event) hist.keys

def party : Party SecretKey Octets where
  window := hist.session.window
  used := hist.keys
  sent := hist.produced.map Produced.numbered
  delivered := hist.handed.map Handed.numbered

variable {hist} {after : ClientSession} {nowMs : UInt64}

theorem steps_close (idle : ¬ after.Live) :
    Steps maxSequence hist.party ({ hist with session := after } : ClientHistory).party :=
  .single (.forget _ (fun key => .inl (window_of_not_live idle key)))

theorem steps_seal {pkt plain : Octets} (live : hist.session.Live)
    (small : hist.session.nextSequence ≤ maxSequence)
    (num : wireSequence pkt = hist.session.nextSequence) :
    Steps maxSequence hist.party
      ({ hist with
        session :=
          { hist.session with
            nextSequence := hist.session.nextSequence + 1
            lastSentMs := nowMs }
        produced := hist.produced ++ [⟨pkt, hist.session.sessionKey, plain⟩] } :
        ClientHistory).party := by
  have step : Step maxSequence hist.party _ :=
    .send plain (window_live live) small
  refine .single ?_
  convert step using 1
  simp only [party, List.map_append, List.map_cons, List.map_nil, Produced.numbered, num]
  congr 1
  rw [window_eq_update live, update_idem]
  exact window_eq_update live

/-- What a call means for the party: some steps of it, and a session that is cleared outside a
session. -/
structure Refines (hist : ClientHistory) (event : ClientEvent) : Prop where
  steps : Steps maxSequence hist.party (hist.step event).party
  cleared : (hist.step event).session.Cleared

theorem refines_quiet {event : ClientEvent} (stepEq : hist.session.step event = (after, .quiet))
    (cleared : hist.session.Cleared) (harmless : Harmless hist.session after) :
    hist.Refines event := by
  have result : hist.step event = { hist with session := after } := by
    simp [step, stepEq, record]
  rcases harmless with same | ⟨idle, clearedAfter⟩
  · have kept : ({ hist with session := after } : ClientHistory).party = hist.party := by
      simp only [party, same.window]
    exact ⟨by rw [result, kept], by rw [result]; exact same.cleared cleared⟩
  · exact ⟨by rw [result]; exact steps_close idle, by rw [result]; exact clearedAfter⟩

theorem refines_sealFrame {event : ClientEvent} {backend : CryptoBackend} {plain : Octets}
    {room : Nat} (stepEq : hist.session.step event =
      (hist.session.sealFrame backend plain room nowMs).map id Outcome.ofProduced)
    (other : ∀ after wrap, (hist.record event after (.produced wrap)).keys = hist.keys)
    (live : hist.session.Live) (cleared : hist.session.Cleared) : hist.Refines event := by
  rcases sealFrame_cases backend hist.session plain room nowMs with
    ⟨why, failed⟩ | ⟨pkt, small, num, sealed⟩
  · rw [failed] at stepEq
    exact refines_quiet stepEq cleared (.inl ⟨rfl, rfl, rfl, rfl⟩)
  · rw [sealed] at stepEq
    have result : hist.step event =
        { hist with
          session :=
            { hist.session with
              nextSequence := hist.session.nextSequence + 1
              lastSentMs := nowMs }
          produced := hist.produced ++ [⟨pkt, hist.session.sessionKey, plain⟩] } := by
      have keys := other (hist.session.step event).1 ⟨pkt, hist.session.sessionKey, plain⟩
      simp only [step, stepEq, Prod.map, Outcome.ofProduced, id] at keys ⊢
      simp only [record] at keys ⊢
      rw [keys]
    constructor
    · rw [result]
      exact steps_seal live small num
    · rw [result]
      exact fun idle => absurd live idle

/-- A call that seals a frame in an established session, and refuses otherwise. -/
theorem refines_sealEstablished {event : ClientEvent} {backend : CryptoBackend} {plain : Octets}
    {room : Nat} {why : ErrorCode} (stepEq : hist.session.step event =
      (if hist.session.phase ≠ .established then (hist.session, .error why)
        else hist.session.sealFrame backend plain room nowMs).map id Outcome.ofProduced)
    (other : ∀ after wrap, (hist.record event after (.produced wrap)).keys = hist.keys)
    (cleared : hist.session.Cleared) : hist.Refines event := by
  by_cases established : hist.session.phase = .established
  · rw [if_neg (not_not.mpr established)] at stepEq
    exact refines_sealFrame stepEq other (.inr established) cleared
  · rw [if_pos established] at stepEq
    exact refines_quiet stepEq cleared (.inl ⟨rfl, rfl, rfl, rfl⟩)

variable (backend : CryptoBackend)

theorem refines_prepareClose (room : Nat) (nowMs : UInt64) (cleared : hist.session.Cleared) :
    hist.Refines (.prepareClose backend room nowMs) := by
  by_cases empty : secretEmpty hist.session.sessionKey = true
  · have refused : hist.session.step (.prepareClose backend room nowMs) =
        (hist.session, .quiet) := by
      simp [ClientSession.step, ClientSession.prepareClose, empty, Prod.map, refuse,
        Outcome.ofProduced]
    exact refines_quiet refused cleared (.inl ⟨rfl, rfl, rfl, rfl⟩)
  · have live := ClientSession.live_of_keyed cleared (by simpa using empty)
    obtain ⟨plain, statusEq⟩ :=
      sealStatus_eq backend hist.session .close room nowMs
    have closing : hist.session.step (.prepareClose backend room nowMs) =
        ((hist.session.sealFrame backend plain room nowMs).1.close,
          Outcome.ofProduced (hist.session.sealFrame backend plain room nowMs).2) := by
      simp [ClientSession.step, ClientSession.prepareClose, empty, statusEq, Prod.map]
    rcases ClientSession.sealFrame_cases backend hist.session plain room nowMs with
      ⟨why, failed⟩ | ⟨pkt, small, num, sealed⟩
    · rw [failed] at closing
      exact refines_quiet closing cleared
        (ClientSession.harmless_close _ _)
    · rw [sealed] at closing
      constructor
      · refine (@steps_seal hist nowMs pkt plain live small num).trans ?_
        simp only [step, closing, Outcome.ofProduced, record]
        exact steps_close (close_not_live _)
      · simp only [step, closing, Outcome.ofProduced, record]
        exact close_cleared _

theorem refines_onSessionResponse (resp : SessionResponseFrame) (room : Nat)
    (nowMs : UInt64) (cleared : hist.session.Cleared)
    (fresh : hist.FreshKey (.onSessionResponse backend resp room nowMs)) :
    hist.Refines (.onSessionResponse backend resp room nowMs) := by
  rcases onSessionResponse_cases backend hist.session resp room nowMs with
    ⟨why, unchanged⟩ | ⟨closing, why, closed⟩ |
    ⟨key, adopted, pkt, plain, requested, derived, small, num, succeeded, phase, keyEq, next, last⟩
  · exact refines_quiet (by simp [ClientSession.step, unchanged, Prod.map, Outcome.ofProduced])
      cleared (.inl ⟨rfl, rfl, rfl, rfl⟩)
  · exact refines_quiet (by simp [ClientSession.step, closed, Prod.map, Outcome.ofProduced]; rfl)
      cleared (ClientSession.harmless_close _ _)
  · have idle : ¬ hist.session.Live := by
      rintro (impossible | impossible) <;> rw [requested] at impossible <;> cases impossible
    obtain ⟨-, atStart, nothingTaken⟩ := cleared idle
    have live : adopted.Live := .inl phase
    have result : hist.step (.onSessionResponse backend resp room nowMs) =
        { hist with
          session := adopted
          keys := key :: hist.keys
          produced := hist.produced ++ [⟨pkt, key, plain⟩] } := by
      simp [step, ClientSession.step, succeeded, Prod.map, Outcome.ofProduced, record]
    rw [atStart] at num next
    rw [nothingTaken] at last
    refine ⟨?_, by rw [result]; exact fun notLive => absurd live notLive⟩
    have unused : key ∉ hist.keys := fresh key (by simp [offeredBy, derived])
    have adopt : Step maxSequence hist.party _ := .adopt key unused
    have send : Step maxSequence
        { hist.party with
          window := update hist.party.window key (some ⟨0, none⟩)
          used := key :: hist.party.used } _ :=
      .send plain (update_self ..) (Nat.zero_le _)
    refine (Relation.ReflTransGen.single adopt).tail ?_
    convert send using 1
    rw [result]
    simp only [party, List.map_append, List.map_cons, List.map_nil, Produced.numbered, num]
    congr 1
    rw [update_idem, window_eq_update live, keyEq, next, last]
    congr 1
    funext other
    exact (window_of_not_live idle other).symm

def handedBy (hist : ClientHistory) (wrap : WrapperFrame) : Expected OpenedFrame → List Handed
  | .error _ => []
  | .ok frame =>
    if frame.forTunnel then [⟨hist.session.sessionKey, wrap, frame.plain⟩] else []

theorem step_openFrame {backend : CryptoBackend} {wrap : WrapperFrame} {room : Nat}
    {result : Expected OpenedFrame}
    (opened : hist.session.openFrame backend wrap room nowMs = (after, result)) :
    hist.step (.openFrame backend wrap room nowMs) =
      { hist with
        session := after
        handed := hist.handed ++ hist.handedBy wrap result } := by
  cases result with
  | error why =>
    simp [step, ClientSession.step, opened, Prod.map, Outcome.ofOpened, record, handedBy]
  | ok frame =>
    cases tunnel : frame.forTunnel <;>
      simp [step, ClientSession.step, opened, Prod.map, Outcome.ofOpened, record, handedBy, tunnel]

theorem refines_openFrame (wrap : WrapperFrame) (room : Nat) (nowMs : UInt64)
    (cleared : hist.session.Cleared) :
    hist.Refines (.openFrame backend wrap room nowMs) := by
  rcases ClientSession.openFrame_stages backend hist.session wrap room nowMs with
    ⟨refused, why, verdict, same, -⟩ | ⟨plain, -, ⟨keyed, -⟩, forward, -, applied⟩
  · exact refines_quiet (by simp [ClientSession.step, verdict, Prod.map, Outcome.ofOpened])
      cleared (.inl same)
  · have live := ClientSession.live_of_keyed cleared keyed
    rcases ClientSession.apply_cases
      { hist.session with
        lastReceivedSequence := some (decodeSequence wrap.sequence)
        lastReceivedMs := nowMs } plain live with
      ⟨why, ended⟩ | ⟨after, result, outcome, liveAfter, key, next, last, onSuccess⟩
    · rw [ended] at applied
      exact refines_quiet (by simp [ClientSession.step, applied, Prod.map, Outcome.ofOpened]; rfl)
        cleared (ClientSession.harmless_close _ _)
    · rw [outcome] at applied
      have recorded : (hist.handedBy wrap result).map Handed.numbered =
          (((hist.handedBy wrap result).head?.map Handed.plain).map (fun plain =>
            ⟨hist.session.sessionKey, decodeSequence wrap.sequence, plain⟩)).toList := by
        cases result with
        | error why => rfl
        | ok frame =>
          by_cases tunnel : frame.forTunnel <;> simp [handedBy, tunnel, Handed.numbered]
      constructor
      · rw [step_openFrame applied]
        have take : Step maxSequence hist.party _ :=
          .take _ ((hist.handedBy wrap result).head?.map Handed.plain) (window_live live) forward
        refine .single ?_
        convert take using 1
        simp only [party, List.map_append, recorded]
        rw [window_eq_update live, update_idem, window_eq_update liveAfter, key, next, last]
      · rw [step_openFrame applied]
        exact fun idle => absurd liveAfter idle

theorem step_refines (hist : ClientHistory) (event : ClientEvent)
    (cleared : hist.session.Cleared) (fresh : hist.FreshKey event) :
    hist.Refines event := by
  cases event with
  | begin generated room controlEndpoint nowMs =>
    exact refines_quiet rfl cleared (begin_harmless ..)
  | onSessionResponse backend resp room nowMs =>
    exact refines_onSessionResponse backend resp room nowMs cleared fresh
  | onUnwrappedStatus status =>
    exact refines_quiet rfl cleared (onUnwrappedStatus_harmless ..)
  | openFrame backend wrap room nowMs =>
    exact refines_openFrame backend wrap room nowMs cleared
  | sealTunnel backend plainFrame room nowMs =>
    exact refines_sealEstablished rfl (fun _ _ => rfl) cleared
  | prepareKeepAlive backend room nowMs =>
    exact refines_sealEstablished rfl (fun _ _ => rfl) cleared
  | prepareClose backend room nowMs => exact refines_prepareClose backend room nowMs cleared
  | checkTimeout nowMs =>
    exact refines_quiet rfl cleared (checkTimeout_harmless ..)
  | noteUnauthenticated | noteUnencrypted =>
    exact refines_quiet rfl cleared (.inl ⟨rfl, rfl, rfl, rfl⟩)
  | close =>
    exact refines_quiet rfl cleared
      (harmless_close _ _)

structure Sound (hist : ClientHistory) : Prop where
  consistent : hist.party.Consistent maxSequence
  cleared : hist.session.Cleared

theorem initial_sound (credentials : TunnellingCredentials) : (initial credentials).Sound where
  consistent := by
    exact consistent_initial maxSequence
  cleared := fun _ => ⟨by change secretEmpty (zeroArray 16) = true; decide, rfl, rfl⟩

theorem step_sound (hist : ClientHistory) (event : ClientEvent) (sound : hist.Sound)
    (fresh : hist.FreshKey event) : (hist.step event).Sound := by
  have refined := hist.step_refines event sound.cleared fresh
  exact ⟨steps_consistent sound.consistent refined.steps, refined.cleared⟩

end ClientHistory

end KmxAio.Knx.Secure
