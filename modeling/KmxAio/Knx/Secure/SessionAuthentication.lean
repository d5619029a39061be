import KmxAio.Knx.Secure.SessionLife
import KmxAio.Knx.Secure.Nonces

/-!
# Authentication before the tunnel

Each session of a table goes back to the request that opened it, and its user to an
authentication that came in that session and verified. So a frame reaches the tunnel
only of an authenticated session, with a number above every one the session took
before, and a wrapper that is not the session's own leaves a failure count behind.
-/

namespace KmxAio.Knx.Secure

open Lib.Run Lib.Wire Function

namespace ServerSessionTable

def tableAfter (config : ServerConfiguration) (events : List ServerEvent) :
    ServerSessionTable :=
  run next { configuration := config } events

theorem tableAfter_concat (config : ServerConfiguration) (events : List ServerEvent)
    (event : ServerEvent) :
    tableAfter config (events ++ [event]) = (tableAfter config events).next event :=
  run_append ..

theorem tableAfter_numbered (config : ServerConfiguration) (events : List ServerEvent) :
    (tableAfter config events).Numbered :=
  invariant_run (fun _ event numbered _ => next_numbered numbered event)
    (numbered_initially config) (admissible_of_events (fun _ _ => trivial : ∀ event ∈ events, True))

def Holds (table : ServerSessionTable) (identity : SessionIdentity) : Prop :=
  ∃ entry ∈ table.sessions, entry.identity = identity

/-! ## Where a session comes from -/

/-- Among the calls one opened the session, which has been in the table ever since, and if it has a
user, a later one authenticated that user, who is configured. -/
structure Provenance (configuration : ServerConfiguration) (events : List ServerEvent)
    (identity : SessionIdentity) (user : Option TunnellingUser) : Prop where
  traced : ∃ before request rest, events = before ++ request :: rest ∧
    (∃ opened, OpensSession opened request ∧ opened.identity = identity) ∧
    (∀ part, part <+: rest →
      (tableAfter configuration (before ++ request :: part)).Holds identity) ∧
    ∀ known ∈ user, known ∈ configuration.users ∧
      ∃ middle authentication later, rest = middle ++ authentication :: later ∧
        Authenticates identity known authentication

variable {config : ServerConfiguration} {events : List ServerEvent} {event : ServerEvent}

theorem Provenance.opened {entry : SessionEntry} (opens : OpensSession entry event)
    (present : entry ∈ (tableAfter config (events ++ [event])).sessions) :
    Provenance config (events ++ [event]) entry.identity none := by
  refine ⟨events, event, [], rfl, ⟨entry, opens, rfl⟩, fun part early => ?_, nofun⟩
  rw [List.prefix_nil.mp early]
  exact ⟨entry, present, rfl⟩

theorem Provenance.extend {identity : SessionIdentity} {was now : Option TunnellingUser}
    (provenance : Provenance config events identity was)
    (holds : (tableAfter config (events ++ [event])).Holds identity)
    (user : now = was ∨ ∃ known ∈ config.users, now = some known ∧
      Authenticates identity known event) : Provenance config (events ++ [event]) identity now := by
  obtain ⟨before, req, rest, rfl, opens, throughout, authenticated⟩ := provenance.traced
  refine ⟨before, req, rest ++ [event], by simp, opens, fun part early => ?_, fun known has => ?_⟩
  · rcases List.prefix_concat_iff.mp early with rfl | early
    · simpa using holds
    · exact throughout part early
  · rcases user with same | ⟨other, configured, isNow, verifies⟩
    · obtain ⟨configured, middle, authentication, later, rfl, verifies⟩ :=
        authenticated known (same ▸ has)
      exact ⟨configured, middle, authentication, later ++ [event], by simp, verifies⟩
    · rw [isNow, Option.mem_some_iff] at has
      subst has
      exact ⟨configured, rest, event, [], rfl, verifies⟩

theorem Continued.exists_was {table : ServerSessionTable} {after : List SessionEntry}
    (continued : table.Continued event after) {now : SessionEntry} (present : now ∈ after) :
    ∃ was ∈ table.sessions, Continues table event now was := by
  unfold Continued at continued
  generalize table.sessions = sessions at continued ⊢
  induction continued with
  | nil => cases present
  | cons_right _ ih =>
    obtain ⟨was, listed, continues⟩ := ih present
    exact ⟨was, List.mem_cons_of_mem _ listed, continues⟩
  | cons together _ ih =>
    rcases List.mem_cons.mp present with rfl | later
    · exact ⟨_, List.mem_cons_self, together⟩
    · obtain ⟨was, listed, continues⟩ := ih later
      exact ⟨was, List.mem_cons_of_mem _ listed, continues⟩

theorem tableAfter_configuration (config : ServerConfiguration) (events : List ServerEvent) :
    (tableAfter config events).configuration = config := by
  induction events using List.reverseRecOn with
  | nil => rfl
  | append_singleton events event ih =>
    rw [tableAfter_concat, next_configuration (tableAfter_numbered config events), ih]

/-- Every session of a table has a provenance in the calls that led to the table. -/
theorem provenance (config : ServerConfiguration) (events : List ServerEvent) :
    ∀ entry ∈ (tableAfter config events).sessions,
      Provenance config events entry.identity entry.user := by
  induction events using List.reverseRecOn with
  | nil => exact fun entry present => nomatch present
  | append_singleton events event ih =>
    intro entry present
    have holds : (tableAfter config (events ++ [event])).Holds entry.identity :=
      ⟨entry, present, rfl⟩
    have after := tableAfter_concat config events event
    cases next_lives (tableAfter_numbered config events) event with
    | continued sessions _ =>
      rw [after] at present
      obtain ⟨was, listed, continues⟩ := sessions.exists_was present
      have earlier := ih was listed
      rw [← continues.identity] at earlier
      refine earlier.extend holds (continues.user.imp_right ?_)
      rintro ⟨user, configured, -, known, verifies⟩
      rw [tableAfter_configuration] at configured
      exact ⟨user, configured, known, continues.identity ▸ verifies⟩
    | opened added _ opens _ nobody _ _ _ _ sessions =>
      have listed := present
      rw [after, sessions, List.mem_append, List.mem_singleton] at listed
      rcases listed with old | rfl
      · exact (ih entry old).extend holds (.inl rfl)
      · rw [nobody]
        exact .opened opens present

/-! ## The numbers of a session -/

/-- A table with, for each id, the numbers of the wrappers taken in the session that holds the id,
or held it last. -/
structure AcceptanceLog where
  table : ServerSessionTable
  accepted : UInt16 → List Nat

namespace AcceptanceLog

def create (config : ServerConfiguration) : AcceptanceLog :=
  ⟨{ configuration := config }, fun _ => []⟩

def opening (log : AcceptanceLog) (event : ServerEvent) : UInt16 → List Nat :=
  match (log.table.step event).2 with
  | .responded resp => update log.accepted resp.sessionId []
  | _ => log.accepted

def step (log : AcceptanceLog) (event : ServerEvent) : AcceptanceLog :=
  let opened := log.opening event
  ⟨log.table.next event,
    match log.table.acceptedBy event with
    | some (sid, num) =>
      update opened sid (opened sid ++ [num])
    | none => opened⟩

/-- The numbers grow, and none of a live session is above the last one the session remembers. -/
structure Increasing (log : AcceptanceLog) : Prop where
  numbered : log.table.Numbered
  sorted : ∀ sessionId, (log.accepted sessionId).Pairwise (· < ·)
  remembered : ∀ entry ∈ log.table.sessions, ∀ number ∈ log.accepted entry.sessionId,
    ∃ last ∈ entry.lastReceivedSequence, number ≤ last

variable {log : AcceptanceLog} {resp : SessionResponseFrame}

theorem Increasing.lt_of_accepted (increasing : log.Increasing) {sid : UInt16} {num : Nat}
    (accepted : log.table.acceptedBy event = some (sid, num)) :
    ∀ earlier ∈ log.accepted sid, earlier < num := by
  intro earlier taken
  cases event with
  | openFrame backend origin wrap room nowMs =>
    simp only [acceptedBy, Option.ite_none_right_eq_some, Option.some.injEq,
      Prod.mk.injEq] at accepted
    obtain ⟨opened, rfl, rfl⟩ := accepted
    rcases openFrame_cases backend log.table origin wrap room nowMs with
      ⟨-, -, -, -, -, -, rejected⟩ | ⟨sess, -, -, found, -, -, forward, -⟩
    · rw [opened] at rejected
      cases rejected
    · obtain ⟨last, held, below⟩ := increasing.remembered sess
        (List.mem_of_find?_eq_some found) earlier (by rwa [find_named found])
      exact Nat.lt_of_le_of_lt below (forward last held)
  | _ => cases accepted

theorem step_accepted_of_continued
    (silent : ∀ resp, (log.table.step event).2 ≠ .responded resp) (sid : UInt16) :
    (∃ num, log.table.acceptedBy event = some (sid, num) ∧
        (log.step event).accepted sid = log.accepted sid ++ [num]) ∨
      (∀ num, log.table.acceptedBy event ≠ some (sid, num)) ∧
        (log.step event).accepted sid = log.accepted sid := by
  have unopened : log.opening event = log.accepted := by
    unfold opening
    split
    · rename_i resp responded
      exact absurd responded (silent resp)
    · rfl
  unfold step
  rw [unopened]
  cases accepted : log.table.acceptedBy event with
  | none => exact .inr ⟨nofun, rfl⟩
  | some taken =>
    obtain ⟨holder, num⟩ := taken
    by_cases same : sid = holder
    · subst same
      exact .inl ⟨num, rfl, update_self ..⟩
    · refine .inr ⟨fun other also => same ?_, update_of_ne same ..⟩
      exact (congrArg Prod.fst (Option.some.inj also)).symm

theorem Increasing.continued (increasing : log.Increasing)
    (sessions : log.table.Continued event (log.table.next event).sessions)
    (silent : ∀ resp, (log.table.step event).2 ≠ .responded resp) :
    (log.step event).Increasing := by
  refine ⟨next_numbered increasing.numbered event, fun sid => ?_, fun now present => ?_⟩
  · rcases step_accepted_of_continued silent sid with ⟨num, accepted, grown⟩ | ⟨-, same⟩
    · rw [grown]
      refine List.pairwise_append.mpr ⟨increasing.sorted sid, List.pairwise_singleton _ _, ?_⟩
      intro earlier taken later last
      rw [List.mem_singleton.mp last]
      exact increasing.lt_of_accepted accepted earlier taken
    · rw [same]
      exact increasing.sorted sid
  · obtain ⟨was, listed, continues⟩ := sessions.exists_was present
    have named := SessionEntry.sessionId_of_identity continues.identity
    rw [named]
    rcases step_accepted_of_continued silent was.sessionId with
      ⟨num, accepted, grown⟩ | ⟨idle, same⟩
    · rw [grown, (continues.accepted num accepted).1]
      intro earlier taken
      refine ⟨num, rfl, ?_⟩
      rcases List.mem_append.mp taken with old | new
      · exact Nat.le_of_lt (increasing.lt_of_accepted accepted earlier old)
      · exact Nat.le_of_eq (List.mem_singleton.mp new)
    · rw [same, continues.idle idle]
      exact increasing.remembered was listed

theorem Increasing.opened (increasing : log.Increasing) {entry : SessionEntry}
    (opens : OpensSession entry event)
    (fresh : entry.sessionId ∉ log.table.sessions.map SessionEntry.sessionId)
    (responded : (log.table.step event).2 = .responded resp)
    (named : resp.sessionId = entry.sessionId)
    (sessions : (log.table.next event).sessions = log.table.sessions ++ [entry]) :
    (log.step event).Increasing := by
  have idle : log.table.acceptedBy event = none := by
    cases opens
    rfl
  have numbers : (log.step event).accepted = update log.accepted entry.sessionId [] := by
    simp only [step, idle, opening, responded, named]
  refine ⟨next_numbered increasing.numbered event, fun sid => ?_, fun held present => ?_⟩
  · rw [numbers]
    by_cases same : sid = entry.sessionId
    · subst same
      rw [update_self]
      exact .nil
    · rw [update_of_ne same]
      exact increasing.sorted sid
  · rw [numbers]
    rw [step, sessions] at present
    rcases List.mem_append.mp present with old | new
    · have different : held.sessionId ≠ entry.sessionId :=
        fun same => fresh (same ▸ List.mem_map_of_mem old)
      rw [update_of_ne different]
      exact increasing.remembered held old
    · rw [List.mem_singleton.mp new, update_self]
      exact nofun

theorem Increasing.step (increasing : log.Increasing) (event : ServerEvent) :
    (log.step event).Increasing := by
  cases next_lives increasing.numbered event with
  | continued sessions silent => exact increasing.continued sessions silent
  | opened entry resp opens _ _ _ fresh responded named sessions =>
    exact increasing.opened opens fresh responded named sessions

theorem run_table (config : ServerConfiguration) (events : List ServerEvent) :
    (run AcceptanceLog.step (create config) events).table = tableAfter config events := by
  induction events using List.reverseRecOn with
  | nil => rfl
  | append_singleton events event ih =>
    rw [run_append, tableAfter_concat, ← ih]
    rfl

end AcceptanceLog

/-! ## Wrappers that are not the session's -/

/-- The wrapper names no session of the table, or comes from elsewhere than the session it names, or
does not open under the session's key. -/
def Unverified (table : ServerSessionTable) (backend : CryptoBackend) (origin : ClientOrigin)
    (wrap : WrapperFrame) (room : Nat) : Prop :=
  ∀ sess, table.find wrap.sessionId = some sess →
    sess.connection = origin.connection → samePeer sess.peer origin.peer = true →
    ∃ why, openWrapper backend room sess.sessionKey wrap = .error why

/-! ## The table -/

theorem accepted_of_opened {table : ServerSessionTable} {backend : CryptoBackend}
    {origin : ClientOrigin} {wrap : WrapperFrame} {room : Nat} {nowMs : UInt64}
    {frame : ServerOpenedFrame}
    (opened : (table.openFrame backend origin wrap room nowMs).2 = .ok frame) :
    table.acceptedBy (.openFrame backend origin wrap room nowMs) =
      some (wrap.sessionId, decodeSequence wrap.sequence) := by
  rcases openFrame_cases backend table origin wrap room nowMs with
    ⟨_, _, verdict, -⟩ | ⟨_, _, _, -, ⟨-, -, admitted⟩, -⟩
  · rw [verdict] at opened
    cases opened
  · rw [acceptedBy, if_pos admitted]

/-- In every run of a session table a tunnel frame is opened only in a session that an earlier call
authenticated, the numbers of the wrappers a session takes grow, those of the frames it opens among
them, and a wrapper that is not verified leaves everything but a failure count as it is. -/
theorem tunnel_only_authenticated (config : ServerConfiguration) (events : List ServerEvent) :
    let table := tableAfter config events
    let log := run AcceptanceLog.step (.create config) events
    (∀ backend origin wrap room nowMs frame,
      (table.openFrame backend origin wrap room nowMs).2 = .ok frame →
      frame.kind = .tunnel →
      ∃ sess user, table.find frame.sessionId = some sess ∧
        sess.connection = origin.connection ∧ sess.user = some user ∧
        Provenance config events sess.identity (some user)) ∧
    (log.table = table ∧ (∀ sid, (log.accepted sid).Pairwise (· < ·)) ∧
      ∀ backend origin wrap room nowMs frame,
        (table.openFrame backend origin wrap room nowMs).2 = .ok frame →
        table.acceptedBy (.openFrame backend origin wrap room nowMs) =
          some (wrap.sessionId, decodeSequence wrap.sequence)) ∧
    ∀ backend origin wrap room nowMs,
      table.Unverified backend origin wrap room →
      ∃ why,
        table.openFrame backend origin wrap room nowMs = (table, .error why) ∨
        table.openFrame backend origin wrap room nowMs =
          (table.noteUnauthenticated, .error why) := by
  intro table log
  have increasing : log.Increasing :=
    invariant_run (fun _ event increasing _ => increasing.step event)
      ⟨numbered_initially config, fun _ => .nil, nofun⟩
      (admissible_of_events (fun _ _ => trivial : ∀ event ∈ events, True))
  refine ⟨?_, ⟨AcceptanceLog.run_table config events, increasing.sorted,
    fun _ _ _ _ _ _ => accepted_of_opened⟩, fun backend origin wrap room nowMs unverified => ?_⟩
  · intro backend origin wrap room nowMs frame opened tunnel
    obtain ⟨sess, found, connected, -, -, -, authenticated⟩ :=
      openFrame_opened (Prod.ext rfl opened)
    obtain ⟨user, known⟩ := Option.isSome_iff_exists.mp (authenticated tunnel)
    refine ⟨sess, user, found, connected, known, ?_⟩
    exact known ▸ provenance config events sess (List.mem_of_find?_eq_some found)
  · unfold openFrame
    cases found : table.find wrap.sessionId with
    | none => exact ⟨_, .inr rfl⟩
    | some sess =>
      dsimp only
      split
      · exact ⟨_, .inr rfl⟩
      rename_i here
      obtain ⟨why, failed⟩ := unverified sess found
        (by_contra fun elsewhere => here (.inl elsewhere))
        (by_contra fun elsewhere => here (.inr elsewhere))
      rw [failed]
      by_cases authentic : why = .knx .secureAuthenticationFailed
      · exact ⟨why, .inr (by simp [authentic])⟩
      · exact ⟨why, .inl (by simp [authentic])⟩

/-- The tunnelling request of the recorded exchange opens after the authentication, and the same
octets on another connection are only counted. -/
theorem tunnel_only_authenticated_exchange :
    let events := exchangeServerEvents.take 3
    let table := tableAfter exchangeConfiguration events
    (∃ sess user, table.find 1 = some sess ∧ sess.connection = 7 ∧
      sess.user = some user ∧
      Provenance exchangeConfiguration events sess.identity (some user)) ∧
    ∃ why,
      table.openFrame exchangeRecording.backend ⟨8, exchangeOrigin.peer⟩
        (wrapperOfPacket exchangeRequestPacket) 1472 3 = (table, .error why) ∨
      table.openFrame exchangeRecording.backend ⟨8, exchangeOrigin.peer⟩
        (wrapperOfPacket exchangeRequestPacket) 1472 3 =
          (table.noteUnauthenticated, .error why) := by
  refine ⟨?_, ?_⟩
  · exact (tunnel_only_authenticated exchangeConfiguration (exchangeServerEvents.take 3)).1
      exchangeRecording.backend exchangeOrigin (wrapperOfPacket exchangeRequestPacket) 1472 3
      ⟨1, exchangeRequest, .tunnel⟩ (by decide +kernel) rfl
  · refine (tunnel_only_authenticated exchangeConfiguration (exchangeServerEvents.take 3)).2.2
      exchangeRecording.backend ⟨8, exchangeOrigin.peer⟩ (wrapperOfPacket exchangeRequestPacket)
      1472 3 ?_
    intro sess found connected
    have opened : ((tableAfter exchangeConfiguration (exchangeServerEvents.take 3)).find
        (wrapperOfPacket exchangeRequestPacket).sessionId).map SessionEntry.connection = some 7 := by
      decide +kernel
    rw [found, Option.map_some, connected] at opened
    exact absurd opened (by decide)

theorem Continues.user_kept {table : ServerSessionTable} {now was : SessionEntry}
    (continues : Continues table event now was) (user : TunnellingUser)
    (known : was.user = some user) : now.user = some user := by
  rcases continues.user with same | ⟨_, _, nobody, _⟩
  · exact same.trans known
  · cases nobody.symm.trans known

/-- Whatever is called in between, a session of the table is one that was there before, under the
same keys and never for another user, or one opened since. -/
theorem sessions_for_life (config : ServerConfiguration) (past later : List ServerEvent) :
    ∀ now ∈ (tableAfter config (past ++ later)).sessions,
      (∃ was ∈ (tableAfter config past).sessions, now.identity = was.identity ∧
        ∀ user, was.user = some user → now.user = some user) ∨
        ∃ event ∈ later, ∃ entry, OpensSession entry event ∧ now.identity = entry.identity := by
  induction later using List.reverseRecOn with
  | nil =>
    intro now present
    rw [List.append_nil] at present
    exact .inl ⟨now, present, rfl, fun _ known => known⟩
  | append_singleton later event ih =>
    intro now present
    rw [← List.append_assoc, tableAfter_concat] at present
    cases next_lives (tableAfter_numbered config (past ++ later)) event with
    | continued sessions _ =>
      obtain ⟨between, listed, continues⟩ := sessions.exists_was present
      rcases ih between listed with ⟨was, there, same, user⟩ | ⟨opening, member, entry, opens, same⟩
      · exact .inl ⟨was, there, continues.identity.trans same,
          fun known kept => continues.user_kept known (user known kept)⟩
      · exact .inr ⟨opening, List.mem_append_left _ member, entry, opens,
          continues.identity.trans same⟩
    | opened added _ opens _ _ _ _ _ _ sessions =>
      rw [sessions, List.mem_append, List.mem_singleton] at present
      rcases present with old | rfl
      · exact (ih now old).imp_right fun ⟨opening, member, found⟩ =>
          ⟨opening, List.mem_append_left _ member, found⟩
      · exact .inr ⟨event, by simp, now, opens, rfl⟩

/-- The session of the recorded exchange is opened by one of its calls; what is called after the
authentication leaves it its keys and its user. -/
theorem sessions_for_life_exchange :
    let past := exchangeServerEvents.take 2
    let later := exchangeServerEvents.drop 2
    (∃ event ∈ past, ∃ entry, OpensSession entry event) ∧
      ∃ was ∈ (tableAfter exchangeConfiguration past).sessions,
        was.user.map TunnellingUser.userId = some 2 ∧
        ∃ now ∈ (tableAfter exchangeConfiguration (past ++ later)).sessions,
          now.identity = was.identity ∧ ∀ user, was.user = some user → now.user = some user := by
  intro past later
  constructor
  · rcases sessions_for_life exchangeConfiguration [] past _ (List.head_mem (by decide +kernel))
      with ⟨_, none, _⟩ | ⟨event, called, entry, opens, _⟩
    · cases none
    · exact ⟨event, called, entry, opens⟩
  have authenticated : ∀ was ∈ (tableAfter exchangeConfiguration past).sessions,
      was.user.map TunnellingUser.userId = some 2 := by decide +kernel
  have held : (tableAfter exchangeConfiguration (past ++ later)).sessions ≠ [] := by decide +kernel
  rcases sessions_for_life exchangeConfiguration past later _ (List.head_mem held) with
    ⟨was, there, same, user⟩ | ⟨event, called, entry, opens, _⟩
  · exact ⟨was, there, authenticated was there, _, List.head_mem held, same, user⟩
  · cases opens
    simp [later, exchangeServerEvents] at called

end ServerSessionTable

end KmxAio.Knx.Secure
