import KmxAio.Knx.Secure.SessionLife
import KmxAio.Knx.Secure.Nonces

/-!
# How many sessions a table holds

A table takes no more sessions than it was configured for, and no more that await
authentication from one address than one peer may have. So the search for a session
id, which goes through the ids in their order, always meets one that is free.
-/

namespace KmxAio.Knx

open Lib.Wire

inductive IpAddress where
  | v4 (octets : OctetArray 4)
  | v6 (octets : OctetArray 16)
  deriving DecidableEq

def TransportPeer.ipAddress (peer : TransportPeer) : Option IpAddress :=
  if peer.family = afInet then
    if 16 ≤ peer.length then some (.v4 (readArray 4 4 peer.address)) else none
  else if peer.family = afInet6 then
    if 28 ≤ peer.length then some (.v6 (readArray 16 8 peer.address)) else none
  else none

theorem TransportPeer.ipAddress_v4 {peer : TransportPeer} {octets : OctetArray 4} :
    peer.ipAddress = some (.v4 octets) ↔
      peer.family = afInet ∧ 16 ≤ peer.length ∧ readArray 4 4 peer.address = octets := by
  unfold ipAddress
  split
  · split <;> simp [*]
  · rename_i family
    split <;> [split; skip] <;> simp [family]

theorem TransportPeer.ipAddress_v6 {peer : TransportPeer} {octets : OctetArray 16} :
    peer.ipAddress = some (.v6 octets) ↔
      peer.family = afInet6 ∧ 28 ≤ peer.length ∧ readArray 16 8 peer.address = octets := by
  have unlike : afInet ≠ afInet6 := by decide
  unfold ipAddress
  split
  · rename_i family
    split <;> simp [family, unlike]
  · split
    · split <;> simp [*]
    · rename_i family
      simp [family]

theorem sameAddress_iff (lhs rhs : TransportPeer) :
    sameAddress lhs rhs = true ↔ ∃ address, lhs.ipAddress = some address ∧
      rhs.ipAddress = some address := by
  constructor
  · intro same
    unfold sameAddress at same
    split at same
    · cases same
    rename_i alike
    have families : lhs.family = rhs.family := not_not.mp alike
    split at same
    · rename_i four
      refine ⟨.v4 (readArray 4 4 rhs.address), ?_, ?_⟩
      · exact TransportPeer.ipAddress_v4.mpr ⟨four.1, four.2.1, by simpa using same⟩
      · exact TransportPeer.ipAddress_v4.mpr ⟨families ▸ four.1, four.2.2, rfl⟩
    split at same
    · rename_i six
      refine ⟨.v6 (readArray 16 8 rhs.address), ?_, ?_⟩
      · exact TransportPeer.ipAddress_v6.mpr ⟨six.1, six.2.1, by simpa using same⟩
      · exact TransportPeer.ipAddress_v6.mpr ⟨families ▸ six.1, six.2.2, rfl⟩
    · cases same
  · rintro ⟨address, left, right⟩
    cases address with
    | v4 octets =>
      obtain ⟨leftFamily, leftLong, leftOctets⟩ := TransportPeer.ipAddress_v4.mp left
      obtain ⟨rightFamily, rightLong, rightOctets⟩ := TransportPeer.ipAddress_v4.mp right
      simp [sameAddress, leftFamily, rightFamily, leftLong, rightLong, leftOctets, rightOctets]
    | v6 octets =>
      have unlike : afInet6 ≠ afInet := by decide
      obtain ⟨leftFamily, leftLong, leftOctets⟩ := TransportPeer.ipAddress_v6.mp left
      obtain ⟨rightFamily, rightLong, rightOctets⟩ := TransportPeer.ipAddress_v6.mp right
      simp [sameAddress, leftFamily, rightFamily, leftLong, rightLong, leftOctets, rightOctets,
        unlike]

namespace Secure.ServerSessionTable

open Lib.Run

/-! ## The search for an id -/

variable {candidate : UInt16} {sessions after : List SessionEntry} {table : ServerSessionTable}

theorem followingId_iterate (nonzero : candidate ≠ 0) (tries : Nat) :
    (followingId^[tries] candidate).toNat = (candidate.toNat - 1 + tries) % 65535 + 1 := by
  have positive : 0 < candidate.toNat := by
    rcases Nat.eq_zero_or_pos candidate.toNat with zero | positive
    · exact absurd (UInt16.toNat_inj.mp zero) nonzero
    · exact positive
  have small := candidate.toNat_lt
  induction tries with
  | zero =>
    rw [Function.iterate_zero_apply]
    omega
  | succ tries ih =>
    rw [Function.iterate_succ_apply', followingId]
    split
    · rename_i last
      rw [last] at ih
      simp only [UInt16.toNat_ofNat] at ih ⊢
      omega
    · rename_i below
      have unlike : (followingId^[tries] candidate).toNat ≠ 65535 :=
        fun last => below (UInt16.toNat_inj.mp last)
      simp only [UInt16.toNat_add, UInt16.toNat_ofNat]
      omega

theorem searchSessionId_of_free {tries : Nat}
    (free : followingId^[tries] candidate ∉ sessions.map SessionEntry.sessionId) :
    ∃ found, ∀ fuel, tries < fuel → searchSessionId sessions fuel candidate = some found := by
  induction tries generalizing candidate with
  | zero =>
    refine ⟨(candidate, followingId candidate), fun fuel enough => ?_⟩
    obtain ⟨fuel, rfl⟩ := Nat.exists_eq_add_of_lt enough
    rw [Nat.zero_add, searchSessionId, if_neg (by simpa using free)]
  | succ tries ih =>
    obtain ⟨found, searched⟩ := ih (by rwa [Function.iterate_succ_apply] at free)
    by_cases held : sessions.any (fun entry => entry.sessionId == candidate) = true
    · refine ⟨found, fun fuel enough => ?_⟩
      obtain ⟨fuel, rfl⟩ := Nat.exists_eq_add_of_lt enough
      rw [searchSessionId, if_pos held]
      exact searched _ (by omega)
    · refine ⟨(candidate, followingId candidate), fun fuel enough => ?_⟩
      obtain ⟨fuel, rfl⟩ := Nat.exists_eq_add_of_lt enough
      rw [searchSessionId, if_neg held]

theorem exists_free (nonzero : candidate ≠ 0) (few : sessions.length < 65535) :
    ∃ tries ≤ sessions.length,
      followingId^[tries] candidate ∉ sessions.map SessionEntry.sessionId := by
  by_contra! held
  have distinct : ((List.range (sessions.length + 1)).map
      (fun tries => followingId^[tries] candidate)).Nodup := by
    refine List.Nodup.map_on ?_ List.nodup_range
    intro first firstFew second secondFew same
    rw [List.mem_range] at firstFew secondFew
    have numbers := congrArg UInt16.toNat same
    rw [followingId_iterate nonzero, followingId_iterate nonzero] at numbers
    omega
  have within : ((List.range (sessions.length + 1)).map
      (fun tries => followingId^[tries] candidate)) ⊆ sessions.map SessionEntry.sessionId := by
    intro id listed
    obtain ⟨tries, few, rfl⟩ := List.mem_map.mp listed
    exact held tries (Nat.lt_succ_iff.mp (List.mem_range.mp few))
  have count := (List.subperm_of_subset distinct within).length_le
  simp only [List.length_map, List.length_range] at count
  omega

/-! ## The bounds -/

theorem countP_le_of_sublistForall₂ {α β : Type} {Relation : α → β → Prop} {before : β → Bool}
    {after : α → Bool} {now : List α} {was : List β}
    (kept : ∀ first second, Relation first second → after first = true → before second = true)
    (related : List.SublistForall₂ Relation now was) : now.countP after ≤ was.countP before := by
  induction related with
  | nil => exact Nat.zero_le _
  | cons_right _ ih => exact ih.trans (List.Sublist.countP_le (List.sublist_cons_self _ _))
  | @cons first second _ _ together _ ih =>
    rw [List.countP_cons, List.countP_cons]
    cases counted : after first with
    | false => exact ih.trans (Nat.le_add_right _ _)
    | true => simpa [kept first second together counted] using ih

def awaiting (sessions : List SessionEntry) (address : IpAddress) : Nat :=
  sessions.countP (fun entry => entry.user.isNone && entry.peer.ipAddress == some address)

structure Bounded (table : ServerSessionTable) : Prop where
  numbered : table.Numbered
  few : table.sessions.length ≤ table.sessionLimit
  awaiting : ∀ address,
    awaiting table.sessions address ≤ table.configuration.maxUnauthenticatedPerPeer.toNat

theorem Continued.length_le {event : ServerEvent} (continued : table.Continued event after) :
    after.length ≤ table.sessions.length := by
  obtain ⟨kept, related, sublist⟩ := List.sublistForall₂_iff.mp continued
  exact related.length_eq.trans_le sublist.length_le

theorem admitRequest_ok {peer : TransportPeer} (admitted : table.admitRequest peer = .ok ()) :
    table.sessions.length < table.sessionLimit ∧ ∀ address, peer.ipAddress = some address →
      ServerSessionTable.awaiting table.sessions address <
        table.configuration.maxUnauthenticatedPerPeer.toNat := by
  unfold admitRequest at admitted
  dsimp only at admitted
  split at admitted
  · cases admitted
  rename_i room
  split at admitted
  · cases admitted
  rename_i welcome
  refine ⟨Nat.not_le.mp room, fun address located => ?_⟩
  have counted : (fun entry : SessionEntry =>
      entry.user.isNone && entry.peer.ipAddress == some address) =
      fun entry => entry.user.isNone && sameAddress entry.peer peer := by
    funext entry
    congr 1
    rw [Bool.eq_iff_iff, sameAddress_iff, beq_iff_eq]
    constructor
    · exact fun here => ⟨address, here, located⟩
    · rintro ⟨other, here, there⟩
      rw [here, ← there, located]
  rw [ServerSessionTable.awaiting, counted]
  exact Nat.not_le.mp welcome

theorem Bounded.next (bounded : table.Bounded) (event : ServerEvent) :
    (table.next event).Bounded := by
  have config := next_configuration bounded.numbered event
  have limit : (table.next event).sessionLimit = table.sessionLimit := by
    rw [sessionLimit, config, sessionLimit]
  cases next_lives bounded.numbered event with
  | continued sessions _ =>
    refine ⟨next_numbered bounded.numbered event, ?_, fun address => ?_⟩
    · rw [limit]
      exact sessions.length_le.trans bounded.few
    · rw [config]
      have awaitingLe : ServerSessionTable.awaiting ((table.next event).sessions) address ≤
          ServerSessionTable.awaiting table.sessions address := by
        refine countP_le_of_sublistForall₂ (fun now was continues counted => ?_) sessions
        have peer : now.peer = was.peer := congrArg SessionIdentity.peer continues.identity
        rcases continues.user with same | ⟨user, -, -, known, -⟩
        · rwa [← same, ← peer]
        · rw [known] at counted
          cases counted
      exact awaitingLe.trans (bounded.awaiting address)
  | opened entry _ _ admitted _ _ _ _ _ sessions =>
    obtain ⟨room, welcome⟩ := admitRequest_ok admitted
    refine ⟨next_numbered bounded.numbered event, ?_, fun address => ?_⟩
    · rw [limit, sessions, List.length_append]
      exact room
    · rw [config, sessions, ServerSessionTable.awaiting, List.countP_append,
        List.countP_singleton]
      split
      · rename_i counted
        have located : entry.peer.ipAddress = some address := by
          rw [Bool.and_eq_true, beq_iff_eq] at counted
          exact counted.2
        exact welcome address located
      · exact bounded.awaiting address

def BoundedBy (config : ServerConfiguration) (table : ServerSessionTable) : Prop :=
  table.Bounded ∧ table.configuration = config

/-- In every run of a session table the ids are distinct and none is zero, the sessions and those of
one address that await authentication stay within their bounds, an id can be allocated, and a
request that is refused opens and ends no session. -/
theorem sessions_bounded (config : ServerConfiguration) (events : List ServerEvent) :
    let table := run next { configuration := config } events
    (table.sessions.map SessionEntry.sessionId).Nodup ∧
    (∀ sess ∈ table.sessions, sess.sessionId ≠ 0) ∧
    table.sessions.length ≤ min config.maxSessions.toNat 255 ∧
    (∀ address, awaiting table.sessions address ≤ config.maxUnauthenticatedPerPeer.toNat) ∧
    (∃ sid following,
      (∀ fuel, table.sessions.length < fuel →
        searchSessionId table.sessions fuel table.nextSessionId = some (sid, following)) ∧
      table.allocateSessionId = some (sid, following) ∧
      ∀ sess ∈ table.sessions, sess.sessionId ≠ sid) ∧
    ∀ backend generated origin req nowMs why,
      (table.onSessionRequest backend generated origin req nowMs).2 = .error why →
        (table.onSessionRequest backend generated origin req nowMs).1.sessions =
          table.sessions := by
  intro table
  obtain ⟨bounded, configured⟩ : BoundedBy config table := by
    refine invariant_run (fun table event bounded _ => ?_)
      (⟨⟨numbered_initially config, Nat.zero_le _, fun _ => Nat.zero_le _⟩, rfl⟩ :
        BoundedBy config _)
      (admissible_of_events (fun _ _ => trivial : ∀ event ∈ events, True))
    exact ⟨bounded.1.next event, (next_configuration bounded.1.numbered event).trans bounded.2⟩
  have few : table.sessions.length ≤ min config.maxSessions.toNat 255 :=
    configured ▸ bounded.few
  obtain ⟨tries, early, free⟩ :=
    exists_free bounded.numbered.next (by omega : table.sessions.length < 65535)
  obtain ⟨⟨sid, following⟩, found⟩ := searchSessionId_of_free free
  have searched : ∀ fuel, table.sessions.length < fuel →
      searchSessionId table.sessions fuel table.nextSessionId = some (sid, following) :=
    fun fuel enough => found fuel (by omega)
  have unheld := (searchSessionId_spec bounded.numbered.next
    (searched (table.sessions.length + 1) (by omega))).1
  refine ⟨bounded.numbered.distinct, fun sess present zero => ?_, few,
    fun address => configured ▸ bounded.awaiting address,
    ⟨sid, following, searched, searched 65535 (by omega), fun sess present same => ?_⟩, ?_⟩
  · exact bounded.numbered.nonzero (zero ▸ List.mem_map_of_mem present)
  · exact unheld (same ▸ List.mem_map_of_mem present)
  · intro backend generated origin req nowMs why refused
    have requested := onSessionRequest_requested backend table generated origin req nowMs
    generalize table.onSessionRequest backend generated origin req nowMs = call
      at requested refused ⊢
    cases requested with
    | refused => rfl
    | opened => cases refused

/-- A request that finds no key pair, in the table the recorded exchange leaves behind. -/
theorem sessions_bounded_exchange :
    let table := run next { configuration := exchangeConfiguration } exchangeServerEvents
    table.sessions.length = 1 ∧ table.nextSessionId = 2 ∧
      (table.onSessionRequest exchangeRecording.backend (refuse .cryptoFailure) exchangeOrigin
        ⟨⟨⟨zeroArray 4, 0⟩, 0x02⟩, exchangeClientPair.publicKey⟩ 5).1.sessions = table.sessions :=
  ⟨by decide +kernel, by decide +kernel,
    (sessions_bounded exchangeConfiguration exchangeServerEvents).2.2.2.2.2 _ _ _ _ _
      (.knx .cryptoFailure) (by decide +kernel)⟩

end Secure.ServerSessionTable

end KmxAio.Knx
