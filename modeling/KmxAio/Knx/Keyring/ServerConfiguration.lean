import KmxAio.Knx.Keyring.Document
import KmxAio.Knx.Secure.ServerSessionTable

/-!
# The configuration of a server from a keyring

A device that hosts tunnelling slots is configured from the slots the keyring
places on it: one user for each user id, with the addresses of the slots under it.
Slots that disagree on a password describe no device, and are refused.
-/

namespace KmxAio.Knx.Keyring

open Lib.Wire Connection Secure

/-- How keys are derived from the passwords of a keyring. -/
structure Derivations where
  userPasswordKey : Octets → Expected SecretKey
  deviceAuthenticationCode : Octets → Expected SecretKey

def tunnelCredentialsPresent (tunnel : InterfaceEntry) : Bool :=
  tunnel.type == .tunnelling && tunnel.userId.any (· != 0) && !tunnel.userPassword.isEmpty &&
    !tunnel.deviceAuthentication.isEmpty

def hostedTunnels (val : Document) (host : IndividualAddress) : List InterfaceEntry :=
  val.interfaces.filter fun tunnel => tunnelCredentialsPresent tunnel && tunnel.host == some host

def addAddress (userId : UInt8) (address : IndividualAddress) :
    List TunnellingUser → List TunnellingUser
  | [] => []
  | user :: users =>
      if user.userId = userId then
        { user with tunnelAddresses := user.tunnelAddresses ++ [address] } :: users
      else user :: addAddress userId address users

variable (derive : Derivations)

/-- Adds a slot to the users: a new user, or one more tunnel address of a user there is. -/
def addTunnel (hosted : List InterfaceEntry) (users : List TunnellingUser)
    (tunnel : InterfaceEntry) : Expected (List TunnellingUser) :=
  let userId := tunnel.userId.getD 0
  if users.any (·.userId == userId) then
    -- the slot is hosted itself, so there is a first one under its user id
    let first := (hosted.find? (·.userId == tunnel.userId)).getD tunnel
    if first.userPassword ≠ tunnel.userPassword then refuse .invalidConfiguration
    else .ok (addAddress userId tunnel.address users)
  else
    match derive.userPasswordKey tunnel.userPassword with
    | .error why => .error why
    | .ok passwordKey => .ok (users ++ [⟨userId, passwordKey, [tunnel.address]⟩])

def serverConfigurationFor (val : Document) (host : IndividualAddress)
    (serialNumber : SerialNumber) : Expected ServerConfiguration :=
  if ¬ validSerialNumber serialNumber then refuse .invalidConfiguration
  else
    let hosted := hostedTunnels val host
    match hosted.head? with
    | none => refuse .secureKeyMissing
    | some front =>
        let deviceCode := front.deviceAuthentication
        if hosted.any (·.deviceAuthentication != deviceCode) then refuse .invalidConfiguration
        else
          match derive.deviceAuthenticationCode deviceCode with
          | .error why => .error why
          | .ok derived =>
              match hosted.foldlM (addTunnel derive hosted) [] with
              | .error why => .error why
              | .ok users => .ok ⟨derived, users, serialNumber, 16, 2, 10000⟩

/-! ## Users of slots -/

/-- The users are those of some slots: one for each user id, with the addresses of its slots in
their order and the key of their password. -/
structure Grouped (derive : Derivations) (slots : List InterfaceEntry)
    (users : List TunnellingUser) : Prop where
  distinct : (users.map (·.userId)).Nodup
  ids : ∀ id, id ∈ users.map (·.userId) ↔ some id ∈ slots.map (·.userId)
  addresses : ∀ user ∈ users, user.tunnelAddresses =
    (slots.filter (·.userId == some user.userId)).map (·.address)
  keys : ∀ user ∈ users, ∀ tunnel ∈ slots, tunnel.userId = some user.userId →
    derive.userPasswordKey tunnel.userPassword = .ok user.passwordKey

/-- Slots that describe one device: they share its code, and those of a user the password. -/
def Agree (hosted : List InterfaceEntry) : Prop :=
  ∀ first ∈ hosted, ∀ second ∈ hosted,
    first.deviceAuthentication = second.deviceAuthentication ∧
      (first.userId = second.userId → first.userPassword = second.userPassword)

instance (hosted : List InterfaceEntry) : Decidable (Agree hosted) :=
  inferInstanceAs (Decidable (∀ first ∈ hosted, ∀ second ∈ hosted, _ ∧ (_ → _)))

theorem addAddress_eq_map {userId : UInt8} {address : IndividualAddress}
    {users : List TunnellingUser} (distinct : (users.map (·.userId)).Nodup) :
    addAddress userId address users = users.map fun user =>
      if user.userId = userId then
        { user with tunnelAddresses := user.tunnelAddresses ++ [address] }
      else user := by
  induction users with
  | nil => rfl
  | cons user users ih =>
    rw [List.map_cons, List.nodup_cons] at distinct
    rw [addAddress, List.map_cons]
    split
    · rename_i same
      have others : ∀ other ∈ users, (if other.userId = userId then
          { other with tunnelAddresses := other.tunnelAddresses ++ [address] }
          else other) = other := by
        refine fun other listed => if_neg (fun also => distinct.1 ?_)
        exact List.mem_map.mpr ⟨other, listed, also.trans same.symm⟩
      rw [List.map_congr_left others, List.map_id']
    · rw [ih distinct.2]

section Adding

variable {derive : Derivations} {hosted before rest : List InterfaceEntry}
  {tunnel : InterfaceEntry} {users next : List TunnellingUser} {id : UInt8}

theorem Grouped.append (grouped : Grouped derive before users) (named : tunnel.userId = some id)
    (absent : id ∉ users.map (·.userId)) {key : SecretKey}
    (derived : derive.userPasswordKey tunnel.userPassword = .ok key) :
    Grouped derive (before ++ [tunnel]) (users ++ [⟨id, key, [tunnel.address]⟩]) := by
  have fresh : ∀ user ∈ users, user.userId ≠ id :=
    fun user known its => absent (List.mem_map.mpr ⟨user, known, its⟩)
  have apart : ∀ other ∈ before, other.userId ≠ some id :=
    fun other known its => absent ((grouped.ids id).mpr (List.mem_map.mpr ⟨other, known, its⟩))
  refine ⟨?_, ?_, ?_, ?_⟩
  · simpa [List.nodup_append, grouped.distinct] using fresh
  · intro other
    simp only [List.map_append, List.mem_append, grouped.ids other, List.map_singleton,
      List.mem_singleton, named, Option.some.injEq]
  · intro user listed
    rcases List.mem_append.mp listed with old | new
    · simpa [named, Ne.symm (fresh user old)] using grouped.addresses user old
    · have none : before.filter (·.userId == some id) = [] :=
        List.filter_eq_nil_iff.mpr (fun other known => by simpa using apart other known)
      simp [List.mem_singleton.mp new, none, named]
  · intro user listed other known its
    rcases List.mem_append.mp listed with old | new <;>
      rcases List.mem_append.mp known with earlier | last
    · exact grouped.keys user old other earlier its
    · rw [List.mem_singleton.mp last, named] at its
      exact absurd (Option.some.inj its).symm (fresh user old)
    · rw [List.mem_singleton.mp new] at its
      exact absurd its (apart other earlier)
    · rw [List.mem_singleton.mp new, List.mem_singleton.mp last]
      exact derived

theorem Grouped.addAddress (grouped : Grouped derive before users)
    (named : tunnel.userId = some id) (present : id ∈ users.map (·.userId))
    (derived : ∀ user ∈ users, user.userId = id →
      derive.userPasswordKey tunnel.userPassword = .ok user.passwordKey) :
    Grouped derive (before ++ [tunnel]) (addAddress id tunnel.address users) := by
  rw [addAddress_eq_map grouped.distinct]
  generalize changed : (fun user : TunnellingUser => if user.userId = id then
    { user with tunnelAddresses := user.tunnelAddresses ++ [tunnel.address] } else user) = change
  have same : ∀ user, (change user).userId = user.userId ∧
      (change user).passwordKey = user.passwordKey := by
    intro user
    rw [← changed]
    dsimp only
    split <;> exact ⟨rfl, rfl⟩
  have ids : (users.map change).map (·.userId) = users.map (·.userId) := by
    rw [List.map_map]
    exact List.map_congr_left (fun user _ => (same user).1)
  refine ⟨ids ▸ grouped.distinct, fun other => ?_, fun _ listed => ?_, fun _ listed => ?_⟩
  · rw [ids, grouped.ids other, List.map_append, List.mem_append]
    refine (or_iff_left_of_imp (fun last => (grouped.ids other).mp ?_)).symm
    simp only [List.map_singleton, List.mem_singleton, named, Option.some.injEq] at last
    exact last ▸ present
  all_goals obtain ⟨user, known, rfl⟩ := List.mem_map.mp listed
  · rw [(same user).1, List.filter_append, List.map_append, ← grouped.addresses user known,
      ← changed]
    by_cases its : user.userId = id
    · simp [its, named]
    · simp [its, named, Ne.symm its]
  · intro other listed its
    rw [(same user).1] at its
    rw [(same user).2]
    rcases List.mem_append.mp listed with earlier | last
    · exact grouped.keys user known other earlier its
    · rw [List.mem_singleton.mp last] at its ⊢
      exact derived user known (Option.some.inj (its.symm.trans named))

theorem addTunnel_eq_ok (grouped : Grouped derive before users)
    (order : hosted = before ++ tunnel :: rest) (named : tunnel.userId = some id) :
    (∀ next, addTunnel derive hosted users tunnel = .ok next →
      Grouped derive (before ++ [tunnel]) next) ∧
    ((∃ next, addTunnel derive hosted users tunnel = .ok next) ↔
      ((hosted.find? (·.userId == tunnel.userId)).getD tunnel).userPassword = tunnel.userPassword ∧
        ∃ key, derive.userPasswordKey tunnel.userPassword = .ok key) := by
  have known : (users.any (·.userId == id)) = true ↔ id ∈ users.map (·.userId) := by simp
  unfold addTunnel
  rw [order, List.find?_append, named, Option.getD_some]
  by_cases present : id ∈ users.map (·.userId)
  · obtain ⟨other, listed, its⟩ := List.mem_map.mp ((grouped.ids id).mp present)
    obtain ⟨user, there, userNamed⟩ := List.mem_map.mp present
    rw [if_pos (known.mpr present)]
    -- the first slot under the user id came before
    cases found : before.find? (·.userId == some id) with
    | none =>
      rw [List.find?_eq_none] at found
      exact absurd (beq_iff_eq.mpr its) (found other listed)
    | some first =>
      have firstNamed : first.userId = some id := by simpa using List.find?_some found
      rw [Option.some_or, Option.getD_some]
      by_cases same : first.userPassword = tunnel.userPassword
      · have keys : ∀ user ∈ users, user.userId = id →
            derive.userPasswordKey tunnel.userPassword = .ok user.passwordKey :=
          fun user known its => same ▸ grouped.keys user known first
            (List.mem_of_find?_eq_some found) (its ▸ firstNamed)
        rw [if_neg (not_not.mpr same)]
        refine ⟨fun next done => ?_, iff_of_true ⟨_, rfl⟩ ⟨same, _, keys user there userNamed⟩⟩
        cases done
        exact grouped.addAddress named present keys
      · rw [if_pos same]
        exact ⟨nofun, iff_of_false (by simp [refuse]) (fun both => same both.1)⟩
  · have none : before.find? (·.userId == some id) = none := by
      refine List.find?_eq_none.mpr (fun other listed same => present ?_)
      exact (grouped.ids id).mpr (List.mem_map.mpr ⟨other, listed, eq_of_beq same⟩)
    rw [if_neg (mt known.mp present), none]
    cases derived : derive.userPasswordKey tunnel.userPassword with
    | error why => simp
    | ok key =>
      refine ⟨fun next done => ?_, by simp [named]⟩
      cases done
      exact grouped.append named present derived

/-- The slots one after another. The induction is on those still to come; the ones before are
grouped. -/
theorem foldlM_addTunnel (named : ∀ tunnel ∈ hosted, ∃ id, tunnel.userId = some id)
    (grouped : Grouped derive before users) (order : hosted = before ++ rest) :
    (∀ result, rest.foldlM (addTunnel derive hosted) users = .ok result →
      Grouped derive hosted result) ∧
    ((∃ result, rest.foldlM (addTunnel derive hosted) users = .ok result) ↔
      ∀ tunnel ∈ rest,
        ((hosted.find? (·.userId == tunnel.userId)).getD tunnel).userPassword =
            tunnel.userPassword ∧ ∃ key, derive.userPasswordKey tunnel.userPassword = .ok key) := by
  induction rest generalizing before users with
  | nil =>
    rw [List.append_nil] at order
    subst order
    refine ⟨fun result done => ?_, iff_of_true ⟨users, rfl⟩ nofun⟩
    cases done
    exact grouped
  | cons tunnel rest ih =>
    obtain ⟨id, itsId⟩ := named tunnel (by simp [order])
    obtain ⟨keeps, adds⟩ := addTunnel_eq_ok grouped order itsId
    rw [List.foldlM_cons, List.forall_mem_cons, ← adds]
    cases added : addTunnel derive hosted users tunnel with
    | error why => exact ⟨nofun, by simp [bind, Except.bind]⟩
    | ok next =>
      obtain ⟨groups, others⟩ := ih (keeps next added) (by rw [order]; simp)
      refine ⟨groups, others.trans ?_⟩
      simp

end Adding

/-! ## The configuration -/

theorem agree_iff {hosted : List InterfaceEntry} {front : InterfaceEntry} (there : front ∈ hosted) :
    Agree hosted ↔
      (∀ tunnel ∈ hosted, tunnel.deviceAuthentication = front.deviceAuthentication) ∧
      ∀ tunnel ∈ hosted, ((hosted.find? (·.userId == tunnel.userId)).getD tunnel).userPassword =
        tunnel.userPassword := by
  constructor
  · refine fun agree => ⟨fun tunnel listed => (agree tunnel listed front there).1, ?_⟩
    intro tunnel listed
    cases found : hosted.find? (·.userId == tunnel.userId) with
    | none => rfl
    | some first =>
      exact (agree first (List.mem_of_find?_eq_some found) tunnel listed).2
        (by simpa using List.find?_some found)
  · rintro ⟨codes, passwords⟩ first listed second also
    refine ⟨(codes first listed).trans (codes second also).symm, fun same => ?_⟩
    rw [← passwords first listed, ← passwords second also, same]
    cases found : hosted.find? (·.userId == second.userId) with
    | none => exact absurd (beq_self_eq_true _) (List.find?_eq_none.mp found second also)
    | some other => rfl

/-- A server is configured with one user for each user id of the slots with credentials on its host,
each with the addresses of its slots in document order and the key of the password they share. It
is refused exactly when the serial number is zero, there is no such slot, two of them disagree on
the device code or on the password of a user they share, or a derivation fails. -/
theorem serverConfigurationFor_exact (val : Document)
    (host : IndividualAddress) (serialNumber : SerialNumber) :
    (∀ config, serverConfigurationFor derive val host serialNumber = .ok config →
      Grouped derive (hostedTunnels val host) config.users ∧
        Agree (hostedTunnels val host) ∧ config.serialNumber = serialNumber ∧
        ∀ tunnel ∈ hostedTunnels val host,
          derive.deviceAuthenticationCode tunnel.deviceAuthentication =
            .ok config.deviceAuthenticationCode) ∧
    ((∃ config, serverConfigurationFor derive val host serialNumber = .ok config) ↔
      validSerialNumber serialNumber = true ∧ hostedTunnels val host ≠ [] ∧
        Agree (hostedTunnels val host) ∧
        ∀ tunnel ∈ hostedTunnels val host,
          (∃ code, derive.deviceAuthenticationCode tunnel.deviceAuthentication = .ok code) ∧
            ∃ key, derive.userPasswordKey tunnel.userPassword = .ok key) := by
  have named : ∀ tunnel ∈ hostedTunnels val host, ∃ id, tunnel.userId = some id := by
    intro tunnel listed
    have present := (List.mem_filter.mp listed).2
    simp only [tunnelCredentialsPresent, Bool.and_eq_true, Option.any_eq_true] at present
    obtain ⟨id, itsId, -⟩ := present.1.1.1.2
    exact ⟨id, itsId⟩
  obtain ⟨groups, added⟩ := foldlM_addTunnel named
    (⟨List.nodup_nil, by simp, by simp, by simp⟩ : Grouped derive [] []) (List.nil_append _).symm
  unfold serverConfigurationFor
  dsimp only
  generalize hostedTunnels val host = hosted at *
  by_cases serial : validSerialNumber serialNumber = true
  swap
  · simp [serial, refuse]
  rw [if_neg (not_not.mpr serial)]
  cases first : hosted.head? with
  | none => simp [List.head?_eq_none_iff.mp first, refuse]
  | some front =>
    have there : front ∈ hosted := List.mem_of_head? first
    have nonempty : hosted ≠ [] := List.ne_nil_of_mem there
    dsimp only
    by_cases codes : ∀ tunnel ∈ hosted, tunnel.deviceAuthentication = front.deviceAuthentication
    swap
    · rw [if_pos (by simpa using codes)]
      refine ⟨by rintro _ ⟨⟩, iff_of_false (by simp [refuse]) (fun holds => codes ?_)⟩
      exact ((agree_iff there).mp holds.2.2.1).1
    rw [if_neg (by simpa using codes)]
    cases derived : derive.deviceAuthenticationCode front.deviceAuthentication with
    | error why =>
      refine ⟨by rintro _ ⟨⟩, iff_of_false (by simp) (fun holds => ?_)⟩
      obtain ⟨code, found⟩ := (holds.2.2.2 front there).1
      rw [derived] at found
      cases found
    | ok code =>
      have every : ∀ tunnel ∈ hosted,
          derive.deviceAuthenticationCode tunnel.deviceAuthentication = .ok code :=
        fun tunnel listed => by rw [codes tunnel listed, derived]
      cases folded : hosted.foldlM (addTunnel derive hosted) [] with
      | error why =>
        refine ⟨by rintro _ ⟨⟩, iff_of_false (by simp) (fun holds => ?_)⟩
        obtain ⟨users, done⟩ := added.mpr (fun tunnel listed =>
          ⟨((agree_iff there).mp holds.2.2.1).2 tunnel listed, (holds.2.2.2 tunnel listed).2⟩)
        rw [folded] at done
        cases done
      | ok users =>
        have each := added.mp ⟨users, folded⟩
        have agree : Agree hosted :=
          (agree_iff there).mpr ⟨codes, fun tunnel listed => (each tunnel listed).1⟩
        refine ⟨fun config done => ?_, iff_of_true ⟨_, rfl⟩ ⟨serial, nonempty, agree,
          fun tunnel listed => ⟨⟨code, every tunnel listed⟩, (each tunnel listed).2⟩⟩⟩
        cases done
        exact ⟨groups users folded, agree, rfl, every⟩

def sampleKeyring : Document where
  interfaces :=
    [{ type := .tunnelling, address := 0x1102, host := some 0x1100, userId := some 3
       userPassword := ascii "one", deviceAuthentication := ascii "code" },
      { type := .tunnelling, address := 0x1103, host := some 0x1100, userId := some 4
        userPassword := ascii "two", deviceAuthentication := ascii "code" },
      { type := .tunnelling, address := 0x1203, host := some 0x1200, userId := some 3
        userPassword := ascii "other", deviceAuthentication := ascii "other" },
      { type := .tunnelling, address := 0x1104, host := some 0x1100, userId := some 3
        userPassword := ascii "one", deviceAuthentication := ascii "code" }]

def samplePadding : Derivations where
  userPasswordKey := fun password => .ok (readArray 16 0 password)
  deviceAuthenticationCode := fun password => .ok (readArray 16 0 password)

theorem serverConfigurationFor_sample :
    (serverConfigurationFor samplePadding sampleKeyring 0x1100 (readArray 6 0 [1])).toOption.map
        (fun config => config.users.map fun user =>
          (user.userId, user.tunnelAddresses)) =
      some [(3, [0x1102, 0x1104]), (4, [0x1103])] ∧
    ∃ config, serverConfigurationFor samplePadding sampleKeyring 0x1100
      (readArray 6 0 [1]) = .ok config :=
  ⟨by decide +kernel, (serverConfigurationFor_exact _ _ _ _).2.mpr
    ⟨by decide, by decide, by decide, fun _ _ => ⟨⟨_, rfl⟩, _, rfl⟩⟩⟩

end KmxAio.Knx.Keyring
