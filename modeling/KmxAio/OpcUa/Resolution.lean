import Mathlib.Data.List.Nodup
import KmxAio.Lib.Run
import KmxAio.OpcUa.Client

/-!
# Which coroutines a client resumes

The sweeps that fail requests collect the coroutines suspended on them, and the call
that sweeps resumes these before it returns. A callback stores the outcome of its
request and collects nothing, so a coroutine that was suspended when its outcome
came stays suspended, and a later sweep passes over it. A callback also passes over
its request when the id it was given, which has 32 bits, is not the id of the
request, which has 64.
-/

namespace KmxAio.OpcUa

open Lib.Run

namespace Client

/-- The coroutines that calls of the client have still to resume. -/
def handles (client : Client) : List Nat := client.stack.flatMap (·.handles)

/-- A coroutine suspended on a request with an outcome is resumed before the call in which the outcome
was stored returns; each is resumed once, with the outcome of its request; and no callback of a
request without an outcome was passed over. -/
structure Resolved (client : Client) : Prop where
  inTime : ∀ (number : Nat) req, client.requests[number]? = some req →
    req.stage = .suspended → req.outcome ≠ none →
      ∃ activation ∈ client.stack, activation.number = req.storedIn ∧ number ∈ activation.handles
  once : (client.resumed.map Prod.fst).Nodup
  given : ∀ pair ∈ client.resumed, ∃ req, client.requests[pair.1]? = some req ∧
    req.outcome = some pair.2 ∧ req.stage = .returned pair.2
  heeded : client.ignored = []

/-- Every suspended coroutine is recorded in its request or is to be resumed, by a call that is being
made or by one that has collected it. -/
def Awaited (client : Client) (collected : List Nat) (num : Nat) (req : Request) : Prop :=
  (req.outcome = none ∧ req.continuation = true) ∨
    (req.outcome ≠ none ∧ req.continuation = false ∧
      ((num ∈ collected ∧ req.storedIn = client.calls) ∨
        ∃ activation ∈ client.stack, activation.number = req.storedIn ∧ num ∈ activation.handles))

/-- What holds while a call of the client is being made that has collected some coroutines. -/
structure Tracked (client : Client) (collected : List Nat) : Prop where
  waiting : ∀ (number : Nat) req, client.requests[number]? = some req →
    req.stage = .suspended → client.Awaited collected number req
  running : ∀ req ∈ client.requests, req.stage ≠ .suspended → req.continuation = false
  collectedWait : ∀ number ∈ collected ++ client.handles, ∃ req,
    client.requests[number]? = some req ∧ req.stage = .suspended ∧ req.outcome ≠ none
  distinct : (collected ++ client.handles).Nodup
  once : (client.resumed.map Prod.fst).Nodup
  given : ∀ pair ∈ client.resumed, ∃ req, client.requests[pair.1]? = some req ∧
    req.outcome = some pair.2 ∧ req.stage = .returned pair.2
  small : ∀ req ∈ client.requests, req.id.toNat < UInt32.size
  submissions : ∀ submission ∈ client.submitted, ∃ req,
    client.requests[submission.number]? = some req ∧ submission.requestId = req.id.toUInt32
  heeded : client.ignored = []

theorem tracked_initially (config : ClientConfig) : Tracked { config := config } [] where
  waiting := by
    intro num req known
    cases known
  running := fun _ listed => absurd listed List.not_mem_nil
  collectedWait := fun _ listed => absurd listed List.not_mem_nil
  distinct := List.nodup_nil
  once := List.nodup_nil
  given := fun _ listed => absurd listed List.not_mem_nil
  small := fun _ listed => absurd listed List.not_mem_nil
  submissions := fun _ listed => absurd listed List.not_mem_nil
  heeded := rfl

theorem Tracked.resolved {client : Client} (tracked : client.Tracked []) : client.Resolved where
  inTime := by
    intro num req known suspended stored
    rcases tracked.waiting num req known suspended with ⟨none, -⟩ | ⟨-, -, collected⟩
    · exact absurd none stored
    · rcases collected with ⟨nobody, -⟩ | there
      · cases nobody
      · exact there
  once := tracked.once
  given := tracked.given
  heeded := tracked.heeded

variable {client : Client} {collected : List Nat} {num : Nat} {req changed : Request}

/-! ## One request changes -/

theorem getElem?_setRequest (known : client.requests[num]? = some req) (other : Nat) :
    (client.setRequest num changed).requests[other]? =
      if other = num then some changed else client.requests[other]? := by
  obtain ⟨inside, -⟩ := List.getElem?_eq_some_iff.mp known
  change (client.requests.set num changed)[other]? = _
  by_cases same : other = num
  · subst same
    rw [List.getElem?_set_self inside, if_pos rfl]
  · rw [List.getElem?_set_ne (Ne.symm same), if_neg same]

theorem mem_setRequest {found : Request}
    (listed : found ∈ (client.setRequest num changed).requests) :
    found = changed ∨ found ∈ client.requests :=
  (List.mem_or_eq_of_mem_set listed).symm

section

variable (tracked : client.Tracked collected) (known : client.requests[num]? = some req)

include tracked known

theorem Tracked.small_setRequest (id : changed.id = req.id) :
    ∀ found ∈ (client.setRequest num changed).requests, found.id.toNat < UInt32.size := by
  intro found listed
  rcases mem_setRequest listed with rfl | old
  · rw [id]
    exact tracked.small req (List.mem_of_getElem? known)
  · exact tracked.small found old

theorem Tracked.submissions_setRequest (id : changed.id = req.id) :
    ∀ submission ∈ client.submitted, ∃ found,
      (client.setRequest num changed).requests[submission.number]? = some found ∧
        submission.requestId = found.id.toUInt32 := by
  intro submission listed
  obtain ⟨found, there, same⟩ := tracked.submissions submission listed
  rw [getElem?_setRequest known]
  by_cases own : submission.number = num
  · rw [own, known] at there
    obtain rfl := Option.some.inj there
    exact ⟨changed, if_pos own, id ▸ same⟩
  · rw [if_neg own]
    exact ⟨found, there, same⟩

theorem Tracked.unresumed
    (ungiven : ∀ outcome, req.outcome = some outcome → req.stage ≠ .returned outcome) :
    num ∉ client.resumed.map Prod.fst := by
  intro listed
  obtain ⟨pair, resumed, rfl⟩ := List.mem_map.mp listed
  obtain ⟨found, there, outcome, ended⟩ := tracked.given pair resumed
  rw [known] at there
  obtain rfl := Option.some.inj there
  exact ungiven pair.2 outcome ended

theorem Tracked.given_setRequest (unresumed : num ∉ client.resumed.map Prod.fst) :
    ∀ pair ∈ client.resumed, ∃ found,
      (client.setRequest num changed).requests[pair.1]? = some found ∧
        found.outcome = some pair.2 ∧ found.stage = .returned pair.2 := by
  intro pair listed
  have different : pair.1 ≠ num := fun same => unresumed (same ▸ List.mem_map_of_mem listed)
  rw [getElem?_setRequest known, if_neg different]
  exact tracked.given pair listed

theorem Tracked.changes {more : List Nat}
    (ungiven : ∀ outcome, req.outcome = some outcome → req.stage ≠ .returned outcome)
    (id : changed.id = req.id)
    (waits : changed.stage = .suspended → client.Awaited more num changed)
    (runs : changed.stage ≠ .suspended → changed.continuation = false)
    (kept : ∀ other ∈ collected, other ∈ more)
    (others : ∀ other ∈ more ++ client.handles, other = num ∨ other ∈ collected ++ client.handles)
    (own : num ∈ more ++ client.handles → changed.stage = .suspended ∧ changed.outcome ≠ none)
    (distinct : (more ++ client.handles).Nodup) :
    (client.setRequest num changed).Tracked more := by
  refine
    { tracked with
      waiting := ?_
      running := ?_
      collectedWait := ?_
      distinct := distinct
      given := tracked.given_setRequest known (tracked.unresumed known ungiven)
      small := tracked.small_setRequest known id
      submissions := tracked.submissions_setRequest known id }
  · intro other found there suspended
    rw [getElem?_setRequest known] at there
    split at there
    · rename_i same
      subst same
      obtain rfl := Option.some.inj there
      exact waits suspended
    · rcases tracked.waiting other found there suspended with fresh | ⟨stored, cleared, there⟩
      · exact .inl fresh
      · exact .inr ⟨stored, cleared, there.imp_left (fun both => ⟨kept other both.1, both.2⟩)⟩
  · intro found listed
    rcases mem_setRequest listed with rfl | old
    · exact runs
    · exact tracked.running found old
  · intro other listed
    rw [getElem?_setRequest known]
    by_cases same : other = num
    · subst same
      exact ⟨changed, if_pos rfl, own listed⟩
    · rw [if_neg same]
      exact tracked.collectedWait other ((others other listed).resolve_left same)

theorem Tracked.not_collected (other : req.stage ≠ .suspended ∨ req.outcome = none) :
    num ∉ collected ++ client.handles := by
  intro listed
  obtain ⟨found, there, suspended, stored⟩ := tracked.collectedWait num listed
  rw [known] at there
  obtain rfl := Option.some.inj there
  exact other.elim (fun running => running suspended) (fun none => stored none)

theorem Tracked.running_changes (running : req.stage ≠ .suspended)
    (ungiven : ∀ outcome, req.outcome = some outcome → req.stage ≠ .returned outcome)
    (id : changed.id = req.id)
    (waits : changed.stage = .suspended → changed.outcome = none ∧ changed.continuation = true)
    (runs : changed.stage ≠ .suspended → changed.continuation = false) :
    (client.setRequest num changed).Tracked collected := by
  have uncollected := tracked.not_collected known (.inl running)
  exact tracked.changes known ungiven id (fun suspended => .inl (waits suspended)) runs
    (fun _ listed => listed) (fun _ listed => .inr listed)
    (fun listed => absurd listed uncollected) tracked.distinct

end

theorem Tracked.iterating_changes (tracked : client.Tracked collected)
    (known : client.requests[num]? = some req) (iterating : req.stage = .iterating)
    (id : changed.id = req.id)
    (waits : changed.stage = .suspended → changed.outcome = none ∧ changed.continuation = true)
    (runs : changed.stage ≠ .suspended → changed.continuation = false) :
    (client.setRequest num changed).Tracked collected :=
  tracked.running_changes known (by simp [iterating]) (by simp [iterating]) id waits runs

/-- The tables and the state of the connection play no part. -/
theorem Tracked.elsewhere (tracked : client.Tracked collected) (native : Bool)
    (state : LifecycleState) (deleteAfterDisconnect : Bool) (nextRequestId : UInt64)
    (pending : List PendingEntry) :
    ({ client with
        native := native, state := state, deleteAfterDisconnect := deleteAfterDisconnect
        nextRequestId := nextRequestId, pending := pending } : Client).Tracked collected :=
  { tracked with }

theorem Tracked.forgets (tracked : client.Tracked collected) {submitted : List Submission}
    (fewer : ∀ submission ∈ submitted, submission ∈ client.submitted) :
    ({ client with submitted := submitted } : Client).Tracked collected :=
  { tracked with
    submissions := fun submission listed => tracked.submissions submission (fewer submission listed) }

/-! ## Callbacks -/

theorem toUInt32_toUInt64 {id : UInt64} (small : id.toNat < UInt32.size) :
    id.toUInt32.toUInt64 = id := by
  refine UInt64.toNat_inj.mp ?_
  rw [UInt32.toNat_toUInt64, UInt64.toNat_toUInt32, Nat.mod_eq_of_lt small]

variable {requestId : UInt32} {within : Nat} {completion : Completion} {swept : Client × List Nat}

/-- The callback of a request without an outcome stores one, if it was given the id of the request. -/
theorem onComplete_stores (fresh : req.outcome = none) (same : req.id = requestId.toUInt64) :
    ∃ outcome, req.onComplete requestId completion within = req.store outcome within := by
  have heeds : ¬(req.id ≠ requestId.toUInt64 ∨ req.outcome.isSome = true) := by
    simp [same, fresh]
  have stores (success : Outcome) (status : StatusCode) : ∃ outcome,
      req.onRequestComplete success requestId status within = req.store outcome within := by
    unfold Request.onRequestComplete
    rw [if_neg heeds]
    split <;> exact ⟨_, rfl⟩
  unfold Request.onComplete
  split <;> exact stores _ _

theorem onComplete_stored (stored : req.outcome.isSome = true) :
    req.onComplete requestId completion within = req := by
  unfold Request.onComplete
  split <;> exact if_pos (.inr stored)

section

variable (tracked : client.Tracked collected)
  (prompt : ∀ req ∈ client.requests[completion.request]?, req.stage ≠ .suspended)

include tracked prompt

/-- What a callback does to a client: nothing, or it stores an outcome in a request whose coroutine is
in its first iteration. -/
theorem Tracked.complete_cases :
    ∃ submitted, (∀ submission ∈ submitted, submission ∈ client.submitted) ∧
      (client.complete completion = { client with submitted := submitted } ∨
        ∃ (num : Nat) (req : Request) (outcome : Outcome),
          client.requests[num]? = some req ∧ req.stage = .iterating ∧
          req.outcome = none ∧
          client.complete completion =
            { client with submitted := submitted }.setRequest num
              (req.store outcome client.calls)) := by
  unfold complete
  cases found : client.submitted.find? (·.number = completion.request) with
  | none => exact ⟨client.submitted, fun _ listed => listed, .inl rfl⟩
  | some submission =>
    have named : submission.number = completion.request := by simpa using List.find?_some found
    obtain ⟨req, known, id⟩ :=
      tracked.submissions submission (List.mem_of_find?_eq_some found)
    have running : req.stage ≠ .suspended := prompt req (by rw [← named, known]; rfl)
    refine ⟨client.submitted.filter (·.number ≠ completion.request),
      fun _ kept => (List.mem_filter.mp kept).1, ?_⟩
    dsimp only
    rw [known]
    dsimp only
    cases stage : req.stage with
    | suspended => exact absurd stage running
    | returned outcome => exact .inl rfl
    | iterating =>
      by_cases fresh : req.outcome = none
      · have same : req.id = submission.requestId.toUInt64 := by
          rw [id, toUInt32_toUInt64 (tracked.small req (List.mem_of_getElem? known))]
        obtain ⟨outcome, stores⟩ := onComplete_stores fresh same
        rw [stores]
        exact .inr ⟨_, req, outcome, known, stage, fresh, rfl⟩
      · have stored : req.outcome.isSome = true := Option.isSome_iff_ne_none.mpr fresh
        obtain ⟨inside, there⟩ := List.getElem?_eq_some_iff.mp known
        have unchanged : client.requests.set submission.number req = client.requests := by
          rw [← there, List.set_getElem_self]
        rw [onComplete_stored stored, setRequest, unchanged]
        simp [fresh]

theorem Tracked.complete : (client.complete completion).Tracked collected := by
  obtain ⟨submitted, fewer, same | ⟨num, req, outcome, known, iterating, -, stored⟩⟩ :=
    tracked.complete_cases prompt
  · rw [same]
    exact tracked.forgets fewer
  · rw [stored]
    refine (tracked.forgets fewer).iterating_changes known iterating rfl ?_ ?_
    · intro suspended
      exact absurd (iterating.symm.trans suspended) nofun
    · exact fun other => tracked.running req (List.mem_of_getElem? known) other

theorem Tracked.complete_stage {other : Nat} {found : Request}
    (there : (client.complete completion).requests[other]? = some found) :
    ∃ req, client.requests[other]? = some req ∧ req.stage = found.stage := by
  obtain ⟨submitted, -, same | ⟨num, req, outcome, known, -, -, stored⟩⟩ :=
    tracked.complete_cases prompt
  · rw [same] at there
    exact ⟨found, there, rfl⟩
  · have here : ({ client with submitted := submitted } : Client).requests[num]? =
        some req := known
    rw [stored, getElem?_setRequest here] at there
    split at there
    · rename_i own
      obtain rfl := Option.some.inj there
      exact ⟨req, own ▸ known, rfl⟩
    · exact ⟨found, there, rfl⟩

end

/-- No callback is run for a request whose coroutine is suspended. -/
def NoneSuspended (client : Client) (iteration : Iteration) : Prop :=
  ∀ completion ∈ iteration.completions, ∀ req ∈ client.requests[completion.request]?,
    req.stage ≠ .suspended

theorem Tracked.completions (tracked : client.Tracked collected) {completions : List Completion}
    (prompt : ∀ completion ∈ completions, ∀ req ∈ client.requests[completion.request]?,
      req.stage ≠ .suspended) :
    (completions.foldl Client.complete client).Tracked collected := by
  induction completions generalizing client with
  | nil => exact tracked
  | cons completion rest ih =>
    obtain ⟨first, later⟩ := List.forall_mem_cons.mp prompt
    refine ih (tracked.complete first) (fun next listed found there => ?_)
    obtain ⟨req, known, stage⟩ := tracked.complete_stage first there
    rw [← stage]
    exact later next listed req known

/-! ## Sweeps -/

theorem Tracked.failRequest (tracked : swept.1.Tracked swept.2) (error : Option ErrorCode)
    (entry : PendingEntry) :
    (failRequest error swept entry).1.Tracked (failRequest error swept entry).2 := by
  unfold Client.failRequest
  cases known : swept.1.requests[entry.number]? with
  | none => exact tracked
  | some req =>
    dsimp only
    by_cases stored : req.outcome.isSome = true
    · rw [if_pos stored]
      exact tracked
    rw [if_neg stored]
    have fresh : req.outcome = none := by simpa using stored
    have ungiven : ∀ outcome, req.outcome = some outcome →
        req.stage ≠ .returned outcome := by
      intro outcome given
      rw [fresh] at given
      cases given
    split_ifs with recorded
    · have suspended : req.stage = .suspended := by
        by_contra running
        rw [tracked.running req (List.mem_of_getElem? known) running] at recorded
        cases recorded
      have uncollected := tracked.not_collected known (.inr fresh)
      refine tracked.changes known ungiven rfl ?_ (fun other => absurd suspended other)
        (fun _ listed => List.mem_append_left _ listed) ?_ (fun _ => ⟨suspended, nofun⟩) ?_
      · exact fun _ => .inr ⟨nofun, rfl, .inl ⟨List.mem_append_right _ List.mem_cons_self, rfl⟩⟩
      · intro other listed
        simp only [List.mem_append, List.mem_singleton] at listed ⊢
        tauto
      · rw [List.append_assoc]
        exact List.nodup_middle.mpr (List.nodup_cons.mpr ⟨uncollected, tracked.distinct⟩)
    · have running : req.stage ≠ .suspended := by
        intro suspended
        rcases tracked.waiting _ req known suspended with ⟨-, waits⟩ | ⟨already, -⟩
        · exact recorded waits
        · exact already fresh
      exact tracked.running_changes known running ungiven rfl
        (fun suspended => absurd suspended running) (fun _ => Bool.eq_false_iff.mpr recorded)

theorem Tracked.failPendingRequests (tracked : swept.1.Tracked swept.2) (kind : ServiceKind)
    (error : Option ErrorCode) :
    (failPendingRequests kind error swept).1.Tracked (failPendingRequests kind error swept).2 := by
  unfold Client.failPendingRequests
  generalize swept.1.pending.filter (·.kind = kind) = entries
  induction entries generalizing swept with
  | nil => exact tracked
  | cons entry rest ih => exact ih (tracked.failRequest error entry)

theorem Tracked.failAllPendingRequests (tracked : client.Tracked []) (error : Option ErrorCode) :
    (client.failAllPendingRequests error).1.Tracked (client.failAllPendingRequests error).2 :=
  ((Tracked.failPendingRequests tracked .read error).failPendingRequests .write
    error).failPendingRequests .call error

theorem Tracked.activate (tracked : client.Tracked collected) (owner : Option Nat)
    (result : Except (Option ErrorCode) Bool) (disconnects : Bool) :
    (client.activate owner collected result disconnects).Tracked [] := by
  refine { tracked with waiting := ?_ }
  intro num req known suspended
  rcases tracked.waiting num req known suspended with fresh | ⟨stored, cleared, there⟩
  · exact .inl fresh
  · refine .inr ⟨stored, cleared, .inr ?_⟩
    rcases there with ⟨listed, here⟩ | ⟨activation, listed, right⟩
    · exact ⟨_, List.mem_cons_self, here.symm, listed⟩
    · exact ⟨activation, List.mem_cons_of_mem _ listed, right⟩

/-! ## The calls of the client -/

theorem Tracked.finalizeDisconnect (tracked : client.Tracked collected) :
    client.finalizeDisconnect.Tracked collected :=
  (tracked.elsewhere false .idle false client.nextRequestId client.pending).forgets
    (fun _ listed => absurd listed List.not_mem_nil)

section

variable (tracked : client.Tracked [])

include tracked

theorem Tracked.iterateFailed (owner : Option Nat) (iteration : Iteration) :
    (client.iterateFailed owner iteration).Tracked [] := by
  have swept := tracked.failAllPendingRequests (mapStatusToError iteration.connectStatus
    (if client.state = .connecting then .connect else .runtime))
  refine Tracked.activate ?_ owner _ false
  split
  · exact swept.finalizeDisconnect
  · exact swept.elsewhere _ _ _ _ _

theorem Tracked.noteConnected (iteration : Iteration) :
    (client.noteConnected iteration).Tracked [] := by
  unfold Client.noteConnected
  split
  · exact tracked.elsewhere _ _ _ _ _
  · exact tracked

theorem Tracked.iterateConnected (owner : Option Nat) (iteration : Iteration) :
    (client.iterateConnected owner iteration).Tracked [] := by
  have swept := tracked.failAllPendingRequests (some .disconnected)
  unfold Client.iterateConnected
  split
  · exact swept.finalizeDisconnect.activate owner _ false
  split
  · exact (swept.elsewhere _ _ _ _ _).activate owner _ false
  · exact tracked.activate owner _ false

theorem Tracked.iterate {owner : Option Nat} {timeout : Int} {iteration : Iteration}
    (prompt : client.NoneSuspended iteration) :
    (client.iterate owner timeout iteration).Tracked [] := by
  have ran := tracked.completions prompt
  unfold Client.iterate
  split
  · exact tracked.activate owner _ false
  split
  · exact tracked.activate owner _ false
  · split
    · exact ran.activate owner _ false
    split
    · exact ran.iterateFailed owner iteration
    · exact (ran.noteConnected iteration).iterateConnected owner iteration

theorem Tracked.disconnect (status : StatusCode) : (client.disconnect status).Tracked [] := by
  unfold Client.disconnect
  split
  · exact tracked
  · exact (tracked.failAllPendingRequests (some .disconnected)).activate none _ true

theorem Tracked.connect (created : Bool) (status : StatusCode) :
    (client.connect created status).Tracked [] := by
  unfold Client.connect
  split
  · exact tracked
  split <;> exact tracked.elsewhere _ _ _ _ _

theorem Tracked.emplace (nextRequestId : UInt64) (entry : PendingEntry) :
    (({ client with nextRequestId := nextRequestId } : Client).emplace entry).Tracked [] := by
  unfold Client.emplace
  split <;> exact tracked.elsewhere _ _ _ _ _

end

theorem emplace_requests (client : Client) (entry : PendingEntry) :
    (client.emplace entry).requests = client.requests := by
  unfold emplace
  split <;> rfl

theorem handToBackend_cases {call : ServiceCall} {id : UInt64}
    (there : (client.handToBackend call id).requests[num]? = some req) :
    client.requests[num]? = some req ∨ req = { call := call, id := id } := by
  change (client.requests ++ [_])[num]? = _ at there
  rw [List.getElem?_append] at there
  split at there
  · exact .inl there
  rw [List.getElem?_singleton] at there
  split at there
  · exact .inr (Option.some.inj there).symm
  · cases there

theorem Tracked.handToBackend (tracked : client.Tracked []) (call : ServiceCall) {id : UInt64}
    (small : id.toNat < UInt32.size) : (client.handToBackend call id).Tracked [] := by
  have old : ∀ (num : Nat) (req : Request), client.requests[num]? = some req →
      (client.handToBackend call id).requests[num]? = some req := by
    intro num req known
    obtain ⟨inside, -⟩ := List.getElem?_eq_some_iff.mp known
    change (client.requests ++ [_])[num]? = _
    rw [List.getElem?_append_left inside, known]
  refine ⟨?_, ?_, ?_, tracked.distinct, tracked.once, ?_, ?_, ?_, tracked.heeded⟩
  · intro num req known suspended
    rcases handToBackend_cases known with before | rfl
    · exact tracked.waiting num req before suspended
    · cases suspended
  · intro req listed
    rcases List.mem_append.mp listed with before | new
    · exact tracked.running req before
    · rw [List.mem_singleton.mp new]
      exact fun _ => rfl
  · intro num listed
    obtain ⟨req, known, right⟩ := tracked.collectedWait num listed
    exact ⟨req, old num req known, right⟩
  · intro pair listed
    obtain ⟨req, known, right⟩ := tracked.given pair listed
    exact ⟨req, old pair.1 req known, right⟩
  · intro req listed
    rcases List.mem_append.mp listed with before | new
    · exact tracked.small req before
    · rw [List.mem_singleton.mp new]
      exact small
  · intro submission listed
    rcases List.mem_append.mp listed with before | new
    · obtain ⟨req, known, same⟩ := tracked.submissions submission before
      exact ⟨req, old submission.number req known, same⟩
    · rw [List.mem_singleton.mp new]
      exact ⟨_, List.getElem?_concat_length, rfl⟩

/-! ## What coroutines do next -/

section

variable (tracked : client.Tracked [])

include tracked

theorem Tracked.resumes {top : Activation} {handle : Nat} {rest : List Nat}
    {outer : List Activation}
    (stack : client.stack = { top with handles := handle :: rest } :: outer) :
    client.resumeNext.Tracked [] := by
  have all : client.handles = handle :: (rest ++ outer.flatMap (·.handles)) := by
    rw [handles, stack]
    rfl
  obtain ⟨req, known, suspended, stored⟩ :=
    tracked.collectedWait handle (by rw [all]; exact List.mem_cons_self)
  obtain ⟨outcome, given⟩ := Option.ne_none_iff_exists'.mp stored
  have distinct := tracked.distinct
  rw [List.nil_append, all, List.nodup_cons] at distinct
  let changed : Request := { req with stage := .returned outcome }
  have looked : ∀ other, (client.requests.set handle changed)[other]? =
      if other = handle then some changed else client.requests[other]? :=
    fun other => getElem?_setRequest known other
  have cleared : req.continuation = false := by
    rcases tracked.waiting handle req known suspended with ⟨none, -⟩ | ⟨-, cleared, -⟩
    · exact absurd none stored
    · exact cleared
  have unresumed : handle ∉ client.resumed.map Prod.fst := by
    refine tracked.unresumed known (fun _ _ ended => ?_)
    rw [ended] at suspended
    cases suspended
  unfold resumeNext
  rw [stack]
  dsimp only
  rw [known]
  dsimp only
  split
  · rename_i none
    cases none.symm.trans given
  rename_i found same
  obtain rfl := Option.some.inj (same.symm.trans given)
  refine ⟨?_, ?_, ?_, distinct.2, ?_, ?_, tracked.small_setRequest known rfl,
    tracked.submissions_setRequest known rfl, tracked.heeded⟩
  · intro other found there waits
    replace there := (looked other).symm.trans there
    split at there
    · obtain rfl := Option.some.inj there
      cases waits
    · rename_i different
      rcases tracked.waiting other found there waits with fresh | ⟨has, unrecorded, collected⟩
      · exact .inl fresh
      · refine .inr ⟨has, unrecorded, collected.imp_right ?_⟩
        rintro ⟨activation, listed, same, held⟩
        rw [stack] at listed
        rcases List.mem_cons.mp listed with rfl | outside
        · refine ⟨_, List.mem_cons_self, same, ?_⟩
          exact (List.mem_cons.mp held).resolve_left different
        · exact ⟨activation, List.mem_cons_of_mem _ outside, same, held⟩
  · intro found listed
    rcases List.mem_or_eq_of_mem_set listed with old | rfl
    · exact tracked.running found old
    · exact fun _ => cleared
  · intro other listed
    have different : other ≠ handle := fun same => distinct.1 (same ▸ listed)
    obtain ⟨found, there, waits⟩ :=
      tracked.collectedWait other (by rw [all]; exact List.mem_cons_of_mem _ listed)
    exact ⟨found, ((looked other).trans (if_neg different)).trans there, waits⟩
  · rw [List.map_append, List.map_singleton]
    refine List.nodup_append.mpr ⟨tracked.once, List.nodup_singleton _, ?_⟩
    intro first listed last new same
    rw [same, List.mem_singleton.mp new] at listed
    exact unresumed listed
  · intro pair listed
    rcases List.mem_append.mp listed with old | new
    · exact tracked.given_setRequest known unresumed pair old
    · rw [List.mem_singleton.mp new]
      exact ⟨changed, (looked handle).trans (if_pos rfl), given, rfl⟩

theorem Tracked.resumeNext : client.resumeNext.Tracked [] := by
  cases stack : client.stack with
  | nil =>
    unfold Client.resumeNext
    rw [stack]
    exact tracked
  | cons top outer =>
    obtain ⟨num, owner, handles, result, disconnects⟩ := top
    cases handles with
    | nil =>
      unfold Client.resumeNext
      rw [stack]
      exact tracked
    | cons handle rest =>
      have innermost : client.stack = { (⟨num, owner, [], result, disconnects⟩ : Activation)
          with handles := handle :: rest } :: outer := stack
      exact tracked.resumes innermost

theorem Tracked.giveBack (known : client.requests[num]? = some req)
    (iterating : req.stage = .iterating) (outcome : Outcome) :
    (client.giveBack num req outcome).Tracked [] := by
  have erased := tracked.elsewhere client.native client.state client.deleteAfterDisconnect
    client.nextRequestId (client.erase req.call.kind req.id).pending
  refine erased.iterating_changes known iterating rfl nofun (fun _ => ?_)
  exact tracked.running req (List.mem_of_getElem? known) (by simp [iterating])

theorem Tracked.awaitOutcome (known : client.requests[num]? = some req)
    (iterating : req.stage = .iterating) (result : Except (Option ErrorCode) Bool) :
    (client.awaitOutcome num req result).Tracked [] := by
  unfold Client.awaitOutcome
  split
  · exact tracked.giveBack known iterating _
  · exact tracked.giveBack known iterating _
  split
  · exact tracked.giveBack known iterating _
  · rename_i fresh
    exact tracked.iterating_changes known iterating rfl (fun _ => ⟨fresh, rfl⟩)
      (fun running => absurd rfl running)

theorem Tracked.awaitOwner (owner : Option Nat) (result : Except (Option ErrorCode) Bool) :
    (client.awaitOwner owner result).Tracked [] := by
  unfold Client.awaitOwner
  split
  · exact tracked
  split
  · exact tracked
  · rename_i known
    split
    · rename_i iterating
      exact tracked.awaitOutcome known iterating result
    · exact tracked

theorem Tracked.leave : client.leave.Tracked [] := by
  unfold Client.leave
  split
  · rename_i num owner result disconnects outer top
    have left : ({ client with stack := outer } : Client).Tracked [] := by
      have all : client.handles = outer.flatMap (·.handles) := by
        rw [Client.handles, top]
        rfl
      refine ⟨?_, tracked.running, ?_, ?_, tracked.once, tracked.given, tracked.small,
        tracked.submissions, tracked.heeded⟩
      · intro other found there suspended
        rcases tracked.waiting other found there suspended with fresh | ⟨stored, cleared, there⟩
        · exact .inl fresh
        · refine .inr ⟨stored, cleared, there.imp_right ?_⟩
          rintro ⟨activation, listed, same, held⟩
          rw [top] at listed
          rcases List.mem_cons.mp listed with rfl | outside
          · cases held
          · exact ⟨activation, outside, same, held⟩
      · intro other listed
        refine tracked.collectedWait other ?_
        rw [all]
        exact listed
      · have distinct := tracked.distinct
        rw [all] at distinct
        exact distinct
    refine Tracked.awaitOwner ?_ owner result
    split
    · exact left.elsewhere _ _ _ _ _
    · exact left
  · exact tracked

end

/-! ## Every run in which callbacks come in time -/

/-- No callback is run for a request whose coroutine is suspended, and the id of a request that is made
is below 2³². -/
def Prompt (client : Client) : ClientEvent → Prop
  | .request _ _ iteration =>
    client.nextRequestId.toNat < UInt32.size ∧ client.NoneSuspended iteration
  | .iterate _ iteration => client.NoneSuspended iteration
  | _ => True

instance (client : Client) (iteration : Iteration) : Decidable (client.NoneSuspended iteration) :=
  inferInstanceAs (Decidable (∀ completion ∈ iteration.completions,
    ∀ req ∈ client.requests[completion.request]?, req.stage ≠ .suspended))

instance (client : Client) (event : ClientEvent) : Decidable (client.Prompt event) :=
  match event with
  | .request _ _ iteration =>
    inferInstanceAs (Decidable (client.nextRequestId.toNat < UInt32.size ∧
      client.NoneSuspended iteration))
  | .iterate _ iteration => inferInstanceAs (Decidable (client.NoneSuspended iteration))
  | .connect _ _ | .disconnect _ | .resumeNext | .leave => .isTrue trivial

theorem Tracked.step (tracked : client.Tracked []) {event : ClientEvent}
    (prompt : client.Prompt event) : (client.step event).Tracked [] := by
  cases event with
  | connect created status => exact tracked.connect created status
  | request call submitStatus iteration =>
    change (client.request call submitStatus iteration).Tracked []
    unfold request
    split
    · exact tracked
    have numbered := tracked.emplace (client.nextRequestId + 1)
      ⟨call.kind, client.nextRequestId, client.requests.length⟩
    split
    · exact numbered.elsewhere _ _ _ _ _
    -- the iteration that a service call makes may run the callback of its own request
    refine (numbered.handToBackend call prompt.1).iterate (fun completion listed found there => ?_)
    rcases handToBackend_cases there with before | rfl
    · rw [emplace_requests] at before
      exact prompt.2 completion listed found before
    · exact nofun
  | iterate timeout iteration => exact tracked.iterate prompt
  | disconnect status => exact tracked.disconnect status
  | resumeNext => exact tracked.resumeNext
  | leave => exact tracked.leave

def connecting : List ClientEvent := [.connect true .good, .iterate 0 {}, .leave]

/-- The backend answers a read in the second iteration, after the coroutine of the read suspended. -/
def answeredLater : List ClientEvent :=
  connecting ++ [.request (.readNode "i=2258") .good {}, .leave,
    .iterate 0 { completions := [⟨0, .good, some "5", []⟩] }, .leave, .disconnect .good, .leave]

def refusedRead : ClientEvent := .request (.readNode "i=2258") .badInternalError {}

/-- A read that is made after as many that were not taken, and that the backend answers in the first
iteration. -/
def readAfter (refused : Nat) : List ClientEvent :=
  connecting ++ List.replicate refused refusedRead ++
    [.request (.readNode "i=2258") .good { completions := [⟨0, .good, some "5", []⟩] }, .leave]

section

variable (native : client.native = true) (connected : client.state = .connected)
  (empty : client.pending = [])

include native connected empty

/-- A read that is not taken leaves no trace but the id it used. -/
theorem refusedRead_step :
    client.step refusedRead = { client with nextRequestId := client.nextRequestId + 1 } := by
  have sess : client.serviceSessionError = none := by
    simp [serviceSessionError, native, connected]
  have named : (ServiceCall.readNode "i=2258").complete = true := by decide
  have refused : StatusCode.badInternalError ≠ .good := by decide
  simp [step, refusedRead, request, sess, named, refused, emplace, erase, empty]

theorem refusedReads_run (refused : Nat) :
    run step client (List.replicate refused refusedRead) =
      { client with nextRequestId := client.nextRequestId + UInt64.ofNat refused } := by
  induction refused generalizing client with
  | zero => simp
  | succ refused ih =>
    rw [List.replicate_succ, run_cons, refusedRead_step native connected empty]
    refine (ih ?_ ?_ ?_).trans ?_
    · exact native
    · exact connected
    · exact empty
    · have next : client.nextRequestId + 1 + UInt64.ofNat refused =
          client.nextRequestId + UInt64.ofNat (refused + 1) := by
        rw [UInt64.ofNat_add, UInt64.add_assoc, UInt64.add_comm 1]
        rfl
      rw [next]

end

def plant : Client := { config := { endpointUrl := "opc.tcp://plant:4840" } }

theorem outcomes_lost :
    (run step plant answeredLater).stack = [] ∧ (run step plant answeredLater).resumed = [] ∧
      (∃ req ∈ (run step plant answeredLater).requests, req.stage = .suspended ∧
        req.outcome = some (.value "i=2258" "5")) ∧
      ¬(run step plant answeredLater).Resolved ∧
      (run step plant (readAfter 4294967295)).ignored = [0] ∧
      ¬(run step plant (readAfter 4294967295)).Resolved := by
  have ignored : (run step plant (readAfter 4294967295)).ignored = [0] := by
    have native : (run step plant connecting).native = true := by decide
    have connected : (run step plant connecting).state = .connected := by decide
    have empty : (run step plant connecting).pending = [] := by decide
    rw [readAfter, run_append, run_append, refusedReads_run native connected empty]
    decide
  refine ⟨by decide, by decide, by decide, fun resolved => ?_, ignored, fun resolved => ?_⟩
  · obtain ⟨activation, listed, -⟩ := resolved.inTime 0
      ⟨.readNode "i=2258", 1, some (.value "i=2258" "5"), true, .suspended, 2⟩ (by decide) rfl nofun
    cases listed
  · rw [resolved.heeded] at ignored
    cases ignored

/-- In a run in which no callback is run for a request whose coroutine is suspended and ids stay below
2³², every coroutine suspended on a request with an outcome is resumed once, with that outcome,
before the call in which it was stored returns, and no callback is passed over. -/
theorem requests_resolved {config : ClientConfig} {events : List ClientEvent}
    (prompt : Admissible step Prompt { config := config } events) :
    (run step { config := config } events).Resolved := by
  have preserved : ∀ (client : Client) event, client.Tracked [] → client.Prompt event →
      (client.step event).Tracked [] := fun _ _ tracked here => tracked.step here
  have tracked := invariant_run preserved (tracked_initially config) prompt
  exact tracked.resolved

/-- A read is answered in its own iteration, a write and a call of a method are failed as the client
disconnects, and the coroutines suspended on them are resumed before that returns. -/
def answeredAtOnce : List ClientEvent :=
  connecting ++
    [.request (.readNode "i=2258") .good { completions := [⟨0, .good, some "5", []⟩] }, .leave,
      .request (.writeNode "ns=2;s=Valve" "open") .good {}, .leave,
      .request (.callMethod "ns=2;s=Pump" "ns=2;s=Start" ["1"]) .good {}, .leave,
      .disconnect .good, .resumeNext, .resumeNext, .leave]

theorem requests_resolved_at_once :
    (run step plant answeredAtOnce).requests.map (·.stage) =
        [.returned (.value "i=2258" "5"), .returned (.failed (some .disconnected)),
          .returned (.failed (some .disconnected))] ∧
      (run step plant answeredAtOnce).resumed.map Prod.fst = [1, 2] ∧
      (run step plant answeredAtOnce).Resolved :=
  ⟨by decide, by decide, requests_resolved (by decide)⟩

end Client

end KmxAio.OpcUa
