import KmxAio.Lib.Run
import Mathlib.Algebra.Group.Nat.Even

/-!
# Calls of the SOME/IP client

A call waits for a response under a key made of the ids of its request, and a response is filed
under the key made of the ids it carries. Sending the request is what assigns these ids, and the key
of the call is computed before. So no call ever returns its answer.
-/

namespace KmxAio.SomeIp

open KmxAio.Lib.Run

structure Ids where
  client : UInt16 := 0
  session : UInt16 := 0
  deriving DecidableEq

structure RpcMessage where
  serviceId : UInt16
  instanceId : UInt16
  methodId : UInt16
  requestId : UInt32
  payload : List UInt8
  deriving DecidableEq

def makeRequestId (ids : Ids) : UInt32 := (ids.client.toUInt32 <<< 16) ||| ids.session.toUInt32

def responseKey (ids : Ids) (serviceId methodId : UInt16) : UInt64 :=
  (ids.client.toUInt64 <<< 48) ||| (ids.session.toUInt64 <<< 32) |||
    (serviceId.toUInt64 <<< 16) ||| methodId.toUInt64

theorem responseKey_toNat (ids : Ids) (serviceId methodId : UInt16) :
    (responseKey ids serviceId methodId).toNat = (ids.client.toNat * 2 ^ 48 +
      (ids.session.toNat * 2 ^ 32 + (serviceId.toNat * 2 ^ 16 + methodId.toNat))) := by
  have client := ids.client.toNat_lt
  have session := ids.session.toNat_lt
  have service := serviceId.toNat_lt
  have method := methodId.toNat_lt
  simp only [responseKey, UInt64.toNat_or, UInt64.toNat_shiftLeft, UInt16.toNat_toUInt64,
    UInt64.reduceToNat, Nat.reduceMod, Nat.or_assoc, Nat.shiftLeft_eq]
  rw [Nat.mod_eq_of_lt (by omega), Nat.mod_eq_of_lt (by omega), Nat.mod_eq_of_lt (by omega)]
  simp only [← Nat.shiftLeft_eq]
  have low : serviceId.toNat <<< 16 + methodId.toNat < 2 ^ 32 := by rw [Nat.shiftLeft_eq]; omega
  have high : ids.session.toNat <<< 32 + (serviceId.toNat <<< 16 + methodId.toNat) < 2 ^ 48 := by
    rw [Nat.shiftLeft_eq]; omega
  rw [← Nat.shiftLeft_add_eq_or_of_lt method, ← Nat.shiftLeft_add_eq_or_of_lt low,
    ← Nat.shiftLeft_add_eq_or_of_lt high]

theorem responseKey_inj {ids other : Ids} {serviceId otherService methodId otherMethod : UInt16}
    (same : responseKey ids serviceId methodId = responseKey other otherService otherMethod) :
    ids = other := by
  have equal := congrArg UInt64.toNat same
  simp only [responseKey_toNat] at equal
  obtain ⟨client, session⟩ := ids
  obtain ⟨otherClient, otherSession⟩ := other
  have := client.toNat_lt
  have := session.toNat_lt
  have := otherClient.toNat_lt
  have := otherSession.toNat_lt
  have := serviceId.toNat_lt
  have := otherService.toNat_lt
  have := methodId.toNat_lt
  have := otherMethod.toNat_lt
  simp only [Ids.mk.injEq, ← UInt16.toNat_inj]
  dsimp only at equal
  omega

/-- A call, the ids of its request when its key is computed and when it was sent, the response that
was delivered to it, and what it returned once it has. -/
structure Call where
  serviceId : UInt16
  instanceId : UInt16
  methodId : UInt16
  created : Ids
  sent : Ids
  delivered : Option RpcMessage := none
  result : Option (Option RpcMessage) := none
  deriving DecidableEq

def Call.key (call : Call) : UInt64 := responseKey call.created call.serviceId call.methodId

def Call.answerKey (call : Call) : UInt64 := responseKey call.sent call.serviceId call.methodId

/-- The response to a request carries its ids. -/
def Call.response (call : Call) (payload : List UInt8) : RpcMessage :=
  ⟨call.serviceId, call.instanceId, call.methodId, makeRequestId call.sent, payload⟩

structure ClientRuntime where
  responses : UInt64 → Option RpcMessage := fun _ => none
  calls : Nat → Option Call := fun _ => none

inductive Event where
  | callMethod (number : Nat) (serviceId instanceId methodId : UInt16) (created sent : Ids)
  | storeResponse (number : Nat) (payload : List UInt8)
  | wake (number : Nat) (timedOut : Bool)
  deriving DecidableEq

namespace ClientRuntime

/-- Files the response to a call under the ids it was sent with. -/
def storeResponse (runtime : ClientRuntime) (num : Nat) (call : Call) (payload : List UInt8) :
    ClientRuntime :=
  { responses := Function.update runtime.responses call.answerKey (some (call.response payload))
    calls := Function.update runtime.calls num
      (some { call with delivered := some (call.response payload) }) }

/-- A waiting call looks for its response; it gives up if its time is over and there is none. -/
def wake (runtime : ClientRuntime) (num : Nat) (call : Call) (timedOut : Bool) :
    ClientRuntime :=
  match call.result, runtime.responses call.key with
  | some _, _ => runtime
  | none, some response =>
    { responses := Function.update runtime.responses call.key none
      calls := Function.update runtime.calls num
        (some { call with result := some (some response) }) }
  | none, none =>
    if timedOut then
      { runtime with
        calls := Function.update runtime.calls num (some { call with result := some none }) }
    else runtime

def step (runtime : ClientRuntime) : Event → ClientRuntime
  | .callMethod num serviceId instanceId methodId created sent =>
    { runtime with
      calls := Function.update runtime.calls num
        (some { serviceId, instanceId, methodId, created, sent }) }
  | .storeResponse num payload =>
    match runtime.calls num with
    | none => runtime
    | some call => runtime.storeResponse num call payload
  | .wake num timedOut =>
    match runtime.calls num with
    | none => runtime
    | some call => runtime.wake num call timedOut

/-- The ids of a request are zero until it is sent, and fresh from then on. -/
def FreshIds (runtime : ClientRuntime) : Event → Prop
  | .callMethod num _ _ _ created sent =>
    runtime.calls num = none ∧ created = {} ∧ sent ≠ {} ∧
      ∀ other call, runtime.calls other = some call → call.sent ≠ sent
  | _ => True

/-- Every response ever delivered is in the table, and no call has returned one. -/
structure Unanswered (runtime : ClientRuntime) : Prop where
  zero : ∀ num call, runtime.calls num = some call → call.created = {} ∧ call.sent ≠ {}
  fresh : ∀ num other call another, runtime.calls num = some call →
    runtime.calls other = some another → call.sent = another.sent → num = other
  returned : ∀ num call result, runtime.calls num = some call → call.result = some result →
    result = none
  stays : ∀ num call, runtime.calls num = some call →
    (runtime.responses call.answerKey = none ↔ call.delivered = none)
  stored : ∀ key, runtime.responses key ≠ none →
    ∃ num call, runtime.calls num = some call ∧ call.answerKey = key

variable {runtime : ClientRuntime} {num : Nat} {call now : Call}
  {responses : UInt64 → Option RpcMessage}

section

variable (unanswered : runtime.Unanswered)

include unanswered

/-- One call begins or goes on. -/
theorem Unanswered.update (zero : now.created = {} ∧ now.sent ≠ {})
    (fresh : ∀ other call, runtime.calls other = some call → call.sent = now.sent → num = other)
    (returned : ∀ result, now.result = some result → result = none)
    (stays : responses now.answerKey = none ↔ now.delivered = none)
    (elsewhere : ∀ key, key ≠ now.answerKey → responses key = runtime.responses key)
    (same : ∀ call, runtime.calls num = some call → call.answerKey = now.answerKey) :
    Unanswered { responses, calls := Function.update runtime.calls num (some now) } := by
  -- a call after the change is the new one, or another one as it was
  have cases : ∀ other call, Function.update runtime.calls num (some now) other = some call →
      (other = num ∧ now = call) ∨ (other ≠ num ∧ runtime.calls other = some call) := by
    intro other call found
    by_cases equal : other = num <;> simpa [equal] using found
  refine ⟨?_, ?_, ?_, ?_, ?_⟩
  · intro other call found
    rcases cases other call found with ⟨-, rfl⟩ | ⟨-, before⟩
    · exact zero
    · exact unanswered.zero other call before
  · intro first second call another found also equal
    rcases cases first call found with ⟨rfl, rfl⟩ | ⟨-, before⟩ <;>
      rcases cases second another also with ⟨rfl, rfl⟩ | ⟨-, beforeToo⟩
    · rfl
    · exact fresh second another beforeToo equal.symm
    · exact (fresh first call before equal).symm
    · exact unanswered.fresh first second call another before beforeToo equal
  · intro other call result found ended
    rcases cases other call found with ⟨-, rfl⟩ | ⟨-, before⟩
    · exact returned result ended
    · exact unanswered.returned other call result before ended
  · intro other call found
    rcases cases other call found with ⟨-, rfl⟩ | ⟨different, before⟩
    · exact stays
    · have other : call.answerKey ≠ now.answerKey := fun equal =>
        different (fresh _ call before (responseKey_inj equal)).symm
      exact (iff_of_eq (congrArg (· = none) (elsewhere _ other))).trans
        (unanswered.stays _ call before)
  · intro key there
    by_cases equal : key = now.answerKey
    · exact ⟨num, now, Function.update_self .., equal.symm⟩
    · obtain ⟨other, call, found, rfl⟩ := unanswered.stored key (elsewhere key equal ▸ there)
      have different : other ≠ num := fun here => equal (same call (here ▸ found))
      exact ⟨other, call, (Function.update_of_ne different ..).trans found, rfl⟩

/-- A call keeps its ids whatever else of it changes. -/
theorem Unanswered.change (found : runtime.calls num = some call)
    (created : now.created = call.created) (sent : now.sent = call.sent)
    (key : now.answerKey = call.answerKey)
    (returned : ∀ result, now.result = some result → result = none)
    (stays : responses now.answerKey = none ↔ now.delivered = none)
    (elsewhere : ∀ key, key ≠ now.answerKey → responses key = runtime.responses key) :
    Unanswered { responses, calls := Function.update runtime.calls num (some now) } := by
  refine unanswered.update ?_ ?_ returned stays elsewhere ?_
  · rw [created, sent]
    exact unanswered.zero num call found
  · intro other another also same
    exact unanswered.fresh num other call another found also (sent.symm.trans same.symm)
  · intro other also
    cases found.symm.trans also
    exact key.symm

theorem Unanswered.storeResponse (found : runtime.calls num = some call) (payload : List UInt8) :
    (runtime.storeResponse num call payload).Unanswered := by
  refine unanswered.change found rfl rfl rfl (unanswered.returned num call · found) ?_ ?_
  · simp [Call.answerKey]
  · exact fun key different => Function.update_of_ne different ..

theorem Unanswered.nothing_stored (found : runtime.calls num = some call) :
    runtime.responses call.key = none := by
  by_contra there
  obtain ⟨other, another, also, same⟩ := unanswered.stored _ there
  rw [Call.key, (unanswered.zero num call found).1] at same
  exact (unanswered.zero other another also).2 (responseKey_inj same)

theorem Unanswered.wake (found : runtime.calls num = some call) (timedOut : Bool) :
    (runtime.wake num call timedOut).Unanswered := by
  simp only [ClientRuntime.wake, unanswered.nothing_stored found]
  split
  · exact unanswered
  · contradiction
  · split
    · have stays := unanswered.stays num call found
      refine unanswered.change found rfl rfl rfl ?_ stays fun _ _ => rfl
      rintro _ ⟨⟩
      rfl
    · exact unanswered

theorem Unanswered.step {event : Event} (ids : runtime.FreshIds event) :
    (runtime.step event).Unanswered := by
  cases event with
  | callMethod num serviceId instanceId methodId created sent =>
    obtain ⟨unused, zero, assigned, fresh⟩ := ids
    refine unanswered.update ⟨zero, assigned⟩
      (fun other call found same => absurd same (fresh other call found)) ?_ ?_ (fun _ _ => rfl) ?_
    · rintro _ ⟨⟩
    · refine iff_of_true ?_ rfl
      by_contra there
      obtain ⟨other, call, found, same⟩ := unanswered.stored _ there
      exact fresh other call found (responseKey_inj same)
    · intro call found
      cases unused.symm.trans found
  | storeResponse num payload =>
    simp only [ClientRuntime.step]
    cases found : runtime.calls num with
    | none => exact unanswered
    | some call => exact unanswered.storeResponse found payload
  | wake num timedOut =>
    simp only [ClientRuntime.step]
    cases found : runtime.calls num with
    | none => exact unanswered
    | some call => exact unanswered.wake found timedOut

end

/-- As the ids of a request are zero until it is sent, no call returns a response, its own or
another's. So a call that has returned did return what was delivered to it, and left no response
behind, exactly if nothing was delivered to it. -/
theorem calls_return_no_answers (events : List Event) (ids : Admissible step FreshIds {} events)
    (num : Nat) (call : Call) (found : (run step {} events).calls num = some call)
    (result : Option RpcMessage) (returned : call.result = some result) :
    result = none ∧
      ((result = call.delivered ∧ (run step {} events).responses call.answerKey = none) ↔
        call.delivered = none) := by
  have unanswered : Unanswered (run step {} events) := by
    refine invariant_run (fun _ _ unanswered ids => unanswered.step ids) ⟨?_, ?_, ?_, ?_, ?_⟩ ids
    · rintro _ _ ⟨⟩
    · rintro _ _ _ _ ⟨⟩
    · rintro _ _ _ ⟨⟩
    · rintro _ _ ⟨⟩
    · exact fun _ there => absurd rfl there
  obtain rfl := unanswered.returned num call result found returned
  rw [unanswered.stays num call found]
  exact ⟨rfl, And.right, fun nothing => ⟨nothing.symm, nothing⟩⟩

/-- Two calls; the second gives up before anything was delivered to it. -/
theorem calls_return_no_answers_two :
    let events := [.callMethod 0 1 2 3 {} ⟨7, 1⟩, .callMethod 1 1 2 3 {} ⟨7, 2⟩, .storeResponse 0 [5],
      .wake 1 true]
    (run step {} events).responses (responseKey ⟨7, 1⟩ 1 3) = some ⟨1, 2, 3, 0x70001, [5]⟩ ∧
      (run step {} events).responses (responseKey ⟨7, 2⟩ 1 3) = none := by
  intro events
  refine ⟨by decide, ?_⟩
  refine ((calls_return_no_answers events ?_ 1 ⟨1, 2, 3, {}, ⟨7, 2⟩, none, some none⟩ (by decide) none
    rfl).2.mpr rfl).2
  refine ⟨⟨rfl, rfl, by decide, by rintro _ _ ⟨⟩⟩, ⟨rfl, rfl, by decide, fun other call found => ?_⟩,
    trivial, trivial, trivial⟩
  simp only [step, Function.update_apply] at found
  split at found <;> cases found
  decide

/-- The key is computed while both ids are still zero: the call waits under another key than its
response is filed under, gives up, and the response stays. -/
theorem answer_never_found :
    let events := [.callMethod 0 1 2 3 {} ⟨7, 1⟩, .storeResponse 0 [5], .wake 0 true, .wake 0 true]
    ((run step {} events).calls 0).bind Call.result = some none ∧
      ((run step {} events).calls 0).bind Call.delivered = some ⟨1, 2, 3, 0x70001, [5]⟩ ∧
      (run step {} events).responses (responseKey ⟨7, 1⟩ 1 3) = some ⟨1, 2, 3, 0x70001, [5]⟩ := by
  decide

end ClientRuntime

end KmxAio.SomeIp
