import KmxAio.Modbus.RemoteCall

/-!
# A Modbus client against any server

The server sends messages of its own choice, one after another. What an exchange returns
is one of their PDUs if every exchange before it has succeeded: one that fails leaves the
stream inside a message.
-/

namespace KmxAio.Modbus

open Lib.Wire Lib.ExactRead Lib.Run Connection

structure Adu where
  transactionId : UInt16
  unitId : UInt8
  pdu : Octets
  deriving DecidableEq

def serverStream (adus : List Adu) : Octets :=
  adus.flatMap fun adu => buildAdu adu.transactionId adu.unitId adu.pdu

/-- A client whose server sends these messages, after some calls and reads. -/
def clientOf (setup : Setup Unit) (adus : List Adu) (events : List Connection.Event) :
    Connection Unit :=
  run (Connection.step setup) { world := (), toClient := serverStream adus } events

/-- An exchange begins when the one before it is over and none has failed, and no read is for more
than is wanted. -/
def OfClient (conn : Connection Unit) : Connection.Event → Prop
  | .call _ => conn.client = .idle ∧ conn.results.all Except.isOk = true
  | .clientRead count => count ≤ Connection.clientRoom conn.client
  | _ => False

instance (conn : Connection Unit) (event : Connection.Event) :
    Decidable (OfClient conn event) :=
  match event with
  | .call _ => inferInstanceAs (Decidable (_ ∧ _))
  | .clientRead _ => inferInstanceAs (Decidable (_ ≤ _))
  | .serverRead _ => inferInstanceAs (Decidable False)
  | .respond => inferInstanceAs (Decidable False)

section

variable (setup : Setup Unit)

/-- The message is the one an exchange waits for. -/
def Adu.answers (adu : Adu) (num : Nat) : Prop :=
  adu.transactionId = UInt16.ofNat num ∧ adu.unitId = setup.clientUnitId

/-- Where an exchange is in the messages that are left. -/
inductive Aligned (number : Nat) : List Adu → ClientPhase → UInt16 → Octets → Prop
  | idle (adus : List Adu) : Aligned number adus .idle (UInt16.ofNat number) (serverStream adus)
  | header {adus : List Adu} {got stream : Octets} (joined : got ++ stream = serverStream adus)
      (short : got.length < mbapSize) :
      Aligned number adus (.readingHeader (UInt16.ofNat number) got) (UInt16.ofNat (number + 1)) stream
  | pdu {adu : Adu} {rest : List Adu} {got stream : Octets} (answers : adu.answers setup number)
      (fills : Fills adu.pdu.length got stream adu.pdu (serverStream rest)) :
      Aligned number (adu :: rest) (.readingPdu adu.pdu.length got) (UInt16.ofNat (number + 1)) stream

end

variable {setup : Setup Unit} {num : Nat} {adus : List Adu} {conn : Connection Unit}

/-- The header of a message lets the exchange go on only if the message is the one it waits for. -/
theorem checkHeader_encoded (adu : Adu) (isPdu : IsPdu adu.pdu) (tid : UInt16) :
    (adu.transactionId = tid ∧ adu.unitId = setup.clientUnitId ∧
      conn.checkHeader setup tid (encodeMbap adu.transactionId (UInt16.ofNat adu.pdu.length)
        adu.unitId) = { conn with client := .readingPdu adu.pdu.length [] }) ∨
    ∃ why, conn.checkHeader setup tid (encodeMbap adu.transactionId
      (UInt16.ofNat adu.pdu.length) adu.unitId) = conn.returns (.error why) := by
  have nonempty := isPdu.1
  rw [checkHeader, decodeMbap_encodeMbap]
  dsimp only
  by_cases sameTid : adu.transactionId = tid
  · rw [if_neg (not_not_intro sameTid)]
    by_cases sameUnit : adu.unitId = setup.clientUnitId
    · rw [if_neg (not_not_intro sameUnit), isPdu.length_field, if_neg (by omega), if_pos (by omega)]
      exact .inl ⟨sameTid, sameUnit, rfl⟩
    · rw [if_pos sameUnit]
      exact .inr ⟨_, rfl⟩
  · rw [if_pos sameTid]
    exact .inr ⟨_, rfl⟩

/-- A read goes on in the message, returns its PDU, or fails. -/
theorem Aligned.clientRead (wellFormed : ∀ adu ∈ adus, IsPdu adu.pdu)
    (aligned : Aligned setup num adus conn.client conn.nextTid conn.toClient)
    {count : Nat} (room : count ≤ clientRoom conn.client) :
    (∃ client stream, conn.clientRead setup count =
        { conn with client := client, toClient := stream } ∧
      Aligned setup num adus client conn.nextTid stream) ∨
    (∃ adu rest, adus = adu :: rest ∧ adu.answers setup num ∧
      conn.nextTid = UInt16.ofNat (num + 1) ∧ conn.clientRead setup count =
        { conn with toClient := serverStream rest }.returns (.ok adu.pdu)) ∨
    ∃ why stream, conn.clientRead setup count =
      { conn with toClient := stream }.returns (.error why) := by
  obtain ⟨world, nextTid, client, srv, toServer, toClient, requests, results⟩ := conn
  rw [clientRead]
  cases aligned with
  | idle => exact .inl ⟨.idle, _, rfl, .idle adus⟩
  | @header _ got _ joined short =>
    dsimp only
    split
    · exact .inr (.inr ⟨_, _, rfl⟩)
    split
    · rename_i more
      refine .inl ⟨_, _, rfl, .header ?_ more⟩
      rw [List.append_assoc, List.take_append_drop, joined]
    · rename_i whole
      cases adus with
      | nil =>
        obtain ⟨rfl, rfl⟩ := List.append_eq_nil_iff.mp joined
        exact absurd (by simp [mbapSize]) whole
      | cons adu rest =>
        have fills : Fills mbapSize got toClient (encodeMbap adu.transactionId
            (UInt16.ofNat adu.pdu.length) adu.unitId) (adu.pdu ++ serverStream rest) :=
          ⟨by rw [joined, ← List.append_assoc]; rfl, encodeMbap_length _ _ _, short⟩
        have isPdu := wellFormed adu List.mem_cons_self
        rw [clientRoom] at room
        obtain ⟨read, behind⟩ := fills.full (by omega) whole
        rw [read, behind]
        rcases checkHeader_encoded adu isPdu (UInt16.ofNat num) with
          ⟨sameTid, sameUnit, goesOn⟩ | ⟨why, refused⟩
        · rw [goesOn]
          exact .inl ⟨_, _, rfl, .pdu ⟨sameTid, sameUnit⟩ (.start rfl isPdu.1)⟩
        · rw [refused]
          exact .inr (.inr ⟨why, _, rfl⟩)
  | @pdu adu rest got _ answers fills =>
    dsimp only
    split
    · exact .inr (.inr ⟨_, _, rfl⟩)
    split
    · rename_i more
      exact .inl ⟨_, _, rfl, .pdu answers (fills.read more)⟩
    · rename_i whole
      rw [clientRoom] at room
      obtain ⟨read, behind⟩ := fills.full (by omega) whole
      rw [read, behind]
      exact .inr (.inl ⟨adu, rest, rfl, answers, rfl, rfl⟩)

/-- The results are the PDUs of the first messages, each the one its exchange waited for, until an
exchange fails. -/
structure Returned (setup : Setup Unit) (adus : List Adu) (conn : Connection Unit)
    (done rest : List Adu) : Prop where
  adus_eq : adus = done ++ rest
  answers : ∀ entry ∈ done.zipIdx, entry.1.answers setup entry.2
  results : (conn.results = done.map (fun adu => .ok adu.pdu) ∧
      Aligned setup done.length rest conn.client conn.nextTid conn.toClient) ∨
    (conn.client = .idle ∧ ∃ why, conn.results = done.map (fun adu => .ok adu.pdu) ++ [.error why])

theorem Returned.step (wellFormed : ∀ adu ∈ adus, IsPdu adu.pdu) {done rest : List Adu}
    (returned : Returned setup adus conn done rest) {event : Connection.Event}
    (ofClient : OfClient conn event) :
    ∃ done rest, Returned setup adus (conn.step setup event) done rest := by
  obtain ⟨adus_eq, answers, ⟨results, aligned⟩ | ⟨idle, why, results⟩⟩ := returned
  · cases event with
    | call pdu =>
      refine ⟨done, rest, adus_eq, answers, .inl ⟨results, ?_⟩⟩
      rw [ofClient.1] at aligned
      obtain ⟨tid, stream⟩ : conn.nextTid = UInt16.ofNat done.length ∧
          conn.toClient = serverStream rest := by
        generalize conn.nextTid = tid at aligned
        generalize conn.toClient = stream at aligned
        cases aligned with
        | idle => exact ⟨rfl, rfl⟩
      show Aligned setup _ rest (.readingHeader conn.nextTid []) (conn.nextTid + 1)
        conn.toClient
      rw [tid, stream, ← UInt16.ofNat_one, ← UInt16.ofNat_add]
      exact .header rfl (by decide)
    | clientRead count =>
      have isPdu : ∀ adu ∈ rest, IsPdu adu.pdu := fun adu listed =>
        wellFormed adu (adus_eq ▸ List.mem_append_right _ listed)
      rw [Connection.step]
      rcases aligned.clientRead isPdu ofClient with
        ⟨client, stream, next, still⟩ | ⟨adu, behind, rfl, answer, tid, next⟩ | ⟨why, stream, next⟩
      · rw [next]
        exact ⟨done, rest, adus_eq, answers, .inl ⟨results, still⟩⟩
      · rw [next]
        refine ⟨done ++ [adu], behind, ?_, ?_, .inl ⟨?_, ?_⟩⟩
        · rw [adus_eq, List.append_assoc]
          rfl
        · rw [List.zipIdx_append]
          rintro entry listed
          rcases List.mem_append.mp listed with earlier | last
          · exact answers entry earlier
          · obtain rfl := List.mem_singleton.mp last
            rw [Nat.zero_add]
            exact answer
        · rw [List.map_append, ← results]
          rfl
        · show Aligned setup _ _ .idle conn.nextTid (serverStream behind)
          rw [tid, List.length_append]
          exact .idle behind
      · rw [next]
        exact ⟨done, rest, adus_eq, answers, .inr ⟨rfl, why, congrArg (· ++ _) results⟩⟩
    | serverRead count | respond => exact ofClient.elim
  · -- after a failure no exchange begins, and there is none to read for
    cases event with
    | call pdu =>
      have failed := ofClient.2
      simp [results, Except.isOk, Except.toBool] at failed
    | clientRead count =>
      have unread : conn.clientRead setup count = conn := by simp only [clientRead, idle]
      rw [Connection.step, unread]
      exact ⟨done, rest, adus_eq, answers, .inr ⟨idle, why, results⟩⟩
    | serverRead count | respond => exact ofClient.elim

/-- If no exchange begins after one that failed, the results are the PDUs of the first messages of the
server, each with the transaction and the unit of its exchange, and at most the last one is a
failure. -/
theorem results_are_pdus (setup : Setup Unit) (adus : List Adu) (events : List Connection.Event)
    (wellFormed : ∀ adu ∈ adus, IsPdu adu.pdu)
    (ofClient : Admissible (Connection.step setup) OfClient
      { world := (), toClient := serverStream adus } events) :
    ∃ done rest failure, adus = done ++ rest ∧
      (clientOf setup adus events).results =
        done.map (fun adu => .ok adu.pdu) ++ (Option.map Except.error failure).toList ∧
      ∀ entry ∈ done.zipIdx, entry.1.transactionId = UInt16.ofNat entry.2 ∧
        entry.1.unitId = setup.clientUnitId := by
  have preserved : ∀ (conn : Connection Unit) (event : Connection.Event),
      (∃ done rest, Returned setup adus conn done rest) → OfClient conn event →
      ∃ done rest, Returned setup adus (conn.step setup event) done rest := by
    rintro conn event ⟨done, rest, returned⟩ ofClient
    exact returned.step wellFormed ofClient
  obtain ⟨done, rest, adus_eq, answers, ⟨results, -⟩ | ⟨-, why, results⟩⟩ :=
    invariant_run preserved ⟨[], adus, rfl, by simp, .inl ⟨rfl, .idle adus⟩⟩ ofClient
  · exact ⟨done, rest, none, adus_eq, results.trans (List.append_nil _).symm, answers⟩
  · exact ⟨done, rest, some why, adus_eq, results, answers⟩

def plainSetup : Setup Unit := ⟨1, 1, fun _ => none⟩

def twoAdus : List Adu := [⟨0, 1, [7]⟩, ⟨5, 1, [8]⟩]

/-- The second exchange fails. -/
theorem results_are_pdus_two :
    let events := [.call [3], .clientRead 7, .clientRead 1, .call [3], .clientRead 7]
    (clientOf plainSetup twoAdus events).results = [.ok [7], .error .unexpectedTransactionId] ∧
      ∃ done rest failure, twoAdus = done ++ rest ∧
        (clientOf plainSetup twoAdus events).results =
          done.map (fun adu => .ok adu.pdu) ++ (Option.map Except.error failure).toList ∧
        ∀ entry ∈ done.zipIdx, entry.1.transactionId = UInt16.ofNat entry.2 ∧ entry.1.unitId = 1 :=
  ⟨by decide +kernel, results_are_pdus plainSetup twoAdus
    [.call [3], .clientRead 7, .clientRead 1, .call [3], .clientRead 7] (by decide)
    (by decide +kernel)⟩

/-- An exchange that fails on a transaction leaves the PDU of the message in the stream, and the next
exchange takes a message from inside it. -/
theorem pdu_from_inside : (clientOf plainSetup [⟨5, 1, buildAdu 1 1 [7]⟩]
      [.call [3], .clientRead 7, .call [3], .clientRead 7, .clientRead 1]).results =
      [.error .unexpectedTransactionId, .ok [7]] := by
  decide +kernel

end KmxAio.Modbus
