import KmxAio.Modbus.Frame
import KmxAio.Lib.ExactRead
import KmxAio.Lib.Run

/-!
# A Modbus client and server as a remote call

A client's `exchange_pdu` and a server's repeated `process_request` run at the two
ends of two reliable octet streams. Each of them is a coroutine that waits in a
read, and a read returns any part of what is there. An event is a call of the
client, a read that returns at one of the ends, or the answer of the server once it
has a whole request.
-/

namespace KmxAio.Modbus

open Lib.Wire Lib.ExactRead Lib.Run

/-! ## The two ends -/

structure ServerRequest where
  unitId : UInt8
  pdu : Octets
  deriving DecidableEq

/-- A handler may keep something between its calls, which is the world it is called in. -/
abbrev RequestHandler (World : Type) := World → ServerRequest → Octets × World

/-- The configuration of both ends and the handlers that are registered by function code. -/
structure Setup (World : Type) where
  clientUnitId : UInt8
  serverUnitId : UInt8
  handlers : UInt8 → Option (RequestHandler World)

def broadcastUnitId : UInt8 := 0xFF

def exceptionFcFlag : UInt8 := 0x80

def illegalFunction : UInt8 := 0x01

def makeExceptionResponse (requestFc exceptionCode : UInt8) : Octets :=
  [requestFc ||| exceptionFcFlag, exceptionCode]

/-- Where the client is: between exchanges, or filling one of its two buffers. -/
inductive ClientPhase where
  | idle
  | readingHeader (tid : UInt16) (got : Octets)
  | readingPdu (size : Nat) (got : Octets)
  deriving DecidableEq

/-- Where the server is: filling one of its two buffers, about to answer, or gone. -/
inductive ServerPhase where
  | readingHeader (got : Octets)
  | readingPdu (header : MbapHeader) (got : Octets)
  | dispatching (header : MbapHeader) (pdu : Octets)
  | stopped
  deriving DecidableEq

/-- Both ends and what is between them, with the requests that were made and what was returned. -/
structure Connection (World : Type) where
  world : World
  nextTid : UInt16 := 0
  client : ClientPhase := .idle
  server : ServerPhase := .readingHeader []
  toServer : Octets := []
  toClient : Octets := []
  requests : List Octets := []
  results : List (Except Error Octets) := []

namespace Connection

variable {World : Type} (setup : Setup World) (conn : Connection World)

def returns (result : Except Error Octets) : Connection World :=
  { conn with client := .idle, results := conn.results ++ [result] }

def exchangePdu (pdu : Octets) : Connection World :=
  { conn with
    nextTid := conn.nextTid + 1
    toServer := conn.toServer ++ buildAdu conn.nextTid setup.clientUnitId pdu
    client := .readingHeader conn.nextTid []
    requests := conn.requests ++ [pdu] }

def checkHeader (tid : UInt16) (octets : Octets) : Connection World :=
  match decodeMbap octets with
  | .error why => conn.returns (.error why)
  | .ok header =>
    if header.transactionId ≠ tid then conn.returns (.error .unexpectedTransactionId)
    else if header.unitId ≠ setup.clientUnitId then conn.returns (.error .invalidUnitId)
    else if header.length.toNat < 1 then conn.returns (.error .malformedFrame)
    else if 0 < header.length.toNat - 1 then
      { conn with client := .readingPdu (header.length.toNat - 1) [] }
    else conn.returns (.ok [])

def clientRead (count : Nat) : Connection World :=
  let part := conn.toClient.take count
  let behind := { conn with toClient := conn.toClient.drop count }
  match conn.client with
  | .idle => conn
  | .readingHeader tid got =>
    if count = 0 then conn.returns (.error .disconnected)
    else if (got ++ part).length < mbapSize then
      { behind with client := .readingHeader tid (got ++ part) }
    else behind.checkHeader setup tid (got ++ part)
  | .readingPdu size got =>
    if count = 0 then conn.returns (.error .disconnected)
    else if (got ++ part).length < size then { behind with client := .readingPdu size (got ++ part) }
    else behind.returns (.ok (got ++ part))

def addressedToUs (header : MbapHeader) : Prop :=
  setup.serverUnitId = broadcastUnitId ∨ header.unitId = setup.serverUnitId

instance (header : MbapHeader) : Decidable (addressedToUs setup header) :=
  inferInstanceAs (Decidable (_ ∨ _))

/-- `process_request`, once it has the header of a request. -/
def acceptHeader (octets : Octets) : Connection World :=
  match decodeMbap octets with
  | .error _ => { conn with server := .stopped }
  | .ok header =>
    if ¬ addressedToUs setup header ∨ header.length.toNat < 2 then
      { conn with server := .stopped }
    else { conn with server := .readingPdu header [] }

def serverRead (count : Nat) : Connection World :=
  let part := conn.toServer.take count
  let behind := { conn with toServer := conn.toServer.drop count }
  match conn.server with
  | .readingHeader got =>
    if count = 0 then { conn with server := .stopped }
    else if (got ++ part).length < mbapSize then
      { behind with server := .readingHeader (got ++ part) }
    else behind.acceptHeader setup (got ++ part)
  | .readingPdu header got =>
    if count = 0 then { conn with server := .stopped }
    else if (got ++ part).length < header.length.toNat - 1 then
      { behind with server := .readingPdu header (got ++ part) }
    else { behind with server := .dispatching header (got ++ part) }
  | .dispatching _ _ => conn
  | .stopped => conn

def dispatch (world : World) (header : MbapHeader) (pdu : Octets) : Octets × World :=
  match setup.handlers (octetAt pdu 0) with
  | none => (makeExceptionResponse (octetAt pdu 0) illegalFunction, world)
  | some handler => handler world { unitId := header.unitId, pdu := pdu }

/-- The end of `process_request`: the response is sent, and the next request is waited for. -/
def respond : Connection World :=
  match conn.server with
  | .dispatching header pdu =>
    let resp := dispatch setup conn.world header pdu
    { conn with
      world := resp.2
      toClient := conn.toClient ++ buildAdu header.transactionId header.unitId resp.1
      server := .readingHeader [] }
  | _ => conn

/-! ## Events -/

inductive Event where
  | call (pdu : Octets)
  | clientRead (count : Nat)
  | serverRead (count : Nat)
  | respond
  deriving DecidableEq

def step (conn : Connection World) : Event → Connection World
  | .call pdu => conn.exchangePdu setup pdu
  | .clientRead count => conn.clientRead setup count
  | .serverRead count => conn.serverRead setup count
  | .respond => conn.respond setup

def clientRoom : ClientPhase → Nat
  | .idle => 0
  | .readingHeader _ got => mbapSize - got.length
  | .readingPdu size got => size - got.length

def serverRoom : ServerPhase → Nat
  | .readingHeader got => mbapSize - got.length
  | .readingPdu header got => header.length.toNat - 1 - got.length
  | .dispatching _ _ => 0
  | .stopped => 0

def isDispatching : ServerPhase → Bool
  | .dispatching _ _ => true
  | _ => false

/-- Calls are made one after another. A read is for the room that is left and returns a part of what
is there, and not nothing. -/
def Enabled (conn : Connection World) : Event → Prop
  | .call pdu => conn.client = .idle ∧ IsPdu pdu
  | .clientRead count =>
    0 < count ∧ count ≤ clientRoom conn.client ∧ count ≤ conn.toClient.length
  | .serverRead count =>
    0 < count ∧ count ≤ serverRoom conn.server ∧ count ≤ conn.toServer.length
  | .respond => isDispatching conn.server = true

instance (conn : Connection World) (event : Event) : Decidable (conn.Enabled event) :=
  match event with
  | .call _ => inferInstanceAs (Decidable (_ ∧ _))
  | .clientRead _ => inferInstanceAs (Decidable (_ ∧ _))
  | .serverRead _ => inferInstanceAs (Decidable (_ ∧ _))
  | .respond => inferInstanceAs (Decidable (_ = _))

end Connection

open Connection

/-! ## Direct calls -/

namespace Setup

variable {World : Type} (setup : Setup World)

/-- The response of the registered handler to a request, or the exception that there is none. -/
def answer (world : World) (pdu : Octets) : Octets × World :=
  match setup.handlers (octetAt pdu 0) with
  | none => ([octetAt pdu 0 ||| 0x80, 0x01], world)
  | some handler => handler world { unitId := setup.clientUnitId, pdu := pdu }

def worldAfter (world : World) (requests : List Octets) : World :=
  requests.foldl (fun world pdu => (setup.answer world pdu).2) world

def answers : World → List Octets → List Octets
  | _, [] => []
  | world, pdu :: requests =>
    (setup.answer world pdu).1 :: answers (setup.answer world pdu).2 requests

theorem answers_append (world : World) (done : List Octets) (pdu : Octets) :
    setup.answers world (done ++ [pdu]) =
      setup.answers world done ++ [(setup.answer (setup.worldAfter world done) pdu).1] := by
  induction done generalizing world with
  | nil => rfl
  | cons first done ih =>
    rw [List.cons_append, answers, ih]
    rfl

theorem answers_length (world : World) (requests : List Octets) :
    (setup.answers world requests).length = requests.length := by
  induction requests generalizing world with
  | nil => rfl
  | cons pdu requests ih => rw [answers, List.length_cons, List.length_cons, ih]

/-- The server is addressed by the client, and the handlers answer with PDUs. -/
structure Matched : Prop where
  addressed : setup.serverUnitId = setup.clientUnitId ∨ setup.serverUnitId = broadcastUnitId
  bounded : ∀ code handler, setup.handlers code = some handler →
    ∀ world request, IsPdu (handler world request).1

variable {setup}

theorem Matched.answer_isPdu (matched : setup.Matched) (world : World) (pdu : Octets) :
    IsPdu (setup.answer world pdu).1 := by
  rw [answer]
  cases registered : setup.handlers (octetAt pdu 0) with
  | none => simp [IsPdu, maxPduSize]
  | some handler => exact matched.bounded _ handler registered world _

end Setup

/-! ## Where an exchange is -/

section Stages

variable {World : Type} (setup : Setup World) (tid : UInt16)

def headerOctets (pdu : Octets) : Octets :=
  encodeMbap tid (UInt16.ofNat pdu.length) setup.clientUnitId

def exchangeHeader (pdu : Octets) : MbapHeader :=
  { transactionId := tid
    protocolId := 0
    length := 1 + UInt16.ofNat pdu.length
    unitId := setup.clientUnitId }

inductive Asked (pdu : Octets) : ServerPhase → Octets → Prop
  | readingHeader {got toServer : Octets}
      (fills : Fills mbapSize got toServer (headerOctets setup tid pdu) pdu) :
      Asked pdu (.readingHeader got) toServer
  | readingPdu {got toServer : Octets} (fills : Fills pdu.length got toServer pdu []) :
      Asked pdu (.readingPdu (exchangeHeader setup tid pdu) got) toServer
  | whole : Asked pdu (.dispatching (exchangeHeader setup tid pdu) pdu) []

inductive Answered (response : Octets) : ClientPhase → Octets → Prop
  | readingHeader {got toClient : Octets}
      (fills : Fills mbapSize got toClient (headerOctets setup tid response) response) :
      Answered response (.readingHeader tid got) toClient
  | readingPdu {got toClient : Octets} (fills : Fills response.length got toClient response []) :
      Answered response (.readingPdu response.length got) toClient

variable (start : World) (conn : Connection World)

/-- Nothing is on its way, and both ends are at their beginning. -/
structure Between : Prop where
  client : conn.client = .idle
  server : conn.server = .readingHeader []
  toServer : conn.toServer = []
  toClient : conn.toClient = []
  results : conn.results = (setup.answers start conn.requests).map .ok
  world : conn.world = setup.worldAfter start conn.requests

/-- What holds of an exchange that has not returned yet, which is for the last request. -/
structure Outstanding (done : List Octets) (pdu : Octets) : Prop where
  isPdu : IsPdu pdu
  requests : conn.requests = done ++ [pdu]
  results : conn.results = (setup.answers start done).map .ok

structure Asking (done : List Octets) (pdu : Octets) : Prop
    extends Outstanding setup start conn done pdu where
  client : conn.client = .readingHeader tid []
  toClient : conn.toClient = []
  world : conn.world = setup.worldAfter start done
  asked : Asked setup tid pdu conn.server conn.toServer

/-- The server has answered the request and waits for the next one. -/
structure Answering (done : List Octets) (pdu : Octets) : Prop
    extends Outstanding setup start conn done pdu where
  server : conn.server = .readingHeader []
  toServer : conn.toServer = []
  world : conn.world = setup.worldAfter start conn.requests
  answered : Answered setup tid (setup.answer (setup.worldAfter start done) pdu).1
    conn.client conn.toClient

inductive Stage : Prop
  | between (between : Between setup start conn)
  | asking (tid : UInt16) (done : List Octets) (pdu : Octets)
      (asking : Asking setup tid start conn done pdu)
  | answering (tid : UInt16) (done : List Octets) (pdu : Octets)
      (answering : Answering setup tid start conn done pdu)

end Stages

/-! ## What an event does -/

section Steps

variable {World : Type} {setup : Setup World} {start : World} {conn : Connection World}
  {tid : UInt16} {done : List Octets} {pdu : Octets} {count : Nat}

theorem headerOctets_length (pdu : Octets) : (headerOctets setup tid pdu).length = mbapSize :=
  encodeMbap_length _ _ _

theorem decodeMbap_headerOctets (pdu : Octets) :
    decodeMbap (headerOctets setup tid pdu) = .ok (exchangeHeader setup tid pdu) :=
  decodeMbap_encodeMbap _ _ _

theorem IsPdu.size_of_header (isPdu : IsPdu pdu) :
    (exchangeHeader setup tid pdu).length.toNat = pdu.length + 1 := isPdu.length_field

theorem acceptHeader_request (matched : setup.Matched) (isPdu : IsPdu pdu) :
    conn.acceptHeader setup (headerOctets setup tid pdu) =
      { conn with server := .readingPdu (exchangeHeader setup tid pdu) [] } := by
  have addressed : addressedToUs setup (exchangeHeader setup tid pdu) := by
    rcases matched.addressed with same | broadcast
    · exact .inr same.symm
    · exact .inl broadcast
  have nonempty := isPdu.1
  rw [acceptHeader, decodeMbap_headerOctets]
  dsimp only
  rw [isPdu.size_of_header, if_neg (by rw [not_or, not_not]; exact ⟨addressed, by omega⟩)]

theorem checkHeader_response (isPdu : IsPdu pdu) :
    conn.checkHeader setup tid (headerOctets setup tid pdu) =
      { conn with client := .readingPdu pdu.length [] } := by
  have nonempty := isPdu.1
  have sameTid : (exchangeHeader setup tid pdu).transactionId = tid := rfl
  have sameUnit : (exchangeHeader setup tid pdu).unitId = setup.clientUnitId := rfl
  rw [checkHeader, decodeMbap_headerOctets]
  dsimp only
  rw [isPdu.size_of_header, if_neg (not_not_intro sameTid), if_neg (not_not_intro sameUnit),
    if_neg (by omega), if_pos (by omega), Nat.add_sub_cancel]

theorem Between.call (between : Between setup start conn) (isPdu : IsPdu pdu) :
    Asking setup conn.nextTid start (conn.exchangePdu setup pdu) conn.requests
      pdu where
  isPdu := isPdu
  requests := rfl
  results := between.results
  client := rfl
  toClient := between.toClient
  world := between.world
  asked := by
    show Asked setup _ pdu conn.server (conn.toServer ++ _)
    rw [between.server, between.toServer]
    exact .readingHeader (.start (headerOctets_length pdu) (by decide))

theorem IsPdu.fills (isPdu : IsPdu pdu) : Fills pdu.length [] pdu pdu [] :=
  ⟨by simp, rfl, isPdu.1⟩

theorem Asked.serverRead (matched : setup.Matched) (isPdu : IsPdu pdu)
    (asked : Asked setup tid pdu conn.server conn.toServer)
    (enabled : conn.Enabled (.serverRead count)) :
    ∃ srv, conn.serverRead setup count =
        { conn with server := srv, toServer := conn.toServer.drop count } ∧
      Asked setup tid pdu srv (conn.toServer.drop count) := by
  obtain ⟨positive, room, available⟩ := enabled
  obtain ⟨world, nextTid, client, srv, toServer, toClient, requests, results⟩ := conn
  have nonzero := Nat.ne_of_gt positive
  cases asked with
  | @readingHeader got _ fills =>
    rw [serverRead]
    dsimp only
    rw [if_neg nonzero]
    by_cases more : (got ++ toServer.take count).length < mbapSize
    · rw [if_pos more]
      exact ⟨_, rfl, .readingHeader (fills.read more)⟩
    · simp only [serverRoom] at room
      obtain ⟨whole, behind⟩ := fills.full (by omega) more
      rw [if_neg more, whole, acceptHeader_request matched isPdu, behind]
      exact ⟨_, rfl, .readingPdu isPdu.fills⟩
  | @readingPdu got _ fills =>
    have size : (exchangeHeader setup tid pdu).length.toNat - 1 = pdu.length := by
      rw [isPdu.size_of_header, Nat.add_sub_cancel]
    rw [serverRead]
    dsimp only
    rw [if_neg nonzero, size]
    by_cases more : (got ++ toServer.take count).length < pdu.length
    · rw [if_pos more]
      exact ⟨_, rfl, .readingPdu (fills.read more)⟩
    · simp only [serverRoom, size] at room
      obtain ⟨whole, behind⟩ := fills.full (by omega) more
      rw [if_neg more, whole, behind]
      exact ⟨_, rfl, .whole⟩
  | whole =>
    rw [List.length_nil] at available
    omega

theorem Answered.clientRead {resp : Octets} (isPdu : IsPdu resp)
    (answered : Answered setup tid resp conn.client conn.toClient)
    (enabled : conn.Enabled (.clientRead count)) :
    (∃ client, conn.clientRead setup count =
        { conn with client := client, toClient := conn.toClient.drop count } ∧
      Answered setup tid resp client (conn.toClient.drop count)) ∨
    conn.clientRead setup count =
      { conn with
        client := .idle, toClient := [], results := conn.results ++ [.ok resp] } := by
  obtain ⟨positive, room, available⟩ := enabled
  obtain ⟨world, nextTid, client, srv, toServer, toClient, requests, results⟩ := conn
  have nonzero := Nat.ne_of_gt positive
  cases answered with
  | @readingHeader got _ fills =>
    rw [clientRead]
    dsimp only
    rw [if_neg nonzero]
    by_cases more : (got ++ toClient.take count).length < mbapSize
    · rw [if_pos more]
      exact .inl ⟨_, rfl, .readingHeader (fills.read more)⟩
    · simp only [clientRoom] at room
      obtain ⟨whole, behind⟩ := fills.full (by omega) more
      rw [if_neg more, whole, checkHeader_response isPdu, behind]
      exact .inl ⟨_, rfl, .readingPdu isPdu.fills⟩
  | @readingPdu got _ fills =>
    rw [clientRead]
    dsimp only
    rw [if_neg nonzero]
    by_cases more : (got ++ toClient.take count).length < resp.length
    · rw [if_pos more]
      exact .inl ⟨_, rfl, .readingPdu (fills.read more)⟩
    · simp only [clientRoom] at room
      obtain ⟨whole, behind⟩ := fills.full (by omega) more
      rw [if_neg more, whole, behind]
      exact .inr rfl

/-- The server answers as a direct call does. -/
theorem Asking.respond (asking : Asking setup tid start conn done pdu)
    (enabled : conn.Enabled .respond) :
    Answering setup tid start (conn.respond setup) done pdu := by
  obtain ⟨⟨isPdu, requests, results⟩, client, toClient, world, asked⟩ := asking
  obtain ⟨actualWorld, nextTid, client', srv, toServer, toClient', requests', results'⟩ := conn
  subst requests results client toClient world
  cases asked with
  | readingHeader fills | readingPdu fills => cases enabled
  | whole =>
    refine ⟨⟨isPdu, rfl, rfl⟩, rfl, rfl, ?_, ?_⟩
    · change (setup.answer (setup.worldAfter start done) pdu).2 =
        setup.worldAfter start (done ++ [pdu])
      simp [Setup.worldAfter]
    · exact .readingHeader (.start (headerOctets_length _) (by decide))

end Steps

/-! ## Progress -/

section Progress

variable {World : Type} {setup : Setup World} {start : World} {conn : Connection World}
  {tid : UInt16} {done : List Octets} {pdu : Octets}

namespace Connection

/-- Room for a whole response, and the event that sends it. -/
def responseBound : Nat := mbapSize + maxPduSize + 1

/-- How many events an exchange may still take: a read for each octet of the request, the answer, and
a read for each octet of the response. -/
def remaining (conn : Connection World) : Nat :=
  if conn.server = .readingHeader [] ∧ conn.toServer = [] then conn.toClient.length
  else conn.toServer.length + responseBound

end Connection

theorem Asking.remaining_eq (asking : Asking setup tid start conn done pdu) :
    conn.remaining = conn.toServer.length + responseBound := by
  apply if_neg
  rintro ⟨srv, toServer⟩
  have asked := asking.asked
  rw [srv, toServer] at asked
  cases asked with
  | readingHeader fills =>
    have lengths := fills.stream_length
    simp [mbapSize] at lengths
    omega

theorem Answering.remaining_eq (answering : Answering setup tid start conn done pdu) :
    conn.remaining = conn.toClient.length :=
  if_pos ⟨answering.server, answering.toServer⟩

theorem Between.remaining_eq (between : Between setup start conn) :
    conn.remaining = 0 := by
  rw [remaining, if_pos ⟨between.server, between.toServer⟩, between.toClient]
  rfl

theorem Asked.toServer_length_lt {toServer : Octets} {srv : ServerPhase} (isPdu : IsPdu pdu)
    (asked : Asked setup tid pdu srv toServer) : toServer.length < responseBound := by
  have short := isPdu.2
  rw [responseBound]
  cases asked with
  | readingHeader fills =>
    have lengths := fills.stream_length
    omega
  | readingPdu fills =>
    have lengths := fills.stream_length
    rw [List.length_nil] at lengths
    omega
  | whole => exact Nat.succ_pos _

theorem Answered.toClient_length_lt {resp toClient : Octets} {client : ClientPhase}
    (isPdu : IsPdu resp) (answered : Answered setup tid resp client toClient) :
    toClient.length < responseBound := by
  have short := isPdu.2
  rw [responseBound]
  cases answered with
  | readingHeader fills =>
    have lengths := fills.stream_length
    omega
  | readingPdu fills =>
    have lengths := fills.stream_length
    rw [List.length_nil] at lengths
    omega

theorem nothing_to_read {stream : Octets} {count room : Nat} (empty : stream = [])
    (enabled : 0 < count ∧ count ≤ room ∧ count ≤ stream.length) : False := by
  obtain ⟨positive, _, available⟩ := enabled
  rw [empty, List.length_nil] at available
  omega

/-- An event leads on to a stage, and unless it is a call it brings the exchange nearer to its end. -/
def Leads (setup : Setup World) (start : World) (conn : Connection World)
    (event : Connection.Event) : Prop :=
  Stage setup start (conn.step setup event) ∧
    ((∀ pdu, event ≠ .call pdu) → (conn.step setup event).remaining < conn.remaining)

variable {event : Connection.Event}

theorem Between.leads (between : Between setup start conn)
    (enabled : conn.Enabled event) : Leads setup start conn event := by
  cases event with
  | call pdu => exact ⟨.asking _ _ _ (between.call enabled.2), fun other => (other pdu rfl).elim⟩
  | clientRead count => exact (nothing_to_read between.toClient enabled).elim
  | serverRead count => exact (nothing_to_read between.toServer enabled).elim
  | respond => simp [Connection.Enabled, between.server, isDispatching] at enabled

theorem Asking.leads (matched : setup.Matched) (asking : Asking setup tid start conn done pdu)
    (enabled : conn.Enabled event) : Leads setup start conn event := by
  cases event with
  | call pdu =>
    have idle := enabled.1
    rw [asking.client] at idle
    cases idle
  | clientRead count => exact (nothing_to_read asking.toClient enabled).elim
  | serverRead count =>
    obtain ⟨srv, moved, asked⟩ := asking.asked.serverRead matched asking.isPdu enabled
    have next : Asking setup tid start (conn.serverRead setup count) done pdu := by
      rw [moved]
      exact ⟨⟨asking.isPdu, asking.requests, asking.results⟩, asking.client, asking.toClient,
        asking.world, asked⟩
    refine ⟨.asking _ _ _ next, fun _ => ?_⟩
    show (conn.serverRead setup count).remaining < _
    obtain ⟨positive, _, available⟩ := enabled
    rw [next.remaining_eq, asking.remaining_eq, moved, List.length_drop]
    omega
  | respond =>
    have next := asking.respond enabled
    refine ⟨.answering _ _ _ next, fun _ => ?_⟩
    show (conn.respond setup).remaining < _
    have room := next.answered.toClient_length_lt (matched.answer_isPdu _ _)
    rw [next.remaining_eq, asking.remaining_eq]
    omega

theorem Answering.returns (answering : Answering setup tid start conn done pdu) :
    Between setup start
      { conn with
        client := .idle
        toClient := []
        results :=
          conn.results ++ [.ok (setup.answer (setup.worldAfter start done) pdu).1] } := by
  refine ⟨rfl, answering.server, answering.toServer, rfl, ?_, answering.world⟩
  rw [answering.results, answering.requests, setup.answers_append, List.map_append]
  rfl

theorem Answering.leads (matched : setup.Matched)
    (answering : Answering setup tid start conn done pdu) (enabled : conn.Enabled event) :
    Leads setup start conn event := by
  cases event with
  | call pdu =>
    have answered := answering.answered
    rw [enabled.1] at answered
    cases answered
  | clientRead count =>
    have isPdu := matched.answer_isPdu (setup.worldAfter start done) pdu
    have positive := enabled.1
    have available := enabled.2.2
    obtain ⟨client, moved, answered⟩ | returned := answering.answered.clientRead isPdu enabled
    · have next : Answering setup tid start (conn.clientRead setup count) done pdu := by
        rw [moved]
        exact ⟨⟨answering.isPdu, answering.requests, answering.results⟩, answering.server,
          answering.toServer, answering.world, answered⟩
      refine ⟨.answering _ _ _ next, fun _ => ?_⟩
      show (conn.clientRead setup count).remaining < _
      rw [next.remaining_eq, answering.remaining_eq, moved, List.length_drop]
      omega
    · have next : Between setup start (conn.clientRead setup count) :=
        returned ▸ answering.returns
      refine ⟨.between next, fun _ => ?_⟩
      show (conn.clientRead setup count).remaining < _
      rw [next.remaining_eq, answering.remaining_eq]
      omega
  | serverRead count => exact (nothing_to_read answering.toServer enabled).elim
  | respond => simp [Connection.Enabled, answering.server, isDispatching] at enabled

theorem Stage.leads (matched : setup.Matched) (stage : Stage setup start conn)
    (enabled : conn.Enabled event) : Leads setup start conn event := by
  cases stage with
  | between between => exact between.leads enabled
  | asking tid done pdu asking => exact asking.leads matched enabled
  | answering tid done pdu answering => exact answering.leads matched enabled

theorem octet_available {needed room : Nat} {got stream whole rest : Octets}
    (fills : Fills needed got stream whole rest) (space : room = needed - got.length) :
    0 < 1 ∧ 1 ≤ room ∧ 1 ≤ stream.length := by
  have lengths := fills.stream_length
  have short := fills.short
  omega

/-- An exchange that has not returned can go on. -/
theorem Stage.exists_enabled (stage : Stage setup start conn) (waiting : conn.client ≠ .idle) :
    ∃ event, conn.Enabled event ∧ ∀ pdu, event ≠ .call pdu := by
  obtain ⟨world, nextTid, client, srv, toServer, toClient, requests, results⟩ := conn
  cases stage with
  | between between => exact absurd between.client waiting
  | asking tid done pdu asking =>
    have asked : Asked setup tid pdu srv toServer := asking.asked
    cases asked with
    | readingHeader fills => exact ⟨.serverRead 1, octet_available fills rfl, by simp⟩
    | readingPdu fills =>
      refine ⟨.serverRead 1, octet_available fills ?_, by simp⟩
      rw [serverRoom, asking.isPdu.size_of_header, Nat.add_sub_cancel]
    | whole => exact ⟨.respond, rfl, by simp⟩
  | answering tid done pdu answering =>
    have answered : Answered setup tid _ client toClient := answering.answered
    cases answered with
    | readingHeader fills | readingPdu fills =>
      exact ⟨.clientRead 1, octet_available fills rfl, by simp⟩

/-- Events other than calls run out. -/
theorem Stage.length_le (matched : setup.Matched) (stage : Stage setup start conn)
    {more : List Connection.Event}
    (admissible : Admissible (step setup) Connection.Enabled conn more)
    (noCall : ∀ pdu, .call pdu ∉ more) : more.length ≤ conn.remaining := by
  induction more generalizing conn with
  | nil => exact Nat.zero_le _
  | cons event more ih =>
    obtain ⟨next, nearer⟩ := stage.leads matched admissible.1
    have other : ∀ pdu, event ≠ .call pdu := by
      rintro pdu rfl
      exact noCall pdu List.mem_cons_self
    have rest := ih next admissible.2 fun pdu member => noCall pdu (List.mem_cons_of_mem _ member)
    have shorter := nearer other
    rw [List.length_cons]
    omega

end Progress

/-! ## The composition -/

def opened {World : Type} (start : World) (tid : UInt16) : Connection World :=
  { world := start, nextTid := tid }

section Results

variable {World : Type} {setup : Setup World} {start : World} {conn : Connection World}

theorem Outstanding.results_eq {done : List Octets} {pdu : Octets}
    (outstanding : Outstanding setup start conn done pdu) :
    conn.results =
        ((setup.answers start conn.requests).take conn.results.length).map .ok ∧
      conn.results.length + 1 = conn.requests.length := by
  have count : conn.results.length = (setup.answers start done).length := by
    rw [outstanding.results, List.length_map]
  constructor
  · rw [count, outstanding.requests, setup.answers_append, List.take_left, outstanding.results]
  · rw [count, outstanding.requests, setup.answers_length, List.length_append]
    rfl

theorem Stage.results_eq (stage : Stage setup start conn) :
    conn.results =
        ((setup.answers start conn.requests).take conn.results.length).map .ok ∧
      (conn.client = .idle → conn.results.length = conn.requests.length ∧
        conn.toServer = [] ∧ conn.toClient = []) ∧
      (conn.client ≠ .idle → conn.results.length + 1 = conn.requests.length) := by
  cases stage with
  | between between =>
    have count : conn.results.length = (setup.answers start conn.requests).length := by
      rw [between.results, List.length_map]
    refine ⟨?_, ?_, fun waiting => absurd between.client waiting⟩
    · rw [count, List.take_length, between.results]
    · exact fun _ => ⟨by rw [count, setup.answers_length], between.toServer, between.toClient⟩
  | asking tid done pdu asking =>
    obtain ⟨results, count⟩ := asking.toOutstanding.results_eq
    refine ⟨results, fun idle => ?_, fun _ => count⟩
    rw [asking.client] at idle
    cases idle
  | answering tid done pdu answering =>
    obtain ⟨results, count⟩ := answering.toOutstanding.results_eq
    refine ⟨results, fun idle => ?_, fun _ => count⟩
    have answered := answering.answered
    rw [idle] at answered
    cases answered

end Results

/-- Connect a client to a server by two streams that deliver in any parts. Whatever the order of
events, the exchanges that have returned gave the answers of direct calls to the handlers; between
exchanges nothing is in the streams; an exchange that has not returned can always go on, and it
returns within a bounded number of events. -/
theorem exchanges_are_direct_calls {World : Type} (setup : Setup World) (matched : setup.Matched)
    (start : World) (tid : UInt16) (events : List Connection.Event) (conn : Connection World)
    (admissible : Admissible (step setup) Connection.Enabled (opened start tid) events)
    (reached : run (step setup) (opened start tid) events = conn) :
    conn.results =
        ((setup.answers start conn.requests).take conn.results.length).map .ok ∧
      (conn.client = .idle → conn.results.length = conn.requests.length ∧
        conn.toServer = [] ∧ conn.toClient = []) ∧
      (conn.client ≠ .idle → conn.results.length + 1 = conn.requests.length ∧
        ∃ event, conn.Enabled event ∧ ∀ pdu, event ≠ .call pdu) ∧
      ∀ more, Admissible (step setup) Connection.Enabled conn more →
        (∀ pdu, .call pdu ∉ more) → more.length ≤ 2 * responseBound := by
  have stage : Stage setup start conn := by
    rw [← reached]
    exact invariant_run (fun _ _ holds enabled => (holds.leads matched enabled).1)
      (.between ⟨rfl, rfl, rfl, rfl, rfl, rfl⟩) admissible
  obtain ⟨results, idle, waiting⟩ := stage.results_eq
  refine ⟨results, idle, fun notIdle => ⟨waiting notIdle, stage.exists_enabled notIdle⟩, ?_⟩
  intro more later noCall
  have remainingLe : conn.remaining ≤ 2 * responseBound := by
    cases stage with
    | between between =>
      rw [between.remaining_eq]
      omega
    | asking tid done pdu asking =>
      have room := asking.asked.toServer_length_lt asking.isPdu
      rw [asking.remaining_eq]
      omega
    | answering tid done pdu answering =>
      have room := answering.answered.toClient_length_lt (matched.answer_isPdu _ _)
      rw [answering.remaining_eq]
      omega
  exact Nat.le_trans (stage.length_le matched later noCall) remainingLe

def countingSetup : Setup Nat where
  clientUnitId := 17
  serverUnitId := broadcastUnitId
  handlers code := if code = 3 then some fun calls _ => ([3, UInt8.ofNat calls], calls + 1) else none

theorem countingSetup_matched : countingSetup.Matched := by
  refine ⟨.inr rfl, ?_⟩
  intro code handler registered world req
  obtain ⟨_, same⟩ := Option.ite_none_right_eq_some.mp registered
  cases Option.some.inj same
  exact ⟨Nat.succ_pos 1, by simp [maxPduSize]⟩

/-- Three exchanges, the second with a function code that has no handler, over the wrap of the
transaction. -/
def threeExchanges : List Connection.Event :=
  [.call [3, 1], .serverRead 4, .serverRead 3, .serverRead 2, .respond, .clientRead 7, .clientRead 2,
    .call [9], .serverRead 7, .serverRead 1, .respond, .clientRead 1, .clientRead 6, .clientRead 1,
    .clientRead 1, .call [3], .serverRead 7, .serverRead 1, .respond, .clientRead 7, .clientRead 2]

theorem exchanges_are_direct_calls_three :
    (run (step countingSetup) (opened 5 0xFFFF) threeExchanges).results.map
        Except.toOption = [some [3, 5], some [0x89, 1], some [3, 6]] ∧
      (run (step countingSetup) (opened 5 0xFFFF) threeExchanges).toServer = [] ∧
      (run (step countingSetup) (opened 5 0xFFFF) threeExchanges).toClient = [] := by
  obtain ⟨_, between, _⟩ := exchanges_are_direct_calls countingSetup countingSetup_matched 5 0xFFFF
    threeExchanges _ (by decide +kernel) rfl
  exact ⟨by decide +kernel, (between (by decide +kernel)).2⟩

end KmxAio.Modbus
