import KmxAio.Knx.TunnellingSession

/-!
# Answering a request

An answer is encoded before the request it answers is acted on, so the request may
still be refused when the octets are already there. Only the requests of a channel
are answered, and a refused one of these leaves the session as it was, which a
refused response need not.
-/

namespace KmxAio.Knx

open Lib.Wire Knx.Frame Connection

namespace TunnellingSession

variable {sess : TunnellingSession} {why : ErrorCode}

theorem onConnectionstateRequest_unchanged (sess : TunnellingSession)
    (req : ControlRequestFrame) : (sess.onConnectionstateRequest req).1 = sess := by
  unfold onConnectionstateRequest
  split_ifs <;> rfl

variable {val : Datagram}

theorem underService_unchanged {service : UInt16} {act : TunnellingSession × Expected Unit}
    (unchanged : act.2 = .error why → act.1 = sess)
    (refused : (sess.underService val service act).2 = .error why) :
    (sess.underService val service act).1 = sess := by
  unfold underService at refused ⊢
  split_ifs at refused ⊢ with other
  · rfl
  · exact unchanged refused

/-- Every way a call of `prepareResponseDatagram` ends: refused before the request is acted on, or
with what the handlers of requests make of it. -/
theorem prepareResponseDatagram_cases (sess : TunnellingSession) (room : Nat)
    (req : Datagram) (status : UInt8) :
    (∃ why, sess.prepareResponseDatagram room req status =
        (sess, .error why)) ∨
      sess.onResponseDatagram req = none ∧
        ∃ pkt, sess.prepareResponseDatagram room req status =
          ((sess.onDatagram req).1, (sess.onDatagram req).2.map (fun _ => pkt)) := by
  unfold prepareResponseDatagram
  cases sess.answerable req with
  | error why => exact .inl ⟨why, rfl⟩
  | ok _ =>
    cases encoded : encodeResponseDatagram room req status with
    | error why => exact .inl ⟨why, rfl⟩
    | ok pkt =>
      refine .inr ⟨?_, pkt, ?_⟩
      · unfold encodeResponseDatagram at encoded
        unfold onResponseDatagram
        split at encoded
        · next payload => rw [payload]
        · next payload => rw [payload]
        · next payload => rw [payload]
        · cases encoded
      · obtain ⟨after, result⟩ := sess.onDatagram req
        cases result <;> rfl

theorem prepareResponseDatagram_unchanged {room : Nat} {req : Datagram} {status : UInt8}
    (refused : (sess.prepareResponseDatagram room req status).2 = .error why) :
    (sess.prepareResponseDatagram room req status).1 = sess := by
  obtain ⟨_, early⟩ | ⟨unanswering, pkt, acted⟩ :=
    sess.prepareResponseDatagram_cases room req status
  · rw [early]
  · rw [acted] at refused ⊢
    cases handled : (sess.onDatagram req).2 with
    | error why =>
      unfold onDatagram at handled ⊢
      rw [unanswering] at handled ⊢
      cases asked : sess.onRequestDatagram req with
      | none => rfl
      | some answer =>
        rw [asked] at handled
        unfold onRequestDatagram at asked
        split at asked
        · cases asked
          refine underService_unchanged (fun handled => ?_) handled
          unfold onIndication at handled ⊢
          split_ifs at handled ⊢ <;> rfl
        · cases asked
          exact underService_unchanged (fun _ => onConnectionstateRequest_unchanged sess _) handled
        · cases asked
          refine underService_unchanged (fun handled => ?_) handled
          unfold onDisconnectRequest at handled ⊢
          split_ifs at handled ⊢ <;> rfl
        · cases asked
    | ok _ =>
      rw [handled] at refused
      cases refused

/-- A refused call leaves every field of the session as it was, whether the request came decoded or
as octets. -/
theorem prepareResponse_refused_unchanged (sess : TunnellingSession) (room : Nat)
    (status : UInt8) (why : ErrorCode) :
    (∀ req : Datagram,
      (sess.prepareResponseDatagram room req status).2 = .error why →
        (sess.prepareResponseDatagram room req status).1 = sess) ∧
      ∀ requestPacket : Octets,
        (sess.prepareResponsePacket room requestPacket status).2 = .error why →
          (sess.prepareResponsePacket room requestPacket status).1 = sess := by
  refine ⟨fun req refused => prepareResponseDatagram_unchanged refused, ?_⟩
  intro requestPacket refused
  unfold prepareResponsePacket onDecoded at refused ⊢
  cases decoded : decodeDatagram requestPacket with
  | error _ => rfl
  | ok req =>
    rw [decoded] at refused
    exact prepareResponseDatagram_unchanged refused

def writtenRequest : Octets :=
  [6, 16, 4, 32, 0, 21, 4, 1, 0, 0, 41, 0, 188, 224, 17, 1, 0, 1, 1, 0, 129]

def afterWrite : TunnellingSession :=
  { state := .connected, channelId := 1, incomingSequenceValid := true, nextIncomingSequence := 1 }

/-- The write comes again: its answer is encoded, the session refuses it, and nothing moves. -/
theorem repeatedWrite_unchanged :
    (∃ req, decodeDatagram writtenRequest = .ok req ∧
      encodeResponseDatagram 10 req 0 =
        .ok [0x06, 0x10, 0x04, 0x21, 0x00, 0x0A, 0x04, 0x01, 0x00, 0x00] ∧
      (afterWrite.prepareResponseDatagram 10 req 0).2 = refuse .sequenceError ∧
      (afterWrite.prepareResponseDatagram 10 req 0).1 = afterWrite) ∧
    (afterWrite.prepareResponsePacket 10 writtenRequest 0).2 = refuse .sequenceError ∧
    (afterWrite.prepareResponsePacket 10 writtenRequest 0).1 = afterWrite := by
  have unchanged := prepareResponse_refused_unchanged afterWrite 10 0 (.knx .sequenceError)
  exact ⟨⟨_, rfl, rfl, rfl, unchanged.1 _ rfl⟩, rfl, unchanged.2 _ rfl⟩

end TunnellingSession

end KmxAio.Knx
