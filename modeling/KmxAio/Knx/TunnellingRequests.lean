import KmxAio.Knx.TunnellingSession

/-!
# Requests of a tunnelling session

A session that is ready takes a request under numbers a request can carry, and
refuses it otherwise without a change. Over a stream only the numbers move; over
datagrams the request is outstanding, with its octets kept, until it is
acknowledged.
-/

namespace KmxAio.Knx

open Lib.Wire Knx.Frame Connection

namespace TunnellingSession

structure ValidNumbers (channelId sequence : UInt16) : Prop where
  named : channelId ≠ 0
  channel : channelId ≤ 0xFF
  sequence : sequence ≤ 0xFF

structure Ready (sess : TunnellingSession) : Prop where
  free : sess.pending = false
  staying : sess.state ≠ .closing
  opened : sess.state ≠ .closed

variable {sess : TunnellingSession}

theorem ValidNumbers.of_octets {chan : UInt8} (named : chan ≠ 0) (seq : UInt8) :
    ValidNumbers chan.toUInt16 seq.toUInt16 where
  named := by
    intro zero
    exact named (by simpa using congrArg UInt16.toUInt8 zero)
  channel := UInt16.le_iff_toNat_le.mpr (Nat.le_of_lt_succ chan.toNat_lt)
  sequence := UInt16.le_iff_toNat_le.mpr (Nat.le_of_lt_succ seq.toNat_lt)

/-- The session with a request under way, which over a stream is numbered and no more. -/
def begun (sess : TunnellingSession) (chan seq : UInt16) (pkt : Octets) (deadlineMs : UInt32) :
    TunnellingSession :=
  let numbered :=
    { sess with
      channelId := chan
      expectedSequence := seq
      nextSequence := seq.toUInt8 + 1 }
  if sess.stream then numbered
  else
    { numbered with
      requestPacket := pkt
      pending := true
      state := .waitingAck
      lastDeadlineMs := deadlineMs }

theorem beginRequest_begun {chan seq : UInt16} (ready : sess.Ready) (valid : ValidNumbers chan seq)
    (deadlineMs : UInt32) :
    sess.beginRequest chan seq deadlineMs =
      (sess.begun chan seq sess.requestPacket deadlineMs, .ok ()) := by
  unfold beginRequest begun
  rw [if_neg (by simp [ready.free]), if_neg (not_or.mpr ⟨ready.staying, ready.opened⟩),
    if_neg (not_or.mpr ⟨valid.named, not_or.mpr
      ⟨UInt16.not_lt.mpr valid.channel, UInt16.not_lt.mpr valid.sequence⟩⟩)]
  split <;> rfl

theorem beginRequest_cases (sess : TunnellingSession) (chan seq : UInt16) (deadlineMs : UInt32) :
    (∃ why, sess.beginRequest chan seq deadlineMs = (sess, .error why)) ∨
      sess.Ready ∧ ValidNumbers chan seq := by
  unfold beginRequest
  by_cases pending : sess.pending = true
  · exact .inl ⟨.knx .sendQueueFull, if_pos pending⟩
  rw [if_neg pending]
  by_cases leaving : sess.state = .closing ∨ sess.state = .closed
  · exact .inl ⟨.knx .shutdown, if_pos leaving⟩
  rw [if_neg leaving]
  by_cases invalid : chan = 0 ∨ chan > 0xFF ∨ seq > 0xFF
  · exact .inl ⟨.knx .sequenceError, if_pos invalid⟩
  obtain ⟨staying, opened⟩ := not_or.mp leaving
  obtain ⟨named, channel, num⟩ := by simpa only [not_or] using invalid
  exact .inr ⟨⟨by simpa using pending, staying, opened⟩,
    ⟨named, UInt16.not_lt.mp channel, UInt16.not_lt.mp num⟩⟩

theorem prepareRequestPacket_begun (sess : TunnellingSession) (room : Nat)
    (chan : UInt8) (cemiBytes : Octets) (deadlineMs : UInt32) :
    (∃ why, sess.prepareRequestPacket room chan cemiBytes deadlineMs = (sess, .error why)) ∨
      ∃ pkt, sess.Ready ∧ chan ≠ 0 ∧
        encodeTunnellingRequestPacket room chan sess.nextSequence cemiBytes = .ok pkt ∧
        sess.prepareRequestPacket room chan cemiBytes deadlineMs =
          (sess.begun chan.toUInt16 sess.nextSequence.toUInt16 pkt deadlineMs, .ok pkt) := by
  unfold prepareRequestPacket
  by_cases pending : sess.pending = true
  · exact .inl ⟨.knx .sendQueueFull, if_pos pending⟩
  rw [if_neg pending]
  by_cases leaving : sess.state = .closing ∨ sess.state = .closed
  · exact .inl ⟨.knx .shutdown, if_pos leaving⟩
  rw [if_neg leaving]
  by_cases unnamed : chan = 0
  · exact .inl ⟨.knx .sequenceError, if_pos unnamed⟩
  rw [if_neg unnamed]
  cases encodeTunnellingRequestPacket room chan sess.nextSequence cemiBytes with
  | error why => exact .inl ⟨why, rfl⟩
  | ok pkt =>
    obtain ⟨staying, opened⟩ := not_or.mp leaving
    have ready : sess.Ready := ⟨by simpa using pending, staying, opened⟩
    have valid := ValidNumbers.of_octets unnamed sess.nextSequence
    refine .inr ⟨pkt, ready, unnamed, rfl, ?_⟩
    dsimp only
    by_cases stream : sess.stream = true
    · rw [if_pos stream, beginRequest_begun ready valid, begun, begun, if_pos stream, if_pos stream]
    · have retaining : Ready { sess with requestPacket := pkt } := ⟨ready.free, staying, opened⟩
      rw [if_neg stream, beginRequest_begun retaining valid, begun, begun, if_neg stream,
        if_neg stream]

theorem onTimeout_cases (sess : TunnellingSession) :
    sess.pending = false ∧ sess.onTimeout.1 = sess ∨
      sess.pending = true ∧
        (sess.onTimeout =
            ({ sess with
                retries := sess.retries + 1
                pending := false
                requestPacket := []
                state := .closed }, refuse .timeout) ∨
          (sess.retries + 1).toNat ≤ sess.config.maxRetries.toNat ∧
            sess.onTimeout =
              ({ sess with
                  retries := sess.retries + 1
                  lastDeadlineMs := sess.lastDeadlineMs + sess.config.ackTimeoutMs
                  state := .waitingAck }, .ok ())) := by
  unfold onTimeout
  dsimp only
  split_ifs with free spent
  · exact .inl ⟨free, rfl⟩
  · exact .inr ⟨by simpa using free, .inl rfl⟩
  · exact .inr ⟨by simpa using free, .inr ⟨not_lt.mp spent, rfl⟩⟩

end TunnellingSession

end KmxAio.Knx
