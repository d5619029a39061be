import KmxAio.Knx.Secure.Nonces

/-!
# Refused wrappers

A client session refuses a wrapper at one of four places: the MAC, the sequence
number, the service inside, and the phase. The first three come before anything is
recorded. The last one comes after: a session that is not established yet has
already taken the sequence number and the time of a wrapper whose frame it then
refuses.
-/

namespace KmxAio.Knx.Secure

open Lib.Wire Lib.Run

namespace ClientSession

variable (sess : ClientSession) (backend : CryptoBackend) (wrap : WrapperFrame)
  (room : Nat)

/-- What a wrapper is refused with, apart from the service inside. -/
def RefusalOfWrapper (why : Error) : Prop :=
  why = .secureAuthenticationFailed ∨ why = .secureReplay ∨ why = .unsupportedService

/-- A call of `open` that refuses the wrapper, or the service of the frame it holds. -/
def Refuses (nowMs : UInt64) : Prop :=
  let result := (sess.openFrame backend wrap room nowMs).2
  (∃ why, RefusalOfWrapper why ∧ result = refuse why) ∨
    ∃ plain why, sess.Holds backend wrap room plain ∧
      checkWrappedFrame plain = .error why ∧ result = .error why

/-- A wrapper that is authentic and new, and holds a frame other than a status that may be wrapped,
for a session that is not established. -/
def Premature : Prop :=
  sess.phase ≠ .established ∧
    (∀ last ∈ sess.lastReceivedSequence, last < decodeSequence wrap.sequence) ∧
    ∃ plain header why, sess.Holds backend wrap room plain ∧
      checkWrappedFrame plain = .ok header ∧ decodeSessionStatusPacket plain = .error why

variable {sess} {backend} {wrap} {room} {nowMs : UInt64} {plain : Octets}

/-- Only a frame that is no status is refused by the phase, and only before the session is
established. -/
theorem apply_refuses {why : Error} (listed : RefusalOfWrapper why)
    (refused : (sess.apply plain).2 = refuse why) :
    sess.phase ≠ .established ∧ ∃ failure, decodeSessionStatusPacket plain = .error failure := by
  unfold apply at refused
  cases decoded : decodeSessionStatusPacket plain with
  | error failure =>
    rw [decoded] at refused
    refine ⟨fun established => ?_, failure, rfl⟩
    have ready : sess.established = true := by
      rw [ClientSession.established, established]
      rfl
    rw [ready] at refused
    cases refused
  | ok status =>
    rw [decoded] at refused
    dsimp only at refused
    exfalso
    have other : ∀ rejected : Error, (refuse rejected : Expected OpenedFrame) = refuse why →
        rejected = .secureSessionRejected ∨ rejected = .secureSessionClosed → False := by
      intro rejected same kind
      obtain rfl : rejected = why := ErrorCode.knx.inj (Except.error.inj same)
      rcases listed with rfl | rfl | rfl <;> rcases kind with wrong | wrong <;> cases wrong
    split at refused
    · split at refused
      · exact other _ refused (.inl rfl)
      · cases refused
    · split at refused
      · exact other _ refused (.inr rfl)
      · cases refused

/-! ## The whole call -/

/-- A refused wrapper changes nothing but one failure counter, unless the wrapper is authentic and
new and its frame is one that a session not yet established cannot take. Such a wrapper is refused
with its sequence number and its time of arrival recorded. -/
theorem refused_wrapper_only_counted_iff (sess : ClientSession) (backend : CryptoBackend)
    (wrap : WrapperFrame) (room : Nat) (nowMs : UInt64) :
    (sess.Refuses backend wrap room nowMs →
        sess.OnlyCounted (sess.openFrame backend wrap room nowMs).1) ↔
      ¬ sess.Premature backend wrap room := by
  constructor
  · intro atomic early
    obtain ⟨refused, recorded⟩ : (sess.openFrame backend wrap room nowMs).2 = refuse
        .unsupportedService ∧ (sess.openFrame backend wrap room nowMs).1.lastReceivedSequence = some
        (decodeSequence wrap.sequence) := by
      obtain ⟨phase, fresh, plain, header, failure, ⟨keyed, named, opened⟩, checked,
        decoded⟩ := early
      have authentic : sess.authenticateWrapper backend wrap room = (sess, .ok plain) := by
        unfold authenticateWrapper
        rw [if_neg (not_or.mpr ⟨Bool.eq_false_iff.mp keyed, not_not.mpr named⟩), opened]
      have admitted : sess.admitWrapper wrap plain =
          ({ sess with lastReceivedSequence := some (decodeSequence wrap.sequence) }, .ok ()) := by
        unfold admitWrapper
        rw [if_neg (fun ⟨last, known, stale⟩ => Nat.not_le.mpr (fresh last known) stale), checked]
      unfold openFrame
      rw [authentic]
      dsimp only
      rw [admitted]
      dsimp only
      unfold apply ClientSession.established
      rw [decoded, beq_false_of_ne (by exact phase)]
      exact ⟨rfl, rfl⟩
    obtain ⟨counter, unchanged⟩ := atomic (.inl ⟨_, .inr (.inr rfl), refused⟩)
    rw [unchanged] at recorded
    exact Nat.lt_irrefl _ (early.2.1 _ recorded)
  · intro timely refused
    rcases openFrame_stages backend sess wrap room nowMs with
      ⟨after, why, failed, -, counted | ⟨-, listed, unheld⟩⟩ |
      ⟨plain, header, held, fresh, checked, judged⟩
    · rw [failed]
      exact counted
    · exfalso
      rcases refused with ⟨refusal, wrapped, result⟩ | ⟨plain, -, held, -⟩
      · rw [failed] at result
        rcases listed with rfl | rfl <;> rcases wrapped with rfl | rfl | rfl <;> cases result
      · exact unheld plain held
    · exfalso
      rcases refused with ⟨refusal, wrapped, result⟩ | ⟨other, why, same, failed, -⟩
      · rw [judged] at result
        obtain ⟨phase, failure, decoded⟩ := apply_refuses wrapped result
        exact timely ⟨phase, fresh, plain, header, failure, held, checked, decoded⟩
      · obtain rfl : plain = other := Except.ok.inj (held.2.2.symm.trans same.2.2)
        rw [checked] at failed
        cases failed

def exchangeClient (calls : Nat) : ClientSession :=
  (run ClientHistory.step (.initial exchangeCredentials) (exchangeClientEvents.take calls)).session

/-- An established session that is given the status once more refuses it as a replay. -/
theorem refused_wrapper_only_counted_iff_replayed :
    (exchangeClient 3).Refuses exchangeRecording.backend (wrapperOfPacket exchangeStatusPacket)
        1472 3 ∧
      (exchangeClient 3).OnlyCounted ((exchangeClient 3).openFrame exchangeRecording.backend
        (wrapperOfPacket exchangeStatusPacket) 1472 3).1 := by
  have refused : (exchangeClient 3).Refuses exchangeRecording.backend
      (wrapperOfPacket exchangeStatusPacket) 1472 3 :=
    .inl ⟨.secureReplay, .inr (.inl rfl), by decide +kernel⟩
  have established : (exchangeClient 3).phase = .established := by decide +kernel
  exact ⟨refused, (refused_wrapper_only_counted_iff _ _ _ _ _).mpr
    (fun early => early.1 established) refused⟩

def overtakenClient : ClientSession :=
  ((exchangeClient 2).openFrame exchangeRecording.backend (wrapperOfPacket exchangeAckPacket)
    1472 2).1

/-- The acknowledgement is refused, and the status after it is then taken for a replay. -/
theorem overtaken_status_refused :
    (exchangeClient 2).Refuses exchangeRecording.backend (wrapperOfPacket exchangeAckPacket)
        1472 2 ∧
      ¬ (exchangeClient 2).OnlyCounted overtakenClient ∧
      (exchangeClient 2).lastReceivedSequence = none ∧
      overtakenClient.lastReceivedSequence = some 1 ∧
      (overtakenClient.openFrame exchangeRecording.backend (wrapperOfPacket exchangeStatusPacket)
        1472 3).2 = refuse .secureReplay := by
  have before : (exchangeClient 2).lastReceivedSequence = none := by decide +kernel
  have recorded : overtakenClient.lastReceivedSequence = some 1 := by decide +kernel
  refine ⟨.inl ⟨.unsupportedService, .inr (.inr rfl), by decide +kernel⟩, ?_, before, recorded,
    by decide +kernel⟩
  rintro ⟨counter, unchanged⟩
  rw [unchanged] at recorded
  exact Option.some_ne_none 1 (recorded.symm.trans before)

end ClientSession

end KmxAio.Knx.Secure
