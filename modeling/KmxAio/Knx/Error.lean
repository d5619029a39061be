import Mathlib.Control.Monad.Basic

/-!
# KNX error codes

The failure reasons of the KNX protocol and session layers, and the error codes
of the I/O layer. A transport or an entropy source may report a code of its own
category, which the KNX layers pass on unchanged.
-/

namespace KmxAio.Knx

/-- Failure reasons reported by the KNX protocol and session layers. -/
inductive Error where
  | success
  | featureDisabled
  | invalidConfiguration
  | malformedFrame
  | unsupportedService
  | unsupportedHpai
  | unsupportedConnectionType
  | invalidLength
  | connectionFailed
  | timeout
  | heartbeatFailed
  | inactivityTimeout
  | sequenceError
  | sendQueueFull
  | shutdown
  | internalError
  | invalidAddress
  | unsupportedMessageCode
  | unsupportedApci
  | payloadTooLarge
  | unsupportedDatapoint
  | valueOutOfRange
  | secureUnsupported
  | secureAuthenticationFailed
  | secureReplay
  | secureSessionRejected
  | secureSessionClosed
  | secureKeyMissing
  | secureFrameRequired
  | keyringSignatureInvalid
  | cryptoFailure
  deriving DecidableEq

/-- An error code of the I/O layer: a KNX reason, or a code of another category. -/
inductive ErrorCode where
  | knx (reason : Error)
  | system (value : Int)
  deriving DecidableEq

abbrev Expected (α : Type) := Except ErrorCode α

def refuse {α : Type} (why : Error) : Expected α := .error (.knx why)

theorem refuse_ite_ok {α : Type} {refused : Prop} [Decidable refused] {why : Error}
    {rest : Expected α} {result : α} :
    (if refused then refuse why else rest) = .ok result ↔ ¬ refused ∧ rest = .ok result := by
  by_cases holds : refused <;> simp [holds, refuse]

theorem bind_ok {ε α β : Type} {first : Except ε α} {next : α → Except ε β} {result : β}
    (succeeded : first.bind next = .ok result) :
    ∃ val, first = .ok val ∧ next val = .ok result := by
  cases first with
  | error why => cases succeeded
  | ok val => exact ⟨val, rfl, succeeded⟩

end KmxAio.Knx
