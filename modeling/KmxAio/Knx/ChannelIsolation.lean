import KmxAio.Knx.ServerSteps

/-!
# Whose channel a datagram touches

A datagram may change the channel its sender holds, and open a free slot. What it
does up to its answer is confined so, and so is what a disconnect does after it. The
other handlers note the activity of the channel by its number alone, whoever holds
it by then.
-/

namespace KmxAio.Knx

open Lib.Wire Knx.Frame Connection

def Channel.Foreign (channel : Channel) (origin : Origin) (dataEndpoint : Bool) : Prop :=
  channel.active = true ∧ peerMatches channel origin dataEndpoint = false

instance (channel : Channel) (origin : Origin) (dataEndpoint : Bool) :
    Decidable (channel.Foreign origin dataEndpoint) :=
  inferInstanceAs (Decidable (_ ∧ _))

namespace GenericServer

variable {srv : GenericServer} {world : Conditions} {id : UInt8} {origin : Origin}

variable {dataEndpoint : Bool}

theorem not_foreign_of_holds (held : srv.holdsChannel id origin dataEndpoint = true) :
    ¬ (srv.channels id).Foreign origin dataEndpoint := by
  rintro ⟨-, mismatch⟩
  simp [holdsChannel, mismatch] at held

/-- What a handler that stands at its answer has left to do concerns the sender: it reports no frame,
it notes the activity of a channel the sender holds, or it releases one by the control endpoint. -/
def Concerns (srv : GenericServer) (origin : Origin) (dataEndpoint : Bool) :
    HandlerStage → Prop
  | .ended _ => True
  | .sending _ (.report result) => ∀ event, result = .ok event → event.cemiBytes = []
  | .sending _ (.note event) => srv.holdsChannel event.channelId origin dataEndpoint = true
  | .sending _ (.release _) => dataEndpoint = false

theorem OnlyReports.concerns {stage : HandlerStage} (reports : OnlyReports stage)
    (dataEndpoint : Bool) : srv.Concerns origin dataEndpoint stage := by
  cases stage with
  | ended result => trivial
  | sending pkt remaining =>
    cases remaining with
    | report result => exact reports
    | note event | release chan => exact reports.elim

/-- A note of a channel that is another client's by then changes nothing: it hands over no frame, and
the channel was active at this very time. -/
def Harmless (srv : GenericServer) (world : Conditions) (origin : Origin) (dataEndpoint : Bool) :
    Remaining → Prop
  | .note event => (srv.channels event.channelId).Foreign origin dataEndpoint →
    event.cemiBytes = [] ∧ (srv.channels event.channelId).lastActivityMs = world.nowMs
  | _ => True

section

variable {begun : GenericServer} {pkt : Octets} {remaining : Remaining}
  (concerns : begun.Concerns origin dataEndpoint (.sending pkt remaining))

include concerns

theorem Concerns.harmless (same : srv.channels = begun.channels) :
    srv.Harmless world origin dataEndpoint remaining := by
  cases remaining with
  | report result | release chan => trivial
  | note event =>
    intro foreign
    rw [same] at foreign
    exact absurd foreign (not_foreign_of_holds concerns)

end

def secondPeer : TransportPeer :=
  ⟨[2, 0, 14, 87, 192, 168, 1, 11, 0, 0, 0, 0, 0, 0, 0, 0], 16⟩

def secondConnect : Datagram :=
  ⟨connectRequestService, .connectRequest
    { controlEndpoint := Hpai.default
      dataEndpoint := Hpai.default
      knxLayer := tunnelLinkLayer
      requestedAddress := none }⟩

def conditionsAt (nowMs : UInt32) : Conditions :=
  { deliveryConditions (fun pkt => .ok pkt.length) with nowMs := nowMs }

end GenericServer

end KmxAio.Knx
