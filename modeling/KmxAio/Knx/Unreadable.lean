import KmxAio.Knx.Datagram

/-!
# Why a datagram is not read

A decoder fails for what is wrong with the octets and for nothing else: no
decoder reports a reason that belongs to a session, a timer or a transport.
-/

namespace KmxAio.Knx

open Lib.Wire Lib.Fallible Knx.Frame Connection Secure

def Unreadable (code : ErrorCode) : Prop :=
  code ∈ [.knx .malformedFrame, .knx .invalidLength, .knx .unsupportedService,
    .knx .unsupportedMessageCode, .knx .unsupportedHpai, .knx .unsupportedConnectionType]

instance (code : ErrorCode) : Decidable (Unreadable code) :=
  inferInstanceAs (Decidable (code ∈ _))

@[simp] theorem failsOnlyWith_refuse {α : Type} (why : Error) :
    FailsOnlyWith Unreadable (refuse why : Expected α) ↔ Unreadable (.knx why) :=
  failsOnlyWith_error Unreadable (.knx why)

/-! ## Headers and blocks -/

variable (pkt buf : Octets) (service : UInt16) (source : Octets)

@[simp] theorem decodeCommunicationHeader_unreadable :
    FailsOnlyWith Unreadable (decodeCommunicationHeader buf) := by
  simp [decodeCommunicationHeader, Unreadable]

@[simp] theorem cemiDecode_unreadable (octets : Octets) :
    FailsOnlyWith Unreadable (Cemi.decode octets) := by
  unfold Cemi.decode
  cases Cemi.lDataCode (octetAt octets 0) <;> simp [Unreadable]

@[simp] theorem decodeHpai_unreadable : FailsOnlyWith Unreadable (decodeHpai source) := by
  simp [decodeHpai, Unreadable]

@[simp] theorem decodeIpv6Hpai_unreadable : FailsOnlyWith Unreadable (decodeIpv6Hpai source) := by
  simp [decodeIpv6Hpai, Unreadable]

@[simp] theorem discovery_decodeHpai_unreadable :
    FailsOnlyWith Unreadable (Discovery.decodeHpai source) := by
  simp [Discovery.decodeHpai, Unreadable]

@[simp] theorem discovery_decodeIpv6Hpai_unreadable :
    FailsOnlyWith Unreadable (Discovery.decodeIpv6Hpai source) := by
  simp [Discovery.decodeIpv6Hpai, Unreadable]

/-! ## Connection management -/

@[simp] theorem decodeControlPacket_unreadable :
    FailsOnlyWith Unreadable (decodeControlPacket pkt service) := by
  unfold decodeControlPacket
  cases validStatus (octetAt pkt 7) <;> simp [Unreadable]

@[simp] theorem decodeControlRequestPacket_unreadable :
    FailsOnlyWith Unreadable (decodeControlRequestPacket pkt service) := by
  simp [decodeControlRequestPacket, Unreadable]

@[simp] theorem decodeConnectRequestPacket_unreadable :
    FailsOnlyWith Unreadable (decodeConnectRequestPacket pkt) := by
  simp [decodeConnectRequestPacket, Unreadable]

@[simp] theorem decodeIpv6ConnectRequestPacket_unreadable :
    FailsOnlyWith Unreadable (decodeIpv6ConnectRequestPacket pkt) := by
  simp [decodeIpv6ConnectRequestPacket, Unreadable]

@[simp] theorem decodeShortConnectResponse_unreadable :
    FailsOnlyWith Unreadable (decodeShortConnectResponse pkt) := by
  unfold decodeShortConnectResponse
  split <;> simp [Unreadable]

@[simp] theorem decodeConnectResponsePacket_unreadable :
    FailsOnlyWith Unreadable (decodeConnectResponsePacket pkt) := by
  unfold decodeConnectResponsePacket
  cases validStatus (octetAt pkt 7) <;> simp [Unreadable]

@[simp] theorem decodeIpv6ConnectResponsePacket_unreadable :
    FailsOnlyWith Unreadable (decodeIpv6ConnectResponsePacket pkt) := by
  unfold decodeIpv6ConnectResponsePacket
  cases validStatus (octetAt pkt 7) <;> simp [Unreadable]

/-! ## Discovery -/

@[simp] theorem checkService_unreadable (sized : Bool) :
    FailsOnlyWith Unreadable (Discovery.checkService pkt service sized) := by
  simp [Discovery.checkService, Unreadable]

@[simp] theorem decodeResponse_unreadable (minimum : Nat) :
    FailsOnlyWith Unreadable (Discovery.decodeResponse pkt service minimum) := by
  simp [Discovery.decodeResponse, Unreadable]

theorem decodeSearchParameter_unreadable (block : Octets) :
    FailsOnlyWith Unreadable (Discovery.decodeSearchParameter block) := by
  unfold Discovery.decodeSearchParameter
  dsimp only
  split <;> simp [Unreadable]

theorem decodeSearchParameters_unreadable (fuel : Nat) (octets : Octets) :
    FailsOnlyWith Unreadable (Discovery.decodeSearchParameters fuel octets) := by
  induction fuel generalizing octets with
  | zero => simp [Discovery.decodeSearchParameters, Unreadable]
  | succ fuel ih =>
    simp [Discovery.decodeSearchParameters, decodeSearchParameter_unreadable, ih, Unreadable]

@[simp] theorem decodeExtendedSearchRequestPacket_unreadable :
    FailsOnlyWith Unreadable (Discovery.decodeExtendedSearchRequestPacket pkt) := by
  simp [Discovery.decodeExtendedSearchRequestPacket, decodeSearchParameters_unreadable]

/-! ## Tunnelling and routing -/

@[simp] theorem decodeTunnellingRequestPacket_unreadable :
    FailsOnlyWith Unreadable (decodeTunnellingRequestPacket buf) := by
  simp [decodeTunnellingRequestPacket, decodeTunnellingRequest, tunnellingCemiSpan, Unreadable]

@[simp] theorem decodeTunnellingAckPacket_unreadable :
    FailsOnlyWith Unreadable (decodeTunnellingAckPacket buf) := by
  simp [decodeTunnellingAckPacket, decodeTunnellingAck, Unreadable]

@[simp] theorem decodeConnectionHeader_unreadable (expectReservedZero : Bool) :
    FailsOnlyWith Unreadable (decodeConnectionHeader buf expectReservedZero) := by
  simp [decodeConnectionHeader, Unreadable]

@[simp] theorem decodeDeviceConfigurationRequestPacket_unreadable :
    FailsOnlyWith Unreadable (decodeDeviceConfigurationRequestPacket buf) := by
  simp [decodeDeviceConfigurationRequestPacket, Unreadable]

@[simp] theorem decodeDeviceConfigurationAckPacket_unreadable :
    FailsOnlyWith Unreadable (decodeDeviceConfigurationAckPacket buf) := by
  simp [decodeDeviceConfigurationAckPacket, Unreadable]

@[simp] theorem decodeFeaturePrologue_unreadable (header : CommunicationHeader) :
    FailsOnlyWith Unreadable (decodeFeaturePrologue buf header) := by
  refine (failsOnlyWith_bind Unreadable _ _).mpr ⟨decodeConnectionHeader_unreadable _ _, ?_⟩
  intro conn _
  dsimp only
  split <;> simp [Unreadable]

@[simp] theorem decodeTunnellingFeaturePacket_unreadable :
    FailsOnlyWith Unreadable (decodeTunnellingFeaturePacket buf) := by
  simp [decodeTunnellingFeaturePacket, decodeFeatureValue, Unreadable]

@[simp] theorem decodeIndicationPacket_unreadable :
    FailsOnlyWith Unreadable (Routing.decodeIndicationPacket pkt) := by
  simp [Routing.decodeIndicationPacket, Unreadable]

@[simp] theorem validateControlPacket_unreadable (bodySize : Nat) :
    FailsOnlyWith Unreadable (Routing.validateControlPacket pkt service bodySize) := by
  simp [Routing.validateControlPacket, Unreadable]

/-! ## Secure services -/

@[simp] theorem decodeWrapperPacket_unreadable :
    FailsOnlyWith Unreadable (decodeWrapperPacket pkt) := by
  unfold decodeWrapperPacket
  cases decoded : decodeCommunicationHeader pkt with
  | error why =>
    simpa [decoded] using decodeCommunicationHeader_unreadable pkt
  | ok header => simp [Unreadable]

theorem checkHeader_unreadable (size : Nat) :
    FailsOnlyWith Unreadable (Secure.checkHeader pkt service size) := by
  unfold Secure.checkHeader
  cases decoded : decodeCommunicationHeader pkt with
  | error why =>
    simpa [decoded] using decodeCommunicationHeader_unreadable pkt
  | ok header => simp [Unreadable]

@[simp] theorem decodeSessionRequestPacket_unreadable :
    FailsOnlyWith Unreadable (decodeSessionRequestPacket pkt) := by
  unfold decodeSessionRequestPacket
  have checked := checkHeader_unreadable pkt sessionRequestService sessionRequestSize
  split
  · rename_i why failed
    simpa using checked why failed
  · simp [Unreadable]

@[simp] theorem decodeSessionResponsePacket_unreadable :
    FailsOnlyWith Unreadable (decodeSessionResponsePacket pkt) := by
  unfold decodeSessionResponsePacket
  have checked :=
    checkHeader_unreadable pkt sessionResponseService sessionResponseSize
  split
  · rename_i why failed
    simpa using checked why failed
  · simp

@[simp] theorem decodeSessionAuthenticatePacket_unreadable :
    FailsOnlyWith Unreadable (decodeSessionAuthenticatePacket pkt) := by
  unfold decodeSessionAuthenticatePacket
  have checked :=
    checkHeader_unreadable pkt sessionAuthenticateService sessionAuthenticateSize
  split
  · rename_i why failed
    simpa using checked why failed
  · simp [Unreadable]

@[simp] theorem decodeSessionStatusPacket_unreadable :
    FailsOnlyWith Unreadable (decodeSessionStatusPacket pkt) := by
  unfold decodeSessionStatusPacket
  have checked := checkHeader_unreadable pkt sessionStatusService sessionStatusSize
  split
  · rename_i why failed
    simpa using checked why failed
  · split <;> simp [Unreadable]

@[simp] theorem decodeTimerNotifyPacket_unreadable :
    FailsOnlyWith Unreadable (decodeTimerNotifyPacket pkt) := by
  simp [decodeTimerNotifyPacket, Unreadable]

/-! ## Datagrams -/

@[simp] theorem asDatagram_unreadable {α : Type} (payload : α → DatagramPayload)
    (decoded : Expected α) :
    FailsOnlyWith Unreadable (asDatagram service payload decoded) ↔
      FailsOnlyWith Unreadable decoded :=
  failsOnlyWith_map Unreadable (fun frame => (⟨service, payload frame⟩ : Datagram)) decoded

theorem decodedOr_unreadable (attempt : Expected Datagram) {fallback : Expected Datagram}
    (readable : FailsOnlyWith Unreadable fallback) :
    FailsOnlyWith Unreadable (decodedOr attempt fallback) := by
  cases attempt with
  | error why => exact readable
  | ok val => exact failsOnlyWith_ok Unreadable val

theorem decodeDatagram_unreadable : FailsOnlyWith Unreadable (decodeDatagram pkt) := by
  unfold decodeDatagram
  cases decoded : decodeCommunicationHeader pkt with
  | error why =>
    simpa [decoded] using decodeCommunicationHeader_unreadable pkt
  | ok header =>
    have body : FailsOnlyWith Unreadable ((decodeService header.serviceType pkt
        header.totalLength.toNat).getD (refuse .unsupportedService)) := by
      unfold decodeService
      split
      all_goals
        simp [decodeSearchRequest, decodeSearchResponse, decodeConnectRequest,
          decodeConnectResponse,
          decodedOr_unreadable, Discovery.decodeSearchRequestPacket,
          Discovery.decodeIpv6SearchRequestPacket, Discovery.decodeSearchResponsePacket,
          Discovery.decodeIpv6SearchResponsePacket, Discovery.decodeExtendedSearchResponsePacket,
          Discovery.decodeDescriptionRequestPacket, Discovery.decodeDescriptionResponsePacket,
          decodeConnectionstateRequestPacket, decodeConnectionstateResponsePacket,
          decodeDisconnectRequestPacket, decodeDisconnectResponsePacket,
          Routing.decodeLostMessagePacket, Routing.decodeBusyPacket, Unreadable]
    simp [body, Unreadable]

end KmxAio.Knx
