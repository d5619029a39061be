import KmxAio.Knx.Datagram

/-!
# Forms that share a service

CONNECT_REQUEST, CONNECT_RESPONSE and SEARCH_RESPONSE have several forms each, with a
decoder for every form. The forms of CONNECT differ in length, those of
SEARCH_RESPONSE in the first octet of their address block.
-/

namespace KmxAio.Knx

open Lib.Wire Knx.Frame Connection Discovery

def accepted {α : Type} (payload : α → DatagramPayload) (decoded : Expected α) :
    List DatagramPayload :=
  (decoded.toOption.map payload).toList

variable (pkt : Octets)

def connectRequestForms : List DatagramPayload :=
  accepted .connectRequest (decodeConnectRequestPacket pkt) ++
    (accepted .ipv6ConnectRequest (decodeIpv6ConnectRequestPacket pkt) ++
      accepted .managementConnectRequest (decodeManagementConnectRequestPacket pkt))

def tunnelResponseForms : List DatagramPayload :=
  accepted .connectResponse (decodeConnectResponsePacket pkt) ++
    accepted .ipv6ConnectResponse (decodeIpv6ConnectResponsePacket pkt)

def connectResponseForms : List DatagramPayload :=
  tunnelResponseForms pkt ++
    accepted .managementConnectResponse (decodeManagementConnectResponsePacket pkt)

def searchResponseForms : List DatagramPayload :=
  accepted .searchResponse (decodeSearchResponsePacket pkt) ++
    accepted .ipv6SearchResponse (decodeIpv6SearchResponsePacket pkt)

/-- No two forms accept a packet, and a datagram is read as the form that does. -/
def ToldApart (service : UInt16) (pkt : Octets) (forms : List DatagramPayload) : Prop :=
  ∀ form ∈ forms, decodeDatagram pkt = .ok ⟨service, form⟩ ∧ ∀ other ∈ forms, other = form

variable {pkt} {service : UInt16} {α : Type} {val : α} {chosen : Expected Datagram}

theorem mem_accepted {payload : α → DatagramPayload} {decoded : Expected α}
    {form : DatagramPayload} :
    form ∈ accepted payload decoded ↔ ∃ val, decoded = .ok val ∧ payload val = form := by
  cases decoded <;> simp [accepted, Except.toOption, eq_comm]

theorem toldApart_of_read {forms : List DatagramPayload}
    (read : ∀ form ∈ forms, decodeDatagram pkt = .ok ⟨service, form⟩) :
    ToldApart service pkt forms := by
  refine fun form listed => ⟨read form listed, fun other also => ?_⟩
  have same := (read other also).symm.trans (read form listed)
  injection same with same
  exact congrArg Datagram.payload same

/-! ## CONNECT -/

theorem read_of_header {rest : Expected α}
    (accepts : (decodeCommunicationHeader pkt).bind (fun header =>
      if ¬ validHeader header pkt.length service then refuse .unsupportedService else rest) =
        .ok val) (selects : decodeService service pkt pkt.length = some chosen) :
    decodeDatagram pkt = chosen ∧ rest = .ok val := by
  obtain ⟨header, decoded, accepts⟩ := bind_ok accepts
  obtain ⟨valid, accepts⟩ := refuse_ite_ok.mp accepts
  simp only [validHeader, Bool.and_eq_true, beq_iff_eq, not_not] at valid
  refine ⟨?_, accepts⟩
  simp [decodeDatagram, decoded, valid, selects]

variable (form : DatagramPayload)

theorem connectRequestForms_read (listed : form ∈ connectRequestForms pkt) :
    decodeDatagram pkt = .ok ⟨connectRequestService, form⟩ := by
  simp only [connectRequestForms, List.mem_append, mem_accepted] at listed
  rcases listed with ⟨val, accepts, rfl⟩ | ⟨val, accepts, rfl⟩ | ⟨val, accepts, rfl⟩ <;>
    obtain ⟨read, rest⟩ := read_of_header accepts rfl <;>
    have size := (refuse_ite_ok.mp rest).1 <;>
    simp only [communicationHeaderSize, beq_iff_eq, not_not] at size
  · have other : pkt.length ≠ 50 ∧ pkt.length ≠ 24 := by omega
    simp [read, decodeConnectRequest, communicationHeaderSize, other, accepts, asDatagram, Except.map]
  · simp [read, decodeConnectRequest, communicationHeaderSize, size, accepts, asDatagram, Except.map]
  · simp [read, decodeConnectRequest, communicationHeaderSize, size, accepts, asDatagram, Except.map,
      decodedOr]

theorem tunnelResponseForms_read (listed : form ∈ tunnelResponseForms pkt) :
    decodeDatagram pkt = .ok ⟨connectResponseService, form⟩ := by
  simp only [tunnelResponseForms, List.mem_append, mem_accepted] at listed
  rcases listed with ⟨val, accepts, rfl⟩ | ⟨val, accepts, rfl⟩ <;>
    obtain ⟨read, rest⟩ := read_of_header accepts rfl
  · have size : pkt.length = 8 ∨ pkt.length = 20 := by
      by_cases short : pkt.length = communicationHeaderSize + 2
      · exact .inl short
      · rw [if_neg short] at rest
        exact .inr (not_not.mp (refuse_ite_ok.mp rest).1)
    rcases size with size | size <;>
      simp [read, decodeConnectResponse, communicationHeaderSize, size, accepts, asDatagram,
        Except.map]
  · have size := not_not.mp (refuse_ite_ok.mp rest).1
    simp [read, decodeConnectResponse, communicationHeaderSize, size, accepts, asDatagram, Except.map]

/-! ## SEARCH_RESPONSE -/

theorem octetAt_subspan (offset : Nat) {count : Nat} (nonempty : 0 < count) :
    octetAt (subspan pkt offset count) 0 = octetAt pkt offset := by
  rw [subspan, octetAt_take _ nonempty]
  simp [octetAt]

theorem read_of_checkService {sized : Bool} (checked : checkService pkt service sized = .ok ())
    (selects : decodeService service pkt pkt.length = some chosen) :
    decodeDatagram pkt = chosen ∧ sized = true := by
  obtain ⟨header, decoded, checked⟩ := bind_ok checked
  obtain ⟨named, checked⟩ := refuse_ite_ok.mp checked
  obtain ⟨whole, -⟩ := refuse_ite_ok.mp checked
  simp only [not_or, not_not, Bool.not_eq_false] at named whole
  refine ⟨?_, whole.2⟩
  simp [decodeDatagram, decoded, named, whole.1, selects]

theorem ipv6SearchResponse_read {val : Ipv6SearchResponseFrame}
    (accepts : decodeIpv6SearchResponsePacket pkt = .ok val) :
    decodeDatagram pkt =
        decodeSearchResponse searchResponseService pkt pkt.length ∧
      pkt.length ≥ communicationHeaderSize + ipv6HpaiSize + 2 ∧ octetAt pkt 6 = 20 := by
  obtain ⟨_, checked, accepts⟩ := bind_ok accepts
  obtain ⟨endpoint, decoded, -⟩ := bind_ok accepts
  obtain ⟨read, large⟩ := read_of_checkService checked rfl
  have twenty := (refuse_ite_ok.mp decoded).1
  rw [octetAt_subspan _ (by decide)] at twenty
  exact ⟨read, of_decide_eq_true large, not_not.mp (not_or.mp twenty).2⟩

theorem searchResponseForms_read (listed : form ∈ searchResponseForms pkt) :
    decodeDatagram pkt = .ok ⟨searchResponseService, form⟩ := by
  simp only [searchResponseForms, List.mem_append, mem_accepted] at listed
  rcases listed with ⟨val, accepts, rfl⟩ | ⟨val, accepts, rfl⟩
  · obtain ⟨_, checked, rest⟩ := bind_ok accepts
    obtain ⟨endpoint, decoded, -⟩ := bind_ok rest
    have eight := (refuse_ite_ok.mp (refuse_ite_ok.mp decoded).2).1
    rw [octetAt_subspan _ (by decide), not_or, not_not] at eight
    rw [(read_of_checkService checked rfl).1, decodeSearchResponse, accepts]
    cases ipv6 : decodeIpv6SearchResponsePacket pkt with
    | error why => split_ifs <;> rfl
    | ok other => exact absurd (eight.2.symm.trans (ipv6SearchResponse_read ipv6).2.2) (by decide)
  · obtain ⟨read, large, -⟩ := ipv6SearchResponse_read accepts
    rw [read, decodeSearchResponse, if_pos large, accepts]
    rfl

/-- The forms of a service are never mistaken for one another. A refusal of eight octets is the one
packet two decoders accept: the tunnelling and the management decoder read it the same way, and it is
read as the tunnelling form. -/
theorem shared_services_told_apart (pkt : Octets) :
    ToldApart connectRequestService pkt (connectRequestForms pkt) ∧
      (pkt.length ≠ communicationHeaderSize + 2 →
        ToldApart connectResponseService pkt (connectResponseForms pkt)) ∧
      (pkt.length = communicationHeaderSize + 2 →
        ToldApart connectResponseService pkt (tunnelResponseForms pkt) ∧
          (decodeConnectResponsePacket pkt).toOption.map
              (fun frame => (frame.channelId, frame.status)) =
            (decodeManagementConnectResponsePacket pkt).toOption.map
              (fun frame => (frame.channelId, frame.status))) ∧
      ToldApart searchResponseService pkt (searchResponseForms pkt) := by
  refine ⟨toldApart_of_read connectRequestForms_read, fun long => toldApart_of_read ?_,
    fun short => ⟨toldApart_of_read tunnelResponseForms_read, ?_⟩,
    toldApart_of_read searchResponseForms_read⟩
  · intro form listed
    rcases List.mem_append.mp listed with tunnel | management
    · exact tunnelResponseForms_read form tunnel
    obtain ⟨val, accepts, rfl⟩ := mem_accepted.mp management
    obtain ⟨read, rest⟩ := read_of_header accepts rfl
    rw [if_neg long] at rest
    have size := not_not.mp (refuse_ite_ok.mp rest).1
    simp [read, decodeConnectResponse, communicationHeaderSize, size, accepts, asDatagram, Except.map,
      decodedOr]
  · unfold decodeConnectResponsePacket decodeManagementConnectResponsePacket
    cases decodeCommunicationHeader pkt with
    | error why => rfl
    | ok header =>
      dsimp only [bind, Except.bind]
      split_ifs
      · cases decodeShortConnectResponse pkt <;> rfl
      · rfl

/-- A server without a free channel refuses. -/
theorem shared_services_told_apart_refusal :
    decodeDatagram [0x06, 0x10, 0x02, 0x06, 0x00, 0x08, 0x00, 0x24] =
      .ok ⟨connectResponseService, .connectResponse ⟨0, .noMoreConnections, Hpai.default, 0⟩⟩ :=
  (((shared_services_told_apart _).2.2.1 rfl).1 _ (by decide +kernel)).1

end KmxAio.Knx
