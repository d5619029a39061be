import KmxAio.Knx.Connection

/-!
# KNXnet/IP discovery frames

SEARCH, extended SEARCH and DESCRIPTION. A response carries description
information blocks, which are kept as octets once their lengths are known to
cover the frame exactly.
-/

namespace KmxAio.Knx.Discovery

open Lib.Wire Knx.Frame Connection

def searchRequestService : UInt16 := 0x0201
def searchResponseService : UInt16 := 0x0202
def descriptionRequestService : UInt16 := 0x0203
def descriptionResponseService : UInt16 := 0x0204
def searchRequestExtendedService : UInt16 := 0x020B
def searchResponseExtendedService : UInt16 := 0x020C

/-- Walks description blocks by their lengths; `fuel` bounds the number of blocks. -/
def walkBlocks : Nat → Octets → Bool
  | 0, octets => octets.isEmpty
  | fuel + 1, octets =>
    if octets.isEmpty then true
    else
      let size := (octetAt octets 0).toNat
      if size < 2 ∨ size > octets.length then false
      else walkBlocks fuel (octets.drop size)

/-- Whether octets are a run of blocks whose lengths add up; a block has at least two octets. -/
def validBlocks (octets : Octets) : Bool := walkBlocks octets.length octets

def decodeHpai (source : Octets) : Expected Hpai :=
  if source ≠ [] ∧ octetAt source 0 = 20 then refuse .unsupportedHpai
  else if source.length < hpaiSize ∨ octetAt source 0 ≠ 8 then refuse .malformedFrame
  else if octetAt source 1 ≠ 0x01 then refuse .unsupportedHpai
  else .ok ⟨⟨readArray 4 2 source, readU16 source 6⟩, octetAt source 1⟩

def decodeIpv6Hpai (source : Octets) : Expected Ipv6Hpai :=
  if source.length < ipv6HpaiSize ∨ octetAt source 0 ≠ 20 then refuse .malformedFrame
  else if octetAt source 1 ≠ 0x01 then refuse .unsupportedHpai
  else .ok ⟨⟨readArray 16 2 source, readU16 source 18⟩, octetAt source 1⟩

structure SearchRequestFrame where
  discoveryEndpoint : Hpai
  deriving DecidableEq

structure Ipv6SearchRequestFrame where
  discoveryEndpoint : Ipv6Hpai
  deriving DecidableEq

structure SearchResponseFrame where
  controlEndpoint : Hpai
  deviceInfoBlocks : Octets
  deriving DecidableEq

structure Ipv6SearchResponseFrame where
  controlEndpoint : Ipv6Hpai
  deviceInfoBlocks : Octets
  deriving DecidableEq

structure DescriptionRequestFrame where
  controlEndpoint : Hpai
  deriving DecidableEq

structure DescriptionResponseFrame where
  deviceInfoBlocks : Octets
  deriving DecidableEq

inductive SearchParameterType where
  | programmingMode
  | macAddress
  | service
  | requestDibs
  deriving DecidableEq

def knownSearchParameter (code : UInt8) : Option SearchParameterType :=
  if code = 0x01 then some .programmingMode
  else if code = 0x02 then some .macAddress
  else if code = 0x03 then some .service
  else if code = 0x04 then some .requestDibs
  else none

structure SearchParameter where
  mandatory : Bool
  type : SearchParameterType
  data : Octets
  deriving DecidableEq

structure ExtendedSearchRequestFrame where
  discoveryEndpoint : Hpai
  parameters : List SearchParameter
  deriving DecidableEq

def searchParameterDataSize : SearchParameterType → Option Nat
  | .programmingMode => some 0
  | .macAddress => some 6
  | .service => some 2
  | .requestDibs => none

/-! ## Decoders -/

variable (pkt : Octets)

def checkService (service : UInt16) (sized : Bool) : Expected Unit := do
  let header ← decodeCommunicationHeader pkt
  if header.protocolVersion ≠ 0x10 ∨ header.serviceType ≠ service then refuse .unsupportedService
  else if header.totalLength.toNat ≠ pkt.length ∨ sized = false then refuse .malformedFrame
  else return ()

def decodeSearchRequestPacket : Expected SearchRequestFrame := do
  checkService pkt searchRequestService
    (pkt.length == communicationHeaderSize + hpaiSize)
  let endpoint ← Discovery.decodeHpai (subspan pkt communicationHeaderSize hpaiSize)
  return ⟨endpoint⟩

def decodeIpv6SearchRequestPacket : Expected Ipv6SearchRequestFrame := do
  checkService pkt searchRequestService
    (pkt.length == communicationHeaderSize + ipv6HpaiSize)
  let endpoint ← Discovery.decodeIpv6Hpai (subspan pkt communicationHeaderSize ipv6HpaiSize)
  return ⟨endpoint⟩

def decodeResponse (service : UInt16) (minimum : Nat) : Expected SearchResponseFrame := do
  checkService pkt service (minimum ≤ pkt.length)
  let endpoint ← Discovery.decodeHpai (subspan pkt communicationHeaderSize hpaiSize)
  let blocks := pkt.drop (communicationHeaderSize + hpaiSize)
  if validBlocks blocks then return ⟨endpoint, blocks⟩ else refuse .malformedFrame

def decodeSearchResponsePacket : Expected SearchResponseFrame :=
  decodeResponse pkt searchResponseService (communicationHeaderSize + hpaiSize + 2)

def decodeExtendedSearchResponsePacket : Expected SearchResponseFrame :=
  decodeResponse pkt searchResponseExtendedService (communicationHeaderSize + hpaiSize)

def decodeIpv6SearchResponsePacket : Expected Ipv6SearchResponseFrame := do
  let dibOffset := communicationHeaderSize + ipv6HpaiSize
  checkService pkt searchResponseService (dibOffset + 2 ≤ pkt.length)
  let endpoint ← Discovery.decodeIpv6Hpai (subspan pkt communicationHeaderSize ipv6HpaiSize)
  let blocks := pkt.drop dibOffset
  if validBlocks blocks then return ⟨endpoint, blocks⟩ else refuse .malformedFrame

def decodeDescriptionRequestPacket : Expected DescriptionRequestFrame := do
  checkService pkt descriptionRequestService
    (pkt.length == communicationHeaderSize + hpaiSize)
  let endpoint ← Discovery.decodeHpai (subspan pkt communicationHeaderSize hpaiSize)
  return ⟨endpoint⟩

def decodeDescriptionResponsePacket : Expected DescriptionResponseFrame := do
  checkService pkt descriptionResponseService (communicationHeaderSize + 2 ≤ pkt.length)
  let blocks := pkt.drop communicationHeaderSize
  if validBlocks blocks then return ⟨blocks⟩ else refuse .malformedFrame

/-- One parameter block, its two-octet prologue included; an unknown optional one is skipped. -/
def decodeSearchParameter (block : Octets) : Expected (Option SearchParameter) :=
  let typeOctet := octetAt block 1
  let mandatory := typeOctet &&& 0x80 ≠ 0
  match knownSearchParameter (typeOctet &&& 0x7F) with
  | none => if mandatory then refuse .unsupportedService else .ok none
  | some type =>
    if ∃ required ∈ searchParameterDataSize type, block.length - 2 ≠ required then
      refuse .malformedFrame
    else .ok (some ⟨mandatory, type, block.drop 2⟩)

/-- The parameter blocks of a request; each has at least two octets, so `fuel` of them suffice. -/
def decodeSearchParameters : Nat → Octets → Expected (List SearchParameter)
  | 0, octets => if octets.isEmpty then .ok [] else refuse .malformedFrame
  | fuel + 1, octets =>
    if octets.isEmpty then .ok []
    else
      let size := (octetAt octets 0).toNat
      if size < 2 ∨ size > octets.length then refuse .malformedFrame
      else do
        let parameter ← decodeSearchParameter (octets.take size)
        let rest ← decodeSearchParameters fuel (octets.drop size)
        return parameter.toList ++ rest

def decodeExtendedSearchRequestPacket : Expected ExtendedSearchRequestFrame := do
  checkService pkt searchRequestExtendedService
    (communicationHeaderSize + hpaiSize ≤ pkt.length)
  let endpoint ← Discovery.decodeHpai (subspan pkt communicationHeaderSize hpaiSize)
  let blocks := pkt.drop (communicationHeaderSize + hpaiSize)
  let parameters ← decodeSearchParameters blocks.length blocks
  return ⟨endpoint, parameters⟩

end KmxAio.Knx.Discovery
