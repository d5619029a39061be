import KmxAio.Knx.Discovery

/-!
# Description information blocks

What a KNXnet/IP server says about itself: a run of blocks, each beginning with
its own length and its type. A type that is not modelled is kept as its octets,
and so is a list of service families that names one this build does not know.
-/

namespace KmxAio.Knx.Dib

open Lib.Wire

inductive BlockType where
  | deviceInfo
  | supportedServiceFamilies
  | ipConfig
  | currentIpConfig
  | knxAddresses
  | securedServiceFamilies
  | tunnellingInfo
  | extendedDeviceInfo
  | manufacturerData
  deriving DecidableEq

def BlockType.toOctet : BlockType → UInt8
  | .deviceInfo => 0x01
  | .supportedServiceFamilies => 0x02
  | .ipConfig => 0x03
  | .currentIpConfig => 0x04
  | .knxAddresses => 0x05
  | .securedServiceFamilies => 0x06
  | .tunnellingInfo => 0x07
  | .extendedDeviceInfo => 0x08
  | .manufacturerData => 0xFE

inductive ServiceFamily where
  | core
  | deviceManagement
  | tunnelling
  | routing
  | remoteLogging
  | remoteConfiguration
  | objectServer
  | security
  deriving DecidableEq

def ServiceFamily.toOctet : ServiceFamily → UInt8
  | .core => 0x02
  | .deviceManagement => 0x03
  | .tunnelling => 0x04
  | .routing => 0x05
  | .remoteLogging => 0x06
  | .remoteConfiguration => 0x07
  | .objectServer => 0x08
  | .security => 0x09

def knownServiceFamily (val : UInt8) : Bool :=
  [ServiceFamily.core, .deviceManagement, .tunnelling, .routing, .remoteLogging,
    .remoteConfiguration, .objectServer, .security].any (fun family => family.toOctet == val)

def blockHeaderSize : Nat := 2
def deviceInfoSize : Nat := 54
def ipConfigSize : Nat := 16
def currentIpConfigSize : Nat := 20
def manufacturerDataMinSize : Nat := 4
def maxBlockSize : Nat := 0xFF

structure DeviceInfo where
  knxMedium : UInt8
  deviceStatus : UInt8
  address : UInt16
  projectInstallationId : UInt16
  serialNumber : OctetArray 6
  multicastAddress : OctetArray 4
  macAddress : OctetArray 6
  friendlyName : OctetArray 30
  deriving DecidableEq

/-- A service family and the version of it a server serves. The family is the octet of an
enumeration that may hold values without a name. -/
structure ServiceFamilyEntry where
  family : UInt8
  version : UInt8
  deriving DecidableEq

structure IpConfig where
  address : OctetArray 4
  subnetMask : OctetArray 4
  defaultGateway : OctetArray 4
  capabilities : UInt8
  assignmentMethod : UInt8
  deriving DecidableEq

structure CurrentIpConfig where
  address : OctetArray 4
  subnetMask : OctetArray 4
  defaultGateway : OctetArray 4
  dhcpServer : OctetArray 4
  assignmentMethod : UInt8
  deriving DecidableEq

inductive Block where
  | deviceInfo (value : DeviceInfo)
  | supportedServiceFamilies (secured : Bool) (families : List ServiceFamilyEntry)
  | ipConfig (value : IpConfig)
  | currentIpConfig (value : CurrentIpConfig)
  | addresses (device : UInt16) (additional : List UInt16)
  | manufacturerData (manufacturerId : UInt16) (data : Octets)
  | unknownBlock (typeCode : UInt8) (data : Octets)
  deriving DecidableEq

/-! ## Encoding -/

def blockSize : Block → Nat
  | .deviceInfo _ => deviceInfoSize
  | .supportedServiceFamilies _ families => blockHeaderSize + 2 * families.length
  | .ipConfig _ => ipConfigSize
  | .currentIpConfig _ => currentIpConfigSize
  | .addresses _ additional => blockHeaderSize + 2 + 2 * additional.length
  | .manufacturerData _ data => manufacturerDataMinSize + data.length
  | .unknownBlock _ data => blockHeaderSize + data.length

def ServiceFamilyEntry.octets (entry : ServiceFamilyEntry) : Octets := [entry.family, entry.version]

def blockContent : Block → Octets
  | .deviceInfo val =>
      [val.knxMedium, val.deviceStatus] ++ (u16Octets val.address ++
        (u16Octets val.projectInstallationId ++ (val.serialNumber.toList ++
          (val.multicastAddress.toList ++ (val.macAddress.toList ++ val.friendlyName.toList)))))
  | .supportedServiceFamilies _ families => families.flatMap ServiceFamilyEntry.octets
  | .ipConfig val =>
      val.address.toList ++ (val.subnetMask.toList ++ (val.defaultGateway.toList ++
        [val.capabilities, val.assignmentMethod]))
  | .currentIpConfig val =>
      -- the last octet is reserved
      val.address.toList ++ (val.subnetMask.toList ++ (val.defaultGateway.toList ++
        (val.dhcpServer.toList ++ [val.assignmentMethod, 0])))
  | .addresses device additional => u16Octets device ++ additional.flatMap u16Octets
  | .manufacturerData manufacturerId data => u16Octets manufacturerId ++ data
  | .unknownBlock _ data => data

def blockTypeCode : Block → UInt8
  | .deviceInfo _ => BlockType.deviceInfo.toOctet
  | .supportedServiceFamilies secured _ =>
      if secured then BlockType.securedServiceFamilies.toOctet
      else BlockType.supportedServiceFamilies.toOctet
  | .ipConfig _ => BlockType.ipConfig.toOctet
  | .currentIpConfig _ => BlockType.currentIpConfig.toOctet
  | .addresses .. => BlockType.knxAddresses.toOctet
  | .manufacturerData .. => BlockType.manufacturerData.toOctet
  | .unknownBlock typeCode _ => typeCode

def writeBlock (size : Nat) (val : Block) : Octets :=
  UInt8.ofNat size :: blockTypeCode val :: blockContent val

def encode (room : Nat) (val : Block) : Expected Octets :=
  let size := blockSize val
  -- the structure length is one octet, so a longer block cannot describe itself
  if size > maxBlockSize then refuse .invalidLength
  else if room < size then refuse .invalidLength
  else .ok (writeBlock size val)

def encodeAll (room : Nat) : List Block → Expected Octets
  | [] => .ok []
  | val :: values =>
      match encode room val with
      | .error why => .error why
      | .ok written =>
          match encodeAll (room - written.length) values with
          | .error why => .error why
          | .ok more => .ok (written ++ more)

/-! ## Decoding -/

variable (octets : Octets) (body : Octets)

def decodeDeviceInfo : Expected Block :=
  if body.length ≠ deviceInfoSize then refuse .malformedFrame
  else
    .ok (.deviceInfo
      { knxMedium := octetAt body 2
        deviceStatus := octetAt body 3
        address := readU16 body 4
        projectInstallationId := readU16 body 6
        serialNumber := readArray 6 8 body
        multicastAddress := readArray 4 14 body
        macAddress := readArray 6 18 body
        friendlyName := readArray 30 24 body })

def pairsWith {α : Type} (entry : UInt8 → UInt8 → α) : Octets → List α
  | first :: second :: rest => entry first second :: pairsWith entry rest
  | _ => []

def familyEntries : Octets → List ServiceFamilyEntry := pairsWith ServiceFamilyEntry.mk

def decodeUnknown (type : UInt8) : Block :=
  .unknownBlock type (body.drop blockHeaderSize)

/-- Reads a list of service families. One that names an unknown family is kept as its octets. -/
def decodeServiceFamilies (secured : Bool) : Expected Block :=
  if (body.length - blockHeaderSize) % 2 ≠ 0 then refuse .malformedFrame
  else
    let families := familyEntries (body.drop blockHeaderSize)
    if families.all (fun entry => knownServiceFamily entry.family) then
      .ok (.supportedServiceFamilies secured families)
    else .ok (decodeUnknown body (octetAt body 1))

def decodeIpConfig : Expected Block :=
  if body.length ≠ ipConfigSize then refuse .malformedFrame
  else
    .ok (.ipConfig
      { address := readArray 4 2 body
        subnetMask := readArray 4 6 body
        defaultGateway := readArray 4 10 body
        capabilities := octetAt body 14
        assignmentMethod := octetAt body 15 })

def decodeCurrentIpConfig : Expected Block :=
  if body.length ≠ currentIpConfigSize then refuse .malformedFrame
  else
    .ok (.currentIpConfig
      { address := readArray 4 2 body
        subnetMask := readArray 4 6 body
        defaultGateway := readArray 4 10 body
        dhcpServer := readArray 4 14 body
        assignmentMethod := octetAt body 18 })

def addressList : Octets → List UInt16 := pairsWith fun high low => readU16 [high, low] 0

def decodeAddresses : Expected Block :=
  if body.length < 4 ∨ body.length % 2 ≠ 0 then refuse .malformedFrame
  else .ok (.addresses (readU16 body 2) (addressList (body.drop 4)))

def decodeManufacturerData : Expected Block :=
  if body.length < manufacturerDataMinSize then refuse .malformedFrame
  else .ok (.manufacturerData (readU16 body 2) (body.drop manufacturerDataMinSize))

def blockBody : Option Octets :=
  if octets.length < blockHeaderSize then none
  else
    let size := (octetAt octets 0).toNat
    if size < blockHeaderSize ∨ size > octets.length then none else some (octets.take size)

def decodeBody (type : UInt8) : Expected Block :=
  if type = BlockType.deviceInfo.toOctet then decodeDeviceInfo body
  else if type = BlockType.supportedServiceFamilies.toOctet then decodeServiceFamilies body false
  else if type = BlockType.securedServiceFamilies.toOctet then decodeServiceFamilies body true
  else if type = BlockType.ipConfig.toOctet then decodeIpConfig body
  else if type = BlockType.currentIpConfig.toOctet then decodeCurrentIpConfig body
  else if type = BlockType.knxAddresses.toOctet then decodeAddresses body
  else if type = BlockType.manufacturerData.toOctet then decodeManufacturerData body
  else .ok (decodeUnknown body type)

def decode : Expected Block :=
  match blockBody octets with
  | none => refuse .malformedFrame
  | some body => decodeBody body (octetAt octets 1)

def decodeBlocks : Nat → Octets → Expected (List Block)
  | 0, _ => .ok []
  | count + 1, octets =>
      if octets = [] then .ok []
      else
        match decode octets with
        | .error why => .error why
        | .ok val =>
            match decodeBlocks count (octets.drop (octetAt octets 0).toNat) with
            | .error why => .error why
            | .ok more => .ok (val :: more)

def decodeAll : Expected (List Block) := decodeBlocks octets.length octets

end KmxAio.Knx.Dib
