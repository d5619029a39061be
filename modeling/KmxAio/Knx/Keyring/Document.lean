import KmxAio.Knx.Secure.Ccm
import KmxAio.Knx.Connection

/-!
# Keyrings

What an ETS keyring says: the interfaces with the groups that may be reached
through them, the keys of the groups, the devices, and the backbone. The texts a
document carries about its own making are left out; nothing here reads them.
-/

namespace KmxAio.Knx.Keyring

open Lib.Wire Connection Secure

abbrev GroupAddress := UInt16

inductive InterfaceType where
  | tunnelling
  | usb
  | backbone
  deriving DecidableEq

structure GroupSenders where
  address : GroupAddress
  senders : List IndividualAddress
  deriving DecidableEq

structure Backbone where
  multicastAddress : OctetArray 4 := readArray 4 0 [224, 0, 23, 12]
  latencyMs : UInt16 := 1000
  key : SecretKey
  deriving DecidableEq

structure InterfaceEntry where
  type : InterfaceType
  address : IndividualAddress
  host : Option IndividualAddress := none
  userId : Option UInt8 := none
  userPassword : Octets := []
  deviceAuthentication : Octets := []
  groups : List GroupSenders := []
  deriving DecidableEq

structure GroupKey where
  address : GroupAddress
  key : SecretKey
  deriving DecidableEq

structure Device where
  address : IndividualAddress
  toolKey : SecretKey := zeroArray 16
  managementPassword : Octets := []
  authentication : Octets := []
  sequenceNumber : UInt64 := 0
  deriving DecidableEq

structure Document where
  backboneEntry : Option Backbone := none
  interfaces : List InterfaceEntry := []
  groupKeys : List GroupKey := []
  devices : List Device := []
  deriving DecidableEq

end KmxAio.Knx.Keyring
