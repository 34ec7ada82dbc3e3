import PowerStoreCsi.Array.VolumeID

set_option autoImplicit false

/-! # The controller service and the messages of its extension RPCs

The controller's handlers are methods of `Service`. Of its state they read the array registry
(the embedded `Locker`, with the package variable `IPToArray`) and the replication context
prefix that namespaces the protection-group attributes. The requests and responses below keep
the fields the modelled handlers read or write. -/

namespace PowerStoreCsi

/-- `controller.Service`, as the modelled handlers read it. -/
structure Service where
  registry : Registry
  replicationContextPrefix : String

/-! ## Replication (`csiext`) -/

/-- `csiext.ActionTypes`: the six actions the driver supports, and any other value. -/
inductive ReplicationActionType where
  | failoverRemote | unplannedFailoverLocal | suspend | resume | sync | reprotectLocal
  | other (name : String)
  deriving DecidableEq, Repr

/-- `csiext.StorageProtectionGroupStatus_State`. -/
inductive ProtectionGroupState where
  | synchronized | failedOver | suspended | syncInProgress | invalid | unknown
  deriving DecidableEq, Repr, Inhabited

/-- `csiext.StorageProtectionGroupStatus`. -/
structure StorageProtectionGroupStatus where
  state : ProtectionGroupState
  isSource : Bool
  deriving DecidableEq, Repr, Inhabited

/-- `csiext.ExecuteActionRequest`. -/
structure ExecuteActionRequest where
  protectionGroupId : String
  protectionGroupAttributes : GoMap String String
  action : ReplicationActionType

/-- `csiext.ExecuteActionResponse`. -/
structure ExecuteActionResponse where
  success : Bool
  action : ReplicationActionType
  status : StorageProtectionGroupStatus
  deriving DecidableEq, Repr

/-- The request of `GetStorageProtectionGroupStatus` and of `DeleteStorageProtectionGroup`:
    a protection group and its attributes. -/
structure ProtectionGroupRequest where
  protectionGroupId : String
  protectionGroupAttributes : GoMap String String

/-- `csiext.CreateStorageProtectionGroupRequest`. -/
structure CreateStorageProtectionGroupRequest where
  volumeHandle : String
  parameters : GoMap String String

/-- `csiext.CreateStorageProtectionGroupResponse`: the group on each side, with the attributes
    the later requests about it carry. -/
structure CreateStorageProtectionGroupResponse where
  localProtectionGroupId : String
  remoteProtectionGroupId : String
  localProtectionGroupAttributes : GoMap String String
  remoteProtectionGroupAttributes : GoMap String String

/-- `csiext.CreateRemoteVolumeRequest`. -/
structure CreateRemoteVolumeRequest where
  volumeHandle : String
  parameters : GoMap String String

/-- `csiext.Volume`: a volume as the replication extension describes it. -/
structure Csiext.Volume where
  capacityBytes : Int
  volumeId : String
  volumeContext : GoMap String String

/-- `csiext.CreateRemoteVolumeResponse`. -/
structure CreateRemoteVolumeResponse where
  remoteVolume : Csiext.Volume

/-- `csiext.ReplicationCapability_RPC_Type`: the RPCs of the replication extension. -/
inductive ReplicationCapabilityRPC where
  | createRemoteVolume | createProtectionGroup | deleteProtectionGroup
  | replicationActionExecution | monitorProtectionGroup
  deriving DecidableEq, Repr

/-- `csiext.GetReplicationCapabilityResponse`. -/
structure GetReplicationCapabilityResponse where
  capabilities : List ReplicationCapabilityRPC
  actions : List ReplicationActionType
  deriving DecidableEq, Repr

/-! ## Pod monitoring (`podmon`) -/

/-- `podmon.ValidateVolumeHostConnectivityRequest`. -/
structure ValidateVolumeHostConnectivityRequest where
  nodeId : String
  arrayId : String
  volumeIds : List String
  deriving DecidableEq, Repr

/-- `podmon.ValidateVolumeHostConnectivityResponse`. -/
structure ValidateVolumeHostConnectivityResponse where
  connected : Bool
  iosInProgress : Bool
  messages : List String
  deriving DecidableEq, Repr, Inhabited

end PowerStoreCsi
