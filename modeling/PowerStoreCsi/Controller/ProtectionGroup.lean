import PowerStoreCsi.Controller.Service

set_option autoImplicit false

/-! # Creating protection groups and remote volumes

A protection group is created for a volume that belongs to a volume group with a replication
session: `CreateStorageProtectionGroup` reads the session of the volume's first group, the
array itself and its replication peer, and answers the group's ID on each side with the
attributes that every later request about the group carries. `CreateRemoteVolume` answers the
replica of the volume, as a handle on the peer. `EnsureProtectionPolicyExists` and
`EnsureReplicationRuleExists` look up the policy `pp-<name>` and the rule `rr-<name>` of a
volume group and create what is missing; `GetReplicationCapabilities` lists the RPCs and the
actions the driver supports. -/

namespace PowerStoreCsi

/-- What the replication handlers read from packages outside `src/`. -/
structure NfsHelpers where
  /-- `nfs.CsiNfsParameter`: the parameter that marks a host-based NFS volume. -/
  csiNfsParameter : String
  /-- `array.GetVolumeUUIDPrefix`: the prefix of a volume ID that the array does not know. -/
  getVolumeUUIDPrefix : String → String

/-- The opening both handlers share: for a host-based NFS volume (its `csi-nfs` parameter set
    and not empty) the prefix of the volume ID and the ID without it; otherwise no prefix. -/
def nfsVolumePrefix (nfs : NfsHelpers) (params : GoMap String String) (id : String) :
    String × String :=
  match params nfs.csiNfsParameter with
  | some accessMode =>
    if accessMode ≠ "" then
      let volPrefix := nfs.getVolumeUUIDPrefix id
      (volPrefix, Go.trimPrefix id volPrefix)
    else ("", id)
  | none => ("", id)

/-- The error of a volume whose ID lists no volume group. -/
def noGroupError : GoError :=
  .status .unimplemented
    "replication of volumes that aren't assigned to group is not implemented yet"

/-- The loop `for _, sp := range rs.StorageElementPairs` of `CreateRemoteVolume`: the replica of
    the last pair whose local element is `id`, `remoteVolumeID` when there is none. -/
def storageElementPairsLoop (id : String) : List StorageElementPair → String → String
  | [], remoteVolumeID => remoteVolumeID
  | sp :: pairs, remoteVolumeID =>
    storageElementPairsLoop id pairs
      (if sp.localStorageElementID = id then sp.remoteStorageElementID else remoteVolumeID)

/-- `getRemoteCSIVolume`. -/
def getRemoteCSIVolume (volumeID : String) (size : Int) : Csiext.Volume :=
  { capacityBytes := size, volumeId := volumeID, volumeContext := GoMap.empty }

/-- The `localParams` of `CreateStorageProtectionGroup`: the attributes of the group on this
    side, under the replication context prefix `p`. -/
def localGroupParams (p : String) (localSystem : Cluster) (remoteSystem : RemoteSystem)
    (arrayID : String) (vg : VolumeGroup) : GoMap String String :=
  GoMap.ofList
    [(p ++ "systemName", localSystem.name),
      (p ++ "managementAddress", localSystem.managementAddress),
      (p ++ "remoteSystemName", remoteSystem.name),
      (p ++ "remoteManagementAddress", remoteSystem.managementAddress),
      (p ++ "globalID", arrayID),
      (p ++ "remoteGlobalID", remoteSystem.serialNumber),
      (p ++ "VolumeGroupName", vg.name)]

/-- The `remoteParams` of `CreateStorageProtectionGroup`: the attributes of the group on the
    peer. -/
def remoteGroupParams (p : String) (localSystem : Cluster) (remoteSystem : RemoteSystem)
    (vg : VolumeGroup) : GoMap String String :=
  GoMap.ofList
    [(p ++ "systemName", remoteSystem.name),
      (p ++ "managementAddress", remoteSystem.managementAddress),
      (p ++ "remoteSystemName", localSystem.name),
      (p ++ "remoteManagementAddress", localSystem.managementAddress),
      (p ++ "globalID", remoteSystem.serialNumber),
      (p ++ "VolumeGroupName", vg.name)]

namespace Service

/-- `Service.CreateRemoteVolume`. -/
def createRemoteVolume (s : Service) (common : Common) (nfs : NfsHelpers)
    (req : CreateRemoteVolumeRequest) : Prog (Option CreateRemoteVolumeResponse × Option GoError) := do
  let volID := req.volumeHandle
  if volID = "" then
    return (none, some (.status .invalidArgument "volume ID is required"))
  let params := req.parameters
  let (volumeHandle, err) ←
    parseVolumeID common s.registry.ipToArray volID s.registry.defaultArray none
  if let some err := err then
    return (none, some err)
  let protocol := volumeHandle.protocol
  let (volPrefix, id) := nfsVolumePrefix nfs params volumeHandle.localVolumeID
  match s.registry.arrays volumeHandle.arrayID with
  | none => return (none, some (.status .invalidArgument "failed to find array with given IP"))
  | some arr =>
    let (vgs, err) ← Prog.query (.getVolumeGroupsByVolumeID arr.globalID id)
    if let some err := err then
      return (none, some err)
    match vgs with
    | [] => return (none, some noGroupError)
    | vg :: _ =>
      let (rs, err) ← Prog.query (.getReplicationSessionByLocalResourceID arr.globalID vg.id)
      if let some err := err then
        return (none, some err)
      let remoteVolumeID := storageElementPairsLoop id rs.storageElementPairs ""
      if remoteVolumeID = "" then
        return (none, some (.status .internal ("couldn't find volume id " ++ id ++
          " in storage element pairs of replication session")))
      let (vol, err) ← Prog.query (.getVolume arr.globalID id)
      if let some err := err then
        return (none, some (.status .internal ("can't query volume: " ++ err.error)))
      let (localSystem, err) ← Prog.query (.getCluster arr.globalID)
      if let some err := err then
        return (none, some err)
      let (remoteSystem, err) ← Prog.query (.getRemoteSystem arr.globalID rs.remoteSystemID)
      if let some err := err then
        return (none, some err)
      let p := s.replicationContextPrefix
      let remoteParams : GoMap String String := GoMap.ofList
        [("remoteSystem", localSystem.name), (p ++ "arrayID", remoteSystem.serialNumber),
          (p ++ "managementAddress", remoteSystem.managementAddress)]
      let remoteVolume := getRemoteCSIVolume
        (volPrefix ++ remoteVolumeID ++ "/" ++ remoteParams.getD (p ++ "arrayID") ++ "/" ++ protocol)
        vol.size
      let remoteVolume := { remoteVolume with volumeContext := remoteParams }
      return (some ⟨remoteVolume⟩, none)

/-- `Service.CreateStorageProtectionGroup`. -/
def createStorageProtectionGroup (s : Service) (common : Common) (nfs : NfsHelpers)
    (req : CreateStorageProtectionGroupRequest) :
    Prog (Option CreateStorageProtectionGroupResponse × Option GoError) := do
  let volID := req.volumeHandle
  if volID = "" then
    return (none, some (.status .invalidArgument "volume ID is required"))
  let params := req.parameters
  let (volumeHandle, err) ←
    parseVolumeID common s.registry.ipToArray volID s.registry.defaultArray none
  if let some err := err then
    return (none, some err)
  let arrayID := volumeHandle.arrayID
  let protocol := volumeHandle.protocol
  let id := (nfsVolumePrefix nfs params volumeHandle.localVolumeID).2
  match s.registry.arrays arrayID with
  | none => return (none, some (.status .invalidArgument "failed to find array with given ID"))
  | some arr =>
    if protocol = "nfs" then
      return (none, some (.status .invalidArgument "replication is not supported for NFS volumes"))
    let (vgs, err) ← Prog.query (.getVolumeGroupsByVolumeID arr.globalID id)
    if let some err := err then
      return (none, some err)
    match vgs with
    | [] => return (none, some noGroupError)
    | vg :: _ =>
      let (rs, err) ← Prog.query (.getReplicationSessionByLocalResourceID arr.globalID vg.id)
      if let some err := err then
        return (none, some err)
      let (localSystem, err) ← Prog.query (.getCluster arr.globalID)
      if let some err := err then
        return (none, some err)
      let (remoteSystem, err) ← Prog.query (.getRemoteSystem arr.globalID rs.remoteSystemID)
      if let some err := err then
        return (none, some err)
      let p := s.replicationContextPrefix
      let localParams := localGroupParams p localSystem remoteSystem arrayID vg
      let remoteParams := remoteGroupParams p localSystem remoteSystem vg
      return (some ⟨rs.localResourceID, rs.remoteResourceID, localParams, remoteParams⟩, none)

/-- `Service.GetReplicationCapabilities`. -/
def getReplicationCapabilities : GetReplicationCapabilityResponse × Option GoError :=
  ({ capabilities := [.createRemoteVolume, .createProtectionGroup, .deleteProtectionGroup,
       .replicationActionExecution, .monitorProtectionGroup]
     actions := [.failoverRemote, .unplannedFailoverLocal, .reprotectLocal, .suspend, .resume,
       .sync] }, none)

end Service

/-! ## Policies and rules -/

/-- `EnsureReplicationRuleExists`: the ID of the rule `rr-<vgName>`, created when the lookup
    fails, whatever the error. -/
def ensureReplicationRuleExists (arr : PowerStoreArray) (vgName remoteSystemID rpoEnum : String) :
    Prog (String × Option GoError) := do
  let rrName := "rr-" ++ vgName
  let (rr, err) ← Prog.query (.getReplicationRuleByName arr.globalID rrName)
  if err.isSome then
    let (newRr, err) ← Prog.query (.createReplicationRule arr.globalID rrName rpoEnum remoteSystemID)
    if let some err := err then
      return ("", some (.status .internal ("can't create replication rule: " ++ err.error)))
    return (newRr.id, none)
  return (rr.id, none)

/-- `EnsureProtectionPolicyExists`: the ID of the policy `pp-<vgName>`, created with the rule
    `rr-<vgName>` when the lookup fails, whatever the error. -/
def ensureProtectionPolicyExists (arr : PowerStoreArray) (vgName remoteSystemName rpoEnum : String) :
    Prog (String × Option GoError) := do
  let (rs, err) ← Prog.query (.getRemoteSystemByName arr.globalID remoteSystemName)
  if let some err := err then
    return ("", some (.status .internal ("can't query remote system by name: " ++ err.error)))
  let ppName := "pp-" ++ vgName
  let (pp, err) ← Prog.query (.getProtectionPolicyByName arr.globalID ppName)
  if err.isNone then
    return (pp.id, none)
  let (rrID, err) ← ensureReplicationRuleExists arr vgName rs.id rpoEnum
  if err.isSome then
    return ("", some (.status .internal "can't ensure that replication rule exists"))
  let (newPp, err) ← Prog.query (.createProtectionPolicy arr.globalID ppName [rrID])
  if let some err := err then
    return ("", some (.status .internal ("can't create protection policy: " ++ err.error)))
  return (newPp.id, none)

end PowerStoreCsi
