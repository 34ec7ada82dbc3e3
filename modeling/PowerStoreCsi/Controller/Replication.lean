import PowerStoreCsi.Controller.Service

set_option autoImplicit false

/-! # Replication: session actions, protection-group status and teardown

A replication session lives on the array; the driver reads its state and asks the array to
move it. `validateRSState` decides, from the state and the requested action, whether the
session already is where the action leads (nothing to do), is still moving there under a
previous failover (the caller retries), or needs the action issued. `executeAction` acts on
that decision.

`deleteStorageProtectionGroup` tears a protection group down in order: volume group,
protection policy `pp-<name>`, replication rule `rr-<name>`; a policy or rule is deleted only
while nothing uses it. Each step stops on an array error other than not-found: the type
assertion `err.(gopowerstore.APIError)` lets every other error through. `deleteLocalVolume`,
the sibling handler, stops on any error that is not an `APIError` reporting not-found. -/

namespace PowerStoreCsi

/-! ## Error tests of the handlers -/

/-- `apiErr, ok := err.(gopowerstore.APIError); ok && apiErr.NotFound()`. -/
def GoError.isNotFound : GoError → Bool
  | .api e => e.notFound
  | _ => false

/-- `apiErr, ok := err.(gopowerstore.APIError); ok && !apiErr.NotFound()`: the test each
    teardown step stops on. A nil error and an error that is no `APIError` fail it. -/
def isAPIErrorOtherThanNotFound : Option GoError → Bool
  | some (.api e) => !e.notFound
  | _ => false

/-! ## The action state machine -/

/-- `validateRSState`: whether the session already is in the state the action leads to, and
    whether the action must be issued. `Failing_Over` under a failover is neither. -/
def validateRSState (session : ReplicationSession) (action : ActionType) :
    Bool × Bool × Option GoError :=
  let state := session.state
  match action with
  | .resume => if state = "OK" then (true, false, none) else (false, true, none)
  | .reprotect => if state = "OK" then (true, false, none) else (false, true, none)
  | .pause =>
    if state = "Paused" ∨ state = "Paused_For_Migration" ∨ state = "Paused_For_NDU" then
      (true, false, none)
    else (false, true, none)
  | .failover =>
    if state = "Failing_Over" then (false, false, none)
    else if state = "Failed_Over" then (true, false, none)
    else (false, true, none)
  | .sync => (false, true, none)

/-- The package function `ExecuteAction(session, pstoreClient, action, failoverParams)`. -/
def executeAction (session : ReplicationSession) (pstoreClient : String) (action : ActionType)
    (failoverParams : Option FailoverParams) : Prog (Option GoError) := do
  let (inDesiredState, actionRequired, err) := validateRSState session action
  if let some err := err then
    return some err
  if !inDesiredState then
    if !actionRequired then
      return some (.status .aborted
        ("Execute action: RS (" ++ session.id ++ ") is still executing previous action"))
    let err ← Prog.query
      (.executeActionOnReplicationSession pstoreClient session.id action failoverParams)
    if let some err := err then
      if let some apiError := err.asAPIError then
        if apiError.unableToFailoverFromDestination then
          return some (.status .internal ("Execute action: Failed to modify RS (" ++ session.id ++
            ") - Error (" ++ err.error ++ ")"))
  return none

/-- The `switch action` of `Service.ExecuteAction`: the session action and its failover
    parameters for each supported request. -/
def sessionAction : ReplicationActionType → Option (ActionType × Option FailoverParams)
  | .failoverRemote => some (.failover, some ⟨true, false⟩)
  | .unplannedFailoverLocal => some (.failover, some ⟨false, false⟩)
  | .suspend => some (.pause, none)
  | .resume => some (.resume, none)
  | .sync => some (.sync, none)
  | .reprotectLocal => some (.reprotect, none)
  | .other _ => none

/-- The `switch rs.State` of `GetStorageProtectionGroupStatus`. -/
def protectionGroupState (state : String) : ProtectionGroupState :=
  if state = "OK" then .synchronized
  else if state = "Failed_Over" then .failedOver
  else if state ∈ ["Paused", "Paused_For_Migration", "Paused_For_NDU", "System_Paused"] then
    .suspended
  else if state ∈ ["Failing_Over", "Failing_Over_For_DR", "Resuming", "Reprotecting",
      "Partial_Cutover_For_Migration", "Synchronizing", "Initializing"] then .syncInProgress
  else if state = "Error" then .invalid
  else .unknown

namespace Service

/-- `localParams[s.replicationContextPrefix + key]`. -/
def localParam (s : Service) (attrs : GoMap String String) (key : String) : Option String :=
  attrs (s.replicationContextPrefix ++ key)

/-- The opening lines the protection-group handlers share: the array named by the group's
    `globalID` attribute. -/
def groupArray (s : Service) (attrs : GoMap String String) : Except GoError PowerStoreArray :=
  match s.localParam attrs "globalID" with
  | none => .error (.status .invalidArgument "missing globalID in protection group attributes")
  | some globalID =>
    match s.registry.arrays globalID with
    | none => .error (.status .invalidArgument ("can't find array with global id " ++ globalID))
    | some arr => .ok arr

/-- `Service.GetStorageProtectionGroupStatus`: the status of the group's session. -/
def getStorageProtectionGroupStatus (s : Service) (req : ProtectionGroupRequest) :
    Prog (Option StorageProtectionGroupStatus × Option GoError) := do
  match s.groupArray req.protectionGroupAttributes with
  | .error err => return (none, some err)
  | .ok arr =>
    let (rs, err) ← Prog.query
      (.getReplicationSessionByLocalResourceID arr.globalID req.protectionGroupId)
    if let some err := err then
      return (none, some err)
    return (some ⟨protectionGroupState rs.state, rs.role != "Destination"⟩, none)

/-- `Service.ExecuteAction`. -/
def executeAction (s : Service) (req : ExecuteActionRequest) :
    Prog (Option ExecuteActionResponse × Option GoError) := do
  match s.groupArray req.protectionGroupAttributes with
  | .error err => return (none, some err)
  | .ok arr =>
    let (rs, err) ← Prog.query
      (.getReplicationSessionByLocalResourceID arr.globalID req.protectionGroupId)
    if let some err := err then
      return (none, some err)
    match sessionAction req.action with
    | none => return (none, some (.status .unknown
        "The requested action does not match with supported actions"))
    | some (execAction, params) =>
      let resErr ← PowerStoreCsi.executeAction rs arr.globalID execAction params
      if let some resErr := resErr then
        return (none, some resErr)
      let (statusResp, err) ← s.getStorageProtectionGroupStatus
        ⟨req.protectionGroupId, req.protectionGroupAttributes⟩
      if let some err := err then
        return (none, some (.status .internal
          ("can't get storage protection group status: " ++ err.error)))
      let status ← Prog.deref statusResp
      return (some ⟨true, req.action, status⟩, none)

/-- `Service.DeleteStorageProtectionGroup`. -/
def deleteStorageProtectionGroup (s : Service) (req : ProtectionGroupRequest) :
    Prog (Option Unit × Option GoError) := do
  let localParams := req.protectionGroupAttributes
  let groupID := req.protectionGroupId
  match s.groupArray localParams with
  | .error err => return (none, some err)
  | .ok arr =>
    let a := arr.globalID
    let (vg, err) ← Prog.query (.getVolumeGroup a groupID)
    if isAPIErrorOtherThanNotFound err then
      return (none, some (.status .internal "Error: Unable to get Volume Group"))
    if vg.id ≠ "" then
      if vg.protectionPolicyID ≠ "" then
        let err ← Prog.query (.modifyVolumeGroup a "" groupID)
        if isAPIErrorOtherThanNotFound err then
          return (none, some (.status .internal "Error: Unable to un-assign PP from Volume Group"))
      let err ← Prog.query (.deleteVolumeGroup a groupID)
      if let some (.api apiError) := err then
        if !apiError.notFound then
          return (none, some (.status .internal
            ("Error: " ++ apiError.message ++ ": Unable to delete Volume Group")))
    match s.localParam localParams "VolumeGroupName" with
    | none => return (none, some (.status .internal "Error: Unable to get volume group name"))
    | some vgName =>
      let (pp, err) ← Prog.query (.getProtectionPolicyByName a ("pp-" ++ vgName))
      if isAPIErrorOtherThanNotFound err then
        return (none, some (.status .internal "Error: Unable to get the PP"))
      if pp.id ≠ "" ∧ pp.volumes = [] ∧ pp.volumeGroups = [] then
        let err ← Prog.query (.deleteProtectionPolicy a pp.id)
        if isAPIErrorOtherThanNotFound err then
          return (none, some (.status .internal "Error: Unable to delete PP"))
      let (rr, err) ← Prog.query (.getReplicationRuleByName a ("rr-" ++ vgName))
      if isAPIErrorOtherThanNotFound err then
        return (none, some (.status .internal "Error: RR not found"))
      if rr.id ≠ "" ∧ rr.protectionPolicies = [] then
        let err ← Prog.query (.deleteReplicationRule a rr.id)
        if isAPIErrorOtherThanNotFound err then
          return (none, some (.status .internal "Error: Unable to delete replication rule"))
      return (some (), none)

/-- `Service.DeleteLocalVolume`: deletes a volume on request of the peer controller, unless it
    still belongs to a volume group or a protection policy. -/
def deleteLocalVolume (s : Service) (volumeHandle : String) :
    Prog (Option Unit × Option GoError) := do
  let splitHandle := Go.split volumeHandle '/'
  if splitHandle.length ≠ 3 then
    return (none, some (.status .invalidArgument "can't delete volume of improper handle format"))
  let volumeID ← Prog.index splitHandle 0
  let globalID ← Prog.index splitHandle 1
  match s.registry.arrays globalID with
  | none => return (none, some (.status .invalidArgument
      ("can't find array with global ID " ++ globalID)))
  | some arr =>
    let (vol, err) ← Prog.query (.getVolume arr.globalID volumeID)
    if let some err := err then
      if err.isNotFound then
        return (some (), none)
      return (none, some (.status .internal "Error: Unable to get volume for deletion"))
    let (vgs, err) ← Prog.query (.getVolumeGroupsByVolumeID arr.globalID volumeID)
    if let some err := err then
      if !err.isNotFound then
        return (none, some err)
    if vgs ≠ [] then
      return (none, some (.status .internal "Error: Unable to delete volume"))
    if vol.protectionPolicyID ≠ "" then
      return (none, some (.status .internal "Error: Unable to delete volume"))
    let err ← Prog.query (.deleteVolume arr.globalID volumeID)
    if let some err := err then
      if !err.isNotFound then
        return (none, some (.status .internal "Error: Unable to delete volume"))
    return (some (), none)

end Service

end PowerStoreCsi
