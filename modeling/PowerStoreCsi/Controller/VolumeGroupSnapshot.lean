import PowerStoreCsi.Controller.Replication

set_option autoImplicit false

/-! # Volume group snapshots

`CreateVolumeGroupSnapshot` takes one snapshot of a set of volumes of one array. It reads the
array from the first volume handle, finds or makes a volume group of the volumes (the group of
the request's name, with the volumes added; the group the first volume belongs to; or a new
group), snapshots the group, reads the snapshot group back and answers one snapshot per member
of it. Every array call is followed by the same check: the error stops the handler, as an
`Internal` status error carrying its text, unless it is an `APIError` of the one kind the call
tolerates, not-found for the lookups and name-in-use for the changes. A tolerated error leaves
the zero value of the answer to the rest of the handler. -/

namespace PowerStoreCsi

/-- `vgsext.CreateVolumeGroupSnapshotRequest`: the fields the handler reads. -/
structure CreateVolumeGroupSnapshotRequest where
  sourceVolumeIDs : List String
  name : String
  description : String
  deriving DecidableEq, Repr, Inhabited

/-- `vgsext.Snapshot`. -/
structure Vgsext.Snapshot where
  name : String
  capacityBytes : Int
  snapId : String
  readyToUse : Bool
  sourceId : String
  creationTime : Int
  deriving DecidableEq, Repr, Inhabited

/-- `vgsext.CreateVolumeGroupSnapshotResponse`. -/
structure CreateVolumeGroupSnapshotResponse where
  snapshotGroupID : String
  snapshots : List Vgsext.Snapshot
  creationTime : Int
  deriving DecidableEq, Repr, Inhabited

/-- `StateReady`. -/
def stateReady : String := "Ready"

/-- `apiError, ok := err.(gopowerstore.APIError); ok && apiError.VolumeNameIsAlreadyUse()`. -/
def GoError.isVolumeNameAlreadyUse : GoError → Bool
  | .api e => e.volumeNameIsAlreadyUse
  | _ => false

/-- `validateCreateVGSreq`: a name of at most 27 bytes, since the snapshots are named
    `<name>-<index>`, and at least one source volume. -/
def validateCreateVGSreq (request : CreateVolumeGroupSnapshotRequest) : Option GoError :=
  if request.name = "" then
    some (.status .invalidArgument "CreateVolumeGroupSnapshotRequest needs Name to be set")
  else if request.name.utf8ByteSize > 27 then
    some (.status .invalidArgument
      ("Requested name " ++ request.name ++ " longer than 27 character max"))
  else if request.sourceVolumeIDs.length = 0 then
    some (.status .invalidArgument "Source volumes are not present")
  else none

/-- The check after each array call of `CreateVolumeGroupSnapshot`:
    `if apiError, ok := err.(gopowerstore.APIError); !(ok && accepted(apiError))`, the error the
    handler then returns, `msg: <err>` with code `Internal`. -/
def vgsCallError (accepted : GoError → Bool) (msg : String) : Option GoError → Option GoError
  | some err => if accepted err then none else some (.status .internal (msg ++ ": " ++ err.error))
  | none => none

/-- The loop `for _, v := range volGroup.Volumes` of `CreateVolumeGroupSnapshot`: a snapshot of
    each member, named by its ID, the array of the first handle and the third field `volID[2]`
    of that handle, when the handle has three fields. -/
def snapshotsLoop (arr : String) (volID : List String) (int64CreationTime : Int) :
    List Volume → List Vgsext.Snapshot → List Vgsext.Snapshot
  | [], snapsList => snapsList
  | v :: vols, snapsList =>
    let snapState := decide (v.state = stateReady)
    snapshotsLoop arr volID int64CreationTime vols
      (if volID.length ≥ 3 then
        snapsList ++
          [{ name := v.name
             snapId := v.id ++ "/" ++ arr ++ "/" ++ volID.getD 2 ""
             readyToUse := snapState
             capacityBytes := v.size
             sourceId := v.sourceID ++ "/" ++ arr ++ "/" ++ volID.getD 2 ""
             creationTime := int64CreationTime }]
      else snapsList)

namespace Service

/-- `Service.CreateVolumeGroupSnapshot`. `s.Arrays()[arr].GetClient()` dereferences the registry
    entry of `arr`, so the handler panics when there is none. -/
def createVolumeGroupSnapshot (s : Service) (request : CreateVolumeGroupSnapshotRequest) :
    Prog (Option CreateVolumeGroupSnapshotResponse × Option GoError) := do
  if let some err := validateCreateVGSreq request then
    return (none, some err)
  let parsedVolHandle := Go.split (← Prog.index request.sourceVolumeIDs 0) '/'
  let arr ← if parsedVolHandle.length ≥ 2 then Prog.index parsedVolHandle 1 else pure ""
  let sourceVols := request.sourceVolumeIDs.map fun v => (Go.split v '/').headD ""
  let client := (← Prog.deref (s.registry.arrays arr)).globalID
  let mut existingVgID := ""
  let (gotVg, err) ← Prog.query (.getVolumeGroupByName client request.name)
  if let some e := vgsCallError GoError.isNotFound "Error getting volume group by name" err then
    return (none, some e)
  if gotVg.id ≠ "" then
    existingVgID := gotVg.id
    let err ← Prog.query (.addMembersToVolumeGroup client sourceVols existingVgID)
    if let some e := vgsCallError GoError.isVolumeNameAlreadyUse
        "Error adding volume group members" err then
      return (none, some e)
  else
    let (r, err) ← Prog.query (.getVolumeGroupsByVolumeID client (← Prog.index sourceVols 0))
    if let some e := vgsCallError GoError.isNotFound
        "Error getting volume group by volume ID" err then
      return (none, some e)
    match r with
    | [] =>
      let (resp, err) ←
        Prog.query (.createVolumeGroup client request.name request.description sourceVols)
      if let some e := vgsCallError GoError.isVolumeNameAlreadyUse
          "Error creating volume group" err then
        return (none, some e)
      if resp.id ≠ "" then
        existingVgID := resp.id
    | vg :: _ => existingVgID := vg.id
  let mut volGroup : VolumeGroup := default
  let mut snapsList : List Vgsext.Snapshot := []
  let mut int64CreationTime : Int := 0
  if existingVgID ≠ "" then
    let (resp, err) ← Prog.query
      (.createVolumeGroupSnapshot client existingVgID request.name request.description)
    if let some e := vgsCallError GoError.isVolumeNameAlreadyUse
        "Error creating volume group snapshot" err then
      return (none, some e)
    let (vg, err) ← Prog.query (.getVolumeGroup client resp.id)
    if let some e := vgsCallError GoError.isVolumeNameAlreadyUse
        "Error getting volume group snapshot" err then
      return (none, some e)
    volGroup := vg
    int64CreationTime := Go.toInt64 (volGroup.creationTime.getD Go.zeroTimeUnix * 1000000000)
    let volID := Go.split (← Prog.index request.sourceVolumeIDs 0) '/'
    snapsList := snapshotsLoop arr volID int64CreationTime volGroup.volumes snapsList
  return (some ⟨volGroup.id, snapsList, int64CreationTime⟩, none)

end Service

end PowerStoreCsi
