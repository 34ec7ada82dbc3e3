import PowerStoreCsi.Array.Registry

set_option autoImplicit false

/-! # Volume handles: `ParseVolumeID`

A volume handle is the string the container orchestrator stores for a volume:
`localID/arrayRef/protocol`, followed for a metro volume by `:remoteID/remoteArrayID`. The
`arrayRef` is a `GlobalID`, or, in handles of older versions, an IP that the registry's
`IPToArray` index resolves. The oldest handles are a bare volume ID; for those the protocol is
found by asking the default array whether it has a block volume, or else a file system, of
that ID.

`parseVolumeID` follows the Go code statement by statement: its indexing of the split results
is Go's indexing, which panics past the end of a slice. Only the bare-ID branch calls the array,
so on every other handle the result is a `Prog.pure` or a `Prog.panic`. -/

namespace PowerStoreCsi

/-- The five results of `ParseVolumeID` besides its error. Callers read them as the fields
    `LocalUUID`, `LocalArrayGlobalID`, `Protocol` of a volume handle. -/
structure VolumeHandle where
  localVolumeID : String
  arrayID : String
  protocol : String
  remoteVolumeID : String
  remoteArrayID : String
  deriving DecidableEq, Repr, Inhabited

/-- The access type of a `csi.VolumeCapability`: a raw block device, or a file system mounted
    with the given `FsType`. -/
inductive AccessType where
  | block
  | mount (fsType : String)
  deriving DecidableEq, Repr

/-- `csi.VolumeCapability`: its access type, nil when it has none. -/
structure VolumeCapability where
  accessType : Option AccessType
  deriving DecidableEq, Repr

/-- `vc.GetMount().GetFsType()` for a capability whose access type is a mount: what
    `ParseVolumeID` reads of it. -/
def VolumeCapability.mountFsType (vc : VolumeCapability) : Option String :=
  match vc.accessType with
  | some (.mount fsType) => some fsType
  | _ => none

/-- The array a handle's second field names: the field itself, or, when it holds an IP (a
    legacy handle), what `IPToArray` maps its first IP to, `""` when the index lacks it. -/
def resolveArrayRef (common : Common) (ipToArray : GoMap String String) (ref : String) : String :=
  match common.getIPListFromString ref with
  | ip :: _ => ipToArray.getD ip
  | [] => ref

/-- The end of `ParseVolumeID`: the remote half of a metro handle, after its `:`. -/
def parseRemoteVolumeHandle (volumeHandles : List String) : Prog (String × String) :=
  if 1 < volumeHandles.length then do
    let remoteVolumeHandle := Go.split (← Prog.index volumeHandles 1) '/'
    let remoteVolumeID ← Prog.index remoteVolumeHandle 0
    let remoteArrayID ← Prog.index remoteVolumeHandle 1
    return (remoteVolumeID, remoteArrayID)
  else
    return ("", "")

/-- A successful `ParseVolumeID` once the local half is decoded. -/
def withRemote (volumeHandles : List String) (localVolumeID arrayID protocol : String) :
    Prog (VolumeHandle × Option GoError) := do
  let (remoteVolumeID, remoteArrayID) ← parseRemoteVolumeHandle volumeHandles
  return (⟨localVolumeID, arrayID, protocol, remoteVolumeID, remoteArrayID⟩, none)

/-- The error of a failed legacy classification: the `APIError` itself when it is a not-found
    answer, an `Unknown` status otherwise. -/
def legacyLookupError (err : GoError) : GoError :=
  match err.asAPIError with
  | some e => if e.notFound then .api e
      else .status .unknown ("failure checking volume status: " ++ err.error)
  | none => .status .unknown ("failure checking volume status: " ++ err.error)

/-- `array.ParseVolumeID(ctx, volumeHandle, defaultArray, vc)`. -/
def parseVolumeID (common : Common) (ipToArray : GoMap String String) (volumeHandle : String)
    (defaultArray : Option PowerStoreArray) (vc : Option VolumeCapability) :
    Prog (VolumeHandle × Option GoError) := do
  if volumeHandle = "" then
    return (default, some (.status .failedPrecondition
      "unable to parse volume handle. volumeHandle is empty"))
  let volumeHandles := Go.split volumeHandle ':'
  let localVolumeHandle := Go.split (← Prog.index volumeHandles 0) '/'
  let localVolumeID ← Prog.index localVolumeHandle 0
  if localVolumeHandle.length = 1 then
    -- a bare volume ID: the default array's, with the protocol found by asking it
    let arrayID := (← Prog.deref defaultArray).globalID
    match vc.bind VolumeCapability.mountFsType with
    | some fsType =>
      let protocol := if fsType = "nfs" then "nfs" else "scsi"
      withRemote volumeHandles localVolumeID arrayID protocol
    | none =>
      let client := (← Prog.deref defaultArray).globalID
      let (_, err) ← Prog.query (.getVolume client localVolumeID)
      match err with
      | none => withRemote volumeHandles localVolumeID arrayID "scsi"
      | some _ =>
        let (_, err) ← Prog.query (.getFS client localVolumeID)
        match err with
        | none => withRemote volumeHandles localVolumeID arrayID "nfs"
        | some err => return (⟨localVolumeID, arrayID, "", "", ""⟩, some (legacyLookupError err))
  else
    let arrayID := resolveArrayRef common ipToArray (← Prog.index localVolumeHandle 1)
    let protocol ← Prog.index localVolumeHandle 2
    withRemote volumeHandles localVolumeID arrayID protocol

/-! ## Writing a handle -/

/-- A field of a volume handle: it holds neither separator. -/
def IsHandleField (s : String) : Prop := '/' ∉ s.data ∧ ':' ∉ s.data

instance : DecidablePred IsHandleField := fun _ => inferInstanceAs (Decidable (_ ∧ _))

/-- A handle as the controller writes it (`CreateRemoteVolume`, `CreateVolumeGroupSnapshot`):
    `id/arrayID/protocol`. -/
def VolumeHandle.localHandle (v : VolumeHandle) : String :=
  v.localVolumeID ++ "/" ++ v.arrayID ++ "/" ++ v.protocol

/-- A metro handle: the local handle, then `:remoteID/remoteArrayID`. -/
def VolumeHandle.metroHandle (v : VolumeHandle) : String :=
  v.localHandle ++ ":" ++ v.remoteVolumeID ++ "/" ++ v.remoteArrayID

end PowerStoreCsi
