import Mathlib.Data.Rat.Defs
import PowerStoreCsi.Go

set_option autoImplicit false

/-! # The outside world: the array's REST API, the node, the clock and the Go runtime

The handlers of the driver compute little on their own: they ask the array, through the
`gopowerstore` client, and the node's status server, and they read the clock. Every such
interaction is a `Call`, and `Call.Resp` is the type of what the world answers to it. A Go call
that returns `(value, error)` answers with the pair, so an answer may carry any value next to
any error; the driver's code decides what it reads of it.

Only the fields of the client's records that the modelled handlers read are kept: a volume
group's id, name and assigned protection policy, a protection policy's protected volumes and
volume groups, and so on. A client is named by the `GlobalID` of the array it was built for.

A `range` over a Go map visits the keys in an order the runtime picks anew on every run; the
driver's code depends on it in `ValidateVolumeHostConnectivity`, so the order is also a call,
`Call.mapRange`, answered by a permutation of the keys.

The node plugin reaches the node's files and commands through `fs.Interface`, and each of its
methods is a call too. The files the modelled node code reads and writes hold text (the mount
table, a device name), so their contents are strings, and Go's conversions `[]byte(s)` and
`string(b)` between them are the identity. -/

namespace PowerStoreCsi

/-! ## Records of the array client -/

/-- `gopowerstore.Volume`. The fields past `size` are read only of the members of a snapshot
    group; `sourceID` is `ProtectionData.SourceID`, the volume a snapshot was taken of. -/
structure Volume where
  id : String
  protectionPolicyID : String
  size : Int
  name : String := ""
  state : String := ""
  sourceID : String := ""
  deriving DecidableEq, Repr, Inhabited

/-- `gopowerstore.FileSystem`. -/
structure FileSystem where
  id : String
  deriving DecidableEq, Repr, Inhabited

/-- One sample of `PerformanceMetricsByVolume` or `PerformanceMetricsByFileSystem`: the two
    fields `IsIOInProgress` reads. `timestamp` is the instant, in nanoseconds, that
    `time.Parse("2006-01-02T15:04:05Z", Timestamp.String())` yields, or `none` when that parse
    fails. `TotalIops` is a `float64` read from JSON, so a finite number: a rational. -/
structure MetricsSample where
  totalIops : ℚ
  timestamp : Option Int
  deriving DecidableEq, Repr, Inhabited

/-- `gopowerstore.StorageElementPair`: a local storage element and its replica. -/
structure StorageElementPair where
  localStorageElementID : String
  remoteStorageElementID : String
  deriving DecidableEq, Repr, Inhabited

/-- `gopowerstore.ReplicationSession`. The fields past `role` are read only when a protection
    group or a remote volume is created. -/
structure ReplicationSession where
  id : String
  state : String
  role : String
  localResourceID : String := ""
  remoteResourceID : String := ""
  remoteSystemID : String := ""
  storageElementPairs : List StorageElementPair := []
  deriving DecidableEq, Repr, Inhabited

/-- `gopowerstore.Cluster`: the array itself, as a replication peer sees it. -/
structure Cluster where
  name : String
  managementAddress : String
  deriving DecidableEq, Repr, Inhabited

/-- `gopowerstore.RemoteSystem`: a replication peer of the array. -/
structure RemoteSystem where
  id : String
  name : String
  serialNumber : String
  managementAddress : String
  deriving DecidableEq, Repr, Inhabited

/-- `gopowerstore.CreateResponse`: the ID of a created object. -/
structure CreateResponse where
  id : String
  deriving DecidableEq, Repr, Inhabited

/-- `gopowerstore.ActionType`: the replication-session actions the driver issues. -/
inductive ActionType where
  | resume | reprotect | pause | failover | sync
  deriving DecidableEq, Repr, Inhabited

/-- The action's name, as the array's API spells it. -/
def ActionType.name : ActionType → String
  | .resume => "Resume"
  | .reprotect => "Reprotect"
  | .pause => "Pause"
  | .failover => "Failover"
  | .sync => "Sync"

/-- `gopowerstore.FailoverParams`. -/
structure FailoverParams where
  isPlanned : Bool
  reverse : Bool
  deriving DecidableEq, Repr, Inhabited

/-- `gopowerstore.VolumeGroup`. The members and the creation time are read only of a snapshot
    group. `creationTime` is the instant, in Unix seconds, that
    `time.Parse(time.RFC3339, CreationTimeStamp)` yields, or `none` when that parse fails. -/
structure VolumeGroup where
  id : String
  name : String
  protectionPolicyID : String
  volumes : List Volume := []
  creationTime : Option Int := none
  deriving DecidableEq, Repr, Inhabited

/-- `gopowerstore.ProtectionPolicy`: the ids of what it protects. -/
structure ProtectionPolicy where
  id : String
  name : String
  volumes : List String
  volumeGroups : List String
  deriving DecidableEq, Repr, Inhabited

/-- `gopowerstore.ReplicationRule`: the ids of the protection policies that use it. -/
structure ReplicationRule where
  id : String
  name : String
  protectionPolicies : List String
  deriving DecidableEq, Repr, Inhabited

/-- The zero values a lookup answers with its not-found error have no ID. -/
@[simp] theorem VolumeGroup.default_id : (default : VolumeGroup).id = "" := rfl

@[simp] theorem ProtectionPolicy.default_id : (default : ProtectionPolicy).id = "" := rfl

@[simp] theorem ReplicationRule.default_id : (default : ReplicationRule).id = "" := rfl

@[simp] theorem CreateResponse.default_id : (default : CreateResponse).id = "" := rfl

/-! ## Records of the node's file system library -/

/-- `gofsutil.Info`: one entry of the mount table. -/
structure Gofsutil.Info where
  device : String
  path : String
  source : String
  type : String
  opts : List String
  deriving DecidableEq, Repr, Inhabited

/-! ## Calls and their answers -/

/-- Every interaction of the driver's modelled code with what lies outside it. The first
    argument of an array call is the `GlobalID` of the array whose client makes it. -/
inductive Call where
  /-- `Client.GetVolume(ctx, id)`. -/
  | getVolume (arr id : String)
  /-- `Client.GetFS(ctx, id)`. -/
  | getFS (arr id : String)
  /-- `Client.PerformanceMetricsByVolume(ctx, id, TwentySec)`. -/
  | performanceMetricsByVolume (arr id : String)
  /-- `Client.PerformanceMetricsByFileSystem(ctx, id, TwentySec)`. -/
  | performanceMetricsByFileSystem (arr id : String)
  /-- `Service.QueryArrayStatus(ctx, url)`: an HTTP GET against the node's status server. -/
  | queryArrayStatus (url : String)
  /-- `time.Now()`, in nanoseconds since the Unix epoch. -/
  | now
  /-- The order in which `for k := range m` visits the keys of a map. -/
  | mapRange (keys : List String)
  /-- `Client.GetReplicationSessionByLocalResourceID(ctx, id)`. -/
  | getReplicationSessionByLocalResourceID (arr id : String)
  /-- `Client.ExecuteActionOnReplicationSession(ctx, id, action, params)`. -/
  | executeActionOnReplicationSession (arr id : String) (action : ActionType)
      (params : Option FailoverParams)
  /-- `Client.GetVolumeGroup(ctx, id)`. -/
  | getVolumeGroup (arr id : String)
  /-- `Client.ModifyVolumeGroup(ctx, &VolumeGroupModify{ProtectionPolicyID: ppID}, id)`. -/
  | modifyVolumeGroup (arr ppID id : String)
  /-- `Client.DeleteVolumeGroup(ctx, id)`. -/
  | deleteVolumeGroup (arr id : String)
  /-- `Client.GetProtectionPolicyByName(ctx, name)`. -/
  | getProtectionPolicyByName (arr name : String)
  /-- `Client.DeleteProtectionPolicy(ctx, id)`. -/
  | deleteProtectionPolicy (arr id : String)
  /-- `Client.GetReplicationRuleByName(ctx, name)`. -/
  | getReplicationRuleByName (arr name : String)
  /-- `Client.DeleteReplicationRule(ctx, id)`. -/
  | deleteReplicationRule (arr id : String)
  /-- `Client.GetVolumeGroupsByVolumeID(ctx, id)`. -/
  | getVolumeGroupsByVolumeID (arr id : String)
  /-- `Client.DeleteVolume(ctx, nil, id)`. -/
  | deleteVolume (arr id : String)
  /-- `Client.GetCluster(ctx)`. -/
  | getCluster (arr : String)
  /-- `Client.GetRemoteSystem(ctx, id)`. -/
  | getRemoteSystem (arr id : String)
  /-- `Client.GetRemoteSystemByName(ctx, name)`. -/
  | getRemoteSystemByName (arr name : String)
  /-- `Client.CreateReplicationRule(ctx, &ReplicationRuleCreate{Name, Rpo, RemoteSystemID})`. -/
  | createReplicationRule (arr name rpo remoteSystemID : String)
  /-- `Client.CreateProtectionPolicy(ctx, &ProtectionPolicyCreate{Name, ReplicationRuleIDs})`. -/
  | createProtectionPolicy (arr name : String) (replicationRuleIDs : List String)
  /-- `Client.GetVolumeGroupByName(ctx, name)`. -/
  | getVolumeGroupByName (arr name : String)
  /-- `Client.AddMembersToVolumeGroup(ctx, &VolumeGroupMembers{VolumeIDs}, id)`. -/
  | addMembersToVolumeGroup (arr : String) (volumeIDs : List String) (id : String)
  /-- `Client.CreateVolumeGroup(ctx, &VolumeGroupCreate{Name, Description, VolumeIDs})`. -/
  | createVolumeGroup (arr name description : String) (volumeIDs : List String)
  /-- `Client.CreateVolumeGroupSnapshot(ctx, id, &VolumeGroupSnapshotCreate{Name, Description})`. -/
  | createVolumeGroupSnapshot (arr id name description : String)
  /-- `fs.ReadFile(name)`. -/
  | readFile (name : String)
  /-- `fs.ParseProcMounts(ctx, bytes.NewReader(data))`. -/
  | parseProcMounts (data : String)
  /-- `fs.WriteFile(name, []byte(data), perm)`. -/
  | writeFile (name data : String) (perm : Nat)
  /-- `fs.Remove(name)`. -/
  | remove (name : String)
  /-- `fs.IsNotExist(err)`. -/
  | isNotExist (err : Option GoError)
  /-- `fs.ExecCommand(name, args...)`: the command's output. -/
  | execCommand (name : String) (args : List String)
  deriving Repr

/-- What the world answers to each call. -/
def Call.Resp : Call → Type
  | .getVolume .. => Volume × Option GoError
  | .getFS .. => FileSystem × Option GoError
  | .performanceMetricsByVolume .. => List MetricsSample × Option GoError
  | .performanceMetricsByFileSystem .. => List MetricsSample × Option GoError
  | .queryArrayStatus _ => Bool × Option GoError
  | .now => Int
  | .mapRange keys => { order : List String // order.Perm keys }
  | .getReplicationSessionByLocalResourceID .. => ReplicationSession × Option GoError
  | .executeActionOnReplicationSession .. => Option GoError
  | .getVolumeGroup .. => VolumeGroup × Option GoError
  | .modifyVolumeGroup .. => Option GoError
  | .deleteVolumeGroup .. => Option GoError
  | .getProtectionPolicyByName .. => ProtectionPolicy × Option GoError
  | .deleteProtectionPolicy .. => Option GoError
  | .getReplicationRuleByName .. => ReplicationRule × Option GoError
  | .deleteReplicationRule .. => Option GoError
  | .getVolumeGroupsByVolumeID .. => List VolumeGroup × Option GoError
  | .deleteVolume .. => Option GoError
  | .getCluster _ => Cluster × Option GoError
  | .getRemoteSystem .. => RemoteSystem × Option GoError
  | .getRemoteSystemByName .. => RemoteSystem × Option GoError
  | .createReplicationRule .. => CreateResponse × Option GoError
  | .createProtectionPolicy .. => CreateResponse × Option GoError
  | .getVolumeGroupByName .. => VolumeGroup × Option GoError
  | .addMembersToVolumeGroup .. => Option GoError
  | .createVolumeGroup .. => CreateResponse × Option GoError
  | .createVolumeGroupSnapshot .. => CreateResponse × Option GoError
  | .readFile _ => String × Option GoError
  | .parseProcMounts _ => List Gofsutil.Info × Option GoError
  | .writeFile .. => Option GoError
  | .remove _ => Option GoError
  | .isNotExist _ => Bool
  | .execCommand .. => String × Option GoError

/-- One call with the answer it got. -/
structure Event where
  call : Call
  resp : call.Resp

end PowerStoreCsi
