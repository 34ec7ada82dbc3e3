import PowerStoreCsi.Controller.Service

set_option autoImplicit false

/-! # Host connectivity and IO activity: `ValidateVolumeHostConnectivity`

The pod monitor asks the controller, before it fences a node, whether the node still reaches an
array and whether IO to the node's volumes is still in progress. The handler collects the arrays
the request names (the `ArrayId`, or the arrays its volume handles decode to), and for each, in
the order Go's map iteration picks, asks the node's status server about the array and then asks
the array for the recent performance metrics of each volume.

A volume counts as busy when one of the last four metrics samples has positive IOPS and a
timestamp less than a minute before the clock reading taken for it (`checkIfEntryIsLatest`). An
error of the metrics query counts as not busy: `IsIOInProgress` returns an error both for "no IO"
and for a failed query, and the caller only tests for nil. -/

namespace PowerStoreCsi

/-- The response type of the handler. -/
abbrev HostConnectivity := ValidateVolumeHostConnectivityResponse

/-! ## `IsIOInProgress` -/

/-- `checkIfEntryIsLatest`: a sample is fresh when the clock, read now, is less than 60 s past
    its timestamp; a timestamp that does not parse is not fresh and reads no clock. The
    timestamps are in nanoseconds, and `Duration.Seconds() < 60` holds exactly when the
    difference is below `60 * 10^9` ns. -/
def checkIfEntryIsLatest (timestamp : Option Int) : Prog Bool :=
  match timestamp with
  | none => return false
  | some timeFromResponse => do
    let currentTime : Int ← Prog.query .now
    return decide (currentTime - timeFromResponse < 60000000000)

/-- The loop of `IsIOInProgress`:
    `for i := len(resp) - 1; i >= len(resp)-4 && i >= 0; i--`, run from `i = n - 1`; at `n = 0`
    the test `i >= 0` fails. It returns nil on the first active fresh sample and the "no IO"
    error when the test fails. -/
def lastFourLoop (resp : List MetricsSample) : Nat → Prog (Option GoError)
  | 0 => return some (.plain "no IOInProgress")
  | n + 1 =>
    if (n : Int) ≥ resp.length - 4 then do
      let sample ← Prog.index resp n
      if sample.totalIops > 0 then
        if (← checkIfEntryIsLatest sample.timestamp) then
          return none
      lastFourLoop resp n
    else
      return some (.plain "no IOInProgress")

/-- The error of a failed metrics query. -/
def metricsQueryError (err : GoError) : GoError :=
  .plain ("error " ++ err.error ++ " while while checking IsIOInProgress")

/-- `Service.IsIOInProgress`: `nil` when IO is in progress on the volume (block, through
    `PerformanceMetricsByVolume`) or file system (any other protocol, through
    `PerformanceMetricsByFileSystem`). The two branches are the same code on two calls. -/
def isIOInProgress (volID : String) (arrayConfig : PowerStoreArray) (protocol : String) :
    Prog (Option GoError) := do
  if protocol = "scsi" then
    let (resp, err) ← Prog.query (.performanceMetricsByVolume arrayConfig.globalID volID)
    if let some err := err then
      return some (metricsQueryError err)
    lastFourLoop resp resp.length
  else
    let (resp, err) ← Prog.query (.performanceMetricsByFileSystem arrayConfig.globalID volID)
    if let some err := err then
      return some (metricsQueryError err)
    lastFourLoop resp resp.length

/-! ## `checkIfNodeIsConnected` -/

/-- `Service.checkIfNodeIsConnected`: asks the node's status server, at the node's last IP,
    whether the node reaches the array, and records the answer in the response. -/
def checkIfNodeIsConnected (common : Common) (arrayID nodeID : String) (rep : HostConnectivity) :
    Prog (HostConnectivity × Option GoError) := do
  let rep := { rep with connected := false }
  match (common.getIPListFromString nodeID).getLast? with
  | none => return (rep, some (.plain "failed to parse node ID"))
  | some ip =>
    let url := "http://" ++ ip ++ common.apiPort ++ common.arrayStatus ++ "/" ++ arrayID
    let (connected, err) ← Prog.query (.queryArrayStatus url)
    let rep := match err with
      | some err => { rep with messages := rep.messages ++
          ["connectivity unknown for array " ++ arrayID ++ " to node " ++ nodeID ++ " due to " ++
            err.error] }
      | none => rep
    if connected then
      return ({ rep with connected := true, messages := rep.messages ++
        ["array " ++ arrayID ++ " is connected to node " ++ nodeID] }, none)
    else
      return ({ rep with messages := rep.messages ++
        ["array " ++ arrayID ++ " is not connected to node " ++ nodeID] }, none)

/-! ## `ValidateVolumeHostConnectivity` -/

/-- `globalIDs[k] = true` on a `map[string]bool` used as a set: its keys, in insertion order. -/
def insertKey (keys : List String) (k : String) : List String :=
  if k ∈ keys then keys else keys ++ [k]

namespace Service

/-- The first `for _, volID := range req.GetVolumeIds()`: the array of each volume, or the
    default array's when the handle does not decode to one. -/
def collectGlobalIDs (s : Service) (common : Common) (globalIDs : List String) :
    List String → Prog (List String)
  | [] => return globalIDs
  | volID :: rest => do
    let (volumeHandle, err) ← parseVolumeID common s.registry.ipToArray volID
      s.registry.defaultArray none
    let globalID := volumeHandle.arrayID
    if err.isSome ∨ globalID = "" then
      let defaultArray ← Prog.deref s.registry.defaultArray
      s.collectGlobalIDs common (insertKey globalIDs defaultArray.globalID) rest
    else
      s.collectGlobalIDs common (insertKey globalIDs globalID) rest

/-- The inner `for _, volID := range req.GetVolumeIds()` for the array `globalID`: what the
    handler returns early with, or `none` when the loop runs to its end. -/
def checkIOOfVolumes (s : Service) (common : Common) (globalID : String) (rep : HostConnectivity) :
    List String → Prog (Option (Option HostConnectivity × Option GoError))
  | [] => return none
  | volID :: rest => do
    let (volumeHandle, _) ← parseVolumeID common s.registry.ipToArray volID
      s.registry.defaultArray none
    if volumeHandle.arrayID ≠ globalID then
      return some (none, some (.plain ("invalid globalId " ++ globalID ++ " is provided")))
    match s.registry.getOneArray globalID with
    | .error err => return some (none, some err)
    | .ok arraysConfig =>
      let err ← isIOInProgress volumeHandle.localVolumeID arraysConfig volumeHandle.protocol
      if err.isNone then
        return some (some { rep with iosInProgress := true }, none)
      s.checkIOOfVolumes common globalID rep rest

/-- The outer `for globalID := range globalIDs`, over the keys in the order of the iteration. -/
def checkArrays (s : Service) (common : Common) (req : ValidateVolumeHostConnectivityRequest) :
    HostConnectivity → List String → Prog (Option HostConnectivity × Option GoError)
  | rep, [] => return (some rep, none)
  | rep, globalID :: rest => do
    let (rep, err) ← checkIfNodeIsConnected common globalID req.nodeId rep
    if let some err := err then
      return (some rep, some err)
    if req.volumeIds ≠ [] then
      let answer ← s.checkIOOfVolumes common globalID rep req.volumeIds
      if let some answer := answer then
        return answer
    s.checkArrays common req rep rest

/-- `Service.ValidateVolumeHostConnectivity`. -/
def validateVolumeHostConnectivity (s : Service) (common : Common)
    (req : ValidateVolumeHostConnectivityRequest) :
    Prog (Option HostConnectivity × Option GoError) := do
  let rep : HostConnectivity := { connected := false, iosInProgress := false, messages := [] }
  if (req.volumeIds = [] ∨ req.arrayId = "") ∧ req.nodeId = "" then
    return (some { rep with messages := rep.messages ++
      ["ValidateVolumeHostConnectivity is implemented"] }, none)
  if req.nodeId = "" then
    return (none, some (.plain "the NodeID is a required field"))
  let globalIDs ←
    if req.arrayId = "" then do
      let globalIDs ← if req.volumeIds = [] then do
          let defaultArray ← Prog.deref s.registry.defaultArray
          pure [defaultArray.globalID]
        else pure []
      s.collectGlobalIDs common globalIDs req.volumeIds
    else pure [req.arrayId]
  let order ← Prog.query (.mapRange globalIDs)
  s.checkArrays common req rep order.1

end Service

end PowerStoreCsi
