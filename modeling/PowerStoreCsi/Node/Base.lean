import PowerStoreCsi.Prog
import PowerStoreCsi.Array.VolumeID

set_option autoImplicit false

/-! # The node plugin's helpers: mounts, device mappings, formatting

`pkg/node/base.go` holds what the node plugin's handlers share. The mount checks read the node's
mount table until two reads in a row agree (`consistentRead`) and look up the entry of a path:
the first one at exactly that path (`getTargetMount`), or every entry whose path contains it
(`getRemnantTargetMounts`); `isAlreadyPublished` and `getStagedDev` decide from that entry. The
device name of a volume is kept in a file named after the volume under the plugin's temporary
directory (`createMapping`, `getMapping`, `deleteMapping`), and `format` runs `mkfs`.

`getNodeOptions` reads the plugin's options from the environment, with a default for the
node name prefix, the chroot path and the temporary directory.

What the helpers read from packages outside `src/` (`procMountsPath`, `path.Join`, the NFS
volume-ID helpers) are parameters (`Node.Env`), and so are the environment and the names of its
variables that `getNodeOptions` reads (`Node.OptionsEnv`). `getOutboundIP`, a network dial, is
not modelled. -/

namespace PowerStoreCsi

namespace Node

/-- What the helpers read from packages outside `src/`. -/
structure Env where
  /-- `procMountsPath`: the node's mount table. -/
  procMountsPath : String
  /-- `procMountsRetries`: how many more reads `consistentRead` may make of it. -/
  procMountsRetries : Int
  /-- `filepath.Clean`. -/
  filepathClean : String → String
  /-- `path.Join(elem1, elem2)`. -/
  pathJoin : String → String → String
  /-- `nfs.IsNFSVolumeID`. -/
  isNFSVolumeID : String → Bool
  /-- `nfs.ToArrayVolumeID`. -/
  toArrayVolumeID : String → String

/-! ## `getNodeOptions` -/

/-- What `getNodeOptions` reads from outside `src/`: the environment as `csictx.LookupEnv` sees
    it, the names the `identifiers` package gives the variables, and `identifiers.RandomString`. -/
structure OptionsEnv where
  lookupEnv : String → Option String
  envNodeIDFilePath : String
  envKubeConfigPath : String
  envNodeNamePrefix : String
  envKubeNodeName : String
  envNodeChrootPath : String
  envMaxVolumesPerNode : String
  envTmpDir : String
  envFCPortsFilterFilePath : String
  envEnableCHAP : String
  randomString : Nat → String

/-- The fields of the node's `Opts` that `getNodeOptions` sets, at their zero values. -/
structure Opts where
  nodeIDFilePath : String := ""
  kubeConfigPath : String := ""
  nodeNamePrefix : String := ""
  kubeNodeName : String := ""
  nodeChrootPath : String := ""
  maxVolumesPerNode : Int := 0
  tmpDir : String := ""
  fcPortsFilterFilePath : String := ""
  enableCHAP : Bool := false
  chapUsername : String := ""
  chapPassword : String := ""
  deriving DecidableEq, Repr

def defaultNodeNamePrefix : String := "csi-node"

def defaultNodeChrootPath : String := "/noderoot"

def defaultTmpDir : String := "tmp"

/-- The closure `pb` of `getNodeOptions`: a variable read as a boolean, false when it is not set
    or does not parse. -/
def envBool (env : OptionsEnv) (n : String) : Bool :=
  match env.lookupEnv n with
  | some v =>
    match Go.parseBool v with
    | some b => b
    | none => false
  | none => false

/-- `getNodeOptions`. Each `if v, ok := csictx.LookupEnv(ctx, name); ok { opts.F = v }` keeps
    `opts.F` when the variable is not set, and each default replaces an empty value. A maximum
    number of volumes that does not parse is 0, with a warning. -/
def getNodeOptions (env : OptionsEnv) : Opts :=
  let opts : Opts := {}
  let opts := { opts with
    nodeIDFilePath := (env.lookupEnv env.envNodeIDFilePath).getD opts.nodeIDFilePath }
  let opts := { opts with
    kubeConfigPath := (env.lookupEnv env.envKubeConfigPath).getD opts.kubeConfigPath }
  let opts := { opts with
    nodeNamePrefix := (env.lookupEnv env.envNodeNamePrefix).getD opts.nodeNamePrefix }
  let opts := { opts with nodeNamePrefix :=
    if opts.nodeNamePrefix = "" then defaultNodeNamePrefix else opts.nodeNamePrefix }
  let opts := { opts with
    kubeNodeName := (env.lookupEnv env.envKubeNodeName).getD opts.kubeNodeName }
  let opts := { opts with
    nodeChrootPath := (env.lookupEnv env.envNodeChrootPath).getD opts.nodeChrootPath }
  let opts := { opts with nodeChrootPath :=
    if opts.nodeChrootPath = "" then defaultNodeChrootPath else opts.nodeChrootPath }
  let opts := { opts with maxVolumesPerNode :=
    (match env.lookupEnv env.envMaxVolumesPerNode with
      | some maxVolumesPerNodeStr =>
        match Go.parseInt maxVolumesPerNodeStr with
        | none => 0
        | some maxVolumesPerNode => maxVolumesPerNode
      | none => opts.maxVolumesPerNode) }
  let opts := { opts with tmpDir := (env.lookupEnv env.envTmpDir).getD opts.tmpDir }
  let opts := { opts with tmpDir := if opts.tmpDir = "" then defaultTmpDir else opts.tmpDir }
  let opts := { opts with fcPortsFilterFilePath :=
    (env.lookupEnv env.envFCPortsFilterFilePath).getD opts.fcPortsFilterFilePath }
  let opts := { opts with enableCHAP := envBool env env.envEnableCHAP }
  if opts.enableCHAP then { opts with chapUsername := "admin", chapPassword := env.randomString 12 }
  else opts

/-! ## `formatWWPN` -/

/-- The loop `for i, v := range data` of `formatWWPN`, from the rune `v` at byte offset `i`,
    with what the buffer holds so far: a colon follows each rune at an odd offset before the
    last byte. -/
def formatWWPNLoop (len : Nat) (buffer : String) : Nat → List Char → String
  | _, [] => buffer
  | i, v :: rest =>
    let buffer := buffer.push v
    let buffer := if i % 2 ≠ 0 ∧ i < len - 1 then buffer ++ ":" else buffer
    formatWWPNLoop len buffer (i + v.utf8Size) rest

/-- `formatWWPN`. `bytes.Buffer`'s `WriteRune` and `WriteString` always return a nil error, so
    neither error return of the function is ever taken. -/
def formatWWPN (data : String) : String × Option GoError :=
  (formatWWPNLoop data.utf8ByteSize "" 0 data.data, none)

/-! ## The mount table -/

/-- The loop `for i := 0; i < retry; i++` of `consistentRead`, with `n` iterations left and the
    content of the last read: it returns the first read equal to the one before it. -/
def consistentReadLoop (env : Env) (filename : String) (retry : Int) :
    Nat → String → Prog (String × Option GoError)
  | 0, _ => return ("", some (.plain ("could not get consistent content of " ++ filename ++
      " after " ++ toString retry ++ " attempts")))
  | n + 1, oldContent => do
    let (newContent, err) ← Prog.query (.readFile (env.filepathClean filename))
    if let some err := err then
      return ("", some err)
    if oldContent = newContent then
      return (newContent, none)
    consistentReadLoop env filename retry n newContent

/-- `consistentRead(filename, retry, fs)`: reads the file, then again up to `retry` times, until
    two reads in a row agree. A failed read ends it with its error. -/
def consistentRead (env : Env) (filename : String) (retry : Int) :
    Prog (String × Option GoError) := do
  let (oldContent, err) ← Prog.query (.readFile (env.filepathClean filename))
  if let some err := err then
    return ("", some err)
  consistentReadLoop env filename retry retry.toNat oldContent

/-- `getMounts`: the entries of the node's mount table. -/
def getMounts (env : Env) : Prog (List Gofsutil.Info × Option GoError) := do
  let (data, err) ← consistentRead env env.procMountsPath env.procMountsRetries
  if let some err := err then
    return ([], some err)
  let (info, err) ← Prog.query (.parseProcMounts data)
  if let some err := err then
    return ([], some err)
  return (info, none)

/-- The error of a lookup in the mount table when reading the table failed: the read's own
    error is dropped. -/
def mountStatusError : GoError :=
  .status .internal "could not reliably determine existing mount status"

/-- The loop of `getTargetMount`: the first entry at exactly `target` and whether there is one,
    the zero value when there is none. -/
def targetMountLoop (target : String) : List Gofsutil.Info → Gofsutil.Info × Bool
  | [] => (default, false)
  | mount :: mounts => if mount.path = target then (mount, true) else targetMountLoop target mounts

/-- `getTargetMount`. -/
def getTargetMount (env : Env) (target : String) :
    Prog (Gofsutil.Info × Bool × Option GoError) := do
  let (mounts, err) ← getMounts env
  if err.isSome then
    return (default, false, some mountStatusError)
  let (targetMount, found) := targetMountLoop target mounts
  return (targetMount, found, none)

/-- The loop of `getRemnantTargetMounts`: the entries whose path contains `target`, appended in
    order to `targetMounts`, and whether there is one. -/
def remnantTargetMountsLoop (target : String) :
    List Gofsutil.Info → List Gofsutil.Info → Bool → List Gofsutil.Info × Bool
  | [], targetMounts, found => (targetMounts, found)
  | mount :: mounts, targetMounts, found =>
    if Go.contains mount.path target then
      remnantTargetMountsLoop target mounts (targetMounts ++ [mount]) true
    else remnantTargetMountsLoop target mounts targetMounts found

/-- `getRemnantTargetMounts`. -/
def getRemnantTargetMounts (env : Env) (target : String) :
    Prog (List Gofsutil.Info × Bool × Option GoError) := do
  let (mounts, err) ← getMounts env
  if err.isSome then
    return ([], false, some mountStatusError)
  let (targetMounts, found) := remnantTargetMountsLoop target mounts [] false
  return (targetMounts, found, none)

/-- The error of a check of `path` whose lookup in the mount table failed. -/
def checkMountsError (path : String) (err : GoError) : GoError :=
  .status .internal ("can't check mounts for path " ++ path ++ ": " ++ err.error)

/-- `getStagedDev`: the device mounted at the staging path, `""` when nothing is; for a bind
    mount (`devtmpfs`, `udev`) the mount's source. -/
def getStagedDev (env : Env) (stagePath : String) : Prog (String × Option GoError) := do
  let (mountInfo, found, err) ← getTargetMount env stagePath
  if let some err := err then
    return ("", some (checkMountsError stagePath err))
  if !found then
    return ("", none)
  let sourceDev := mountInfo.device
  let sourceDev := if sourceDev = "devtmpfs" ∨ sourceDev = "udev" then mountInfo.source
    else sourceDev
  return (sourceDev, none)

/-- `getStagingPath`: the volume ID the array knows, and the staging path of the volume. -/
def getStagingPath (env : Env) (sp volID : String) : String × String :=
  if env.isNFSVolumeID volID then (env.toArrayVolumeID volID, sp)
  else if sp = "" ∨ volID = "" then (volID, sp)
  else (volID, env.pathJoin sp volID)

/-! ## Device mappings -/

/-- `createMapping`: writes the device name to the volume's file under `tmpDir`. -/
def createMapping (env : Env) (volID deviceName tmpDir : String) : Prog (Option GoError) :=
  Prog.query (.writeFile (env.pathJoin tmpDir volID) deviceName 0o640)

/-- `getMapping`: the device name in the volume's file. -/
def getMapping (env : Env) (volID tmpDir : String) : Prog (String × Option GoError) := do
  let (data, err) ← Prog.query (.readFile (env.pathJoin tmpDir volID))
  if let some err := err then
    return ("", some err)
  if data = "" then
    return ("", some (.plain "no device name in mapping"))
  return (data, none)

/-- `deleteMapping`: removes the volume's file; a file that is not there is no error. -/
def deleteMapping (env : Env) (volID tmpDir : String) : Prog (Option GoError) := do
  let err ← Prog.query (.remove (env.pathJoin tmpDir volID))
  let notExist : Bool ← Prog.query (.isNotExist err)
  if notExist then
    return none
  return err

/-! ## Publishing and formatting -/

/-- `isBlock`: whether the capability asks for a raw block device. -/
def isBlock (vc : Option VolumeCapability) : Bool :=
  match vc.bind VolumeCapability.accessType with
  | some .block => true
  | _ => false

/-- `contains`: whether `item` is an element of `list`. -/
def contains (list : List String) (item : String) : Bool :=
  match list with
  | [] => false
  | x :: rest => if x = item then true else contains rest item

/-- `getRWModeString`. -/
def getRWModeString (isRO : Bool) : String := if isRO then "ro" else "rw"

/-- `isAlreadyPublished`: whether the target path is mounted, with an error when it is mounted
    without the requested mode among its options. -/
def isAlreadyPublished (env : Env) (targetPath rwMode : String) :
    Prog (Bool × Option GoError) := do
  let (mount, found, err) ← getTargetMount env targetPath
  if let some err := err then
    return (false, some (checkMountsError targetPath err))
  if !found then
    return (false, none)
  if !contains mount.opts rwMode then
    return (false, some (.status .failedPrecondition
      ("volume already mounted but with different capabilities: " ++ Go.sprintStrings mount.opts)))
  return (true, none)

/-- `format(ctx, source, fsType, fs, opts...)`: runs `mkfs.<fsType>`, ext4 when no type is
    given, with `-K` for XFS and `-E nodiscard -F` otherwise; the command's output is the error
    when it fails. -/
def format (source fsType : String) (opts : List String) : Prog (Option GoError) := do
  let fsType := if fsType = "" then "ext4" else fsType
  let mkfsCmd := "mkfs." ++ fsType
  let mkfsArgs := if fsType = "xfs" then ["-K", source] else ["-E", "nodiscard", "-F", source]
  let mkfsArgs := mkfsArgs ++ opts
  let (out, err) ← Prog.query (.execCommand mkfsCmd mkfsArgs)
  if err.isSome then
    return some (.plain out)
  return none

end Node

end PowerStoreCsi
