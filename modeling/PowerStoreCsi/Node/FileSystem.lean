import PowerStoreCsi.ArrayModel
import PowerStoreCsi.Node.Base

set_option autoImplicit false

/-! # A model of the node's file system, and the device mappings as a store

The node plugin keeps the name of each staged volume's device in the file
`path.Join(tmpDir, volID)`. Here a node's file system holds the contents of its files by path
and does with each call what POSIX does: reading or removing a missing file fails with
`ENOENT`, and a write replaces the file.

Against it the three mapping helpers implement a map from volume IDs to device names
(`MappingOp.apply`). Every create and delete succeeds, and after any sequence of them
`getMapping` answers for each volume the device name of its last create, unless a delete came
after it or the name was empty. This holds for the volumes whose files `path.Join` keeps apart. -/

namespace PowerStoreCsi

namespace Node

/-! ## Files -/

/-- The text of `ENOENT`. -/
def enoentText : String := "no such file or directory"

/-- `&fs.PathError{Op: op, Path: path, Err: syscall.ENOENT}`, as its `Error()` reads. -/
def notExistError (op path : String) : GoError :=
  .plain (op ++ " " ++ path ++ ": " ++ enoentText)

/-- `os.IsNotExist(err)` on the errors of this file system: a path error for `ENOENT`, whose
    text ends in the text of `ENOENT`. -/
def isNotExistError : Option GoError → Bool
  | some (.plain m) => decide ((": " ++ enoentText).data <:+ m.data)
  | _ => false

@[simp] theorem isNotExistError_notExistError (op path : String) :
    isNotExistError (some (notExistError op path)) = true := by
  simp only [isNotExistError, notExistError, decide_eq_true_eq]
  exact ⟨(op ++ " " ++ path).data, by simp only [String.data_append, List.append_assoc]⟩

/-- A node's files, by path, and what `ParseProcMounts` makes of a mount table. -/
structure NodeFs where
  files : String → Option String
  parseProcMounts : String → List Gofsutil.Info

namespace NodeFs

/-- The answer to a call that is no file-system call. -/
def notFsCallError : GoError := .plain "not a file system call"

/-- What the file system answers to a call, and what the call leaves of it. -/
def serve : (c : Call) → NodeFs → c.Resp × NodeFs
  | .readFile name, fs =>
    match fs.files name with
    | some data => ((data, none), fs)
    | none => (("", some (notExistError "open" name)), fs)
  | .parseProcMounts data, fs => ((fs.parseProcMounts data, none), fs)
  | .writeFile name data _, fs =>
    (none, { fs with files := Function.update fs.files name (some data) })
  | .remove name, fs =>
    match fs.files name with
    | some _ => (none, { fs with files := Function.update fs.files name none })
    | none => (some (notExistError "remove" name), fs)
  | .isNotExist err, fs => (isNotExistError err, fs)
  | c, fs => (c.failWith notFsCallError, fs)

/-! ## The three helpers -/

variable (env : Env) (tmpDir : String)

/-- The device name `getMapping` finds for a volume: the content of the volume's file, when
    there is one and it is not empty. -/
def mapping (fs : NodeFs) (volID : String) : Option String :=
  match fs.files (env.pathJoin tmpDir volID) with
  | some data => if data = "" then none else some data
  | none => none

/-- `createMapping` writes the volume's file and succeeds. -/
theorem createMapping_interp (fs : NodeFs) (volID deviceName : String) :
    (createMapping env volID deviceName tmpDir).interp serve fs =
      (.ok none, { fs with
        files := Function.update fs.files (env.pathJoin tmpDir volID) (some deviceName) }) :=
  rfl

/-- `deleteMapping` leaves no file for the volume and succeeds, whether there was one or not. -/
theorem deleteMapping_interp (fs : NodeFs) (volID : String) :
    (deleteMapping env volID tmpDir).interp serve fs =
      (.ok none,
        { fs with files := Function.update fs.files (env.pathJoin tmpDir volID) none }) := by
  cases h : fs.files (env.pathJoin tmpDir volID) with
  | none =>
    -- `Remove` fails with `ENOENT`, which `IsNotExist` recognises
    have hsame : Function.update fs.files (env.pathJoin tmpDir volID) none = fs.files :=
      Function.update_eq_self_iff.2 h.symm
    simp [deleteMapping, Prog.interp, serve, h, hsame]
  | some data => simp [deleteMapping, Prog.interp, serve, h, isNotExistError]

/-- `getMapping` changes nothing and answers the volume's device name, or an error when the
    volume has none. -/
theorem getMapping_interp (fs : NodeFs) (volID : String) :
    ∃ r, (getMapping env volID tmpDir).interp serve fs = (.ok r, fs) ∧
      match fs.mapping env tmpDir volID with
      | some d => r = (d, none)
      | none => r.2.isSome := by
  unfold mapping
  cases h : fs.files (env.pathJoin tmpDir volID) with
  | none =>
    exact ⟨("", some (notExistError "open" (env.pathJoin tmpDir volID))),
      by simp [getMapping, Prog.interp, serve, h], rfl⟩
  | some data =>
    by_cases hd : data = ""
    · exact ⟨("", some (.plain "no device name in mapping")),
        by simp [getMapping, Prog.interp, serve, h, hd], by simp [hd]⟩
    · exact ⟨(data, none), by simp [getMapping, Prog.interp, serve, h, hd], by simp [hd]⟩

end NodeFs

/-! ## The mappings as a store -/

/-- A call of the node plugin on the device mappings. -/
inductive MappingOp where
  | create (volID deviceName : String)
  | delete (volID : String)
  deriving DecidableEq, Repr

namespace MappingOp

/-- The volume an operation is about. -/
def volID : MappingOp → String
  | .create volID _ | .delete volID => volID

/-- The helper an operation calls. -/
def prog (env : Env) (tmpDir : String) : MappingOp → Prog (Option GoError)
  | .create volID deviceName => createMapping env volID deviceName tmpDir
  | .delete volID => deleteMapping env volID tmpDir

/-- What an operation does to the map from volumes to device names: a create maps the volume to
    its device name (to none for an empty name, which `getMapping` refuses), a delete unmaps it. -/
def apply (m : String → Option String) : MappingOp → String → Option String
  | .create volID deviceName =>
    Function.update m volID (if deviceName = "" then none else some deviceName)
  | .delete volID => Function.update m volID none

/-- Two maps that agree on a volume and on the operation's volume agree on that volume after
    the operation. -/
theorem apply_congr {m₁ m₂ : String → Option String} (op : MappingOp) {v : String}
    (hv : m₁ v = m₂ v) : op.apply m₁ v = op.apply m₂ v := by
  cases op <;> simp only [apply, Function.update_apply, hv]

end MappingOp

variable (env : Env) (tmpDir : String)

/-- The file system after running the operations in turn. -/
def runMappings (fs : NodeFs) (ops : List MappingOp) : NodeFs :=
  ops.foldl (fun fs op => ((op.prog env tmpDir).interp NodeFs.serve fs).2) fs

/-- Every operation succeeds. -/
theorem MappingOp.prog_interp_ok (fs : NodeFs) (op : MappingOp) :
    ((op.prog env tmpDir).interp NodeFs.serve fs).1 = .ok none := by
  cases op with
  | create volID deviceName => rw [prog, NodeFs.createMapping_interp]
  | delete volID => rw [prog, NodeFs.deleteMapping_interp]

/-- One operation changes the mapping of its own volume as `MappingOp.apply` says, and of no
    volume whose file is another. -/
theorem mapping_prog (fs : NodeFs) (op : MappingOp) {v : String}
    (hpath : env.pathJoin tmpDir v = env.pathJoin tmpDir op.volID → v = op.volID) :
    ((op.prog env tmpDir).interp NodeFs.serve fs).2.mapping env tmpDir v =
      op.apply (fs.mapping env tmpDir) v := by
  by_cases hv : v = op.volID
  · subst hv
    cases op <;> simp [MappingOp.prog, NodeFs.createMapping_interp, NodeFs.deleteMapping_interp,
      NodeFs.mapping, MappingOp.apply, MappingOp.volID]
  · have hp : env.pathJoin tmpDir v ≠ env.pathJoin tmpDir op.volID := fun h => hv (hpath h)
    cases op <;> simp_all [MappingOp.prog, NodeFs.createMapping_interp, NodeFs.deleteMapping_interp,
      NodeFs.mapping, MappingOp.apply, MappingOp.volID, Function.update_noteq hp]

/-- Over a run of operations on volumes whose files are distinct, the mappings follow the map
    from volumes to device names that the operations build. -/
theorem mapping_runMappings (vols : List String)
    (hinj : ∀ v ∈ vols, ∀ w ∈ vols, env.pathJoin tmpDir v = env.pathJoin tmpDir w → v = w) :
    ∀ (ops : List MappingOp), (∀ op ∈ ops, op.volID ∈ vols) →
      ∀ (fs : NodeFs) (m : String → Option String),
        (∀ v ∈ vols, fs.mapping env tmpDir v = m v) →
        ∀ v ∈ vols, (runMappings env tmpDir fs ops).mapping env tmpDir v =
          ops.foldl MappingOp.apply m v
  | [], _, _, _, hm => hm
  | op :: ops, hops, fs, m, hm => by
    refine mapping_runMappings vols hinj ops (fun o ho => hops o (.tail _ ho)) _ _
      fun v hv => ?_
    rw [mapping_prog env tmpDir fs op (hinj v hv op.volID (hops op (.head _)))]
    exact op.apply_congr (hm v hv)

/-- The device mappings are a store. Over any run of creates and deletes for volumes whose files
    `path.Join` keeps apart, every create and delete succeeds; afterwards `getMapping` changes
    nothing and answers for each volume the device name that the map built by the run holds for
    it, or an error when it holds none. -/
theorem deviceMappings_refine_map (vols : List String)
    (hinj : ∀ v ∈ vols, ∀ w ∈ vols, env.pathJoin tmpDir v = env.pathJoin tmpDir w → v = w)
    (fs : NodeFs) (ops : List MappingOp) (hops : ∀ op ∈ ops, op.volID ∈ vols) :
    (∀ op ∈ ops, ∀ fs' : NodeFs,
      ((op.prog env tmpDir).interp NodeFs.serve fs').1 = .ok none) ∧
    ∀ v ∈ vols, ∃ r,
      (getMapping env v tmpDir).interp NodeFs.serve (runMappings env tmpDir fs ops) =
        (.ok r, runMappings env tmpDir fs ops) ∧
      match ops.foldl MappingOp.apply (fs.mapping env tmpDir) v with
      | some d => r = (d, none)
      | none => r.2.isSome := by
  refine ⟨fun op _ fs' => MappingOp.prog_interp_ok env tmpDir fs' op, fun v hv => ?_⟩
  obtain ⟨r, hr, hm⟩ := NodeFs.getMapping_interp env tmpDir (runMappings env tmpDir fs ops) v
  refine ⟨r, hr, ?_⟩
  rwa [← mapping_runMappings env tmpDir vols hinj ops hops fs _ (fun _ _ => rfl) v hv]

/-- A node whose `path.Join` of two elements is the first, a slash and the second. -/
def sampleNodeEnv : Env where
  procMountsPath := "/proc/self/mountinfo"
  procMountsRetries := 3
  filepathClean := id
  pathJoin := fun a b => a ++ "/" ++ b
  isNFSVolumeID := fun _ => false
  toArrayVolumeID := id

/-- A node without files. -/
def emptyNodeFs : NodeFs := ⟨fun _ => none, fun _ => []⟩

/-- Two volumes staged, the first unstaged again: the second keeps its device. -/
theorem deviceMappings_refine_map_sample :
    (∀ op ∈ [MappingOp.create "vol1" "/dev/sdb", .create "vol2" "/dev/sdc", .delete "vol1"],
      ∀ fs' : NodeFs, ((op.prog sampleNodeEnv "/tmp").interp NodeFs.serve fs').1 = .ok none) ∧
    ∀ v ∈ ["vol1", "vol2"], ∃ r,
      (getMapping sampleNodeEnv v "/tmp").interp NodeFs.serve
          (runMappings sampleNodeEnv "/tmp" emptyNodeFs
            [.create "vol1" "/dev/sdb", .create "vol2" "/dev/sdc", .delete "vol1"]) =
        (.ok r, runMappings sampleNodeEnv "/tmp" emptyNodeFs
            [.create "vol1" "/dev/sdb", .create "vol2" "/dev/sdc", .delete "vol1"]) ∧
      match [MappingOp.create "vol1" "/dev/sdb", .create "vol2" "/dev/sdc", .delete "vol1"].foldl
          MappingOp.apply (emptyNodeFs.mapping sampleNodeEnv "/tmp") v with
      | some d => r = (d, none)
      | none => r.2.isSome :=
  deviceMappings_refine_map sampleNodeEnv "/tmp" ["vol1", "vol2"] (by decide) emptyNodeFs _
    (by decide)

end Node

end PowerStoreCsi
