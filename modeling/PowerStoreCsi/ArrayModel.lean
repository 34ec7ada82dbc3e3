import PowerStoreCsi.Prog

set_option autoImplicit false

/-! # A model of the arrays behind the client

What a handler achieves depends on what the arrays do with its calls. Here an array holds volume
groups, protection policies and replication rules, and does with each call what PowerStore's
REST API does: a lookup answers the object or a not-found `APIError`, a change to an object
takes effect, a change to an absent object fails as not found. References are kept in step: a
deleted volume leaves the groups it was a member of and the policies that protected it, a
deleted volume group leaves the policies that protected it, a deleted policy leaves its volume
groups and the rules it used, and a new policy joins the rules it uses.

An array also holds volumes, which groups list as members, its remote systems, and the snapshot
groups taken of its groups; it names each object it creates from a counter. Group names are
unique among the groups that are no snapshots, snapshot names among the snapshot groups, and
policy and rule names among the policies and the rules: a creation under a name in use fails
with the name-in-use `APIError`. A volume-group snapshot copies every member of its group, each
copy recording the volume it was taken of.

A behaviour of the arrays is this, except that a call may instead fail with any error and change
nothing: a `Fate` for each call in turn, `effect` once the list is used up. The failure may be a
not-found answer, another `APIError`, or an error that is no `APIError` at all, such as a broken
connection. Calls outside the model (replication sessions, the cluster record, file systems,
metrics, the node, the clock) are answered as not found. -/

namespace PowerStoreCsi

/-- An `APIError` with status 404. -/
def notFoundError : GoError := .api ⟨404, "not found"⟩

/-- The `APIError` of a creation under a name in use. -/
def nameInUseError : GoError := .api ⟨422, "name already in use"⟩

/-- The answer of a call that fails with `e`: Go's zero value next to the error. -/
def Call.failWith : (c : Call) → GoError → c.Resp
  | .getVolume .., e => (default, some e)
  | .getFS .., e => (default, some e)
  | .performanceMetricsByVolume .., e => ([], some e)
  | .performanceMetricsByFileSystem .., e => ([], some e)
  | .queryArrayStatus _, e => (false, some e)
  | .now, _ => (0 : Int)
  | .mapRange keys, _ => ⟨keys, List.Perm.refl keys⟩
  | .getReplicationSessionByLocalResourceID .., e => (default, some e)
  | .executeActionOnReplicationSession .., e => some e
  | .getVolumeGroup .., e => (default, some e)
  | .modifyVolumeGroup .., e => some e
  | .deleteVolumeGroup .., e => some e
  | .getProtectionPolicyByName .., e => (default, some e)
  | .deleteProtectionPolicy .., e => some e
  | .getReplicationRuleByName .., e => (default, some e)
  | .deleteReplicationRule .., e => some e
  | .getVolumeGroupsByVolumeID .., e => ([], some e)
  | .deleteVolume .., e => some e
  | .getCluster _, e => (default, some e)
  | .getRemoteSystem .., e => (default, some e)
  | .getRemoteSystemByName .., e => (default, some e)
  | .createReplicationRule .., e => (default, some e)
  | .createProtectionPolicy .., e => (default, some e)
  | .getVolumeGroupByName .., e => (default, some e)
  | .addMembersToVolumeGroup .., e => some e
  | .createVolumeGroup .., e => (default, some e)
  | .createVolumeGroupSnapshot .., e => (default, some e)
  | .readFile _, e => ("", some e)
  | .parseProcMounts _, e => ([], some e)
  | .writeFile .., e => some e
  | .remove _, e => some e
  | .isNotExist _, _ => false
  | .execCommand .., e => ("", some e)

/-- The array a call is addressed to, when it is an array call. -/
def Call.array? : Call → Option String
  | .getVolume a _ | .getFS a _ | .performanceMetricsByVolume a _
  | .performanceMetricsByFileSystem a _ | .getReplicationSessionByLocalResourceID a _
  | .executeActionOnReplicationSession a _ _ _ | .getVolumeGroup a _ | .modifyVolumeGroup a _ _
  | .deleteVolumeGroup a _ | .getProtectionPolicyByName a _ | .deleteProtectionPolicy a _
  | .getReplicationRuleByName a _ | .deleteReplicationRule a _ | .getVolumeGroupsByVolumeID a _
  | .deleteVolume a _ | .getCluster a | .getRemoteSystem a _ | .getRemoteSystemByName a _
  | .createReplicationRule a _ _ _ | .createProtectionPolicy a _ _ | .getVolumeGroupByName a _
  | .addMembersToVolumeGroup a _ _ | .createVolumeGroup a _ _ _ | .createVolumeGroupSnapshot a _ _ _ =>
    some a
  | .queryArrayStatus _ | .now | .mapRange _ | .readFile _ | .parseProcMounts _ | .writeFile ..
  | .remove _ | .isNotExist _ | .execCommand .. => none

/-! ## One array -/

/-- The objects of one array. -/
structure ArrayObjects where
  volumeGroups : List VolumeGroup
  protectionPolicies : List ProtectionPolicy
  replicationRules : List ReplicationRule
  volumes : List Volume := []
  remoteSystems : List RemoteSystem := []
  /-- The IDs of the groups that are snapshots of a group. -/
  snapshotGroupIDs : List String := []
  /-- The number of groups created so far, which numbers the next one. -/
  serial : Nat := 0
  deriving DecidableEq, Repr, Inhabited

namespace ArrayObjects

variable (o : ArrayObjects)

def volumeGroup? (id : String) : Option VolumeGroup := o.volumeGroups.find? (·.id = id)

def protectionPolicyByName? (name : String) : Option ProtectionPolicy :=
  o.protectionPolicies.find? (·.name = name)

def replicationRuleByName? (name : String) : Option ReplicationRule :=
  o.replicationRules.find? (·.name = name)

def volume? (id : String) : Option Volume := o.volumes.find? (·.id = id)

def remoteSystem? (id : String) : Option RemoteSystem := o.remoteSystems.find? (·.id = id)

def remoteSystemByName? (name : String) : Option RemoteSystem :=
  o.remoteSystems.find? (·.name = name)

/-- The answer of a lookup: the object, or the zero value and a not-found error. -/
def lookup {α : Type} [Inhabited α] : Option α → α × Option GoError
  | some x => (x, none)
  | none => (default, some notFoundError)

/-- `ModifyVolumeGroup` with a new protection policy: the group moves to it. -/
def assignProtectionPolicy (ppID id : String) : ArrayObjects :=
  { o with
    volumeGroups := o.volumeGroups.map fun vg =>
      if vg.id = id then { vg with protectionPolicyID := ppID } else vg
    protectionPolicies := o.protectionPolicies.map fun pp =>
      let rest := pp.volumeGroups.filter (· ≠ id)
      { pp with volumeGroups := if pp.id = ppID then rest ++ [id] else rest } }

def deleteVolume (id : String) : ArrayObjects :=
  { o with
    volumes := o.volumes.filter (·.id ≠ id)
    volumeGroups := o.volumeGroups.map fun vg =>
      { vg with volumes := vg.volumes.filter (·.id ≠ id) }
    protectionPolicies := o.protectionPolicies.map fun pp =>
      { pp with volumes := pp.volumes.filter (· ≠ id) } }

def deleteVolumeGroup (id : String) : ArrayObjects :=
  { o with
    volumeGroups := o.volumeGroups.filter (·.id ≠ id)
    protectionPolicies := o.protectionPolicies.map fun pp =>
      { pp with volumeGroups := pp.volumeGroups.filter (· ≠ id) } }

def deleteProtectionPolicy (id : String) : ArrayObjects :=
  { o with
    volumeGroups := o.volumeGroups.map fun vg =>
      if vg.protectionPolicyID = id then { vg with protectionPolicyID := "" } else vg
    protectionPolicies := o.protectionPolicies.filter (·.id ≠ id)
    replicationRules := o.replicationRules.map fun rr =>
      { rr with protectionPolicies := rr.protectionPolicies.filter (· ≠ id) } }

def deleteReplicationRule (id : String) : ArrayObjects :=
  { o with replicationRules := o.replicationRules.filter (·.id ≠ id) }

/-- The group of a name among the groups that are no snapshots. -/
def volumeGroupByName? (name : String) : Option VolumeGroup :=
  o.volumeGroups.find? fun vg => vg.name = name ∧ vg.id ∉ o.snapshotGroupIDs

/-- The volumes of the IDs, when the array has every one. -/
def volumesOf? (ids : List String) : Option (List Volume) :=
  ids.mapM fun id => o.volumes.find? (·.id = id)

/-- `AddMembersToVolumeGroup`: the volumes join the group, those already members apart. -/
def addMembers (ids : List String) (id : String) : Option GoError × ArrayObjects :=
  match o.volumeGroup? id, o.volumesOf? ids with
  | some _, some vols =>
    (none, { o with
      volumeGroups := o.volumeGroups.map fun vg =>
        if vg.id = id then
          { vg with volumes := vg.volumes ++ vols.filter fun v => !vg.volumes.any (·.id = v.id) }
        else vg })
  | _, _ => (some notFoundError, o)

/-- `CreateVolumeGroup`: a new group of the volumes, under a name no other group has. -/
def createGroup (name : String) (ids : List String) :
    (CreateResponse × Option GoError) × ArrayObjects :=
  match o.volumeGroupByName? name, o.volumesOf? ids with
  | some _, _ => ((default, some nameInUseError), o)
  | none, none => ((default, some notFoundError), o)
  | none, some vols =>
    let id := "vg-" ++ toString o.serial
    ((⟨id⟩, none), { o with
      volumeGroups := o.volumeGroups ++
        [{ id, name, protectionPolicyID := "", volumes := vols, creationTime := some o.serial }]
      serial := o.serial + 1 })

/-- `CreateReplicationRule`: a new rule to a remote system of the array, which no policy uses yet,
    under a name no other rule has. -/
def createRule (name remoteSystemID : String) : (CreateResponse × Option GoError) × ArrayObjects :=
  match o.replicationRuleByName? name, o.remoteSystem? remoteSystemID with
  | some _, _ => ((default, some nameInUseError), o)
  | none, none => ((default, some notFoundError), o)
  | none, some _ =>
    let id := "rr-" ++ toString o.serial
    ((⟨id⟩, none), { o with
      replicationRules := o.replicationRules ++ [{ id, name, protectionPolicies := [] }]
      serial := o.serial + 1 })

/-- `CreateProtectionPolicy`: a new policy, which protects nothing yet, using rules of the array,
    under a name no other policy has. -/
def createPolicy (name : String) (ruleIDs : List String) :
    (CreateResponse × Option GoError) × ArrayObjects :=
  if (o.protectionPolicyByName? name).isSome then ((default, some nameInUseError), o)
  else if ruleIDs.all fun id => o.replicationRules.any (·.id = id) then
    let id := "pp-" ++ toString o.serial
    ((⟨id⟩, none), { o with
      protectionPolicies := o.protectionPolicies ++ [{ id, name, volumes := [], volumeGroups := [] }]
      replicationRules := o.replicationRules.map fun rr =>
        if rr.id ∈ ruleIDs then { rr with protectionPolicies := rr.protectionPolicies ++ [id] }
        else rr
      serial := o.serial + 1 })
  else ((default, some notFoundError), o)

/-- The copy of a member volume in the snapshot group numbered `serial`. -/
def snapshotOf (serial : Nat) (v : Volume) : Volume :=
  { v with id := "snap-" ++ toString serial ++ "-" ++ v.id, protectionPolicyID := "",
           state := "Ready", sourceID := v.id }

/-- `CreateVolumeGroupSnapshot`: a snapshot group with a copy of every member of the group, under
    a name no other snapshot group has. -/
def createSnapshotGroup (id name : String) : (CreateResponse × Option GoError) × ArrayObjects :=
  match o.volumeGroup? id with
  | none => ((default, some notFoundError), o)
  | some vg =>
    if o.volumeGroups.any fun g => g.name = name ∧ g.id ∈ o.snapshotGroupIDs then
      ((default, some nameInUseError), o)
    else
      let sid := "vgs-" ++ toString o.serial
      ((⟨sid⟩, none), { o with
        volumeGroups := o.volumeGroups ++
          [{ id := sid, name, protectionPolicyID := "", volumes := vg.volumes.map (snapshotOf o.serial),
             creationTime := some o.serial }]
        snapshotGroupIDs := o.snapshotGroupIDs ++ [sid]
        serial := o.serial + 1 })

/-- A snapshot of an existing group under a name no snapshot group has succeeds; the new ID, when
    no group had it before, finds the copy of the group's members. -/
theorem createSnapshotGroup_of_free {id name : String} {vg : VolumeGroup}
    (hvg : o.volumeGroup? id = some vg)
    (hfree : (o.volumeGroups.any fun g => g.name = name ∧ g.id ∈ o.snapshotGroupIDs) = false)
    (hsid : o.volumeGroup? ("vgs-" ++ toString o.serial) = none) :
    (o.createSnapshotGroup id name).1 = (⟨"vgs-" ++ toString o.serial⟩, none) ∧
      (o.createSnapshotGroup id name).2.volumeGroup? ("vgs-" ++ toString o.serial) =
        some { id := "vgs-" ++ toString o.serial, name, protectionPolicyID := "",
               volumes := vg.volumes.map (snapshotOf o.serial), creationTime := some o.serial } := by
  simp only [volumeGroup?] at hvg hsid
  simp only [createSnapshotGroup, volumeGroup?, hvg, hfree, Bool.false_eq_true, if_false]
  simp [List.find?_append, hsid]

/-- A change that takes effect when its object exists, and fails as not found otherwise. -/
def change (present : Bool) (o' : ArrayObjects) : Option GoError × ArrayObjects :=
  if present then (none, o') else (some notFoundError, o)

/-- What the array answers to a call that takes effect, and its objects after it. -/
def serve : (c : Call) → ArrayObjects → c.Resp × ArrayObjects
  | .getVolume _ id, o => (lookup (o.volume? id), o)
  | .deleteVolume _ id, o => o.change (o.volume? id).isSome (o.deleteVolume id)
  | .getRemoteSystem _ id, o => (lookup (o.remoteSystem? id), o)
  | .getRemoteSystemByName _ name, o => (lookup (o.remoteSystemByName? name), o)
  | .createReplicationRule _ name _ remoteSystemID, o => o.createRule name remoteSystemID
  | .createProtectionPolicy _ name ruleIDs, o => o.createPolicy name ruleIDs
  | .getVolumeGroup _ id, o => (lookup (o.volumeGroup? id), o)
  | .modifyVolumeGroup _ ppID id, o =>
    o.change (o.volumeGroup? id).isSome (o.assignProtectionPolicy ppID id)
  | .deleteVolumeGroup _ id, o => o.change (o.volumeGroup? id).isSome (o.deleteVolumeGroup id)
  | .getProtectionPolicyByName _ name, o => (lookup (o.protectionPolicyByName? name), o)
  | .deleteProtectionPolicy _ id, o =>
    o.change (o.protectionPolicies.any (·.id = id)) (o.deleteProtectionPolicy id)
  | .getReplicationRuleByName _ name, o => (lookup (o.replicationRuleByName? name), o)
  | .deleteReplicationRule _ id, o =>
    o.change (o.replicationRules.any (·.id = id)) (o.deleteReplicationRule id)
  | .getVolumeGroupByName _ name, o => (lookup (o.volumeGroupByName? name), o)
  | .getVolumeGroupsByVolumeID _ id, o =>
    ((o.volumeGroups.filter fun vg => vg.volumes.any (·.id = id), none), o)
  | .addMembersToVolumeGroup _ ids id, o => o.addMembers ids id
  | .createVolumeGroup _ name _ ids, o => o.createGroup name ids
  | .createVolumeGroupSnapshot _ id name _, o => o.createSnapshotGroup id name
  | c, o => (c.failWith notFoundError, o)

/-! ### Names and IDs through a volume-group snapshot -/

/-- Every group of the array has an ID. -/
def IdsSet : Prop := ∀ g ∈ o.volumeGroups, g.id ≠ ""

instance : Decidable o.IdsSet := inferInstanceAs (Decidable (∀ g ∈ o.volumeGroups, g.id ≠ ""))

/-- A snapshot group of the array is named `name`. -/
def HasSnapshot (name : String) : Prop :=
  (o.volumeGroups.any fun g => g.name = name ∧ g.id ∈ o.snapshotGroupIDs) = true

instance (name : String) : Decidable (o.HasSnapshot name) := inferInstanceAs (Decidable (_ = true))

/-- What the lookups by ID and the snapshot names see of the groups: their IDs and names. -/
def keys : List (String × String) := o.volumeGroups.map fun g => (g.id, g.name)

theorem isSome_volumeGroup?_of_mem {g : VolumeGroup} (hg : g ∈ o.volumeGroups) :
    (o.volumeGroup? g.id).isSome := by
  simp only [volumeGroup?, List.find?_isSome]
  exact ⟨g, hg, by simp⟩

theorem mem_of_volumeGroupByName? {name : String} {g : VolumeGroup}
    (h : o.volumeGroupByName? name = some g) : g ∈ o.volumeGroups :=
  List.mem_of_find?_eq_some h

/-- Adding members renames no group and gives none another ID. -/
theorem addMembers_keys (ids : List String) (id : String) :
    (o.addMembers ids id).2.keys = o.keys ∧
      (o.addMembers ids id).2.snapshotGroupIDs = o.snapshotGroupIDs := by
  unfold ArrayObjects.addMembers
  split
  · simp only [keys, List.map_map]
    refine ⟨List.map_congr_left fun vg _ => ?_, trivial⟩
    simp only [Function.comp_apply]
    split <;> rfl
  · exact ⟨rfl, rfl⟩

section Snapshots

variable {o} {name : String}

theorem IdsSet.volumeGroup?_empty (h : o.IdsSet) : o.volumeGroup? "" = none := by
  simp only [volumeGroup?, List.find?_eq_none, decide_eq_true_eq]
  exact fun g hg hid => h g hg hid

/-- A second snapshot group under a name in use is refused. -/
theorem HasSnapshot.createSnapshotGroup (h : o.HasSnapshot name) {id : String}
    (hid : (o.volumeGroup? id).isSome) :
    o.createSnapshotGroup id name = ((default, some nameInUseError), o) := by
  obtain ⟨vg, hvg⟩ := Option.isSome_iff_exists.1 hid
  simp only [ArrayObjects.createSnapshotGroup, hvg]
  exact if_pos h

/-- The first snapshot group of a name is made: the array then has one of the name, every group
    still has an ID, and the new ID finds a group. -/
theorem createSnapshotGroup_of_not_hasSnapshot (h : o.IdsSet) (hn : ¬ o.HasSnapshot name)
    {id : String} (hid : (o.volumeGroup? id).isSome) :
    let r := o.createSnapshotGroup id name
    r.1.2 = none ∧ r.2.HasSnapshot name ∧ r.2.IdsSet ∧ (r.2.volumeGroup? r.1.1.id).isSome := by
  obtain ⟨vg, hvg⟩ := Option.isSome_iff_exists.1 hid
  simp only [HasSnapshot, Bool.not_eq_true] at hn
  simp only [createSnapshotGroup, hvg, hn, Bool.false_eq_true, if_false]
  refine ⟨trivial, by simp [HasSnapshot], ?_, by simp [volumeGroup?, List.find?_isSome]⟩
  simp only [IdsSet, List.mem_append, List.mem_singleton]
  rintro g (hg | rfl)
  · exact h g hg
  · simp [String.ext_iff]

/-- `CreateVolumeGroup` of volumes the array lacks, under a free name, fails as not found. -/
theorem createGroup_of_missing {name' : String} {ids : List String}
    (hbn : o.volumeGroupByName? name' = none) (hvols : o.volumesOf? ids = none) :
    o.createGroup name' ids = ((default, some notFoundError), o) := by
  simp [createGroup, hbn, hvols]

/-- `CreateVolumeGroup` of volumes the array has, under a free name, answers the next ID. -/
theorem createGroup_of_found {name' : String} {ids : List String} {vols : List Volume}
    (hbn : o.volumeGroupByName? name' = none) (hvols : o.volumesOf? ids = some vols) :
    (o.createGroup name' ids).1 = (⟨"vg-" ++ toString o.serial⟩, none) := by
  simp [createGroup, hbn, hvols]

/-- A new group has an ID, and the array keeps its snapshot groups; a group made finds itself by
    its ID. -/
theorem IdsSet.createGroup (h : o.IdsSet) (name' : String) (ids : List String) :
    let r := o.createGroup name' ids
    r.2.IdsSet ∧ (∀ n, o.HasSnapshot n → r.2.HasSnapshot n) ∧
      (r.1.2 = none → (r.2.volumeGroup? r.1.1.id).isSome) := by
  unfold ArrayObjects.createGroup
  split
  · exact ⟨h, fun _ => id, by simp⟩
  · exact ⟨h, fun _ => id, by simp⟩
  · refine ⟨?_, fun n hs => ?_, fun _ => by simp [volumeGroup?, List.find?_isSome]⟩
    · simp only [IdsSet, List.mem_append, List.mem_singleton]
      rintro g (hg | rfl)
      · exact h g hg
      · simp [String.ext_iff]
    · simp only [HasSnapshot, List.any_append, Bool.or_eq_true] at hs ⊢
      exact .inl hs

/-- `AddMembersToVolumeGroup` of volumes the array lacks fails as not found. -/
theorem addMembers_of_missing {ids : List String} (id : String) (hvols : o.volumesOf? ids = none) :
    o.addMembers ids id = (some notFoundError, o) := by
  simp only [addMembers, hvols]
  split <;> simp_all

/-- `AddMembersToVolumeGroup` of volumes the array has to a group it has succeeds. -/
theorem addMembers_of_found {ids : List String} {id : String} {vols : List Volume}
    (hid : (o.volumeGroup? id).isSome) (hvols : o.volumesOf? ids = some vols) :
    (o.addMembers ids id).1 = none := by
  obtain ⟨vg, hvg⟩ := Option.isSome_iff_exists.1 hid
  simp [addMembers, hvg, hvols]

theorem idsSet_iff_keys : o.IdsSet ↔ ∀ k ∈ o.keys, k.1 ≠ "" := by
  simp [IdsSet, keys]

theorem hasSnapshot_iff_keys : o.HasSnapshot name ↔
    (o.keys.any fun k => k.2 = name ∧ k.1 ∈ o.snapshotGroupIDs) = true := by
  simp [HasSnapshot, keys, List.any_map, Function.comp_def]

theorem isSome_volumeGroup?_keys (id : String) :
    (o.volumeGroup? id).isSome = (o.keys.find? (·.1 = id)).isSome := by
  simp [volumeGroup?, keys, List.find?_map, Function.comp_def]

/-- So after adding members every group still has an ID, the snapshot names are those before, and
    the lookups by ID find what they found. -/
theorem IdsSet.addMembers (h : o.IdsSet) (ids : List String) (id : String) :
    let r := o.addMembers ids id
    r.2.IdsSet ∧ (∀ n, r.2.HasSnapshot n ↔ o.HasSnapshot n) ∧
      ∀ id', (r.2.volumeGroup? id').isSome = (o.volumeGroup? id').isSome := by
  obtain ⟨hk, hs⟩ := o.addMembers_keys ids id
  simp only [idsSet_iff_keys, hasSnapshot_iff_keys, isSome_volumeGroup?_keys, hk, hs] at h ⊢
  exact ⟨h, fun _ => trivial, fun _ => trivial⟩

end Snapshots

end ArrayObjects

/-! ## The arrays and their behaviour -/

/-- What befalls one call: it takes effect, or it fails with `err` and changes nothing. -/
inductive Fate where
  | effect
  | fail (err : GoError)
  deriving DecidableEq, Repr

/-- The arrays, by `GlobalID`, and the fates of the calls still to come. -/
structure World where
  arrays : String → ArrayObjects
  fates : List Fate

namespace World

/-- A call that takes effect, on the array it is addressed to. -/
def apply (c : Call) (arrays : String → ArrayObjects) : c.Resp × (String → ArrayObjects) :=
  match c.array? with
  | some a => ((arrays a).serve c |>.1, Function.update arrays a ((arrays a).serve c |>.2))
  | none => (c.failWith notFoundError, arrays)

/-- One call against the world: its fate decides whether it takes effect. -/
def serve (c : Call) (w : World) : c.Resp × World :=
  match w.fates with
  | .fail err :: fates => (c.failWith err, ⟨w.arrays, fates⟩)
  | fates => ((apply c w.arrays).1, ⟨(apply c w.arrays).2, fates.tail⟩)

/-- With no fates left, every call takes effect. -/
@[simp] theorem serve_nil (c : Call) (arrays : String → ArrayObjects) :
    serve c ⟨arrays, []⟩ = ((apply c arrays).1, ⟨(apply c arrays).2, []⟩) := rfl

/-- A run against a world with no fates left leaves none. -/
theorem interp_fates_nil {α : Type} (p : Prog α) (arrays : String → ArrayObjects) :
    (p.interp serve ⟨arrays, []⟩).2 = ⟨(p.interp serve ⟨arrays, []⟩).2.arrays, []⟩ := by
  induction p generalizing arrays with
  | pure a => rfl
  | panic m => rfl
  | call c k ih => exact ih _ _

end World

end PowerStoreCsi
