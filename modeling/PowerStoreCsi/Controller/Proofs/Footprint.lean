import PowerStoreCsi.ArrayModel
import PowerStoreCsi.Controller.Connectivity
import PowerStoreCsi.Controller.Replication
import PowerStoreCsi.Controller.ProtectionGroup
import PowerStoreCsi.Controller.VolumeGroupSnapshot

set_option autoImplicit false

/-! # Proofs: what each request may change on the arrays

The requests split by what they may do to the arrays. The pod monitor's probe
(`ValidateVolumeHostConnectivity`), the status request (`GetStorageProtectionGroupStatus`) and
the two requests that set up replication (`CreateStorageProtectionGroup`, `CreateRemoteVolume`)
only read: the replication group, its session and the peer must already exist, and these
requests only report them. `CreateVolumeGroupSnapshot`, `ExecuteAction` and
`EnsureProtectionPolicyExists` create, add members or act on a session, and never delete; only
`DeleteStorageProtectionGroup` and `DeleteLocalVolume` delete.

Each fact is first stated over every run (`Prog.AllCalls`), whatever the arrays answer. Against
the array model it follows from one step lemma per kind of call (`ArrayObjects.serve_of_readOnly`,
`ArrayObjects.keeps_serve`) and the run lemma `Prog.AllCalls.interp`: from every state, a request
that only reads leaves every array as it was (`ReadsOnly`), and one that deletes nothing keeps
every volume and the ID of every volume group, protection policy and replication rule
(`DeletesNothing`). -/

namespace PowerStoreCsi

/-! ## Kinds of calls -/

/-- Whether a call only reads: it creates, changes and deletes nothing, on an array or on the
    node. -/
def Call.readOnly : Call → Bool
  | .executeActionOnReplicationSession .. | .modifyVolumeGroup .. | .deleteVolumeGroup ..
  | .deleteProtectionPolicy .. | .deleteReplicationRule .. | .deleteVolume ..
  | .createReplicationRule .. | .createProtectionPolicy .. | .addMembersToVolumeGroup ..
  | .createVolumeGroup .. | .createVolumeGroupSnapshot .. | .writeFile .. | .remove _
  | .execCommand .. => false
  | _ => true

/-- Whether a call deletes an object of an array. -/
def Call.deletes : Call → Bool
  | .deleteVolumeGroup .. | .deleteProtectionPolicy .. | .deleteReplicationRule ..
  | .deleteVolume .. => true
  | _ => false

theorem Call.deletes_eq_false_of_readOnly {c : Call} (h : c.readOnly = true) :
    c.deletes = false := by
  cases c <;> first | rfl | cases h

/-- The calls that only read. -/
def ReadCall (c : Call) : Prop := c.readOnly = true

/-- The calls that delete nothing. -/
def KeepCall (c : Call) : Prop := c.deletes = false

/-! ## The requests that only read -/

theorem checkIfEntryIsLatest_readOnly (timestamp : Option Int) :
    Prog.AllCalls ReadCall (checkIfEntryIsLatest timestamp) := by
  unfold checkIfEntryIsLatest
  split
  · exact Prog.allCalls_pure _ _
  · exact Prog.allCalls_call rfl fun _ => Prog.allCalls_pure _ _

theorem lastFourLoop_readOnly (resp : List MetricsSample) (n : Nat) :
    Prog.AllCalls ReadCall (lastFourLoop resp n) := by
  induction n with
  | zero => exact Prog.allCalls_pure _ _
  | succ n ih =>
    unfold lastFourLoop
    simp only [Prog.bind_eq, Prog.pure_eq, Prog.pure_bind]
    repeat' first
      | with_reducible exact Prog.allCalls_pure _ _
      | with_reducible exact Prog.allCalls_index _ _ _
      | exact ih
      | with_reducible exact checkIfEntryIsLatest_readOnly _
      | refine Prog.allCalls_bind ?_ fun _ => ?_
      | refine Prog.allCalls_ite (fun _ => ?_) fun _ => ?_

theorem isIOInProgress_readOnly (volID : String) (arrayConfig : PowerStoreArray)
    (protocol : String) : Prog.AllCalls ReadCall (isIOInProgress volID arrayConfig protocol) := by
  unfold isIOInProgress
  simp only [Prog.bind_eq, Prog.pure_eq, Prog.pure_bind, Prog.query_bind]
  repeat' first
    | with_reducible exact Prog.allCalls_pure _ _
    | with_reducible exact lastFourLoop_readOnly _ _
    | refine Prog.allCalls_call rfl fun _ => ?_
    | refine Prog.allCalls_ite (fun _ => ?_) fun _ => ?_
    | split

theorem checkIfNodeIsConnected_readOnly (common : Common) (arrayID nodeID : String)
    (rep : HostConnectivity) :
    Prog.AllCalls ReadCall (checkIfNodeIsConnected common arrayID nodeID rep) := by
  unfold checkIfNodeIsConnected
  simp only [Prog.bind_eq, Prog.pure_eq, Prog.pure_bind, Prog.query_bind]
  repeat' first
    | with_reducible exact Prog.allCalls_pure _ _
    | refine Prog.allCalls_call rfl fun _ => ?_
    | refine Prog.allCalls_ite (fun _ => ?_) fun _ => ?_
    | split

theorem withRemote_readOnly (volumeHandles : List String)
    (localVolumeID arrayID protocol : String) :
    Prog.AllCalls ReadCall (withRemote volumeHandles localVolumeID arrayID protocol) := by
  unfold withRemote parseRemoteVolumeHandle
  simp only [Prog.bind_eq, Prog.pure_eq, Prog.pure_bind]
  repeat' first
    | with_reducible exact Prog.allCalls_pure _ _
    | with_reducible exact Prog.allCalls_index _ _ _
    | refine Prog.allCalls_bind ?_ fun _ => ?_
    | refine Prog.allCalls_ite (fun _ => ?_) fun _ => ?_

theorem parseVolumeID_readOnly (common : Common) (ipToArray : GoMap String String)
    (volumeHandle : String) (defaultArray : Option PowerStoreArray)
    (vc : Option VolumeCapability) :
    Prog.AllCalls ReadCall (parseVolumeID common ipToArray volumeHandle defaultArray vc) := by
  unfold parseVolumeID
  simp only [Prog.bind_eq, Prog.pure_eq, Prog.pure_bind, Prog.query_bind]
  repeat' first
    | with_reducible exact Prog.allCalls_pure _ _
    | with_reducible exact Prog.allCalls_index _ _ _
    | with_reducible exact Prog.allCalls_deref _ _
    | with_reducible exact withRemote_readOnly _ _ _ _
    | refine Prog.allCalls_call rfl fun _ => ?_
    | refine Prog.allCalls_bind ?_ fun _ => ?_
    | refine Prog.allCalls_ite (fun _ => ?_) fun _ => ?_
    | split

namespace Service

theorem collectGlobalIDs_readOnly (s : Service) (common : Common)
    (globalIDs volumeIds : List String) :
    Prog.AllCalls ReadCall (s.collectGlobalIDs common globalIDs volumeIds) := by
  induction volumeIds generalizing globalIDs with
  | nil => exact Prog.allCalls_pure _ _
  | cons volID rest ih =>
    unfold collectGlobalIDs
    simp only [Prog.bind_eq]
    refine Prog.allCalls_bind (parseVolumeID_readOnly _ _ _ _ _) fun _ => ?_
    exact Prog.allCalls_ite (fun _ => Prog.allCalls_bind (Prog.allCalls_deref _ _) fun _ => ih _)
      fun _ => ih _

theorem checkIOOfVolumes_readOnly (s : Service) (common : Common) (globalID : String)
    (rep : HostConnectivity) (volumeIds : List String) :
    Prog.AllCalls ReadCall (s.checkIOOfVolumes common globalID rep volumeIds) := by
  induction volumeIds with
  | nil => exact Prog.allCalls_pure _ _
  | cons volID rest ih =>
    unfold checkIOOfVolumes
    simp only [Prog.bind_eq, Prog.pure_eq, Prog.pure_bind]
    refine Prog.allCalls_bind (parseVolumeID_readOnly _ _ _ _ _) fun _ => ?_
    repeat' first
      | with_reducible exact Prog.allCalls_pure _ _
      | exact ih
      | with_reducible exact isIOInProgress_readOnly _ _ _
      | refine Prog.allCalls_bind ?_ fun _ => ?_
      | refine Prog.allCalls_ite (fun _ => ?_) fun _ => ?_
      | split

theorem checkArrays_readOnly (s : Service) (common : Common)
    (req : ValidateVolumeHostConnectivityRequest) (rep : HostConnectivity)
    (globalIDs : List String) :
    Prog.AllCalls ReadCall (s.checkArrays common req rep globalIDs) := by
  induction globalIDs generalizing rep with
  | nil => exact Prog.allCalls_pure _ _
  | cons globalID rest ih =>
    unfold checkArrays
    simp only [Prog.bind_eq, Prog.pure_eq, Prog.pure_bind]
    refine Prog.allCalls_bind (checkIfNodeIsConnected_readOnly _ _ _ _) fun _ => ?_
    repeat' first
      | with_reducible exact Prog.allCalls_pure _ _
      | exact ih _
      | with_reducible exact checkIOOfVolumes_readOnly _ _ _ _ _
      | refine Prog.allCalls_bind ?_ fun _ => ?_
      | refine Prog.allCalls_ite (fun _ => ?_) fun _ => ?_
      | split

theorem validateVolumeHostConnectivity_readOnly (s : Service) (common : Common)
    (req : ValidateVolumeHostConnectivityRequest) :
    Prog.AllCalls ReadCall (s.validateVolumeHostConnectivity common req) := by
  unfold validateVolumeHostConnectivity
  simp only [Prog.bind_eq, Prog.pure_eq, Prog.pure_bind, Prog.query_bind]
  repeat' first
    | with_reducible exact Prog.allCalls_pure _ _
    | with_reducible exact Prog.allCalls_deref _ _
    | with_reducible exact collectGlobalIDs_readOnly _ _ _ _
    | with_reducible exact checkArrays_readOnly _ _ _ _ _
    | refine Prog.allCalls_call rfl fun _ => ?_
    | refine Prog.allCalls_bind ?_ fun _ => ?_
    | refine Prog.allCalls_ite (fun _ => ?_) fun _ => ?_

theorem getStorageProtectionGroupStatus_readOnly (s : Service) (req : ProtectionGroupRequest) :
    Prog.AllCalls ReadCall (s.getStorageProtectionGroupStatus req) := by
  unfold getStorageProtectionGroupStatus
  simp only [Prog.bind_eq, Prog.pure_eq, Prog.pure_bind, Prog.query_bind]
  repeat' first
    | with_reducible exact Prog.allCalls_pure _ _
    | refine Prog.allCalls_call rfl fun _ => ?_
    | refine Prog.allCalls_bind ?_ fun _ => ?_
    | split

theorem createStorageProtectionGroup_readOnly (s : Service) (common : Common) (nfs : NfsHelpers)
    (req : CreateStorageProtectionGroupRequest) :
    Prog.AllCalls ReadCall (s.createStorageProtectionGroup common nfs req) := by
  dsimp only [createStorageProtectionGroup, Prog.bind_eq, Prog.pure_eq, Prog.pure_bind,
    Prog.query_bind]
  repeat' first
    | with_reducible exact Prog.allCalls_pure _ _
    | with_reducible exact parseVolumeID_readOnly _ _ _ _ _
    | refine Prog.allCalls_call rfl fun _ => ?_
    | refine Prog.allCalls_bind ?_ fun _ => ?_
    | refine Prog.allCalls_ite (fun _ => ?_) fun _ => ?_
    | split

theorem createRemoteVolume_readOnly (s : Service) (common : Common) (nfs : NfsHelpers)
    (req : CreateRemoteVolumeRequest) :
    Prog.AllCalls ReadCall (s.createRemoteVolume common nfs req) := by
  dsimp only [createRemoteVolume, Prog.bind_eq, Prog.pure_eq, Prog.pure_bind, Prog.query_bind]
  repeat' first
    | with_reducible exact Prog.allCalls_pure _ _
    | with_reducible exact parseVolumeID_readOnly _ _ _ _ _
    | refine Prog.allCalls_call rfl fun _ => ?_
    | refine Prog.allCalls_bind ?_ fun _ => ?_
    | refine Prog.allCalls_ite (fun _ => ?_) fun _ => ?_
    | split

end Service

/-! ## The requests that delete nothing -/

theorem executeAction_keeps (session : ReplicationSession) (pstoreClient : String)
    (action : ActionType) (failoverParams : Option FailoverParams) :
    Prog.AllCalls KeepCall (executeAction session pstoreClient action failoverParams) := by
  unfold executeAction
  simp only [Prog.bind_eq, Prog.pure_eq, Prog.pure_bind, Prog.query_bind]
  repeat' first
    | with_reducible exact Prog.allCalls_pure _ _
    | refine Prog.allCalls_call rfl fun _ => ?_
    | refine Prog.allCalls_ite (fun _ => ?_) fun _ => ?_
    | split

theorem ensureProtectionPolicyExists_keeps (arr : PowerStoreArray)
    (vgName remoteSystemName rpoEnum : String) :
    Prog.AllCalls KeepCall (ensureProtectionPolicyExists arr vgName remoteSystemName rpoEnum) := by
  unfold ensureProtectionPolicyExists ensureReplicationRuleExists
  simp only [Prog.bind_eq, Prog.pure_eq, Prog.pure_bind, Prog.query_bind]
  repeat' first
    | with_reducible exact Prog.allCalls_pure _ _
    | refine Prog.allCalls_call rfl fun _ => ?_
    | refine Prog.allCalls_bind ?_ fun _ => ?_
    | refine Prog.allCalls_ite (fun _ => ?_) fun _ => ?_
    | split

namespace Service

theorem executeAction_keeps (s : Service) (req : ExecuteActionRequest) :
    Prog.AllCalls KeepCall (s.executeAction req) := by
  have statusKeeps : ∀ r, Prog.AllCalls KeepCall (s.getStorageProtectionGroupStatus r) :=
    fun r => (getStorageProtectionGroupStatus_readOnly s r).mono
      fun _ => Call.deletes_eq_false_of_readOnly
  unfold Service.executeAction
  simp only [Prog.bind_eq, Prog.pure_eq, Prog.pure_bind, Prog.query_bind]
  repeat' first
    | with_reducible exact Prog.allCalls_pure _ _
    | with_reducible exact Prog.allCalls_deref _ _
    | with_reducible exact PowerStoreCsi.executeAction_keeps _ _ _ _
    | with_reducible exact statusKeeps _
    | refine Prog.allCalls_call rfl fun _ => ?_
    | refine Prog.allCalls_bind ?_ fun _ => ?_
    | refine Prog.allCalls_ite (fun _ => ?_) fun _ => ?_
    | split

theorem createVolumeGroupSnapshot_keeps (s : Service)
    (request : CreateVolumeGroupSnapshotRequest) :
    Prog.AllCalls KeepCall (s.createVolumeGroupSnapshot request) := by
  dsimp only [createVolumeGroupSnapshot, Prog.bind_eq, Prog.pure_eq, Prog.pure_bind,
    Prog.query_bind]
  repeat' first
    | with_reducible exact Prog.allCalls_pure _ _
    | with_reducible exact Prog.allCalls_index _ _ _
    | with_reducible exact Prog.allCalls_deref _ _
    | refine Prog.allCalls_call rfl fun _ => ?_
    | refine Prog.allCalls_bind ?_ fun _ => ?_
    | refine Prog.allCalls_ite (fun _ => ?_) fun _ => ?_
    | split

end Service

/-! ## Against the array model -/

namespace ArrayObjects

/-- A call that only reads leaves the objects of its array as they were. -/
theorem serve_of_readOnly {c : Call} (h : c.readOnly = true) (o : ArrayObjects) :
    (o.serve c).2 = o := by
  cases c <;> first | rfl | cases h

/-- What a change that deletes nothing keeps of an array: every volume, and the ID of every
    volume group, protection policy and replication rule. -/
structure Keeps (o o' : ArrayObjects) : Prop where
  volumes : o.volumes ⊆ o'.volumes
  volumeGroups : o.volumeGroups.map (·.id) ⊆ o'.volumeGroups.map (·.id)
  protectionPolicies : o.protectionPolicies.map (·.id) ⊆ o'.protectionPolicies.map (·.id)
  replicationRules : o.replicationRules.map (·.id) ⊆ o'.replicationRules.map (·.id)

theorem Keeps.refl (o : ArrayObjects) : o.Keeps o :=
  ⟨List.Subset.refl _, List.Subset.refl _, List.Subset.refl _, List.Subset.refl _⟩

theorem Keeps.trans {o₁ o₂ o₃ : ArrayObjects} (h₁ : o₁.Keeps o₂)
    (h₂ : o₂.Keeps o₃) : o₁.Keeps o₃ :=
  ⟨List.Subset.trans h₁.1 h₂.1, List.Subset.trans h₁.2 h₂.2,
    List.Subset.trans h₁.3 h₂.3, List.Subset.trans h₁.4 h₂.4⟩

/-- Objects changed in place, under the same IDs. -/
theorem Keeps.of_ids {o o' : ArrayObjects} (hv : o'.volumes = o.volumes)
    (hg : o'.volumeGroups.map (·.id) = o.volumeGroups.map (·.id))
    (hp : o'.protectionPolicies.map (·.id) = o.protectionPolicies.map (·.id))
    (hr : o'.replicationRules = o.replicationRules) : o.Keeps o' :=
  ⟨hv ▸ List.Subset.refl _, hg ▸ List.Subset.refl _, hp ▸ List.Subset.refl _,
    hr ▸ List.Subset.refl _⟩

/-- Groups added after the others. -/
theorem Keeps.of_append (o : ArrayObjects) (added : List VolumeGroup) (serial : Nat)
    (snapshots : List String) :
    o.Keeps { o with
      volumeGroups := o.volumeGroups ++ added
      snapshotGroupIDs := snapshots
      serial := serial } :=
  ⟨List.Subset.refl _, by simp, List.Subset.refl _, List.Subset.refl _⟩

theorem keeps_change (o : ArrayObjects) {present : Bool} {o' : ArrayObjects}
    (h : o.Keeps o') :
    o.Keeps (o.change present o').2 := by
  unfold change
  split
  · exact h
  · exact Keeps.refl o

/-- A map that changes objects in place keeps their IDs. -/
theorem map_map_key {α : Type} {key : α → String} {f : α → α}
    (hf : ∀ x, key (f x) = key x) (l : List α) : (l.map f).map key = l.map key := by
  simp [List.map_map, Function.comp_def, hf]

/-- A call that deletes nothing keeps every volume and every ID of its array. -/
theorem keeps_serve (o : ArrayObjects) {c : Call} (h : c.deletes = false) :
    o.Keeps (o.serve c).2 := by
  cases c
  case modifyVolumeGroup a ppID id =>
    refine o.keeps_change (Keeps.of_ids rfl ?_ ?_ rfl) <;> simp only [assignProtectionPolicy]
    · refine map_map_key (fun _ => ?_) _; split <;> rfl
    · refine map_map_key (fun _ => ?_) _; rfl
  case addMembersToVolumeGroup a ids id =>
    show o.Keeps (o.addMembers ids id).2
    unfold addMembers
    split
    · refine Keeps.of_ids rfl (map_map_key (fun _ => ?_) _) rfl rfl; split <;> rfl
    · exact Keeps.refl o
  case createVolumeGroup a name description ids =>
    show o.Keeps (o.createGroup name ids).2
    unfold createGroup
    split
    · exact Keeps.refl o
    · exact Keeps.refl o
    · exact Keeps.of_append o _ _ _
  case createVolumeGroupSnapshot a id name description =>
    show o.Keeps (o.createSnapshotGroup id name).2
    unfold createSnapshotGroup
    split
    · exact Keeps.refl o
    · split
      · exact Keeps.refl o
      · exact Keeps.of_append o _ _ _
  case createReplicationRule a name rpo remoteSystemID =>
    show o.Keeps (o.createRule name remoteSystemID).2
    unfold createRule
    split
    · exact Keeps.refl o
    · exact Keeps.refl o
    · exact ⟨List.Subset.refl _, List.Subset.refl _, List.Subset.refl _, by simp⟩
  case createProtectionPolicy a name ruleIDs =>
    show o.Keeps (o.createPolicy name ruleIDs).2
    unfold createPolicy
    split
    · exact Keeps.refl o
    split
    · refine ⟨List.Subset.refl _, List.Subset.refl _, by simp, ?_⟩
      rw [map_map_key fun _ => by split <;> rfl]
      exact List.Subset.refl _
    · exact Keeps.refl o
  case deleteVolumeGroup | deleteProtectionPolicy | deleteReplicationRule | deleteVolume =>
    cases h
  all_goals exact Keeps.refl o

end ArrayObjects

namespace World

/-- What a run that deletes nothing keeps of the arrays. -/
def Keeps (w w' : World) : Prop := ∀ a, (w.arrays a).Keeps (w'.arrays a)

theorem serve_arrays_of_readOnly {c : Call} (h : c.readOnly = true) (w : World) :
    (serve c w).2.arrays = w.arrays := by
  unfold serve apply
  split
  · rfl
  · split
    · simp only [ArrayObjects.serve_of_readOnly h, Function.update_eq_self]
    · rfl

theorem keeps_serve {c : Call} (h : c.deletes = false) (w : World) : Keeps w (serve c w).2 := by
  intro a'
  unfold serve apply
  split
  · exact ArrayObjects.Keeps.refl _
  · split
    · rename_i a _
      by_cases ha : a' = a
      · subst ha
        simp only [Function.update_same]
        exact (w.arrays a').keeps_serve h
      · simp only [Function.update_noteq ha]
        exact ArrayObjects.Keeps.refl _
    · exact ArrayObjects.Keeps.refl _

end World

/-- A request that only reads: every call of every run reads, and a run against any state of the
    arrays leaves every array as it was. -/
def ReadsOnly {α : Type} (p : Prog α) : Prop :=
  Prog.AllCalls ReadCall p ∧ ∀ w : World, (p.interp World.serve w).2.arrays = w.arrays

/-- A request that deletes nothing: no call of any run deletes, and a run against any state of
    the arrays keeps every volume and the ID of every group, policy and rule. -/
def DeletesNothing {α : Type} (p : Prog α) : Prop :=
  Prog.AllCalls KeepCall p ∧ ∀ w : World, World.Keeps w (p.interp World.serve w).2

theorem readsOnly_of_allCalls {α : Type} {p : Prog α} (h : Prog.AllCalls ReadCall p) :
    ReadsOnly p :=
  ⟨h, @Prog.AllCalls.interp α World World.serve (fun w w' => w'.arrays = w.arrays)
    (fun _ => rfl) (fun h₁ h₂ => h₂.trans h₁) ReadCall
    (fun _ w hc => World.serve_arrays_of_readOnly hc w) p h⟩

theorem deletesNothing_of_allCalls {α : Type} {p : Prog α} (h : Prog.AllCalls KeepCall p) :
    DeletesNothing p :=
  ⟨h, @Prog.AllCalls.interp α World World.serve World.Keeps
    (fun _ _ => ArrayObjects.Keeps.refl _) (fun h₁ h₂ a => (h₁ a).trans (h₂ a)) KeepCall
    (fun _ w hc => World.keeps_serve hc w) p h⟩

/-- The connectivity probe, the status request, and the two requests that set up replication
    only read. -/
theorem requests_readsOnly (s : Service) (common : Common) (nfs : NfsHelpers) :
    (∀ req, ReadsOnly (s.validateVolumeHostConnectivity common req)) ∧
    (∀ req, ReadsOnly (s.getStorageProtectionGroupStatus req)) ∧
    (∀ req, ReadsOnly (s.createStorageProtectionGroup common nfs req)) ∧
    (∀ req, ReadsOnly (s.createRemoteVolume common nfs req)) :=
  ⟨fun req => readsOnly_of_allCalls (s.validateVolumeHostConnectivity_readOnly common req),
    fun req => readsOnly_of_allCalls (s.getStorageProtectionGroupStatus_readOnly req),
    fun req => readsOnly_of_allCalls (s.createStorageProtectionGroup_readOnly common nfs req),
    fun req => readsOnly_of_allCalls (s.createRemoteVolume_readOnly common nfs req)⟩

/-- Only `DeleteStorageProtectionGroup` and `DeleteLocalVolume` delete: the snapshot request,
    `ExecuteAction` and `EnsureProtectionPolicyExists` create or act, and never delete. -/
theorem requests_deleteNothing (s : Service) :
    (∀ request, DeletesNothing (s.createVolumeGroupSnapshot request)) ∧
    (∀ req, DeletesNothing (s.executeAction req)) ∧
    (∀ arr vgName remoteSystemName rpoEnum,
      DeletesNothing (ensureProtectionPolicyExists arr vgName remoteSystemName rpoEnum)) :=
  ⟨fun request => deletesNothing_of_allCalls (s.createVolumeGroupSnapshot_keeps request),
    fun req => deletesNothing_of_allCalls (s.executeAction_keeps req),
    fun arr vgName remoteSystemName rpoEnum =>
      deletesNothing_of_allCalls
        (ensureProtectionPolicyExists_keeps arr vgName remoteSystemName rpoEnum)⟩

end PowerStoreCsi
