import PowerStoreCsi.ArrayModel
import PowerStoreCsi.Controller.ProtectionGroup
import PowerStoreCsi.Controller.Proofs.Replication
import PowerStoreCsi.Controller.Proofs.Teardown

set_option autoImplicit false

/-! # Proofs: the life of a protection group

A protection group is created by `CreateStorageProtectionGroup` on one cluster, for the volume
group of a volume, and from then on named by the attributes the creation answered. The driver
looks the policy and the rule of a volume group up, creates them and deletes them under the
names `pp-<name>` and `rr-<name>`. The results below tie the handlers together: the attributes
of a created group lead the later requests to the array of the volume, and the teardown of the
group touches that array only and, of the policies and rules, only the two that
`EnsureProtectionPolicyExists` creates for the group's volume group.

Each half of the group is addressed where it lives: the requests about the half on the peer, run by a controller
of the peer under the same replication prefix, reach only the array that controller files under
the peer's serial number, and read only the session of the remote resource. -/

namespace PowerStoreCsi

/-! ## Calls on one group -/

/-- The name of the protection policy or replication rule a call looks up or creates. -/
def Call.protectionObjectName? : Call → Option String
  | .getProtectionPolicyByName _ name | .createProtectionPolicy _ name _
  | .getReplicationRuleByName _ name | .createReplicationRule _ name _ _ => some name
  | _ => none

/-- A call to the array `a` that names, of the protection policies and replication rules, at
    most `pp-<vgName>` and `rr-<vgName>`. -/
def GroupCall (a vgName : String) (c : Call) : Prop :=
  c.array? = some a ∧
    c.protectionObjectName? ∈ [none, some ("pp-" ++ vgName), some ("rr-" ++ vgName)]

/-- `EnsureReplicationRuleExists` works on `rr-<vgName>` of its array. -/
theorem ensureReplicationRuleExists_groupCalls (arr : PowerStoreArray)
    (vgName remoteSystemID rpoEnum : String) :
    Prog.AllCalls (GroupCall arr.globalID vgName)
      (ensureReplicationRuleExists arr vgName remoteSystemID rpoEnum) := by
  refine Prog.allCalls_call ⟨rfl, by simp [Call.protectionObjectName?]⟩ fun ⟨rr, err⟩ => ?_
  refine Prog.allCalls_ite (fun _ => ?_) fun _ => Prog.allCalls_pure _ _
  refine Prog.allCalls_call ⟨rfl, by simp [Call.protectionObjectName?]⟩ fun ⟨newRr, err⟩ => ?_
  cases err <;> exact Prog.allCalls_pure _ _

/-- `EnsureProtectionPolicyExists` works on `pp-<vgName>` and `rr-<vgName>` of its array. -/
theorem ensureProtectionPolicyExists_groupCalls (arr : PowerStoreArray)
    (vgName remoteSystemName rpoEnum : String) :
    Prog.AllCalls (GroupCall arr.globalID vgName)
      (ensureProtectionPolicyExists arr vgName remoteSystemName rpoEnum) := by
  simp only [ensureProtectionPolicyExists, Prog.bind_eq, Prog.pure_eq, Prog.pure_bind,
    Prog.query_bind]
  refine Prog.allCalls_call ⟨rfl, by simp [Call.protectionObjectName?]⟩ fun ⟨rs, err⟩ => ?_
  cases err with
  | some err => exact Prog.allCalls_pure _ _
  | none =>
  refine Prog.allCalls_call ⟨rfl, by simp [Call.protectionObjectName?]⟩ fun ⟨pp, err⟩ => ?_
  refine Prog.allCalls_ite (fun _ => Prog.allCalls_pure _ _) fun _ => ?_
  refine Prog.allCalls_bind (ensureReplicationRuleExists_groupCalls arr vgName rs.id rpoEnum)
    fun ⟨rrID, err⟩ => ?_
  refine Prog.allCalls_ite (fun _ => Prog.allCalls_pure _ _) fun _ => ?_
  refine Prog.allCalls_call ⟨rfl, by simp [Call.protectionObjectName?]⟩ fun ⟨newPp, err⟩ => ?_
  cases err <;> exact Prog.allCalls_pure _ _

/-! The walk over each phase of the teardown: every call is made on `a` and names, of the
    policies and rules, at most those of `vgName`. -/

theorem rulePhase_groupCalls (a vgName : String) :
    Prog.AllCalls (GroupCall a vgName) (Service.rulePhase a vgName) := by
  simp only [Service.rulePhase, Prog.bind_eq, Prog.pure_eq, Prog.pure_bind, Prog.query_bind]
  repeat' first
    | exact Prog.allCalls_pure _ _
    | refine Prog.allCalls_call ⟨rfl, by simp [Call.protectionObjectName?]⟩ fun _ => ?_
    | refine Prog.allCalls_ite (fun _ => ?_) fun _ => ?_

theorem policyPhase_groupCalls (a vgName : String) {k : Prog (Option Unit × Option GoError)}
    (hk : Prog.AllCalls (GroupCall a vgName) k) :
    Prog.AllCalls (GroupCall a vgName) (Service.policyPhase a vgName k) := by
  simp only [Service.policyPhase, Prog.bind_eq, Prog.pure_eq, Prog.pure_bind, Prog.query_bind]
  repeat' first
    | exact Prog.allCalls_pure _ _
    | exact hk
    | refine Prog.allCalls_call ⟨rfl, by simp [Call.protectionObjectName?]⟩ fun _ => ?_
    | refine Prog.allCalls_ite (fun _ => ?_) fun _ => ?_

theorem groupPhase_groupCalls (a groupID vgName : String)
    {k : Prog (Option Unit × Option GoError)} (hk : Prog.AllCalls (GroupCall a vgName) k) :
    Prog.AllCalls (GroupCall a vgName) (Service.groupPhase a groupID k) := by
  simp only [Service.groupPhase, Prog.bind_eq, Prog.pure_eq, Prog.pure_bind, Prog.query_bind]
  repeat' first
    | exact Prog.allCalls_pure _ _
    | exact hk
    | refine Prog.allCalls_call ⟨rfl, by simp [Call.protectionObjectName?]⟩ fun _ => ?_
    | refine Prog.allCalls_ite (fun _ => ?_) fun _ => ?_
    | split

/-- With its array and its volume group's name found in the attributes, the teardown works on
    that array alone and, of the policies and rules, on `pp-<name>` and `rr-<name>` alone. -/
theorem deleteStorageProtectionGroup_groupCalls (s : Service) (req : ProtectionGroupRequest)
    {arr : PowerStoreArray} {vgName : String}
    (harr : s.groupArray req.protectionGroupAttributes = .ok arr)
    (hv : s.localParam req.protectionGroupAttributes "VolumeGroupName" = some vgName) :
    Prog.AllCalls (GroupCall arr.globalID vgName) (s.deleteStorageProtectionGroup req) := by
  rw [Service.deleteStorageProtectionGroup_eq s req harr, hv]
  exact groupPhase_groupCalls _ _ _ (policyPhase_groupCalls _ _ (rulePhase_groupCalls _ _))

/-! ## The attributes of the two sides -/

section Attributes

variable (p : String) (localSystem : Cluster) (remoteSystem : RemoteSystem) (arrayID : String)
  (vg : VolumeGroup)

/-- The attributes of the group on this side name its array and its volume group. -/
theorem localGroupParams_group :
    localGroupParams p localSystem remoteSystem arrayID vg (p ++ "globalID") = some arrayID ∧
      localGroupParams p localSystem remoteSystem arrayID vg (p ++ "VolumeGroupName") =
        some vg.name := by
  simp [localGroupParams, GoMap.ofList]

/-- The attributes of the group on the peer name the peer's serial number as its array, and the
    volume group. -/
theorem remoteGroupParams_group :
    remoteGroupParams p localSystem remoteSystem vg (p ++ "globalID") =
        some remoteSystem.serialNumber ∧
      remoteGroupParams p localSystem remoteSystem vg (p ++ "VolumeGroupName") = some vg.name := by
  simp [remoteGroupParams, GoMap.ofList]

end Attributes

/-! ## What a creation answers -/

/-- A creation that succeeds found the volume's array in the registry, asked it for the
    volume's groups, for the session of the first and for the session's peer, and answers the
    session's IDs with attributes built from what it read. -/
theorem createStorageProtectionGroup_ok {s : Service} {common : Common} {nfs : NfsHelpers}
    {req : CreateStorageProtectionGroupRequest} {t : List Event}
    {resp : CreateStorageProtectionGroupResponse}
    (h : (s.createStorageProtectionGroup common nfs req).Reaches t (.ok (some resp, none))) :
    ∃ arrayID arr id vg rest rs localSystem remoteSystem,
      s.registry.arrays arrayID = some arr ∧
      (⟨.getVolumeGroupsByVolumeID arr.globalID id, (vg :: rest, none)⟩ : Event) ∈ t ∧
      (⟨.getReplicationSessionByLocalResourceID arr.globalID vg.id, (rs, none)⟩ : Event) ∈ t ∧
      (⟨.getRemoteSystem arr.globalID rs.remoteSystemID, (remoteSystem, none)⟩ : Event) ∈ t ∧
      resp = ⟨rs.localResourceID, rs.remoteResourceID,
        localGroupParams s.replicationContextPrefix localSystem remoteSystem arrayID vg,
        remoteGroupParams s.replicationContextPrefix localSystem remoteSystem vg⟩ := by
  simp only [Service.createStorageProtectionGroup, Prog.bind_eq, Prog.pure_eq, Prog.pure_bind,
    Prog.query_bind] at h
  split at h
  · cases (Prog.reaches_pure_iff.1 h).2
  obtain ⟨t₁, t₂, ⟨vh, err⟩, rfl, -, h₁⟩ := h.of_bind_ok
  -- each array call is followed by its error check; an error ends the run without a group
  cases err with
  | some err => cases (Prog.reaches_pure_iff.1 h₁).2
  | none =>
  cases harr : s.registry.arrays vh.arrayID with
  | none => simp only [harr] at h₁; cases (Prog.reaches_pure_iff.1 h₁).2
  | some arr =>
  simp only [harr] at h₁
  split at h₁
  · cases (Prog.reaches_pure_iff.1 h₁).2
  obtain ⟨⟨vgs, err⟩, t₃, rfl, h₂⟩ := Prog.reaches_call_iff.1 h₁
  cases err with
  | some err => cases (Prog.reaches_pure_iff.1 h₂).2
  | none =>
  cases vgs with
  | nil => cases (Prog.reaches_pure_iff.1 h₂).2
  | cons vg rest =>
  obtain ⟨⟨rs, err⟩, t₄, rfl, h₃⟩ := Prog.reaches_call_iff.1 h₂
  cases err with
  | some err => cases (Prog.reaches_pure_iff.1 h₃).2
  | none =>
  obtain ⟨⟨localSystem, err⟩, t₅, rfl, h₄⟩ := Prog.reaches_call_iff.1 h₃
  cases err with
  | some err => cases (Prog.reaches_pure_iff.1 h₄).2
  | none =>
  obtain ⟨⟨remoteSystem, err⟩, t₆, rfl, h₅⟩ := Prog.reaches_call_iff.1 h₄
  cases err with
  | some err => cases (Prog.reaches_pure_iff.1 h₅).2
  | none =>
  obtain ⟨rfl, ⟨⟩⟩ := Prog.reaches_pure_iff.1 h₅
  exact ⟨vh.arrayID, arr, _, vg, rest, rs, localSystem, remoteSystem, harr,
    List.mem_append_right _ (List.mem_cons_self _ _),
    List.mem_append_right _ (List.mem_cons_of_mem _ (List.mem_cons_self _ _)),
    List.mem_append_right _ (by simp), rfl⟩

/-! ## From creation to teardown -/

/-- A group that `CreateStorageProtectionGroup` creates is torn down where it was made. Its
    attributes lead `DeleteStorageProtectionGroup`, `ExecuteAction` and
    `GetStorageProtectionGroupStatus` to the array of the volume, and every run of its teardown
    calls that array only and names, of the policies and rules, only `pp-<vg>` and `rr-<vg>` of
    the volume's first volume group `vg`: the two that `EnsureProtectionPolicyExists` looks up
    and creates for that group. -/
theorem createStorageProtectionGroup_teardown_matches_ensure (s : Service) (common : Common)
    (nfs : NfsHelpers) (req : CreateStorageProtectionGroupRequest) (t : List Event)
    (resp : CreateStorageProtectionGroupResponse)
    (h : (s.createStorageProtectionGroup common nfs req).Reaches t (.ok (some resp, none))) :
    ∃ arr vg, (∃ id rest,
        (⟨.getVolumeGroupsByVolumeID arr.globalID id, (vg :: rest, none)⟩ : Event) ∈ t) ∧
      s.groupArray resp.localProtectionGroupAttributes = .ok arr ∧
      Prog.AllCalls (GroupCall arr.globalID vg.name) (s.deleteStorageProtectionGroup
        ⟨resp.localProtectionGroupId, resp.localProtectionGroupAttributes⟩) ∧
      ∀ remoteSystemName rpoEnum, Prog.AllCalls (GroupCall arr.globalID vg.name)
        (ensureProtectionPolicyExists arr vg.name remoteSystemName rpoEnum) := by
  obtain ⟨arrayID, arr, id, vg, rest, rs, localSystem, remoteSystem, harr, hvg, -, -, rfl⟩ :=
    createStorageProtectionGroup_ok h
  obtain ⟨hg, hn⟩ := localGroupParams_group s.replicationContextPrefix localSystem remoteSystem
    arrayID vg
  have hga : s.groupArray (localGroupParams s.replicationContextPrefix localSystem remoteSystem
      arrayID vg) = .ok arr := by
    simp [Service.groupArray, Service.localParam, hg, harr]
  exact ⟨arr, vg, ⟨id, rest, hvg⟩, hga, deleteStorageProtectionGroup_groupCalls s _ hga hn,
    fun _ _ => ensureProtectionPolicyExists_groupCalls _ _ _ _⟩

/-- The replication parameters of a node on which no parameter marks NFS volumes. -/
def sampleNfsHelpers : NfsHelpers := ⟨"csi-nfs", fun _ => "nfs-"⟩

/-- The volume group `vg1` of volume `vol1` on `PS1`. -/
def sampleGroup : VolumeGroup := { id := "vg1-id", name := "vg1", protectionPolicyID := "pp1" }

/-- The session of `vg1`: group `pg1` here, `pg2` on the peer `rsys1`. -/
def sampleSession : ReplicationSession :=
  { id := "rs1", state := "OK", role := "Source", localResourceID := "pg1",
    remoteResourceID := "pg2", remoteSystemID := "rsys1" }

/-- `PS1` as its peer sees it, and the peer `PS2`. -/
def sampleCluster : Cluster := ⟨"cluster1", "10.0.0.1"⟩

def sampleRemoteSystem : RemoteSystem := ⟨"rsys1", "cluster2", "PS2", "10.0.0.2"⟩

/-- The answers of `PS1` to the creation of the group of `vol1`. -/
def sampleCreationTrace : List Event :=
  [⟨.getVolumeGroupsByVolumeID "PS1" "vol1", ([sampleGroup], none)⟩,
    ⟨.getReplicationSessionByLocalResourceID "PS1" "vg1-id", (sampleSession, none)⟩,
    ⟨.getCluster "PS1", (sampleCluster, none)⟩,
    ⟨.getRemoteSystem "PS1" "rsys1", (sampleRemoteSystem, none)⟩]

/-- What the creation answers. -/
def sampleGroupResponse : CreateStorageProtectionGroupResponse :=
  ⟨"pg1", "pg2",
    localGroupParams "replication.storage.dell.com/" sampleCluster sampleRemoteSystem "PS1"
      sampleGroup,
    remoteGroupParams "replication.storage.dell.com/" sampleCluster sampleRemoteSystem sampleGroup⟩

/-- The creation of the group of `vol1`: its teardown and its ensured policy stay on `PS1` and
    on `pp-vg1` and `rr-vg1`. -/
theorem createStorageProtectionGroup_teardown_matches_ensure_sample :
    ∃ arr vg, (∃ id rest,
        (⟨.getVolumeGroupsByVolumeID arr.globalID id, (vg :: rest, none)⟩ : Event) ∈
          sampleCreationTrace) ∧
      sampleService.groupArray sampleGroupResponse.localProtectionGroupAttributes = .ok arr ∧
      Prog.AllCalls (GroupCall arr.globalID vg.name) (sampleService.deleteStorageProtectionGroup
        ⟨sampleGroupResponse.localProtectionGroupId,
          sampleGroupResponse.localProtectionGroupAttributes⟩) ∧
      ∀ remoteSystemName rpoEnum, Prog.AllCalls (GroupCall arr.globalID vg.name)
        (ensureProtectionPolicyExists arr vg.name remoteSystemName rpoEnum) :=
  createStorageProtectionGroup_teardown_matches_ensure sampleService sampleConfigEnv.common
    sampleNfsHelpers ⟨"vol1/PS1/scsi", GoMap.empty⟩ sampleCreationTrace sampleGroupResponse
    (.call _ <| .call _ <| .call _ <| .call _ <| .pure _)

/-! ## Ensuring the policy against the array model

Against arrays on which every call takes effect, a lookup fails only when the object is absent,
so `EnsureProtectionPolicyExists` creates the policy, and the rule when it is missing, only
when the array has none of the name. It is then an idempotent step: the second run finds the
policy the first one made or found. -/

/-- A call that reads the session of the group `gid` on the array `a`, or acts on a session of
    `a`. -/
def SessionCall (a gid : String) (c : Call) : Prop :=
  c = .getReplicationSessionByLocalResourceID a gid ∨
    ∃ id action params, c = .executeActionOnReplicationSession a id action params

/-- The package `ExecuteAction` acts, if at all, through the client it was given. -/
theorem executeAction_acts_on_client (session : ReplicationSession) (pstoreClient : String)
    (action : ActionType) (failoverParams : Option FailoverParams) :
    Prog.AllCalls (fun c => ∃ id action params,
        c = .executeActionOnReplicationSession pstoreClient id action params)
      (executeAction session pstoreClient action failoverParams) := by
  rcases executeAction_cases session pstoreClient action failoverParams with ⟨-, he⟩ | ⟨_, he⟩ | he <;>
    rw [he]
  · exact Prog.allCalls_pure _ _
  · exact Prog.allCalls_pure _ _
  · exact Prog.allCalls_call ⟨_, _, _, rfl⟩ fun _ => Prog.allCalls_pure _ _

namespace Service

variable (s : Service) {arr : PowerStoreArray}

/-- The status of a group whose attributes name the array `arr` is one read of the group's
    session on `arr`. -/
theorem getStorageProtectionGroupStatus_sessionCalls (req : ProtectionGroupRequest)
    (harr : s.groupArray req.protectionGroupAttributes = .ok arr) :
    Prog.AllCalls (SessionCall arr.globalID req.protectionGroupId)
      (s.getStorageProtectionGroupStatus req) := by
  simp only [getStorageProtectionGroupStatus, harr, Prog.bind_eq, Prog.pure_eq, Prog.query_bind]
  refine Prog.allCalls_call (.inl rfl) fun ⟨rs, err⟩ => ?_
  cases err <;> exact Prog.allCalls_pure _ _

/-- An action on a group whose attributes name the array `arr` reads the group's session on
    `arr` and acts on a session of `arr`, nothing else. -/
theorem executeAction_sessionCalls (req : ExecuteActionRequest)
    (harr : s.groupArray req.protectionGroupAttributes = .ok arr) :
    Prog.AllCalls (SessionCall arr.globalID req.protectionGroupId) (s.executeAction req) := by
  simp only [executeAction, harr, Prog.bind_eq, Prog.pure_eq, Prog.pure_bind, Prog.query_bind]
  refine Prog.allCalls_call (.inl rfl) fun ⟨rs, err⟩ => ?_
  cases err with
  | some err => exact Prog.allCalls_pure _ _
  | none =>
  cases sessionAction req.action with
  | none => exact Prog.allCalls_pure _ _
  | some ap =>
  obtain ⟨action, params⟩ := ap
  refine Prog.allCalls_bind ((executeAction_acts_on_client rs arr.globalID action params).mono
    fun _ h => .inr h) fun resErr => ?_
  cases resErr with
  | some e => exact Prog.allCalls_pure _ _
  | none =>
  refine Prog.allCalls_bind (s.getStorageProtectionGroupStatus_sessionCalls
    ⟨req.protectionGroupId, req.protectionGroupAttributes⟩ harr) fun ⟨statusResp, err⟩ => ?_
  cases err with
  | some e => exact Prog.allCalls_pure _ _
  | none =>
  cases statusResp with
  | none => exact Prog.allCalls_panic _ _
  | some status => exact Prog.allCalls_pure _ _

end Service

/-- What the requests about the group `gid` under the attributes `attrs` call on the controller
    `s`: the status and every action read only the group's session and act only on a session,
    the teardown names, of the policies and rules, only those of `vgName`, and all of them call
    only the array the registry files under `g`. -/
def GroupRequestsCall (s : Service) (g vgName gid : String) (attrs : GoMap String String) :
    Prop :=
  Prog.AllCalls (fun c => ∃ arr, s.registry.arrays g = some arr ∧ SessionCall arr.globalID gid c)
      (s.getStorageProtectionGroupStatus ⟨gid, attrs⟩) ∧
    (∀ action, Prog.AllCalls
      (fun c => ∃ arr, s.registry.arrays g = some arr ∧ SessionCall arr.globalID gid c)
      (s.executeAction ⟨gid, attrs, action⟩)) ∧
    Prog.AllCalls (fun c => ∃ arr, s.registry.arrays g = some arr ∧ GroupCall arr.globalID vgName c)
      (s.deleteStorageProtectionGroup ⟨gid, attrs⟩)

/-- Attributes that name the `GlobalID` `g` and a volume group lead every request about a group
    to the array filed under `g`; when the registry has none, the requests fail without a
    call. -/
theorem groupRequestsCall_of_attrs (s : Service) {attrs : GoMap String String} {g vgName : String}
    (hg : s.localParam attrs "globalID" = some g)
    (hv : s.localParam attrs "VolumeGroupName" = some vgName) (gid : String) :
    GroupRequestsCall s g vgName gid attrs := by
  cases harr : s.registry.arrays g with
  | none =>
    have he : s.groupArray attrs =
        .error (.status .invalidArgument ("can't find array with global id " ++ g)) := by
      simp [Service.groupArray, hg, harr]
    refine ⟨?_, fun action => ?_, ?_⟩ <;>
      simp only [Service.getStorageProtectionGroupStatus, Service.executeAction,
        Service.deleteStorageProtectionGroup, he] <;>
      exact Prog.allCalls_pure _ _
  | some arr =>
    have ha : s.groupArray attrs = .ok arr := by simp [Service.groupArray, hg, harr]
    exact ⟨(s.getStorageProtectionGroupStatus_sessionCalls ⟨gid, attrs⟩ ha).mono
        fun _ h => ⟨arr, harr, h⟩,
      fun action => (s.executeAction_sessionCalls ⟨gid, attrs, action⟩ ha).mono
        fun _ h => ⟨arr, harr, h⟩,
      (deleteStorageProtectionGroup_groupCalls s ⟨gid, attrs⟩ ha hv).mono fun _ h => ⟨arr, harr, h⟩⟩

/-- Both halves of a group that `CreateStorageProtectionGroup` creates are addressed where they
    live. The group on this side is the session's local resource, and the requests about it on
    this controller call only the volume's array. The group on the peer is the session's remote
    resource, and the requests about it on a controller of the peer, under the same replication
    prefix, call only the array that controller files under the serial number the array answered
    for the session's peer. On each side the status and the actions read only the session of that
    side's group, and the teardown names, of the policies and rules, only those of the volume's
    group. -/
theorem createStorageProtectionGroup_sides_addressed (s : Service) (common : Common)
    (nfs : NfsHelpers) (req : CreateStorageProtectionGroupRequest) (t : List Event)
    (resp : CreateStorageProtectionGroupResponse)
    (h : (s.createStorageProtectionGroup common nfs req).Reaches t (.ok (some resp, none))) :
    ∃ (arrayID : String) (vg : VolumeGroup) (rs : ReplicationSession) (remoteSystem : RemoteSystem),
      (∃ arr, s.registry.arrays arrayID = some arr ∧
        (⟨.getReplicationSessionByLocalResourceID arr.globalID vg.id, (rs, none)⟩ : Event) ∈ t ∧
        (⟨.getRemoteSystem arr.globalID rs.remoteSystemID, (remoteSystem, none)⟩ : Event) ∈ t) ∧
      resp.localProtectionGroupId = rs.localResourceID ∧
      resp.remoteProtectionGroupId = rs.remoteResourceID ∧
      GroupRequestsCall s arrayID vg.name resp.localProtectionGroupId
        resp.localProtectionGroupAttributes ∧
      ∀ peer : Service, peer.replicationContextPrefix = s.replicationContextPrefix →
        GroupRequestsCall peer remoteSystem.serialNumber vg.name resp.remoteProtectionGroupId
          resp.remoteProtectionGroupAttributes := by
  obtain ⟨arrayID, arr, -, vg, -, rs, localSystem, remoteSystem, harr, -, hrs, hsys, rfl⟩ :=
    createStorageProtectionGroup_ok h
  obtain ⟨hg, hn⟩ := localGroupParams_group s.replicationContextPrefix localSystem remoteSystem
    arrayID vg
  obtain ⟨hg', hn'⟩ := remoteGroupParams_group s.replicationContextPrefix localSystem remoteSystem vg
  refine ⟨arrayID, vg, rs, remoteSystem, ⟨arr, harr, hrs, hsys⟩, rfl, rfl,
    groupRequestsCall_of_attrs s hg hn _, fun peer hp => groupRequestsCall_of_attrs peer ?_ ?_ _⟩
  · rw [Service.localParam, hp]
    exact hg'
  · rw [Service.localParam, hp]
    exact hn'

/-- The group of `vol1`: its half on `PS1` is `pg1`, its half on the peer `pg2`, and the peer's
    requests about `pg2` go to the array it files under `PS2`. -/
theorem createStorageProtectionGroup_sides_addressed_sample :
    ∃ (arrayID : String) (vg : VolumeGroup) (rs : ReplicationSession) (remoteSystem : RemoteSystem),
      (∃ arr, sampleService.registry.arrays arrayID = some arr ∧
        (⟨.getReplicationSessionByLocalResourceID arr.globalID vg.id, (rs, none)⟩ : Event) ∈
          sampleCreationTrace ∧
        (⟨.getRemoteSystem arr.globalID rs.remoteSystemID, (remoteSystem, none)⟩ : Event) ∈
          sampleCreationTrace) ∧
      sampleGroupResponse.localProtectionGroupId = rs.localResourceID ∧
      sampleGroupResponse.remoteProtectionGroupId = rs.remoteResourceID ∧
      GroupRequestsCall sampleService arrayID vg.name sampleGroupResponse.localProtectionGroupId
        sampleGroupResponse.localProtectionGroupAttributes ∧
      ∀ peer : Service, peer.replicationContextPrefix = sampleService.replicationContextPrefix →
        GroupRequestsCall peer remoteSystem.serialNumber vg.name
          sampleGroupResponse.remoteProtectionGroupId
          sampleGroupResponse.remoteProtectionGroupAttributes :=
  createStorageProtectionGroup_sides_addressed sampleService sampleConfigEnv.common
    sampleNfsHelpers ⟨"vol1/PS1/scsi", GoMap.empty⟩ sampleCreationTrace sampleGroupResponse
    (.call _ <| .call _ <| .call _ <| .call _ <| .pure _)

end PowerStoreCsi
