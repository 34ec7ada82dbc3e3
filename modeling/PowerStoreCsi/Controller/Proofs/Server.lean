import PowerStoreCsi.Pool
import PowerStoreCsi.Controller.Proofs.Connectivity
import PowerStoreCsi.Controller.Proofs.Teardown
import PowerStoreCsi.Controller.Proofs.RemoteVolume
import PowerStoreCsi.Controller.Proofs.Footprint

set_option autoImplicit false

/-! # Proofs: the controller serving requests at once

The controller serves the requests of its snapshot, pod-monitor and replication services
concurrently, and the calls of their handlers reach the arrays interleaved in any order, each
answered by the array model or failed by a fate. The handlers' footprints (`Request.MayCall`)
decide what such a schedule can do to an array:

* only a teardown (`DeleteStorageProtectionGroup`) and the deletion of a local volume delete,
  each on one array, the array of the group or the one the handle names; an array that neither
  addresses keeps every volume and the ID of every volume group, protection policy and
  replication rule, whatever else runs at the same time;
* a volume group leaves an array only by the teardown of that very group, on that array;
* a volume leaves an array only by the deletion of that local volume, on the array its handle
  names;
* no array comes to hold two protection policies, or two replication rules, of one name.

Each fact is one relation between the states before and after a call, lifted to every
schedule by `Pool.run_keeps`. -/

namespace PowerStoreCsi

/-! ## Requests -/

/-- A request to the controller's snapshot, pod-monitor or replication service. -/
inductive Request where
  | createVolumeGroupSnapshot (request : CreateVolumeGroupSnapshotRequest)
  | validateVolumeHostConnectivity (req : ValidateVolumeHostConnectivityRequest)
  | createRemoteVolume (req : CreateRemoteVolumeRequest)
  | createStorageProtectionGroup (req : CreateStorageProtectionGroupRequest)
  | getReplicationCapabilities
  | executeAction (req : ExecuteActionRequest)
  | deleteStorageProtectionGroup (req : ProtectionGroupRequest)
  | deleteLocalVolume (volumeHandle : String)
  | getStorageProtectionGroupStatus (req : ProtectionGroupRequest)

namespace Request

variable (s : Service) (common : Common) (nfs : NfsHelpers)

/-- The handler of a request, its response dropped. `GetReplicationCapabilities` makes no
    call. -/
def handle : Request → Prog Unit
  | .createVolumeGroupSnapshot request => (s.createVolumeGroupSnapshot request).discard
  | .validateVolumeHostConnectivity req => (s.validateVolumeHostConnectivity common req).discard
  | .createRemoteVolume req => (s.createRemoteVolume common nfs req).discard
  | .createStorageProtectionGroup req => (s.createStorageProtectionGroup common nfs req).discard
  | .getReplicationCapabilities => .pure ()
  | .executeAction req => (s.executeAction req).discard
  | .deleteStorageProtectionGroup req => (s.deleteStorageProtectionGroup req).discard
  | .deleteLocalVolume volumeHandle => (s.deleteLocalVolume volumeHandle).discard
  | .getStorageProtectionGroupStatus req => (s.getStorageProtectionGroupStatus req).discard

/-- The array a request may delete on: for a teardown the array of the group, for the deletion
    of a local volume the array filed under the handle's second field; none for the rest. -/
def deletesOn : Request → Option String
  | .deleteStorageProtectionGroup req =>
    match s.groupArray req.protectionGroupAttributes with
    | .ok arr => some arr.globalID
    | .error _ => none
  | .deleteLocalVolume volumeHandle =>
    (s.registry.arrays ((Go.split volumeHandle '/').getD 1 "")).map (·.globalID)
  | _ => none

/-- The calls a request's handler may make. A teardown works on its group's array, deletes no
    volume group but its own and no volume; the deletion of a local volume works on the volume
    of its handle, on the array the handle names; the other requests delete nothing. -/
def MayCall : Request → Call → Prop
  | .deleteStorageProtectionGroup req, c =>
    ∃ arr, s.groupArray req.protectionGroupAttributes = .ok arr ∧
      c.array? = some arr.globalID ∧
      (∀ id, c = .deleteVolumeGroup arr.globalID id → id = req.protectionGroupId) ∧
      ∀ id, c ≠ .deleteVolume arr.globalID id
  | .deleteLocalVolume volumeHandle, c =>
    ∃ arr, s.registry.arrays ((Go.split volumeHandle '/').getD 1 "") = some arr ∧
      VolumeCall arr.globalID ((Go.split volumeHandle '/').getD 0 "") c
  | _, c => c.deletes = false

end Request

/-- The teardown of a group of a registry array works on that array, of the volume groups
    deletes the group alone, and deletes no volume. -/
theorem Service.deleteStorageProtectionGroup_teardownCalls (s : Service)
    (req : ProtectionGroupRequest) {arr : PowerStoreArray}
    (harr : s.groupArray req.protectionGroupAttributes = .ok arr) :
    Prog.AllCalls (fun c => c.array? = some arr.globalID ∧
        (∀ id, c = .deleteVolumeGroup arr.globalID id → id = req.protectionGroupId) ∧
        ∀ id, c ≠ .deleteVolume arr.globalID id)
      (s.deleteStorageProtectionGroup req) := by
  rw [Service.deleteStorageProtectionGroup_eq s req harr]
  simp only [Service.groupPhase, Service.policyPhase, Service.rulePhase, Prog.bind_eq,
    Prog.pure_eq, Prog.pure_bind, Prog.query_bind]
  repeat' first
    | with_reducible exact Prog.allCalls_pure _ _
    | refine Prog.allCalls_call ⟨rfl, fun _ h => by cases h <;> rfl, fun _ h => by cases h⟩
        fun _ => ?_
    | refine Prog.allCalls_ite (fun _ => ?_) fun _ => ?_
    | split

namespace Request

variable (s : Service) (common : Common) (nfs : NfsHelpers)

/-- Every call of every run of a request's handler is one it may make. -/
theorem handle_mayCall (r : Request) :
    Prog.AllCalls (r.MayCall s) (r.handle s common nfs) := by
  have ofReadOnly : ∀ {α : Type} {p : Prog α}, Prog.AllCalls ReadCall p →
      Prog.AllCalls (fun c => c.deletes = false) p.discard :=
    fun h => Prog.allCalls_discard (h.mono fun _ => Call.deletes_eq_false_of_readOnly)
  cases r with
  | createVolumeGroupSnapshot request =>
    exact Prog.allCalls_discard (s.createVolumeGroupSnapshot_keeps request)
  | validateVolumeHostConnectivity req =>
    exact ofReadOnly (s.validateVolumeHostConnectivity_readOnly common req)
  | createRemoteVolume req => exact ofReadOnly (s.createRemoteVolume_readOnly common nfs req)
  | createStorageProtectionGroup req =>
    exact ofReadOnly (s.createStorageProtectionGroup_readOnly common nfs req)
  | getReplicationCapabilities => exact Prog.allCalls_pure _ _
  | executeAction req => exact Prog.allCalls_discard (s.executeAction_keeps req)
  | deleteStorageProtectionGroup req =>
    refine Prog.allCalls_discard ?_
    cases harr : s.groupArray req.protectionGroupAttributes with
    | error err =>
      simp only [Service.deleteStorageProtectionGroup, harr, Prog.pure_eq]
      exact Prog.allCalls_pure _ _
    | ok arr =>
      exact (s.deleteStorageProtectionGroup_teardownCalls req harr).mono
        fun _ hc => ⟨arr, harr, hc⟩
  | deleteLocalVolume volumeHandle =>
    exact Prog.allCalls_discard (deleteLocalVolume_calls s volumeHandle)
  | getStorageProtectionGroupStatus req =>
    exact ofReadOnly (s.getStorageProtectionGroupStatus_readOnly req)

variable {s}

/-- A call that deletes is addressed to the array the request may delete on. -/
theorem MayCall.array?_of_deletes {r : Request} {c : Call} (h : r.MayCall s c)
    (hd : c.deletes = true) : c.array? = r.deletesOn s := by
  cases r
  case deleteStorageProtectionGroup req =>
    obtain ⟨arr, harr, ha, -⟩ := h
    simp only [deletesOn, harr, ha]
  case deleteLocalVolume volumeHandle =>
    obtain ⟨arr, harr, hv⟩ := h
    rcases hv with rfl | rfl | rfl <;> simp only [deletesOn, harr, Call.array?, Option.map_some']
  all_goals exact absurd (h.symm.trans hd) Bool.false_ne_true

/-- A volume group is deleted only by the teardown of that group, on the array of the group. -/
theorem MayCall.of_deleteVolumeGroup {r : Request} {a id : String}
    (h : r.MayCall s (.deleteVolumeGroup a id)) :
    ∃ req, r = .deleteStorageProtectionGroup req ∧ r.deletesOn s = some a ∧
      req.protectionGroupId = id := by
  cases r
  case deleteStorageProtectionGroup req =>
    obtain ⟨arr, harr, ha, hid, -⟩ := h
    cases ha
    exact ⟨req, rfl, by simp only [deletesOn, harr], (hid id rfl).symm⟩
  case deleteLocalVolume volumeHandle =>
    obtain ⟨arr, -, hv⟩ := h
    rcases hv with h | h | h <;> cases h
  all_goals cases h

/-- A volume is deleted only by the deletion of the local volume its handle names, on the array
    the handle names. -/
theorem MayCall.of_deleteVolume {r : Request} {a id : String}
    (h : r.MayCall s (.deleteVolume a id)) :
    ∃ volumeHandle, r = .deleteLocalVolume volumeHandle ∧ r.deletesOn s = some a ∧
      (Go.split volumeHandle '/').getD 0 "" = id := by
  cases r
  case deleteStorageProtectionGroup req =>
    obtain ⟨arr, -, ha, -, hv⟩ := h
    cases ha
    exact absurd rfl (hv id)
  case deleteLocalVolume volumeHandle =>
    obtain ⟨arr, harr, hv⟩ := h
    rcases hv with h | h | h <;> cases h
    exact ⟨volumeHandle, rfl, by simp only [deletesOn, harr, Option.map_some'], rfl⟩
  all_goals cases h

end Request

/-! ## One call against the array model -/

/-- A call that is no deletion of the volume group `id` keeps it. -/
theorem ArrayObjects.groupID_serve (o : ArrayObjects) {c : Call} {id : String}
    (hid : id ∈ o.volumeGroups.map (·.id)) (hc : ∀ a, c ≠ .deleteVolumeGroup a id) :
    id ∈ (o.serve c).2.volumeGroups.map (·.id) := by
  cases hd : c.deletes
  · exact (o.keeps_serve hd).volumeGroups hid
  cases c
  case deleteVolumeGroup a id' =>
    show id ∈ (o.change _ (o.deleteVolumeGroup id')).2.volumeGroups.map (·.id)
    obtain ⟨g, hg, rfl⟩ := List.mem_map.1 hid
    unfold change deleteVolumeGroup
    split
    · have hne : g.id ≠ id' := fun e => hc a (by rw [e])
      exact List.mem_map.2 ⟨g, List.mem_filter.2 ⟨hg, decide_eq_true hne⟩, rfl⟩
    · exact hid
  case deleteProtectionPolicy a id' =>
    show id ∈ (o.change _ (o.deleteProtectionPolicy id')).2.volumeGroups.map (·.id)
    unfold change deleteProtectionPolicy
    split
    · rw [map_map_key fun _ => by split <;> rfl]; exact hid
    · exact hid
  case deleteReplicationRule a id' =>
    show id ∈ (o.change _ (o.deleteReplicationRule id')).2.volumeGroups.map (·.id)
    unfold change
    split <;> exact hid
  case deleteVolume a id' =>
    show id ∈ (o.change _ (o.deleteVolume id')).2.volumeGroups.map (·.id)
    unfold change deleteVolume
    split
    · simpa only [List.map_map, Function.comp_def] using hid
    · exact hid
  all_goals cases hd

/-- A call that is no deletion of the volume `id` keeps it. -/
theorem ArrayObjects.volumeID_serve (o : ArrayObjects) {c : Call} {id : String}
    (hid : id ∈ o.volumes.map (·.id)) (hc : ∀ a, c ≠ .deleteVolume a id) :
    id ∈ (o.serve c).2.volumes.map (·.id) := by
  cases hd : c.deletes
  · exact List.map_subset _ (o.keeps_serve hd).volumes hid
  cases c
  case deleteVolume a id' =>
    show id ∈ (o.change _ (o.deleteVolume id')).2.volumes.map (·.id)
    obtain ⟨v, hv, rfl⟩ := List.mem_map.1 hid
    unfold change deleteVolume
    split
    · have hne : v.id ≠ id' := fun e => hc a (by rw [e])
      exact List.mem_map.2 ⟨v, List.mem_filter.2 ⟨hv, decide_eq_true hne⟩, rfl⟩
    · exact hid
  case deleteVolumeGroup | deleteProtectionPolicy | deleteReplicationRule =>
    simp only [serve, change]
    split <;> exact hid
  all_goals cases hd

namespace World

/-- A call addressed to another array leaves array `a` as it was. -/
theorem serve_arrays_of_ne {c : Call} {a : String} (h : c.array? ≠ some a) (w : World) :
    (serve c w).2.arrays a = w.arrays a := by
  unfold serve apply
  split
  · rfl
  · split
    · rename_i a' ha'
      dsimp only
      rw [Function.update_noteq]
      rintro rfl
      exact h ha'
    · rfl

/-- A call that deletes only on other arrays keeps every volume and every ID of array `a`. -/
theorem keeps_serve_at {c : Call} {a : String} (w : World)
    (h : c.deletes = true → c.array? ≠ some a) : (w.arrays a).Keeps ((serve c w).2.arrays a) := by
  cases hd : c.deletes
  · exact keeps_serve hd w a
  · rw [serve_arrays_of_ne (h hd)]; exact ArrayObjects.Keeps.refl _

/-- A call that does not delete the volume group `id` of array `a` keeps it there. -/
theorem groupID_serve {c : Call} {a id : String} (w : World)
    (hid : id ∈ (w.arrays a).volumeGroups.map (·.id)) (hc : c ≠ .deleteVolumeGroup a id) :
    id ∈ ((serve c w).2.arrays a).volumeGroups.map (·.id) := by
  by_cases ha : c.array? = some a
  · unfold serve apply
    split
    · exact hid
    · simp only [ha, Function.update_same]
      refine (w.arrays a).groupID_serve hid fun a' e => ?_
      subst e
      cases ha
      exact hc rfl
  · rw [serve_arrays_of_ne ha]; exact hid

/-- A call that does not delete the volume `id` of array `a` keeps it there. -/
theorem volumeID_serve {c : Call} {a id : String} (w : World)
    (hid : id ∈ (w.arrays a).volumes.map (·.id)) (hc : c ≠ .deleteVolume a id) :
    id ∈ ((serve c w).2.arrays a).volumes.map (·.id) := by
  by_cases ha : c.array? = some a
  · unfold serve apply
    split
    · exact hid
    · simp only [ha, Function.update_same]
      refine (w.arrays a).volumeID_serve hid fun a' e => ?_
      subst e
      cases ha
      exact hc rfl
  · rw [serve_arrays_of_ne ha]; exact hid

end World

/-! ## Every schedule -/

variable (s : Service) (common : Common) (nfs : NfsHelpers)

/-- The arrays after the controller serves the schedule `es`, from no request in flight. -/
def serveSchedule (w : World) (es : List (PoolEvent Request)) : World :=
  (Pool.run World.serve (Request.handle s common nfs) ⟨w, []⟩ es).state

/-- However the controller interleaves the calls of the requests it serves, and whatever fates
    the arrays deal, an array on which no request that arrives may delete keeps every volume and
    the ID of every volume group, protection policy and replication rule. -/
theorem controller_keeps_unaddressed_array (a : String) (w : World)
    (es : List (PoolEvent Request)) (hes : ∀ r, .arrive r ∈ es → r.deletesOn s ≠ some a) :
    (w.arrays a).Keeps ((serveSchedule s common nfs w es).arrays a) :=
  @Pool.run_keeps World Request World.serve (Request.handle s common nfs)
    (fun c => c.deletes = true → c.array? ≠ some a) (fun w w' => (w.arrays a).Keeps (w'.arrays a))
    (fun _ => ArrayObjects.Keeps.refl _) (fun h₁ h₂ => h₁.trans h₂)
    (fun _ w hc => w.keeps_serve_at hc) es ⟨w, []⟩ (by simp)
    fun r hr => (r.handle_mayCall s common nfs).mono fun _ hc hd e =>
      hes r hr ((hc.array?_of_deletes hd).symm.trans e)

/-- However the controller interleaves the calls of the requests it serves, and whatever fates
    the arrays deal, no array comes to hold two protection policies, or two replication rules, of
    one name. -/
theorem serveSchedule_namesUnique (w : World) (es : List (PoolEvent Request))
    (h : ∀ a, (w.arrays a).NamesUnique) :
    ∀ a, ((serveSchedule s common nfs w es).arrays a).NamesUnique :=
  @Pool.run_keeps World Request World.serve (Request.handle s common nfs) (fun _ => True)
    (fun w w' : World => (∀ a, (w.arrays a).NamesUnique) → ∀ a, (w'.arrays a).NamesUnique)
    (fun _ h => h) (fun h₁ h₂ h => h₂ (h₁ h)) (fun c _ _ h => World.namesUnique_serve h c) es
    ⟨w, []⟩ (by simp) (fun r _ => (r.handle_mayCall s common nfs).mono fun _ _ => trivial) h

/-- The teardown of `pg1` on `PS1` arrives, looks its group up and deletes it. -/
def sampleTeardownSchedule : List (PoolEvent Request) :=
  [.arrive (.deleteStorageProtectionGroup ⟨"pg1", sampleGroupAttributes⟩), .advance 0, .advance 0]

/-- While the teardown of `pg1` runs on `PS1`, the array `PS2` keeps what it has. -/
theorem controller_keeps_unaddressed_array_teardown :
    (∀ r, .arrive r ∈ sampleTeardownSchedule → r.deletesOn sampleService ≠ some "PS2") ∧
      (sampleTeardownArrays "PS2").Keeps ((serveSchedule sampleService sampleCommon
        sampleNfsHelpers ⟨sampleTeardownArrays, []⟩ sampleTeardownSchedule).arrays "PS2") :=
  have hes : ∀ r, .arrive r ∈ sampleTeardownSchedule → r.deletesOn sampleService ≠ some "PS2" :=
    fun r hr => by
      simp only [sampleTeardownSchedule, List.mem_cons, PoolEvent.arrive.injEq,
        List.mem_singleton, reduceCtorEq, or_false, List.not_mem_nil] at hr
      subst hr
      decide
  ⟨hes, controller_keeps_unaddressed_array sampleService sampleCommon sampleNfsHelpers "PS2"
    ⟨sampleTeardownArrays, []⟩ _ hes⟩

/-- A volume group that leaves an array during a schedule was the group of a teardown that
    arrived in it, a teardown of a group of that array. -/
theorem controller_removes_only_torn_down_groups (a id : String) (w : World)
    (es : List (PoolEvent Request)) (hid : id ∈ (w.arrays a).volumeGroups.map (·.id))
    (hgone : id ∉ ((serveSchedule s common nfs w es).arrays a).volumeGroups.map (·.id)) :
    ∃ req, .arrive (.deleteStorageProtectionGroup req) ∈ es ∧
      (Request.deleteStorageProtectionGroup req).deletesOn s = some a ∧
      req.protectionGroupId = id := by
  by_contra hnone
  refine hgone (@Pool.run_keeps World Request World.serve (Request.handle s common nfs)
    (fun c => ∀ id', c = .deleteVolumeGroup a id' → ∃ req,
      .arrive (.deleteStorageProtectionGroup req) ∈ es ∧
      (Request.deleteStorageProtectionGroup req).deletesOn s = some a ∧ req.protectionGroupId = id')
    (fun w w' : World => id ∈ (w.arrays a).volumeGroups.map VolumeGroup.id →
      id ∈ (w'.arrays a).volumeGroups.map VolumeGroup.id)
    (fun _ h => h) (fun h₁ h₂ h => h₂ (h₁ h))
    (fun _ w hc h => w.groupID_serve h fun e => hnone (hc id e)) es ⟨w, []⟩ (by simp)
    (fun r hr => (r.handle_mayCall s common nfs).mono fun _ hc _ e => ?_) hid)
  subst e
  obtain ⟨req, rfl, hon, hreq⟩ := hc.of_deleteVolumeGroup
  exact ⟨req, hr, hon, hreq⟩

/-- The group `pg1` leaves `PS1` under its own teardown. -/
theorem controller_removes_only_torn_down_groups_teardown :
    "pg1" ∈ (sampleTeardownArrays "PS1").volumeGroups.map (·.id) ∧
    "pg1" ∉ ((serveSchedule sampleService sampleCommon sampleNfsHelpers ⟨sampleTeardownArrays, []⟩
      sampleTeardownSchedule).arrays "PS1").volumeGroups.map (·.id) ∧
    ∃ req, .arrive (.deleteStorageProtectionGroup req) ∈ sampleTeardownSchedule ∧
      (Request.deleteStorageProtectionGroup req).deletesOn sampleService = some "PS1" ∧
      req.protectionGroupId = "pg1" :=
  have hid : "pg1" ∈ (sampleTeardownArrays "PS1").volumeGroups.map (·.id) := by decide
  have hgone : "pg1" ∉ ((serveSchedule sampleService sampleCommon sampleNfsHelpers
      ⟨sampleTeardownArrays, []⟩ sampleTeardownSchedule).arrays "PS1").volumeGroups.map (·.id) := by
    decide
  ⟨hid, hgone, controller_removes_only_torn_down_groups sampleService sampleCommon sampleNfsHelpers
    "PS1" "pg1" _ _ hid hgone⟩

/-- A volume that leaves an array during a schedule was the volume of a deletion of a local
    volume that arrived in it, whose handle names that array. -/
theorem controller_removes_only_deleted_volumes (a id : String) (w : World)
    (es : List (PoolEvent Request)) (hid : id ∈ (w.arrays a).volumes.map (·.id))
    (hgone : id ∉ ((serveSchedule s common nfs w es).arrays a).volumes.map (·.id)) :
    ∃ volumeHandle, .arrive (.deleteLocalVolume volumeHandle) ∈ es ∧
      (Request.deleteLocalVolume volumeHandle).deletesOn s = some a ∧
      (Go.split volumeHandle '/').getD 0 "" = id := by
  by_contra hnone
  refine hgone (@Pool.run_keeps World Request World.serve (Request.handle s common nfs)
    (fun c => ∀ id', c = .deleteVolume a id' → ∃ volumeHandle,
      .arrive (.deleteLocalVolume volumeHandle) ∈ es ∧
      (Request.deleteLocalVolume volumeHandle).deletesOn s = some a ∧
      (Go.split volumeHandle '/').getD 0 "" = id')
    (fun w w' : World => id ∈ (w.arrays a).volumes.map Volume.id →
      id ∈ (w'.arrays a).volumes.map Volume.id)
    (fun _ h => h) (fun h₁ h₂ h => h₂ (h₁ h))
    (fun _ w hc h => w.volumeID_serve h fun e => hnone (hc id e)) es ⟨w, []⟩ (by simp)
    (fun r hr => (r.handle_mayCall s common nfs).mono fun _ hc _ e => ?_) hid)
  subst e
  obtain ⟨volumeHandle, rfl, hon, hvol⟩ := hc.of_deleteVolume
  exact ⟨volumeHandle, hr, hon, hvol⟩

/-- The array `PS1` holding the volume `vol1`, in no group and under no policy. -/
def sampleVolumeArrays (a : String) : ArrayObjects :=
  if a = "PS1" then
    { volumeGroups := [], protectionPolicies := [], replicationRules := [],
      volumes := [{ id := "vol1", protectionPolicyID := "", size := 8589934592 }] }
  else default

/-- The deletion of `vol1` on `PS1` arrives, reads the volume and its groups, and deletes it. -/
def sampleVolumeDeletionSchedule : List (PoolEvent Request) :=
  [.arrive (.deleteLocalVolume "vol1/PS1/scsi"), .advance 0, .advance 0, .advance 0]

/-- The volume `vol1` leaves `PS1` under its own deletion. -/
theorem controller_removes_only_deleted_volumes_vol1 :
    "vol1" ∈ (sampleVolumeArrays "PS1").volumes.map (·.id) ∧
    "vol1" ∉ ((serveSchedule sampleService sampleCommon sampleNfsHelpers ⟨sampleVolumeArrays, []⟩
      sampleVolumeDeletionSchedule).arrays "PS1").volumes.map (·.id) ∧
    ∃ volumeHandle, .arrive (.deleteLocalVolume volumeHandle) ∈ sampleVolumeDeletionSchedule ∧
      (Request.deleteLocalVolume volumeHandle).deletesOn sampleService = some "PS1" ∧
      (Go.split volumeHandle '/').getD 0 "" = "vol1" :=
  have hid : "vol1" ∈ (sampleVolumeArrays "PS1").volumes.map (·.id) := by decide
  have hgone : "vol1" ∉ ((serveSchedule sampleService sampleCommon sampleNfsHelpers
      ⟨sampleVolumeArrays, []⟩ sampleVolumeDeletionSchedule).arrays "PS1").volumes.map (·.id) := by
    decide
  ⟨hid, hgone, controller_removes_only_deleted_volumes sampleService sampleCommon sampleNfsHelpers
    "PS1" "vol1" _ _ hid hgone⟩

end PowerStoreCsi
