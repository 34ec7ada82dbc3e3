import PowerStoreCsi.Array.Proofs.Reload
import PowerStoreCsi.Array.Proofs.VolumeID
import PowerStoreCsi.Controller.Proofs.Connectivity
import PowerStoreCsi.Controller.Proofs.VolumeGroupSnapshot

set_option autoImplicit false

/-! # Proofs: handlers over a registry that lacks the array they read

`CreateVolumeGroupSnapshot` takes the client of `s.Arrays()[arr]`, for the array field of its
first source handle, and `ValidateVolumeHostConnectivity` reads `DefaultArray().GlobalID`, or
hands the default array to `ParseVolumeID`, without checking that the registry holds the entry.
Both entries are nil in registries the driver reaches: the `Locker` it starts with, and the
registry once `UpdateArrays` has installed a configuration that lists no array. -/

namespace PowerStoreCsi

namespace Service

variable (s : Service) (common : Common)

/-- A valid request whose first handle names an array the registry lacks (a bare legacy ID
    names `""`) panics before any call. -/
theorem createVolumeGroupSnapshot_of_absent_array (request : CreateVolumeGroupSnapshotRequest)
    (hv : validateCreateVGSreq request = none)
    (habsent : s.registry.arrays ((firstHandle request).getD 1 "") = none) :
    s.createVolumeGroupSnapshot request =
      .panic "runtime error: invalid memory address or nil pointer dereference" := by
  obtain ⟨_ | ⟨first, rest⟩, name, description⟩ := request
  · exact ((validateCreateVGSreq_eq_none_iff _).1 hv).2.2 rfl |>.elim
  simp only [firstHandle, List.headD_cons] at habsent
  simp only [createVolumeGroupSnapshot, hv, Prog.bind_eq, Prog.pure_eq, Prog.pure_bind,
    handleArray_bind]
  simp only [Prog.index, List.getElem?_cons_zero, Prog.pure_bind, habsent, Prog.deref,
    Prog.panic_bind]

/-- With a nil default array, a request with a node ID and no array ID panics when it lists no
    volume, or when its first volume is a bare ID. -/
theorem validateVolumeHostConnectivity_of_nil_default (hdefault : s.registry.defaultArray = none)
    (req : ValidateVolumeHostConnectivityRequest) (hnode : req.nodeId ≠ "")
    (harray : req.arrayId = "")
    (hvols : req.volumeIds = [] ∨ ∃ v rest, req.volumeIds = v :: rest ∧ IsHandleField v ∧ v ≠ "") :
    s.validateVolumeHostConnectivity common req =
      .panic "runtime error: invalid memory address or nil pointer dereference" := by
  rcases hvols with hvols | ⟨v, rest, hvols, hv, hne⟩
  · simp [validateVolumeHostConnectivity, hnode, harray, hvols, hdefault, Prog.deref]
  · simp [validateVolumeHostConnectivity, hnode, harray, hvols, collectGlobalIDs, hdefault,
      parseVolumeID_bare_nil_default _ _ hv hne]

end Service

/-- The state once `UpdateArrays` of a configuration listing no array has run its three setters
    from the registry the driver starts with. -/
def emptyConfigReload (env : ConfigEnv) : ReloadState :=
  ReloadState.run env (.initial emptyRegistry)
    [.updateArrays (.ok []), .advance 0, .advance 0, .advance 0]

/-- Over every registry, `CreateVolumeGroupSnapshot` panics on a valid request whose first handle
    names an array the registry lacks, and `ValidateVolumeHostConnectivity` panics, while the
    default array is nil, on a request with a node ID, no array ID, and no volume or a bare
    first volume. Both conditions hold for every request in two reachable registries: the one
    the driver starts with, and the one a reload of an empty array list installs. -/
theorem handlers_dereference_missing_entries (env : ConfigEnv) (common : Common) :
    (∀ s : Service,
      (∀ request, validateCreateVGSreq request = none →
        s.registry.arrays ((firstHandle request).getD 1 "") = none →
        s.createVolumeGroupSnapshot request =
          .panic "runtime error: invalid memory address or nil pointer dereference") ∧
      (s.registry.defaultArray = none → ∀ req : ValidateVolumeHostConnectivityRequest,
        req.nodeId ≠ "" → req.arrayId = "" →
        (req.volumeIds = [] ∨ ∃ v rest, req.volumeIds = v :: rest ∧ IsHandleField v ∧ v ≠ "") →
        s.validateVolumeHostConnectivity common req =
          .panic "runtime error: invalid memory address or nil pointer dereference")) ∧
    ∀ st ∈ [ReloadState.initial emptyRegistry, emptyConfigReload env],
      ReloadState.Reachable env emptyRegistry st ∧ st.registry.defaultArray = none ∧
        ∀ g, st.registry.arrays g = none := by
  refine ⟨fun s => ⟨s.createVolumeGroupSnapshot_of_absent_array,
    s.validateVolumeHostConnectivity_of_nil_default common⟩, ?_⟩
  simp only [List.mem_cons, List.mem_singleton, List.not_mem_nil, or_false]
  rintro st (rfl | rfl)
  · exact ⟨.refl _, rfl, fun _ => rfl⟩
  · refine ⟨ReloadState.reachable_run ?_, rfl, fun _ => rfl⟩
    simp [ReloadState.ValidTrace, ReloadState.Enabled, ReloadState.next, ReloadState.initial,
      getPowerStoreArrays, ReloadPc.next]

/-- At the registry the driver starts with: a snapshot of the volume `vol1` of `PS1`, and a
    connectivity check of a node that names no array and no volume. -/
theorem handlers_dereference_missing_entries_initial :
    validateCreateVGSreq ⟨["vol1/PS1/scsi"], "vgs1", ""⟩ = none ∧
    (⟨emptyRegistry, ""⟩ : Service).createVolumeGroupSnapshot ⟨["vol1/PS1/scsi"], "vgs1", ""⟩ =
      .panic "runtime error: invalid memory address or nil pointer dereference" ∧
    (⟨emptyRegistry, ""⟩ : Service).validateVolumeHostConnectivity sampleCommon
        ⟨"node1-10.0.0.5", "", []⟩ =
      .panic "runtime error: invalid memory address or nil pointer dereference" :=
  have h := (handlers_dereference_missing_entries sampleConfigEnv sampleCommon).1 ⟨emptyRegistry, ""⟩
  ⟨by decide, h.1 _ (by decide) rfl, h.2 rfl _ (by decide) rfl (.inl rfl)⟩

end PowerStoreCsi
