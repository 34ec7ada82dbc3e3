import PowerStoreCsi.ArrayModel
import PowerStoreCsi.Array.Proofs.VolumeID
import PowerStoreCsi.Controller.VolumeGroupSnapshot
import PowerStoreCsi.Controller.Proofs.Replication

set_option autoImplicit false

/-! # Proofs: volume group snapshots

A request that `validateCreateVGSreq` rejects is answered at once, with no call to the array.
Past validation every run that returns makes a call, and an error is the `Internal` wrapping of
an array error. A successful run ends in one of two ways: it reads the snapshot group back, and
the response is built from that group alone (`snapshotGroupResponse`), or it found no group to
snapshot and answers an empty response. The loop over the members is a `map`
(`snapshotsLoop_eq`). Each snapshot's handle, and its source's, is written on the first
handle's array with its protocol, in the format `ParseVolumeID` reads back; a first handle of
fewer than three fields gets no snapshot in the answer, though the array made the snapshot
group.

Against the array model the handler snapshots whatever group it settles on. When no group has
the request's name, that is the group the first volume belongs to, with its members and not the
volumes asked for. Every way to the snapshot ends in the same test of the name: a run either
fails or leaves a snapshot group of the request's name, and a run from an array that has one
always fails. The array refuses a second snapshot group of that name, the handler tolerates the
refusal, goes on with an empty snapshot-group ID, and the lookup of that ID fails. So a request
issued twice in a row fails at least once. -/

namespace PowerStoreCsi

/-! ## Validation and the error check -/

theorem validateCreateVGSreq_eq_none_iff (request : CreateVolumeGroupSnapshotRequest) :
    validateCreateVGSreq request = none ↔
      request.name ≠ "" ∧ request.name.utf8ByteSize ≤ 27 ∧ request.sourceVolumeIDs ≠ [] := by
  unfold validateCreateVGSreq
  split_ifs <;> simp_all

/-- The check lets an error through only as the `Internal` wrapping of it. -/
theorem vgsCallError_eq_some {accepted : GoError → Bool} {msg : String} {err : Option GoError}
    {e : GoError} (h : vgsCallError accepted msg err = some e) :
    ∃ x : GoError, e = .status .internal (msg ++ ": " ++ x.error) := by
  rcases err with _ | x
  · cases h
  · cases hx : accepted x <;> simp [vgsCallError, hx] at h
    exact ⟨x, h.symm⟩

theorem createVolumeGroupSnapshot_of_invalid {s : Service}
    {request : CreateVolumeGroupSnapshotRequest} {e : GoError}
    (h : validateCreateVGSreq request = some e) :
    s.createVolumeGroupSnapshot request = .pure (none, some e) := by
  unfold Service.createVolumeGroupSnapshot
  rw [h]
  rfl

/-! ## The loop over the members -/

/-- The snapshot the loop records for the member `v`, under the array and the third field of
    the first handle. -/
def memberSnapshot (arr protocol : String) (int64CreationTime : Int) (v : Volume) :
    Vgsext.Snapshot :=
  { name := v.name
    snapId := v.id ++ "/" ++ arr ++ "/" ++ protocol
    readyToUse := decide (v.state = stateReady)
    capacityBytes := v.size
    sourceId := v.sourceID ++ "/" ++ arr ++ "/" ++ protocol
    creationTime := int64CreationTime }

/-- The loop appends one snapshot per member, in order, when the first handle has three
    fields, and none otherwise. -/
theorem snapshotsLoop_eq (arr : String) (volID : List String) (int64CreationTime : Int)
    (vols : List Volume) (snapsList : List Vgsext.Snapshot) :
    snapshotsLoop arr volID int64CreationTime vols snapsList = snapsList ++
      if volID.length ≥ 3 then vols.map (memberSnapshot arr (volID.getD 2 "") int64CreationTime)
      else [] := by
  induction vols generalizing snapsList with
  | nil => simp [snapshotsLoop]
  | cons v vols ih =>
    by_cases h : volID.length ≥ 3 <;> simp [snapshotsLoop, h, ih, memberSnapshot]

/-! ## Successful runs -/

/-- The group a `GetVolumeGroup` call answered. -/
def Event.volumeGroupRead? : Event → Option VolumeGroup
  | ⟨.getVolumeGroup _ _, (vg, _)⟩ => some vg
  | _ => none

/-- The fields of the first source handle. -/
def firstHandle (request : CreateVolumeGroupSnapshotRequest) : List String :=
  Go.split (request.sourceVolumeIDs.headD "") '/'

/-- The response built from the snapshot group `vg` read back. -/
def snapshotGroupResponse (request : CreateVolumeGroupSnapshotRequest) (vg : VolumeGroup) :
    CreateVolumeGroupSnapshotResponse :=
  let int64CreationTime := Go.toInt64 (vg.creationTime.getD Go.zeroTimeUnix * 1000000000)
  ⟨vg.id, snapshotsLoop ((firstHandle request).getD 1 "") (firstHandle request) int64CreationTime
    vg.volumes [], int64CreationTime⟩

/-- `if len(parsedVolHandle) >= 2 { arr = parsedVolHandle[1] }`: the second field, `""` when
    there is none. -/
theorem handleArray_bind {β : Type} (l : List String) (f : String → Prog β) :
    (if l.length ≥ 2 then (Prog.index l 1).bind f else f "") = f (l.getD 1 "") := by
  split_ifs with h
  · simp [Prog.index, List.getD_eq_getElem?_getD, List.getElem?_eq_getElem (by omega : 1 < l.length)]
  · simp [List.getD_eq_getElem?_getD, List.getElem?_eq_none (by omega : l.length ≤ 1)]

/-- The runs of a valid request: each makes a call; an error comes alone and wraps an array
    error; a response is built from the snapshot group read last, or is empty when the run
    ends without reading one. -/
theorem createVolumeGroupSnapshot_valid_runs (s : Service)
    (request : CreateVolumeGroupSnapshotRequest) (hv : validateCreateVGSreq request = none) :
    Prog.AllRuns (fun t o => ∀ resp err, o = .ok (resp, err) → t ≠ [] ∧
      (∀ e, err = some e → resp = none ∧
        ∃ (msg : String) (x : GoError), e = .status .internal (msg ++ ": " ++ x.error)) ∧
      (err = none → resp = some (((t.getLast?.bind Event.volumeGroupRead?).map
        (snapshotGroupResponse request)).getD ⟨"", [], 0⟩)))
      (s.createVolumeGroupSnapshot request) := by
  obtain ⟨_ | ⟨first, rest⟩, name, description⟩ := request
  · exact ((validateCreateVGSreq_eq_none_iff _).1 hv).2.2 rfl |>.elim
  dsimp only [Service.createVolumeGroupSnapshot, Prog.bind_eq, Prog.pure_eq, Prog.pure_bind]
  rw [hv]
  dsimp only
  simp only [handleArray_bind]
  simp only [Prog.pure_bind, Prog.query_bind, Prog.call_bind, Prog.index, List.getElem?_cons_zero,
    List.map_cons]
  cases s.registry.arrays ((Go.split first '/').getD 1 "") with
  | none => exact Prog.allRuns_panic fun _ _ h => by cases h
  | some arr =>
    simp only [Prog.deref, Prog.pure_bind]
    repeat' first
      | exact Prog.allRuns_pure fun _ _ h => by
          cases h
          refine ⟨List.cons_ne_nil _ _, fun _ he => ?_, fun h => (by cases h)⟩
          cases he
          exact ⟨rfl, _, vgsCallError_eq_some ‹_›⟩
      | exact Prog.allRuns_pure fun _ _ h => by
          cases h
          refine ⟨List.cons_ne_nil _ _, fun _ h => (by cases h), fun _ => ?_⟩
          simp [Event.volumeGroupRead?, snapshotGroupResponse, firstHandle]
      | (apply Prog.allRuns_call; (first | intro ⟨_, _⟩ | intro _); try dsimp only)
      | refine Prog.allRuns_ite (fun _ => ?_) fun _ => ?_
      | split

/-- A snapshot of volume `vol1` of `PS1` into the group `vgs1`. -/
def sampleSnapshotRequest : CreateVolumeGroupSnapshotRequest := ⟨["vol1/PS1/scsi"], "vgs1", ""⟩

/-- The group exists, and its snapshot group comes back without a parseable timestamp. -/
def sampleSnapshotTrace : List Event :=
  [⟨.getVolumeGroupByName "PS1" "vgs1",
      ({ id := "vg1-id", name := "vgs1", protectionPolicyID := "" }, none)⟩,
    ⟨.addMembersToVolumeGroup "PS1" ["vol1"] "vg1-id", none⟩,
    ⟨.createVolumeGroupSnapshot "PS1" "vg1-id" "vgs1" "", (⟨"snap1"⟩, none)⟩,
    ⟨.getVolumeGroup "PS1" "snap1",
      ({ id := "snap1", name := "vgs1", protectionPolicyID := ""
         volumes := [{ id := "snapvol1", protectionPolicyID := "", size := 1024, name := "vgs1-0"
                       state := "Ready", sourceID := "vol1" }] }, none)⟩]

/-! ## The handles of the snapshots -/

/-- The snapshots of a successful run that read back the snapshot group `vg` are its members, in
    order, when the first source handle has three fields, each under the handle
    `<member>/<array>/<protocol>` of the first handle's array and protocol and with its source's
    handle written the same way; a first handle with fewer fields gets no snapshot, whatever the
    group holds. When the array field and the protocol hold no separator and the array field is
    no IP, `ParseVolumeID` reads every handle back, with no call, as the member or its source on
    that array. -/
theorem createVolumeGroupSnapshot_snapshot_handles (s : Service)
    (request : CreateVolumeGroupSnapshotRequest) :
    let arr := (firstHandle request).getD 1 ""
    let protocol := (firstHandle request).getD 2 ""
    Prog.AllRuns (fun t o => ∀ resp vg, o = .ok (some resp, none) →
      t.getLast?.bind Event.volumeGroupRead? = some vg →
      resp.snapshotGroupID = vg.id ∧
      ((firstHandle request).length < 3 → resp.snapshots = []) ∧
      (3 ≤ (firstHandle request).length →
        resp.snapshots = vg.volumes.map (memberSnapshot arr protocol resp.creationTime)) ∧
      (IsHandleField arr → IsHandleField protocol → ∀ (common : Common) ipToArray dflt vc,
        common.getIPListFromString arr = [] → ∀ snap ∈ resp.snapshots, ∃ m ∈ vg.volumes,
          (IsHandleField m.id → parseVolumeID common ipToArray snap.snapId dflt vc =
            .pure (⟨m.id, arr, protocol, "", ""⟩, none)) ∧
          (IsHandleField m.sourceID → parseVolumeID common ipToArray snap.sourceId dflt vc =
            .pure (⟨m.sourceID, arr, protocol, "", ""⟩, none))))
      (s.createVolumeGroupSnapshot request) := by
  intro arr protocol
  cases hv : validateCreateVGSreq request with
  | some e =>
    rw [createVolumeGroupSnapshot_of_invalid hv]
    exact Prog.allRuns_pure fun _ _ h => by cases h
  | none =>
    refine (createVolumeGroupSnapshot_valid_runs s request hv).mono fun t o h resp vg ho hvg => ?_
    have hresp : resp = snapshotGroupResponse request vg := by
      simpa [hvg] using (h _ _ ho).2.2 rfl
    subst hresp
    have hsnaps : (snapshotGroupResponse request vg).snapshots =
        if 3 ≤ (firstHandle request).length then
          vg.volumes.map (memberSnapshot arr protocol (snapshotGroupResponse request vg).creationTime)
        else [] := by
      simp only [snapshotGroupResponse, snapshotsLoop_eq, List.nil_append]
    refine ⟨rfl, fun hlt => by rw [hsnaps, if_neg (by omega)], fun hge => by rw [hsnaps, if_pos hge],
      fun harr hp common ipToArray dflt vc hip snap hsnap => ?_⟩
    rw [hsnaps] at hsnap
    split_ifs at hsnap
    · obtain ⟨m, hm, rfl⟩ := List.mem_map.1 hsnap
      exact ⟨m, hm, fun hid => parseVolumeID_localHandle common ipToArray dflt vc hid harr hp hip,
        fun hsrc => parseVolumeID_localHandle common ipToArray dflt vc hsrc harr hp hip⟩
    · cases hsnap

/-- The run of `sampleSnapshotTrace` for the first handle `vol1/PS1`, of two fields: the array
    snapshots the group of one member, and the answer lists no snapshot. -/
theorem createVolumeGroupSnapshot_snapshot_handles_two_fields :
    ∃ resp vg, (sampleService.createVolumeGroupSnapshot ⟨["vol1/PS1"], "vgs1", ""⟩).Reaches
        sampleSnapshotTrace (.ok (some resp, none)) ∧
      sampleSnapshotTrace.getLast?.bind Event.volumeGroupRead? = some vg ∧
      vg.volumes.length = 1 ∧ resp.snapshots = [] := by
  have hrun : (sampleService.createVolumeGroupSnapshot ⟨["vol1/PS1"], "vgs1", ""⟩).Reaches
      sampleSnapshotTrace _ := .call _ <| .call _ <| .call _ <| .call _ <| .pure _
  exact ⟨_, _, hrun, rfl, rfl,
    (createVolumeGroupSnapshot_snapshot_handles sampleService _ _ _ hrun _ _ rfl rfl).2.1
      (by decide)⟩

/-! ## Runs against the array model -/

/-- Against arrays on which every call takes effect: when no group has the request's name and
    the array lists a group `g` of the first volume first, the handler snapshots `g`, whatever the
    other requested volumes are. The answer has one snapshot per member of `g`, and no other. -/
theorem createVolumeGroupSnapshot_snapshots_first_volume_group (s : Service) (first : String)
    (rest : List String) (name description : String) (arrays : String → ArrayObjects)
    (hv : validateCreateVGSreq ⟨first :: rest, name, description⟩ = none) {a : PowerStoreArray}
    (ha : s.registry.arrays ((Go.split first '/').getD 1 "") = some a) {g : VolumeGroup}
    {gs : List VolumeGroup} (hname : (arrays a.globalID).volumeGroupByName? name = none)
    (hgroups : (arrays a.globalID).volumeGroups.filter
      (fun vg => vg.volumes.any (·.id = (Go.split first '/').headD "")) = g :: gs)
    (hid : g.id ≠ "") (hg : (arrays a.globalID).volumeGroup? g.id = some g)
    (hfree : ((arrays a.globalID).volumeGroups.any fun g' =>
      g'.name = name ∧ g'.id ∈ (arrays a.globalID).snapshotGroupIDs) = false)
    (hsid : (arrays a.globalID).volumeGroup? ("vgs-" ++ toString (arrays a.globalID).serial) =
      none) :
    ∃ resp, ((s.createVolumeGroupSnapshot ⟨first :: rest, name, description⟩).interp World.serve
        ⟨arrays, []⟩).1 = .ok (some resp, none) ∧
      resp.snapshotGroupID = "vgs-" ++ toString (arrays a.globalID).serial ∧
      resp.snapshots.map (·.sourceId) = if (Go.split first '/').length ≥ 3 then
        g.volumes.map fun v => v.id ++ "/" ++ (Go.split first '/').getD 1 "" ++ "/" ++
          (Go.split first '/').getD 2 "" else [] := by
  obtain ⟨hcreate, hfound⟩ := (arrays a.globalID).createSnapshotGroup_of_free hg hfree hsid
  dsimp only [Service.createVolumeGroupSnapshot, Prog.bind_eq, Prog.pure_eq, Prog.pure_bind]
  rw [hv]
  dsimp only
  simp only [handleArray_bind]
  simp only [Prog.pure_bind, Prog.query_bind, Prog.call_bind, Prog.index, List.getElem?_cons_zero,
    List.map_cons, ha, Prog.deref]
  -- the lookup by name answers not found, which is tolerated; `g` is adopted, snapshotted and its
  -- snapshot group read back
  simp only [Prog.interp, World.serve_nil, World.apply, Call.array?, ArrayObjects.serve, hname,
    ArrayObjects.lookup, Function.update_eq_self, vgsCallError, hgroups, hid, ne_eq,
    not_false_eq_true, if_true, hcreate, Function.update_same, hfound]
  refine ⟨_, rfl, rfl, ?_⟩
  split_ifs with h3 <;> simp [snapshotsLoop_eq, h3, memberSnapshot, ArrayObjects.snapshotOf]

/-- A volume of 1 GiB of `PS1`. -/
def sampleVolume (id : String) : Volume :=
  { id, protectionPolicyID := "", size := 1073741824, name := id, state := "Ready" }

/-- `PS1` holds the volumes `vol1`, `vol2` and `vol3`, and the group `vg-a`, named `apps`, of `vol1`
    and `vol3`. -/
def sharedGroupArrays (a : String) : ArrayObjects :=
  if a = "PS1" then
    { volumeGroups := [{ id := "vg-a", name := "apps", protectionPolicyID := "",
                         volumes := [sampleVolume "vol1", sampleVolume "vol3"] }],
      protectionPolicies := [], replicationRules := [],
      volumes := [sampleVolume "vol1", sampleVolume "vol2", sampleVolume "vol3"] }
  else default

/-- A snapshot of `vol1` and `vol2` under the new name `vgs1`: no group has that name, so the
    handler adopts `vg-a`, the group `vol1` belongs to, and snapshots it. The answer has no
    snapshot of `vol2` and one of `vol3`, which was not asked for. -/
theorem createVolumeGroupSnapshot_snapshots_adopted_group :
    validateCreateVGSreq ⟨["vol1/PS1/scsi", "vol2/PS1/scsi"], "vgs1", ""⟩ = none ∧
    ∃ resp, ((sampleService.createVolumeGroupSnapshot
        ⟨["vol1/PS1/scsi", "vol2/PS1/scsi"], "vgs1", ""⟩).interp World.serve
        ⟨sharedGroupArrays, []⟩).1 = .ok (some resp, none) ∧
      resp.snapshotGroupID = "vgs-0" ∧
      resp.snapshots.map (·.sourceId) = ["vol1/PS1/scsi", "vol3/PS1/scsi"] :=
  ⟨by decide, createVolumeGroupSnapshot_snapshots_first_volume_group sampleService "vol1/PS1/scsi"
    ["vol2/PS1/scsi"] "vgs1" "" sharedGroupArrays (by decide) rfl rfl rfl (by decide) rfl rfl rfl⟩

@[simp] theorem GoError.isNotFound_notFoundError : notFoundError.isNotFound = true := rfl

@[simp] theorem GoError.isVolumeNameAlreadyUse_notFoundError :
    notFoundError.isVolumeNameAlreadyUse = false := rfl

@[simp] theorem GoError.isVolumeNameAlreadyUse_nameInUseError :
    nameInUseError.isVolumeNameAlreadyUse = true := rfl

/-- Against arrays on which every call takes effect and whose groups all have IDs, a run of a
    valid request fails when a snapshot group of its name is already on the array. Otherwise it
    fails too, or leaves a snapshot group of its name, every group still having an ID. Each way
    to the snapshot (a group of the name, the first volume's group, a new group) ends in the
    same test of the name. -/
theorem createVolumeGroupSnapshot_snapshot_name (s : Service) (first : String)
    (rest : List String) (name description : String) (arrays : String → ArrayObjects)
    (hv : validateCreateVGSreq ⟨first :: rest, name, description⟩ = none) {a : PowerStoreArray}
    (ha : s.registry.arrays ((Go.split first '/').getD 1 "") = some a)
    (hids : (arrays a.globalID).IdsSet) :
    let run := (s.createVolumeGroupSnapshot ⟨first :: rest, name, description⟩).interp World.serve
      ⟨arrays, []⟩
    ((arrays a.globalID).HasSnapshot name → ∃ e, run.1 = .ok (none, some e)) ∧
      ((∃ e, run.1 = .ok (none, some e)) ∨
        (run.2.arrays a.globalID).HasSnapshot name ∧ (run.2.arrays a.globalID).IdsSet) := by
  dsimp only [Service.createVolumeGroupSnapshot, Prog.bind_eq, Prog.pure_eq, Prog.pure_bind]
  rw [hv]
  dsimp only
  simp only [handleArray_bind]
  simp only [Prog.pure_bind, Prog.query_bind, Prog.call_bind, Prog.index, List.getElem?_cons_zero,
    List.map_cons, ha, Prog.deref]
  simp only [Prog.interp, World.serve_nil, World.apply, Call.array?, ArrayObjects.serve,
    ArrayObjects.lookup, Function.update_eq_self, vgsCallError]
  -- each way to the snapshot ends in a state `o'` whose groups have IDs, that finds the group to
  -- snapshot, and that has a snapshot group of the name if the array had one
  cases hbn : (arrays a.globalID).volumeGroupByName? name
  case' none =>
    simp only [GoError.isNotFound_notFoundError, if_true, VolumeGroup.default_id, ne_eq,
      not_true_eq_false, if_false, Prog.interp, World.serve_nil, World.apply, Call.array?,
      ArrayObjects.serve, Function.update_eq_self]
    cases hr : List.filter
        (fun vg => vg.volumes.any fun x => decide (x.id = (Go.split first '/').headD ""))
        (arrays a.globalID).volumeGroups
    case' cons vg tail =>
      -- the first volume's group
      have hmem : vg ∈ (arrays a.globalID).volumeGroups :=
        (List.mem_filter.1 (hr ▸ List.mem_cons_self vg tail)).1
      have hsome' := (arrays a.globalID).isSome_volumeGroup?_of_mem hmem
      simp only [hids vg hmem, not_false_eq_true, if_true, Prog.interp, World.serve_nil,
        World.apply, Call.array?, ArrayObjects.serve]
      have hids' := hids
      have hkeep' : ∀ n, (arrays a.globalID).HasSnapshot n → (arrays a.globalID).HasSnapshot n :=
        fun _ => id
      set o' := arrays a.globalID
    case' nil =>
      cases hvols : (arrays a.globalID).volumesOf?
          ((Go.split first '/').headD "" :: rest.map fun v => (Go.split v '/').headD "")
      case none =>
        simp only [ArrayObjects.createGroup_of_missing hbn hvols, Prog.interp, World.serve_nil,
          World.apply, Call.array?, ArrayObjects.serve, GoError.isVolumeNameAlreadyUse_notFoundError]
        exact ⟨fun _ => ⟨_, rfl⟩, .inl ⟨_, rfl⟩⟩
      case' some vols =>
        -- a new group of the volumes
        have hcreate := ArrayObjects.createGroup_of_found hbn hvols
        obtain ⟨hids', hkeep', hsome'⟩ := hids.createGroup name
          ((Go.split first '/').headD "" :: rest.map fun v => (Go.split v '/').headD "")
        rw [hcreate] at hsome'
        replace hsome' := hsome' rfl
        have hne : ("vg-" ++ toString (arrays a.globalID).serial) ≠ "" := by simp [String.ext_iff]
        simp only [hcreate, Prog.interp, World.serve_nil, World.apply, Call.array?,
          ArrayObjects.serve, ne_eq, hne, not_false_eq_true, if_true, Function.update_same,
          Function.update_idem]
        set o' := ((arrays a.globalID).createGroup name
          ((Go.split first '/').headD "" :: rest.map fun v => (Go.split v '/').headD "")).2
  case' some g =>
    -- the group of the name, with the volumes added
    have hmem := (arrays a.globalID).mem_of_volumeGroupByName? hbn
    have hsome := (arrays a.globalID).isSome_volumeGroup?_of_mem hmem
    simp only [ne_eq, hids g hmem, not_false_eq_true, if_true, Prog.interp, World.serve_nil,
      World.apply, Call.array?, ArrayObjects.serve]
    cases hvols : (arrays a.globalID).volumesOf?
        ((Go.split first '/').headD "" :: rest.map fun v => (Go.split v '/').headD "")
    case none =>
      simp only [ArrayObjects.addMembers_of_missing _ hvols,
        GoError.isVolumeNameAlreadyUse_notFoundError]
      exact ⟨fun _ => ⟨_, rfl⟩, .inl ⟨_, rfl⟩⟩
    case' some vols =>
      obtain ⟨hids', hkeep2, hsome2⟩ := hids.addMembers
        ((Go.split first '/').headD "" :: rest.map fun v => (Go.split v '/').headD "") g.id
      have hsome' := (hsome2 g.id).trans hsome
      have hkeep' := fun n => (hkeep2 n).2
      simp only [ArrayObjects.addMembers_of_found hsome hvols, Function.update_same,
        Function.update_idem]
      set o' := ((arrays a.globalID).addMembers
        ((Go.split first '/').headD "" :: rest.map fun v => (Go.split v '/').headD "") g.id).2
  -- the snapshot: refused under a name in use, made otherwise
  all_goals
    by_cases hn : o'.HasSnapshot name
    · simp only [hn.createSnapshotGroup hsome', Function.update_eq_self, if_true, Prog.interp,
        World.serve_nil, World.apply, Call.array?, ArrayObjects.serve,
        GoError.isVolumeNameAlreadyUse_nameInUseError, CreateResponse.default_id,
        hids'.volumeGroup?_empty, ArrayObjects.lookup, GoError.isVolumeNameAlreadyUse_notFoundError,
        Function.update_same, Function.update_idem]
      exact ⟨fun _ => ⟨_, rfl⟩, .inl ⟨_, rfl⟩⟩
    · obtain ⟨hok, hnamed, hids'', hfound⟩ :=
        ArrayObjects.createSnapshotGroup_of_not_hasSnapshot hids' hn hsome'
      obtain ⟨vg', hvg'⟩ := Option.isSome_iff_exists.1 hfound
      simp only [hok, Function.update_same, hvg', ArrayObjects.lookup, Function.update_idem,
        Prog.interp, World.serve_nil, World.apply, Call.array?, ArrayObjects.serve]
      exact ⟨fun h => absurd (hkeep' name h) hn, .inr ⟨hnamed, hids''⟩⟩

/-- Against arrays on which every call takes effect and whose groups all have IDs, a valid
    request of a registry array issued twice in a row fails at least once: a first run that does
    not fail leaves a snapshot group of the request's name, and the second run then fails. -/
theorem createVolumeGroupSnapshot_not_repeatable (s : Service) (first : String)
    (rest : List String) (name description : String) (arrays : String → ArrayObjects)
    (hv : validateCreateVGSreq ⟨first :: rest, name, description⟩ = none) {a : PowerStoreArray}
    (ha : s.registry.arrays ((Go.split first '/').getD 1 "") = some a)
    (hids : (arrays a.globalID).IdsSet) :
    let run := (s.createVolumeGroupSnapshot ⟨first :: rest, name, description⟩).interp World.serve
    (∃ e, (run ⟨arrays, []⟩).1 = .ok (none, some e)) ∨
      ∃ e, (run (run ⟨arrays, []⟩).2).1 = .ok (none, some e) := by
  intro run
  rcases (createVolumeGroupSnapshot_snapshot_name s first rest name description arrays hv ha
    hids).2 with hfail | ⟨hnamed, hids'⟩
  · exact .inl hfail
  · right
    rw [World.interp_fates_nil]
    exact (createVolumeGroupSnapshot_snapshot_name s first rest name description _ hv ha hids').1
      hnamed

/-- `PS1` holds the volume `vol1` and no group. -/
def singleVolumeArrays (a : String) : ArrayObjects :=
  if a = "PS1" then
    { volumeGroups := [], protectionPolicies := [], replicationRules := [],
      volumes := [sampleVolume "vol1"] }
  else default

/-- The same request twice in a row. The first run creates the group `vg-0` and its snapshot
    group `vgs-1`. The second finds `vg-0` by name, is refused a second snapshot group of the name
    in use, which it tolerates, and then looks up the snapshot group of the empty ID it was left
    with: that lookup fails, and the retry answers an error. -/
theorem createVolumeGroupSnapshot_retry_fails :
    let run := fun w =>
      (sampleService.createVolumeGroupSnapshot sampleSnapshotRequest).interp World.serve w
    (singleVolumeArrays "PS1").IdsSet ∧
    ((∃ e, (run ⟨singleVolumeArrays, []⟩).1 = .ok (none, some e)) ∨
      ∃ e, (run (run ⟨singleVolumeArrays, []⟩).2).1 = .ok (none, some e)) ∧
    (∃ resp, (run ⟨singleVolumeArrays, []⟩).1 = .ok (some resp, none) ∧
      resp.snapshotGroupID = "vgs-1") ∧
    (run (run ⟨singleVolumeArrays, []⟩).2).1 =
      .ok (none, some (.status .internal "Error getting volume group snapshot: not found")) :=
  ⟨by decide, createVolumeGroupSnapshot_not_repeatable sampleService "vol1/PS1/scsi" [] "vgs1" ""
    singleVolumeArrays (by decide) rfl (by decide), ⟨_, rfl, rfl⟩, rfl⟩

end PowerStoreCsi
