import Mathlib.Data.List.Basic
import PowerStoreCsi.Array.Proofs.VolumeID
import PowerStoreCsi.Controller.ProtectionGroup
import PowerStoreCsi.Controller.Proofs.ProtectionGroup

set_option autoImplicit false

/-! # Proofs: replica volumes

A volume of a replicated volume group has a replica on the peer array. `CreateRemoteVolume`
answers the replica's handle: the remote element of the volume's pair in the session of its
first volume group, the serial number of the peer, and the protocol of the volume's own handle.
`DeleteLocalVolume` is what the peer's controller is asked to run on such a handle when the
source volume goes away.

The handle travels between two controllers, so the results below follow it across: the peer's
`ParseVolumeID` reads it back, without a call, as the replica on the peer's array, and the
peer's `DeleteLocalVolume` works on that replica alone. `DeleteLocalVolume` itself deletes a
volume only after the array answered that it belongs to no volume group and to no protection
policy, and reports success only when the volume is gone. -/

namespace PowerStoreCsi

/-! ## The pairs of a session -/

/-- The loop over the pairs keeps the replica of the last pair whose local element is `id`. -/
theorem storageElementPairsLoop_eq (id : String) (pairs : List StorageElementPair)
    (acc : String) :
    storageElementPairsLoop id pairs acc =
      (((pairs.filter (·.localStorageElementID = id)).getLast?).map
        (·.remoteStorageElementID)).getD acc := by
  induction pairs generalizing acc with
  | nil => rfl
  | cons sp pairs ih =>
    rw [storageElementPairsLoop, ih, List.filter_cons]
    by_cases hsp : sp.localStorageElementID = id
    · simp only [hsp, if_true, decide_True, List.getLast?_cons]
      cases (pairs.filter (·.localStorageElementID = id)).getLast? <;> rfl
    · simp only [hsp, if_false, decide_False, Bool.false_eq_true]

/-! ## `DeleteLocalVolume` -/

/-- The calls `DeleteLocalVolume` makes about the volume `id` of the array `a`. -/
def VolumeCall (a id : String) (c : Call) : Prop :=
  c = .getVolume a id ∨ c = .getVolumeGroupsByVolumeID a id ∨ c = .deleteVolume a id

/-- `DeleteLocalVolume` calls only the array that the registry files under the handle's second
    field, and only about the volume of its first. -/
theorem deleteLocalVolume_calls (s : Service) (volumeHandle : String) :
    Prog.AllCalls (fun c => ∃ arr, s.registry.arrays ((Go.split volumeHandle '/').getD 1 "") =
        some arr ∧ VolumeCall arr.globalID ((Go.split volumeHandle '/').getD 0 "") c)
      (s.deleteLocalVolume volumeHandle) := by
  unfold Service.deleteLocalVolume
  refine Prog.allCalls_ite (fun _ => Prog.allCalls_pure _ _) fun hlen => ?_
  obtain ⟨v, g, x, hs⟩ := List.length_eq_three.1 (not_not.1 hlen)
  simp only [hs, Prog.index, List.getElem?_cons_zero, List.getElem?_cons_succ, Prog.bind_eq,
    Prog.pure_bind, Prog.pure_eq, Prog.query_bind, List.getD_cons_zero, List.getD_cons_succ]
  cases s.registry.arrays g with
  | none => exact Prog.allCalls_pure _ _
  | some arr =>
  repeat' first
    | exact Prog.allCalls_pure _ _
    | refine Prog.allCalls_call ⟨arr, rfl, by simp [VolumeCall]⟩ fun _ => ?_
    | refine Prog.allCalls_ite (fun _ => ?_) fun _ => ?_
    | split

/-- What every run of `DeleteLocalVolume` does. Its calls are about the volume of the handle's
    first field, on the array the registry files under its second. It answers a response or an
    error, never both and never by panicking. It deletes a volume only as its third call, after
    the array answered the volume with no protection policy and listed no volume group for it,
    the listing failing at most as not found; it then succeeds exactly when the deletion
    succeeded or found no volume. Its one other success is a volume the array does not find. -/
theorem deleteLocalVolume_deletes_only_unprotected (s : Service) (volumeHandle : String) :
    Prog.AllCalls (fun c => ∃ arr, s.registry.arrays ((Go.split volumeHandle '/').getD 1 "") =
        some arr ∧ VolumeCall arr.globalID ((Go.split volumeHandle '/').getD 0 "") c)
      (s.deleteLocalVolume volumeHandle) ∧
    Prog.AllRuns (fun t o =>
      (o = .ok (some (), none) ∨ ∃ e, o = .ok (none, some e)) ∧
      (∀ (a id : String) (err : Option GoError), (⟨.deleteVolume a id, err⟩ : Event) ∈ t →
        ∃ vol vgErr,
        t = [⟨.getVolume a id, (vol, none)⟩, ⟨.getVolumeGroupsByVolumeID a id, ([], vgErr)⟩,
          ⟨.deleteVolume a id, err⟩] ∧
        vol.protectionPolicyID = "" ∧ vgErr.all GoError.isNotFound ∧
        (o = .ok (some (), none) ↔ err.all GoError.isNotFound)) ∧
      (o = .ok (some (), none) →
        (∃ a id vol e, t = [⟨.getVolume a id, (vol, some e)⟩] ∧ e.isNotFound) ∨
        ∃ (a id : String) (err : Option GoError), (⟨.deleteVolume a id, err⟩ : Event) ∈ t))
      (s.deleteLocalVolume volumeHandle) := by
  refine ⟨deleteLocalVolume_calls s volumeHandle, ?_⟩
  unfold Service.deleteLocalVolume
  refine Prog.allRuns_ite (fun _ => Prog.allRuns_pure (by simp)) fun hlen => ?_
  obtain ⟨v, g, x, hs⟩ := List.length_eq_three.1 (not_not.1 hlen)
  simp only [hs, Prog.index, List.getElem?_cons_zero, List.getElem?_cons_succ, Prog.bind_eq,
    Prog.pure_bind, Prog.pure_eq, Prog.query_bind]
  cases s.registry.arrays g with
  | none => exact Prog.allRuns_pure (by simp)
  | some arr =>
  refine Prog.allRuns_call fun ⟨vol, err⟩ => ?_
  cases err
  case some e =>
    -- the volume could not be read: the run ends, with success on a not-found answer only
    exact Prog.allRuns_ite
      (fun he => Prog.allRuns_pure ⟨.inl rfl, by simp, fun _ => .inl ⟨_, _, vol, e, rfl, he⟩⟩)
      fun _ => Prog.allRuns_pure (by simp)
  refine Prog.allRuns_call fun ⟨vgs, vgErr⟩ => ?_
  -- a listing error other than not found ends the run; after any other answer the guards follow
  by_cases hvg : vgErr.all GoError.isNotFound
  case neg =>
    obtain ⟨e, rfl⟩ : ∃ e, vgErr = some e := Option.ne_none_iff_exists'.1 (by rintro rfl; exact hvg rfl)
    exact Prog.allRuns_ite (fun _ => Prog.allRuns_pure (by simp))
      fun he => absurd (by simpa using he) hvg
  cases vgErr
  on_goal 2 => refine Prog.allRuns_ite (fun he => absurd hvg (by simpa using he)) fun _ => ?_
  all_goals
    refine Prog.allRuns_ite (fun _ => Prog.allRuns_pure (by simp)) fun hvgs => ?_
    refine Prog.allRuns_ite (fun _ => Prog.allRuns_pure (by simp)) fun hpp => ?_
    obtain rfl := not_not.1 hvgs
    refine Prog.allRuns_call fun err => ?_
    -- the deletion: the run ends, with success exactly on a nil or not-found answer
    cases err
    on_goal 2 => refine Prog.allRuns_ite (fun _ => ?_) fun _ => ?_
    all_goals
      refine Prog.allRuns_pure ⟨by simp, fun a id err hmem => ?_, fun _ => .inr ⟨arr.globalID, v,
        _, List.mem_cons_of_mem _ (List.mem_cons_of_mem _ (List.mem_singleton_self _))⟩⟩
      simp only [List.mem_cons, List.mem_singleton, List.not_mem_nil, or_false] at hmem
      rcases hmem with h | h | h <;> cases h
      exact ⟨vol, _, rfl, not_not.1 hpp, hvg, by simp_all⟩

/-! ## `CreateRemoteVolume` -/

/-- The volume context of a replica names the peer's serial number as its array. -/
theorem remoteParams_arrayID (p localName serial address : String) :
    (GoMap.ofList [("remoteSystem", localName), (p ++ "arrayID", serial),
      (p ++ "managementAddress", address)] : GoMap String String) (p ++ "arrayID") = some serial := by
  simp [GoMap.ofList]

/-- A creation that succeeds decoded the request's handle, found its array in the registry, and
    read, in this order, the volume's groups, the session of the first, the volume, the array
    and the session's peer; it answers the replica that the session pairs with the volume, on
    the peer, with the volume's size. -/
theorem createRemoteVolume_ok {s : Service} {common : Common} {nfs : NfsHelpers}
    {req : CreateRemoteVolumeRequest} {t : List Event} {resp : CreateRemoteVolumeResponse}
    (h : (s.createRemoteVolume common nfs req).Reaches t (.ok (some resp, none))) :
    ∃ t₀ vh arr volPrefix id vg rest rs vol localSystem remoteSystem,
      (parseVolumeID common s.registry.ipToArray req.volumeHandle s.registry.defaultArray
        none).Reaches t₀ (.ok (vh, none)) ∧
      nfsVolumePrefix nfs req.parameters vh.localVolumeID = (volPrefix, id) ∧
      s.registry.arrays vh.arrayID = some arr ∧
      t = t₀ ++ [⟨.getVolumeGroupsByVolumeID arr.globalID id, (vg :: rest, none)⟩,
        ⟨.getReplicationSessionByLocalResourceID arr.globalID vg.id, (rs, none)⟩,
        ⟨.getVolume arr.globalID id, (vol, none)⟩, ⟨.getCluster arr.globalID, (localSystem, none)⟩,
        ⟨.getRemoteSystem arr.globalID rs.remoteSystemID, (remoteSystem, none)⟩] ∧
      storageElementPairsLoop id rs.storageElementPairs "" ≠ "" ∧
      resp.remoteVolume =
        { capacityBytes := vol.size
          volumeId := volPrefix ++ storageElementPairsLoop id rs.storageElementPairs "" ++ "/" ++
            remoteSystem.serialNumber ++ "/" ++ vh.protocol
          volumeContext := GoMap.ofList [("remoteSystem", localSystem.name),
            (s.replicationContextPrefix ++ "arrayID", remoteSystem.serialNumber),
            (s.replicationContextPrefix ++ "managementAddress", remoteSystem.managementAddress)] } := by
  simp only [Service.createRemoteVolume, Prog.bind_eq, Prog.pure_eq, Prog.pure_bind,
    Prog.query_bind] at h
  split at h
  · cases (Prog.reaches_pure_iff.1 h).2
  obtain ⟨t₀, t₁, ⟨vh, err⟩, rfl, hp, h₁⟩ := h.of_bind_ok
  -- each array call is followed by its error check; an error ends the run without a volume
  cases err with
  | some err => cases (Prog.reaches_pure_iff.1 h₁).2
  | none =>
  generalize hpre : nfsVolumePrefix nfs req.parameters vh.localVolumeID = np at h₁
  obtain ⟨volPrefix, id⟩ := np
  cases harr : s.registry.arrays vh.arrayID with
  | none => rw [harr] at h₁; cases (Prog.reaches_pure_iff.1 h₁).2
  | some arr =>
  rw [harr] at h₁
  obtain ⟨⟨vgs, err⟩, t₂, rfl, h₂⟩ := Prog.reaches_call_iff.1 h₁
  cases err with
  | some err => cases (Prog.reaches_pure_iff.1 h₂).2
  | none =>
  cases vgs with
  | nil => cases (Prog.reaches_pure_iff.1 h₂).2
  | cons vg rest =>
  obtain ⟨⟨rs, err⟩, t₃, rfl, h₃⟩ := Prog.reaches_call_iff.1 h₂
  cases err with
  | some err => cases (Prog.reaches_pure_iff.1 h₃).2
  | none =>
  dsimp only at h₃
  split at h₃
  · cases (Prog.reaches_pure_iff.1 h₃).2
  obtain ⟨⟨vol, err⟩, t₄, rfl, h₄⟩ := Prog.reaches_call_iff.1 h₃
  cases err with
  | some err => cases (Prog.reaches_pure_iff.1 h₄).2
  | none =>
  obtain ⟨⟨localSystem, err⟩, t₅, rfl, h₅⟩ := Prog.reaches_call_iff.1 h₄
  cases err with
  | some err => cases (Prog.reaches_pure_iff.1 h₅).2
  | none =>
  obtain ⟨⟨remoteSystem, err⟩, t₆, rfl, h₆⟩ := Prog.reaches_call_iff.1 h₅
  cases err with
  | some err => cases (Prog.reaches_pure_iff.1 h₆).2
  | none =>
  obtain ⟨rfl, ⟨⟩⟩ := Prog.reaches_pure_iff.1 h₆
  refine ⟨t₀, vh, arr, volPrefix, id, vg, rest, rs, vol, localSystem, remoteSystem, hp, hpre,
    harr, rfl, ‹_›, ?_⟩
  simp [getRemoteCSIVolume, GoMap.getD, remoteParams_arrayID]

/-! ## The replica's handle on the peer -/

/-- `DeleteLocalVolume` on such a handle works on its volume alone, on the array the registry
    files under its `GlobalID`. -/
theorem deleteLocalVolume_localHandle_calls (s : Service) {l g p : String}
    (hl : IsHandleField l) (hg : IsHandleField g) (hp : IsHandleField p) :
    Prog.AllCalls (fun c => ∃ arr, s.registry.arrays g = some arr ∧ VolumeCall arr.globalID l c)
      (s.deleteLocalVolume (l ++ "/" ++ g ++ "/" ++ p)) := by
  simpa [split_localHandle hl hg hp] using deleteLocalVolume_calls s (l ++ "/" ++ g ++ "/" ++ p)

/-- The handle `CreateRemoteVolume` answers names the replica of the request's volume: the remote
    element of the last pair whose local element is the volume, in the session of the volume's
    first volume group, prefixed as the volume's ID is; the serial number of the peer that
    session replicates to; and the protocol of the request's handle. The volume context names
    that serial number as the array. When the three fields hold no separator and the peer does
    not read the serial number as an IP, the peer's `ParseVolumeID` reads the handle back, with no
    call, as exactly that replica, and the peer's `DeleteLocalVolume` works on the replica alone,
    on the array it files under the serial number. -/
theorem createRemoteVolume_replica_handle (s : Service) (common : Common) (nfs : NfsHelpers)
    (req : CreateRemoteVolumeRequest) (t : List Event) (resp : CreateRemoteVolumeResponse)
    (h : (s.createRemoteVolume common nfs req).Reaches t (.ok (some resp, none))) :
    ∃ vh arr volPrefix id vg rs sp remoteSystem,
      (∃ t₀, t₀ <+: t ∧ (parseVolumeID common s.registry.ipToArray req.volumeHandle
        s.registry.defaultArray none).Reaches t₀ (.ok (vh, none))) ∧
      s.registry.arrays vh.arrayID = some arr ∧
      nfsVolumePrefix nfs req.parameters vh.localVolumeID = (volPrefix, id) ∧
      (∃ rest, (⟨.getVolumeGroupsByVolumeID arr.globalID id, (vg :: rest, none)⟩ : Event) ∈ t) ∧
      (⟨.getReplicationSessionByLocalResourceID arr.globalID vg.id, (rs, none)⟩ : Event) ∈ t ∧
      (⟨.getRemoteSystem arr.globalID rs.remoteSystemID, (remoteSystem, none)⟩ : Event) ∈ t ∧
      (rs.storageElementPairs.filter (·.localStorageElementID = id)).getLast? = some sp ∧
      let replica : VolumeHandle :=
        ⟨volPrefix ++ sp.remoteStorageElementID, remoteSystem.serialNumber, vh.protocol, "", ""⟩
      resp.remoteVolume.volumeId = replica.localHandle ∧
      resp.remoteVolume.volumeContext (s.replicationContextPrefix ++ "arrayID") =
        some replica.arrayID ∧
      (IsHandleField replica.localVolumeID → IsHandleField replica.arrayID →
        IsHandleField replica.protocol →
        (∀ (peer : Common) ipToArray dflt vc, peer.getIPListFromString replica.arrayID = [] →
          parseVolumeID peer ipToArray resp.remoteVolume.volumeId dflt vc = .pure (replica, none)) ∧
        ∀ peer : Service, Prog.AllCalls (fun c => ∃ arr', peer.registry.arrays replica.arrayID =
          some arr' ∧ VolumeCall arr'.globalID replica.localVolumeID c)
            (peer.deleteLocalVolume resp.remoteVolume.volumeId)) := by
  obtain ⟨t₀, vh, arr, volPrefix, id, vg, rest, rs, vol, localSystem, remoteSystem, hp, hpre, harr,
    rfl, hne, hresp⟩ := createRemoteVolume_ok h
  -- the loop found a pair of the volume, since it did not end empty
  obtain ⟨sp, hsp, hr⟩ : ∃ sp, (rs.storageElementPairs.filter
      (·.localStorageElementID = id)).getLast? = some sp ∧
      storageElementPairsLoop id rs.storageElementPairs "" = sp.remoteStorageElementID := by
    rw [storageElementPairsLoop_eq] at hne ⊢
    cases hlast : (rs.storageElementPairs.filter (·.localStorageElementID = id)).getLast? with
    | none => simp [hlast] at hne
    | some sp => exact ⟨sp, rfl, rfl⟩
  have hid : resp.remoteVolume.volumeId =
      volPrefix ++ sp.remoteStorageElementID ++ "/" ++ remoteSystem.serialNumber ++ "/" ++
        vh.protocol := by
    rw [hresp, ← hr]
  refine ⟨vh, arr, volPrefix, id, vg, rs, sp, remoteSystem, ⟨t₀, List.prefix_append _ _, hp⟩,
    harr, hpre, ⟨rest, List.mem_append_right _ (List.mem_cons_self _ _)⟩,
    List.mem_append_right _ (List.mem_cons_of_mem _ (List.mem_cons_self _ _)),
    List.mem_append_right _ (by simp), hsp, hid,
    by rw [hresp]; exact remoteParams_arrayID _ _ _ _, fun hl hg hp' => ⟨fun peer _ _ _ hip => ?_,
      fun peer => ?_⟩⟩
  · rw [hid]
    exact parseVolumeID_localHandle peer _ _ _ hl hg hp' hip
  · rw [hid]
    exact deleteLocalVolume_localHandle_calls peer hl hg hp'

/-- The session of `vg1`, pairing `vol1` with its replica `vol1-replica` on `PS2`. -/
def sampleReplicaSession : ReplicationSession :=
  { sampleSession with storageElementPairs := [⟨"vol1", "vol1-replica"⟩] }

/-- The answers of `PS1` to the creation of the replica of `vol1`. -/
def sampleReplicaTrace : List Event :=
  [⟨.getVolumeGroupsByVolumeID "PS1" "vol1", ([sampleGroup], none)⟩,
    ⟨.getReplicationSessionByLocalResourceID "PS1" "vg1-id", (sampleReplicaSession, none)⟩,
    ⟨.getVolume "PS1" "vol1", ({ id := "vol1", protectionPolicyID := "", size := 8589934592 }, none)⟩,
    ⟨.getCluster "PS1", (sampleCluster, none)⟩,
    ⟨.getRemoteSystem "PS1" "rsys1", (sampleRemoteSystem, none)⟩]

/-- What the creation answers: `vol1-replica` on `PS2`. -/
def sampleReplicaResponse : CreateRemoteVolumeResponse :=
  ⟨{ capacityBytes := 8589934592, volumeId := "vol1-replica/PS2/scsi",
     volumeContext := GoMap.ofList [("remoteSystem", "cluster1"),
       ("replication.storage.dell.com/arrayID", "PS2"),
       ("replication.storage.dell.com/managementAddress", "10.0.0.2")] }⟩

/-- The replica of `vol1`: its handle `vol1-replica/PS2/scsi` is read back on the peer. -/
theorem createRemoteVolume_replica_handle_vol1 :
    ∃ vh arr volPrefix id vg rs sp remoteSystem,
      (∃ t₀, t₀ <+: sampleReplicaTrace ∧ (parseVolumeID sampleConfigEnv.common
        sampleService.registry.ipToArray "vol1/PS1/scsi" sampleService.registry.defaultArray
        none).Reaches t₀ (.ok (vh, none))) ∧
      sampleService.registry.arrays vh.arrayID = some arr ∧
      nfsVolumePrefix sampleNfsHelpers GoMap.empty vh.localVolumeID = (volPrefix, id) ∧
      (∃ rest, (⟨.getVolumeGroupsByVolumeID arr.globalID id, (vg :: rest, none)⟩ : Event) ∈
        sampleReplicaTrace) ∧
      (⟨.getReplicationSessionByLocalResourceID arr.globalID vg.id, (rs, none)⟩ : Event) ∈
        sampleReplicaTrace ∧
      (⟨.getRemoteSystem arr.globalID rs.remoteSystemID, (remoteSystem, none)⟩ : Event) ∈
        sampleReplicaTrace ∧
      (rs.storageElementPairs.filter (·.localStorageElementID = id)).getLast? = some sp ∧
      let replica : VolumeHandle :=
        ⟨volPrefix ++ sp.remoteStorageElementID, remoteSystem.serialNumber, vh.protocol, "", ""⟩
      sampleReplicaResponse.remoteVolume.volumeId = replica.localHandle ∧
      sampleReplicaResponse.remoteVolume.volumeContext
          (sampleService.replicationContextPrefix ++ "arrayID") = some replica.arrayID ∧
      (IsHandleField replica.localVolumeID → IsHandleField replica.arrayID →
        IsHandleField replica.protocol →
        (∀ (peer : Common) ipToArray dflt vc, peer.getIPListFromString replica.arrayID = [] →
          parseVolumeID peer ipToArray sampleReplicaResponse.remoteVolume.volumeId dflt vc =
            .pure (replica, none)) ∧
        ∀ peer : Service, Prog.AllCalls (fun c => ∃ arr', peer.registry.arrays replica.arrayID =
          some arr' ∧ VolumeCall arr'.globalID replica.localVolumeID c)
            (peer.deleteLocalVolume sampleReplicaResponse.remoteVolume.volumeId)) :=
  createRemoteVolume_replica_handle sampleService sampleConfigEnv.common sampleNfsHelpers
    ⟨"vol1/PS1/scsi", GoMap.empty⟩ sampleReplicaTrace sampleReplicaResponse
    (.call _ <| .call _ <| .call _ <| .call _ <| .call _ <| .pure _)

end PowerStoreCsi
