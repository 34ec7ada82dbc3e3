import PowerStoreCsi.ArrayModel
import PowerStoreCsi.Controller.Proofs.Replication

set_option autoImplicit false

/-! # Proofs: tearing down a protection group

`deleteStorageProtectionGroup` deletes a protection policy or a replication rule only right
after looking it up and finding it unused, whatever the array answers (`GuardedAfter`): the
guards `len(pp.Volumes) == 0 && len(pp.VolumeGroups) == 0` and `len(rr.ProtectionPolicies) == 0`
stand right before the deletions. It stops on an error only when it is an `APIError` other than
not-found. An error that is no `APIError` (a broken connection, a timeout of the HTTP client)
passes every one of its tests, so a deletion that did not happen is taken for one that did.

When every call takes effect the handler changes its array by `ArrayObjects.teardown`, and a
second teardown then finds nothing to delete, provided no two protection policies and no two
replication rules of the array share a name, as every call of the array keeps them
(`ArrayObjects.NamesUnique.serve`). A transport error breaks this: when the deletion of the
group fails so, the first teardown succeeds and leaves the group, and a second one succeeds and
deletes it. -/

namespace PowerStoreCsi

/-! ## The three phases of the handler -/

namespace Service

/-- The first phase of `DeleteStorageProtectionGroup`, "Deleting storage protection group", then
    `k`. -/
def groupPhase (a groupID : String) (k : Prog (Option Unit × Option GoError)) :
    Prog (Option Unit × Option GoError) := do
  let (vg, err) ← Prog.query (.getVolumeGroup a groupID)
  if isAPIErrorOtherThanNotFound err then
    return (none, some (.status .internal "Error: Unable to get Volume Group"))
  if vg.id ≠ "" then
    if vg.protectionPolicyID ≠ "" then
      let err ← Prog.query (.modifyVolumeGroup a "" groupID)
      if isAPIErrorOtherThanNotFound err then
        return (none, some (.status .internal "Error: Unable to un-assign PP from Volume Group"))
    let err ← Prog.query (.deleteVolumeGroup a groupID)
    if let some (.api apiError) := err then
      if !apiError.notFound then
        return (none, some (.status .internal
          ("Error: " ++ apiError.message ++ ": Unable to delete Volume Group")))
  k

/-- The second phase, "Deleting protection policy", then `k`. -/
def policyPhase (a vgName : String) (k : Prog (Option Unit × Option GoError)) :
    Prog (Option Unit × Option GoError) := do
  let (pp, err) ← Prog.query (.getProtectionPolicyByName a ("pp-" ++ vgName))
  if isAPIErrorOtherThanNotFound err then
    return (none, some (.status .internal "Error: Unable to get the PP"))
  if pp.id ≠ "" ∧ pp.volumes = [] ∧ pp.volumeGroups = [] then
    let err ← Prog.query (.deleteProtectionPolicy a pp.id)
    if isAPIErrorOtherThanNotFound err then
      return (none, some (.status .internal "Error: Unable to delete PP"))
  k

/-- The last phase, "Deleting replication rule". -/
def rulePhase (a vgName : String) : Prog (Option Unit × Option GoError) := do
  let (rr, err) ← Prog.query (.getReplicationRuleByName a ("rr-" ++ vgName))
  if isAPIErrorOtherThanNotFound err then
    return (none, some (.status .internal "Error: RR not found"))
  if rr.id ≠ "" ∧ rr.protectionPolicies = [] then
    let err ← Prog.query (.deleteReplicationRule a rr.id)
    if isAPIErrorOtherThanNotFound err then
      return (none, some (.status .internal "Error: Unable to delete replication rule"))
  return (some (), none)

/-- For a group of a registry array, the handler is its three phases in turn; it stops after the
    first when the group has no volume group name. -/
theorem deleteStorageProtectionGroup_eq (s : Service) (req : ProtectionGroupRequest)
    {arr : PowerStoreArray} (harr : s.groupArray req.protectionGroupAttributes = .ok arr) :
    s.deleteStorageProtectionGroup req = groupPhase arr.globalID req.protectionGroupId
      (match s.localParam req.protectionGroupAttributes "VolumeGroupName" with
      | none => .pure (none, some (.status .internal "Error: Unable to get volume group name"))
      | some vgName => policyPhase arr.globalID vgName (rulePhase arr.globalID vgName)) := by
  unfold deleteStorageProtectionGroup groupPhase policyPhase rulePhase
  dsimp only [Prog.bind_eq, Prog.pure_eq, Prog.pure_bind, Prog.query_bind, Prog.call_bind]
  rw [harr]
  dsimp only
  cases s.localParam req.protectionGroupAttributes "VolumeGroupName"
  -- each definition matches the answers with matchers of its own: compare them answer by answer
  all_goals
    congr 1; funext ⟨vg, err⟩
    dsimp only
    by_cases h1 : isAPIErrorOtherThanNotFound err = true
    · rw [if_pos h1, if_pos h1]
    rw [if_neg h1, if_neg h1]
    by_cases h2 : vg.id ≠ ""
    swap
    · rw [if_neg h2, if_neg h2]; try rfl
    rw [if_pos h2, if_pos h2]
    by_cases h3 : vg.protectionPolicyID ≠ "" <;>
      [rw [if_pos h3, if_pos h3]; rw [if_neg h3, if_neg h3]]
    on_goal 1 =>
      congr 1; funext err
      by_cases h4 : isAPIErrorOtherThanNotFound err = true
      · rw [if_pos h4, if_pos h4]
      rw [if_neg h4, if_neg h4]
    -- the deletion of the group, after the policy is unassigned or right away
    all_goals
      congr 1; funext err
      rcases err with _ | (_ | _ | _) <;> rfl

end Service

/-! ## Deletions only of unused objects -/

/-- The event `ev` may follow `prev` in a run: a protection policy is deleted only right after a
    lookup that answered it protecting no volume and no volume group, a replication rule only
    right after a lookup that answered it used by no policy. Any other event may follow any. -/
def GuardedAfter (prev : Option Event) (ev : Event) : Prop :=
  match ev.call with
  | .deleteProtectionPolicy a id => ∃ name pp e,
      prev = some ⟨.getProtectionPolicyByName a name, (pp, e)⟩ ∧ pp.id = id ∧ pp.volumes = [] ∧
        pp.volumeGroups = []
  | .deleteReplicationRule a id => ∃ name rr e,
      prev = some ⟨.getReplicationRuleByName a name, (rr, e)⟩ ∧ rr.id = id ∧
        rr.protectionPolicies = []
  | _ => True

/-- Every event of a run may follow the one before it. -/
def GuardedRun : Option Event → List Event → Prop
  | _, [] => True
  | prev, ev :: t => GuardedAfter prev ev ∧ GuardedRun (some ev) t

/-- Every run of `p`, after the event `prev`, is guarded. -/
def GuardedProg {α : Type} (prev : Option Event) (p : Prog α) : Prop :=
  ∀ t o, p.Reaches t o → GuardedRun prev t

theorem guardedProg_pure {α : Type} (prev : Option Event) (a : α) :
    GuardedProg prev (.pure a) := by
  intro t o h
  obtain ⟨rfl, -⟩ := Prog.reaches_pure_iff.1 h
  trivial

theorem guardedProg_call {α : Type} {prev : Option Event} {c : Call} {k : c.Resp → Prog α}
    (h : ∀ r, GuardedAfter prev ⟨c, r⟩ ∧ GuardedProg (some ⟨c, r⟩) (k r)) :
    GuardedProg prev (.call c k) := by
  intro t o hr
  obtain ⟨r, t', rfl, hk⟩ := Prog.reaches_call_iff.1 hr
  exact ⟨(h r).1, (h r).2 t' o hk⟩

theorem guardedProg_ite {α : Type} {prev : Option Event} {c : Prop} [Decidable c] {a b : Prog α}
    (ha : c → GuardedProg prev a) (hb : ¬ c → GuardedProg prev b) :
    GuardedProg prev (if c then a else b) := by
  by_cases hc : c
  · rw [if_pos hc]; exact ha hc
  · rw [if_neg hc]; exact hb hc

/-- In a guarded run, each event may follow the last event before it. -/
theorem GuardedRun.after {prev : Option Event} {t₁ t₂ : List Event} {ev : Event}
    (h : GuardedRun prev (t₁ ++ ev :: t₂)) : GuardedAfter (t₁.getLast?.or prev) ev := by
  induction t₁ generalizing prev with
  | nil => exact h.1
  | cons x xs ih =>
    have := ih h.2
    cases hl : xs.getLast? <;> simp_all [List.getLast?_cons]

/-! The walk that proves each phase guarded: a call is guarded by the condition of the `if` right
    above it, and the phase ends in its continuation. -/

theorem guardedProg_rulePhase (a vgName : String) (prev : Option Event) :
    GuardedProg prev (Service.rulePhase a vgName) := by
  simp only [Service.rulePhase, Prog.bind_eq, Prog.pure_eq, Prog.pure_bind, Prog.query_bind]
  repeat' first
    | exact guardedProg_pure _ _
    | (apply guardedProg_call; (first | intro ⟨_, _⟩ | intro _); try dsimp only)
    | refine And.intro ?_ ?_
    | (dsimp only [GuardedAfter]; done)
    | (dsimp only [GuardedAfter]; exact ⟨_, _, _, rfl, rfl, ‹_ ∧ _›.2⟩)
    | refine guardedProg_ite (fun _ => ?_) (fun _ => ?_)

theorem guardedProg_policyPhase (a vgName : String) {k : Prog (Option Unit × Option GoError)}
    (hk : ∀ prev, GuardedProg prev k) (prev : Option Event) :
    GuardedProg prev (Service.policyPhase a vgName k) := by
  simp only [Service.policyPhase, Prog.bind_eq, Prog.pure_eq, Prog.pure_bind, Prog.query_bind]
  repeat' first
    | exact guardedProg_pure _ _
    | exact hk _
    | (apply guardedProg_call; (first | intro ⟨_, _⟩ | intro _); try dsimp only)
    | refine And.intro ?_ ?_
    | (dsimp only [GuardedAfter]; done)
    | (dsimp only [GuardedAfter]; exact ⟨_, _, _, rfl, rfl, ‹_ ∧ _ ∧ _›.2⟩)
    | refine guardedProg_ite (fun _ => ?_) (fun _ => ?_)

theorem guardedProg_groupPhase (a groupID : String) {k : Prog (Option Unit × Option GoError)}
    (hk : ∀ prev, GuardedProg prev k) (prev : Option Event) :
    GuardedProg prev (Service.groupPhase a groupID k) := by
  simp only [Service.groupPhase, Prog.bind_eq, Prog.pure_eq, Prog.pure_bind, Prog.query_bind]
  repeat' first
    | exact guardedProg_pure _ _
    | exact hk _
    | (apply guardedProg_call; (first | intro ⟨_, _⟩ | intro _); try dsimp only)
    | refine And.intro ?_ ?_
    | (dsimp only [GuardedAfter]; done)
    | refine guardedProg_ite (fun _ => ?_) (fun _ => ?_)
    | split

/-- Whatever the arrays answer, every protection policy the teardown deletes was answered by the
    lookup right before the deletion as protecting no volume and no volume group, and every
    replication rule it deletes as used by no policy. -/
theorem deleteStorageProtectionGroup_deletes_only_unused (s : Service)
    (req : ProtectionGroupRequest) (t : List Event)
    (o : Except String (Option Unit × Option GoError))
    (h : (s.deleteStorageProtectionGroup req).Reaches t o) :
    ∀ t₁ ev t₂, t = t₁ ++ ev :: t₂ → GuardedAfter t₁.getLast? ev := by
  have hg : GuardedProg none (s.deleteStorageProtectionGroup req) := by
    cases hga : s.groupArray req.protectionGroupAttributes with
    | error err =>
      simp only [Service.deleteStorageProtectionGroup, hga, Prog.pure_eq]
      exact guardedProg_pure _ _
    | ok arr =>
      rw [Service.deleteStorageProtectionGroup_eq s req hga]
      refine guardedProg_groupPhase _ _ (fun prev => ?_) none
      split
      · exact guardedProg_pure _ _
      · exact guardedProg_policyPhase _ _ (guardedProg_rulePhase _ _) _
  intro t₁ ev t₂ ht
  subst ht
  simpa using (hg _ o h).after

/-- The teardown of `pg1` on `PS1`, whose volume group is already gone: the policy `pp-vg1` is
    deleted right after its lookup answered it unused, and so is the rule `rr-vg1`. -/
theorem deleteStorageProtectionGroup_deletes_only_unused_sample :
    GuardedAfter
      (some ⟨.getProtectionPolicyByName "PS1" "pp-vg1", (⟨"pp1", "pp-vg1", [], []⟩, none)⟩)
      ⟨.deleteProtectionPolicy "PS1" "pp1", none⟩ :=
  deleteStorageProtectionGroup_deletes_only_unused sampleService ⟨"pg1", sampleGroupAttributes⟩
    [⟨.getVolumeGroup "PS1" "pg1", (default, some notFoundError)⟩,
      ⟨.getProtectionPolicyByName "PS1" "pp-vg1", (⟨"pp1", "pp-vg1", [], []⟩, none)⟩,
      ⟨.deleteProtectionPolicy "PS1" "pp1", none⟩,
      ⟨.getReplicationRuleByName "PS1" "rr-vg1", (⟨"rr1", "rr-vg1", []⟩, none)⟩,
      ⟨.deleteReplicationRule "PS1" "rr1", none⟩]
    (.ok (some (), none)) (.call _ <| .call _ <| .call _ <| .call _ <| .call _ <| .pure _)
    [⟨.getVolumeGroup "PS1" "pg1", (default, some notFoundError)⟩,
      ⟨.getProtectionPolicyByName "PS1" "pp-vg1", (⟨"pp1", "pp-vg1", [], []⟩, none)⟩]
    _ _ rfl

/-! ## A transport error taken for success -/

/-- The array `PS1` holding volume group `pg1`, named `vg1`, with no protection policy. -/
def sampleTeardownArrays (a : String) : ArrayObjects :=
  if a = "PS1" then
    { volumeGroups := [{ id := "pg1", name := "vg1", protectionPolicyID := "" }],
      protectionPolicies := [], replicationRules := [] }
  else default

/-- The lookup of the group takes effect, its deletion fails with a broken connection, and every
    later call takes effect: the handler reports success while the group is still on the array. -/
theorem deleteStorageProtectionGroup_succeeds_leaving_group :
    let run := (sampleService.deleteStorageProtectionGroup ⟨"pg1", sampleGroupAttributes⟩).interp
      World.serve ⟨sampleTeardownArrays, [.effect, .fail (.plain "connection reset by peer")]⟩
    run.1 = .ok (some (), none) ∧
      (run.2.arrays "PS1").volumeGroup? "pg1" =
        some { id := "pg1", name := "vg1", protectionPolicyID := "" } :=
  ⟨rfl, rfl⟩

/-! ## What a teardown does to its array

Against arrays on which every call takes effect, the handler is a function of the array it
addresses. It runs three phases, each announced by a log line of its own, and each phase changes
the array by one step of `ArrayObjects.teardown` (`deleteStorageProtectionGroup_interp`). -/

namespace ArrayObjects

variable (o : ArrayObjects)

/-- The phase "Deleting storage protection group" on one array: the group of the ID, when
    there is one with a non-empty ID, leaves its policy and is deleted. -/
def teardownGroup (groupID : String) : ArrayObjects :=
  match o.volumeGroup? groupID with
  | some vg =>
    if vg.id ≠ "" then
      (if vg.protectionPolicyID ≠ "" then o.assignProtectionPolicy "" groupID else o).deleteVolumeGroup
        groupID
    else o
  | none => o

/-- The phase "Deleting protection policy": the policy found by name is deleted when it has an ID
    and protects no volume and no volume group. -/
def teardownPolicy (name : String) : ArrayObjects :=
  match o.protectionPolicyByName? name with
  | some pp =>
    if pp.id ≠ "" ∧ pp.volumes = [] ∧ pp.volumeGroups = [] then o.deleteProtectionPolicy pp.id else o
  | none => o

/-- The phase "Deleting replication rule": the rule found by name is deleted when it has an ID and
    no policy uses it. -/
def teardownRule (name : String) : ArrayObjects :=
  match o.replicationRuleByName? name with
  | some rr => if rr.id ≠ "" ∧ rr.protectionPolicies = [] then o.deleteReplicationRule rr.id else o
  | none => o

/-- What a teardown of the group `groupID` of volume group `vgName` does to its array. -/
def teardown (groupID vgName : String) : ArrayObjects :=
  ((o.teardownGroup groupID).teardownPolicy ("pp-" ++ vgName)).teardownRule ("rr-" ++ vgName)

theorem any_id_of_replicationRuleByName? {name : String} {rr : ReplicationRule}
    (h : o.replicationRuleByName? name = some rr) : o.replicationRules.any (·.id = rr.id) := by
  simpa using ⟨rr, List.mem_of_find?_eq_some h, rfl⟩

theorem any_id_of_protectionPolicyByName? {name : String} {pp : ProtectionPolicy}
    (h : o.protectionPolicyByName? name = some pp) : o.protectionPolicies.any (·.id = pp.id) := by
  simpa using ⟨pp, List.mem_of_find?_eq_some h, rfl⟩

/-- Moving a group to another policy keeps it where a lookup by ID finds it. -/
theorem isSome_volumeGroup?_assignProtectionPolicy (ppID id : String) :
    ((o.assignProtectionPolicy ppID id).volumeGroup? id).isSome = (o.volumeGroup? id).isSome := by
  simp only [volumeGroup?, assignProtectionPolicy, List.find?_map, Option.isSome_map']
  congr 2; funext vg
  by_cases h : vg.id = id <;> simp [h]

end ArrayObjects

@[simp] theorem isAPIErrorOtherThanNotFound_notFoundError :
    isAPIErrorOtherThanNotFound (some notFoundError) = false := rfl

namespace Service

/-- Against arrays on which every call takes effect, each phase changes its array by the
    corresponding step of `teardown` and goes on. -/
theorem rulePhase_interp (a vgName : String) (arrays : String → ArrayObjects) :
    (rulePhase a vgName).interp World.serve ⟨arrays, []⟩ =
      (.ok (some (), none),
        ⟨Function.update arrays a ((arrays a).teardownRule ("rr-" ++ vgName)), []⟩) := by
  simp only [rulePhase, ArrayObjects.teardownRule, Prog.bind_eq, Prog.pure_eq, Prog.pure_bind,
    Prog.query_bind]
  cases h : (arrays a).replicationRuleByName? ("rr-" ++ vgName) with
  | none => simp [World.apply, Call.array?, ArrayObjects.serve, h, ArrayObjects.lookup, Prog.interp]
  | some rr =>
    by_cases hg : rr.id ≠ "" ∧ rr.protectionPolicies = [] <;>
    simp [World.apply, Call.array?, ArrayObjects.serve, h, ArrayObjects.lookup, Prog.interp, hg,
      ArrayObjects.change, (arrays a).any_id_of_replicationRuleByName? h,
      isAPIErrorOtherThanNotFound]

theorem policyPhase_interp (a vgName : String) (k : Prog (Option Unit × Option GoError))
    (arrays : String → ArrayObjects) :
    (policyPhase a vgName k).interp World.serve ⟨arrays, []⟩ =
      k.interp World.serve
        ⟨Function.update arrays a ((arrays a).teardownPolicy ("pp-" ++ vgName)), []⟩ := by
  simp only [policyPhase, ArrayObjects.teardownPolicy, Prog.bind_eq, Prog.pure_eq, Prog.pure_bind,
    Prog.query_bind]
  cases h : (arrays a).protectionPolicyByName? ("pp-" ++ vgName) with
  | none => simp [World.apply, Call.array?, ArrayObjects.serve, h, ArrayObjects.lookup, Prog.interp]
  | some pp =>
    by_cases hg : pp.id ≠ "" ∧ pp.volumes = [] ∧ pp.volumeGroups = [] <;>
    simp [World.apply, Call.array?, ArrayObjects.serve, h, ArrayObjects.lookup, Prog.interp, hg,
      ArrayObjects.change, (arrays a).any_id_of_protectionPolicyByName? h,
      isAPIErrorOtherThanNotFound]

theorem groupPhase_interp (a groupID : String) (k : Prog (Option Unit × Option GoError))
    (arrays : String → ArrayObjects) :
    (groupPhase a groupID k).interp World.serve ⟨arrays, []⟩ =
      k.interp World.serve ⟨Function.update arrays a ((arrays a).teardownGroup groupID), []⟩ := by
  simp only [groupPhase, ArrayObjects.teardownGroup, Prog.bind_eq, Prog.pure_eq, Prog.pure_bind,
    Prog.query_bind]
  cases h : (arrays a).volumeGroup? groupID with
  | none => simp [World.apply, Call.array?, ArrayObjects.serve, h, ArrayObjects.lookup, Prog.interp]
  | some vg =>
    by_cases hid : vg.id ≠ "" <;> by_cases hpp : vg.protectionPolicyID ≠ "" <;>
    simp [World.apply, Call.array?, ArrayObjects.serve, h, ArrayObjects.lookup, Prog.interp, hid,
      hpp, ArrayObjects.change, ArrayObjects.isSome_volumeGroup?_assignProtectionPolicy,
      isAPIErrorOtherThanNotFound]

/-- When the deletion of an unprotected group fails with an error that is no `APIError` other
    than not found, the first phase goes on as if the deletion had taken effect, against the
    arrays as they were. -/
theorem groupPhase_interp_of_failed_delete (a groupID : String)
    (k : Prog (Option Unit × Option GoError)) (arrays : String → ArrayObjects) {vg : VolumeGroup}
    (hvg : (arrays a).volumeGroup? groupID = some vg) (hid : vg.id ≠ "")
    (hpp : vg.protectionPolicyID = "") {e : GoError}
    (he : isAPIErrorOtherThanNotFound (some e) = false) :
    (groupPhase a groupID k).interp World.serve ⟨arrays, [.effect, .fail e]⟩ =
      k.interp World.serve ⟨arrays, []⟩ := by
  simp only [groupPhase, Prog.bind_eq, Prog.pure_eq, Prog.pure_bind, Prog.query_bind]
  simp [Prog.interp, World.serve, World.apply, Call.array?, ArrayObjects.serve, hvg,
    ArrayObjects.lookup, hid, hpp, isAPIErrorOtherThanNotFound, Call.failWith]
  rcases e with ae | _ | _ <;> simp_all [isAPIErrorOtherThanNotFound]

/-- Against arrays on which every call takes effect, the teardown of a group of a registry array
    with a volume group name succeeds and changes that array by `teardown` alone. -/
theorem deleteStorageProtectionGroup_interp (s : Service) (req : ProtectionGroupRequest)
    {arr : PowerStoreArray} (harr : s.groupArray req.protectionGroupAttributes = .ok arr)
    {vgName : String}
    (hname : s.localParam req.protectionGroupAttributes "VolumeGroupName" = some vgName)
    (arrays : String → ArrayObjects) :
    (s.deleteStorageProtectionGroup req).interp World.serve ⟨arrays, []⟩ =
      (.ok (some (), none), ⟨Function.update arrays arr.globalID
        ((arrays arr.globalID).teardown req.protectionGroupId vgName), []⟩) := by
  simp only [deleteStorageProtectionGroup_eq s req harr, hname, groupPhase_interp,
    policyPhase_interp, rulePhase_interp, Function.update_same, Function.update_idem]
  rfl

/-- Without a registry array or a volume group name, the teardown fails. -/
theorem deleteStorageProtectionGroup_ok {s : Service} {req : ProtectionGroupRequest}
    {arrays : String → ArrayObjects}
    (h : ((s.deleteStorageProtectionGroup req).interp World.serve ⟨arrays, []⟩).1 =
      .ok (some (), none)) :
    ∃ arr vgName, s.groupArray req.protectionGroupAttributes = .ok arr ∧
      s.localParam req.protectionGroupAttributes "VolumeGroupName" = some vgName := by
  cases harr : s.groupArray req.protectionGroupAttributes with
  | error err => simp [deleteStorageProtectionGroup, harr, Prog.interp] at h
  | ok arr =>
    cases hname : s.localParam req.protectionGroupAttributes "VolumeGroupName" with
    | none => simp [deleteStorageProtectionGroup_eq s req harr, hname, groupPhase_interp,
        Prog.interp] at h
    | some vgName => exact ⟨arr, vgName, rfl, rfl⟩

end Service

/-! ## A second teardown -/

namespace ArrayObjects

variable (o : ArrayObjects)

/-- Protection policies have distinct names, and so have replication rules. -/
def NamesUnique : Prop :=
  (o.protectionPolicies.map (·.name)).Nodup ∧ (o.replicationRules.map (·.name)).Nodup

theorem NamesUnique.of_names {o o' : ArrayObjects} (h : o.NamesUnique)
    (hp : (o'.protectionPolicies.map (·.name)).Sublist (o.protectionPolicies.map (·.name)))
    (hr : (o'.replicationRules.map (·.name)).Sublist (o.replicationRules.map (·.name))) :
    o'.NamesUnique :=
  ⟨h.1.sublist hp, h.2.sublist hr⟩

/-- Appending an object whose name the lookup finds nowhere keeps the names distinct. -/
theorem nodup_append_name {α : Type} {name : α → String} {l : List α} {x : α}
    (hl : (l.map name).Nodup) (hx : l.find? (fun y => name y = name x) = none) :
    ((l ++ [x]).map name).Nodup := by
  rw [List.map_append, List.nodup_append]
  refine ⟨hl, List.nodup_singleton _, ?_⟩
  simp only [List.map_cons, List.map_nil, List.disjoint_singleton]
  intro hmem
  obtain ⟨y, hy, hyx⟩ := List.mem_map.1 hmem
  exact absurd (List.find?_eq_none.1 hx y hy) (by simpa using hyx)

/-- Every call keeps the names of the policies, and of the rules, distinct: a creation adds a
    name only when the lookup of it finds nothing, and no other call renames or adds. -/
theorem NamesUnique.serve {o : ArrayObjects} (h : o.NamesUnique) (c : Call) :
    (o.serve c).2.NamesUnique := by
  have change : ∀ {present : Bool} {o' : ArrayObjects}, o'.NamesUnique →
      (o.change present o').2.NamesUnique := by
    intro present o' h'
    unfold change
    split
    · exact h'
    · exact h
  cases c
  case modifyVolumeGroup | deleteVolumeGroup | deleteVolume =>
    refine change (h.of_names ?_ (List.Sublist.refl _))
    simp [assignProtectionPolicy, deleteVolumeGroup, deleteVolume, Function.comp_def]
  case deleteProtectionPolicy a id =>
    refine change (h.of_names ((List.filter_sublist _).map _) ?_)
    simp [deleteProtectionPolicy, Function.comp_def]
  case deleteReplicationRule a id =>
    exact change (h.of_names (List.Sublist.refl _) ((List.filter_sublist _).map _))
  case addMembersToVolumeGroup | createVolumeGroup | createVolumeGroupSnapshot =>
    simp only [ArrayObjects.serve, addMembers, createGroup, createSnapshotGroup]
    repeat' split
    all_goals exact h
  case createReplicationRule a name rpo remoteSystemID =>
    show (o.createRule name remoteSystemID).2.NamesUnique
    unfold createRule
    cases hn : o.replicationRuleByName? name with
    | some _ => exact h
    | none =>
      cases o.remoteSystem? remoteSystemID with
      | none => exact h
      | some _ => exact ⟨h.1, nodup_append_name h.2 hn⟩
  case createProtectionPolicy a name ruleIDs =>
    show (o.createPolicy name ruleIDs).2.NamesUnique
    unfold createPolicy
    split
    · exact h
    split
    · rename_i hn _
      refine ⟨nodup_append_name h.1 ?_, by simpa [Function.comp_def, apply_ite] using h.2⟩
      simpa [protectionPolicyByName?] using hn
    · exact h
  all_goals exact h

/-- Deleting by ID what a lookup by name found leaves nothing of that name, when names are
    distinct. -/
theorem find?_filter_id_eq_none {α : Type} (name id : α → String) {l : List α}
    (hl : (l.map name).Nodup) {n : String} {x : α} (hx : l.find? (fun y => name y = n) = some x) :
    (l.filter fun y => id y ≠ id x).find? (fun y => name y = n) = none := by
  refine List.find?_eq_none.2 fun y hy hn => ?_
  have hxn : name x = n := by simpa using List.find?_some hx
  have hyx := List.inj_on_of_nodup_map hl (List.mem_filter.1 hy).1 (List.mem_of_find?_eq_some hx)
    (by simp_all)
  simp_all

/-- The teardown finds no volume group to delete: none has its ID, or the ID is empty. -/
def GroupGone (groupID : String) : Prop := groupID ∈ o.volumeGroups.map (·.id) → groupID = ""

/-- The lookup of `name` finds no policy the teardown would delete. -/
def PolicySettled (name : String) : Prop :=
  ∀ pp, o.protectionPolicyByName? name = some pp →
    ¬ (pp.id ≠ "" ∧ pp.volumes = [] ∧ pp.volumeGroups = [])

/-- The lookup of `name` finds no rule the teardown would delete. -/
def RuleSettled (name : String) : Prop :=
  ∀ rr, o.replicationRuleByName? name = some rr → ¬ (rr.id ≠ "" ∧ rr.protectionPolicies = [])

variable {o}

theorem teardownGroup_of_gone {groupID : String} (h : o.GroupGone groupID) :
    o.teardownGroup groupID = o := by
  unfold teardownGroup
  cases hf : o.volumeGroup? groupID with
  | none => rfl
  | some vg =>
    have hid : vg.id = groupID := by simpa using List.find?_some hf
    have hempty := h (List.mem_map.2 ⟨vg, List.mem_of_find?_eq_some hf, hid⟩)
    simp [hid, hempty]

theorem teardownPolicy_of_settled {name : String} (h : o.PolicySettled name) :
    o.teardownPolicy name = o := by
  unfold teardownPolicy
  cases hf : o.protectionPolicyByName? name with
  | none => rfl
  | some pp => simp [h pp hf]

theorem teardownRule_of_settled {name : String} (h : o.RuleSettled name) :
    o.teardownRule name = o := by
  unfold teardownRule
  cases hf : o.replicationRuleByName? name with
  | none => rfl
  | some rr => simp [h rr hf]

/-- A teardown that finds nothing to delete changes nothing. -/
theorem teardown_of_settled {groupID vgName : String} (hgroup : o.GroupGone groupID)
    (hpolicy : o.PolicySettled ("pp-" ++ vgName)) (hrule : o.RuleSettled ("rr-" ++ vgName)) :
    o.teardown groupID vgName = o := by
  rw [teardown, teardownGroup_of_gone hgroup, teardownPolicy_of_settled hpolicy,
    teardownRule_of_settled hrule]

variable (o)

theorem gone_teardownGroup (groupID : String) : (o.teardownGroup groupID).GroupGone groupID := by
  unfold teardownGroup
  cases hf : o.volumeGroup? groupID with
  | none =>
    intro hmem
    obtain ⟨vg, hvg, rfl⟩ := List.mem_map.1 hmem
    simpa using List.find?_eq_none.1 hf vg hvg
  | some vg =>
    have hid : vg.id = groupID := by simpa using List.find?_some hf
    by_cases hne : vg.id = ""
    · simp [hne, ← hid, GroupGone]
    · simp [hne, GroupGone, deleteVolumeGroup]

@[simp] theorem teardownRule_volumeGroups (name : String) :
    (o.teardownRule name).volumeGroups = o.volumeGroups := by
  unfold teardownRule; split <;> (try split) <;> rfl

@[simp] theorem teardownRule_protectionPolicies (name : String) :
    (o.teardownRule name).protectionPolicies = o.protectionPolicies := by
  unfold teardownRule; split <;> (try split) <;> rfl

@[simp] theorem teardownGroup_replicationRules (groupID : String) :
    (o.teardownGroup groupID).replicationRules = o.replicationRules := by
  unfold teardownGroup; split <;> (try split) <;> (try split) <;> rfl

/-- The teardown renames nothing and moves no group to another ID. -/
theorem teardownGroup_names (groupID : String) :
    (o.teardownGroup groupID).protectionPolicies.map (·.name) =
      o.protectionPolicies.map (·.name) := by
  unfold teardownGroup
  split <;> (try split) <;> (try split) <;>
    simp [deleteVolumeGroup, assignProtectionPolicy, Function.comp_def]

theorem teardownPolicy_names (name : String) :
    (o.teardownPolicy name).replicationRules.map (·.name) = o.replicationRules.map (·.name) := by
  unfold teardownPolicy
  split <;> (try split) <;> simp [deleteProtectionPolicy, Function.comp_def]

theorem teardownPolicy_ids (name : String) :
    (o.teardownPolicy name).volumeGroups.map (·.id) = o.volumeGroups.map (·.id) := by
  unfold teardownPolicy
  split <;> (try split) <;> simp [deleteProtectionPolicy, Function.comp_def, apply_ite]

theorem settled_teardownPolicy (h : (o.protectionPolicies.map (·.name)).Nodup) (name : String) :
    (o.teardownPolicy name).PolicySettled name := by
  intro q hq
  unfold teardownPolicy at hq
  cases hf : o.protectionPolicyByName? name with
  | none => simp [hf] at hq
  | some pp =>
    simp only [hf] at hq
    by_cases hg : pp.id ≠ "" ∧ pp.volumes = [] ∧ pp.volumeGroups = []
    · simp only [if_pos hg, protectionPolicyByName?, deleteProtectionPolicy] at hq
      rw [find?_filter_id_eq_none ProtectionPolicy.name ProtectionPolicy.id h hf] at hq
      cases hq
    · rw [if_neg hg, hf] at hq
      cases hq
      exact hg

theorem settled_teardownRule (h : (o.replicationRules.map (·.name)).Nodup) (name : String) :
    (o.teardownRule name).RuleSettled name := by
  intro q hq
  unfold teardownRule at hq
  cases hf : o.replicationRuleByName? name with
  | none => simp [hf] at hq
  | some rr =>
    simp only [hf] at hq
    by_cases hg : rr.id ≠ "" ∧ rr.protectionPolicies = []
    · simp only [if_pos hg, replicationRuleByName?, deleteReplicationRule] at hq
      rw [find?_filter_id_eq_none ReplicationRule.name ReplicationRule.id h hf] at hq
      cases hq
    · rw [if_neg hg, hf] at hq
      cases hq
      exact hg

/-- A second teardown of the same group changes nothing, when policies and rules have distinct
    names: the first left no group of the ID, and the lookups of the policy and the rule by name
    find nothing it would delete. -/
theorem teardown_teardown (h : o.NamesUnique) (groupID vgName : String) :
    (o.teardown groupID vgName).teardown groupID vgName = o.teardown groupID vgName := by
  have hgone : (o.teardown groupID vgName).GroupGone groupID := fun hmem =>
    o.gone_teardownGroup groupID (by simpa [teardown, teardownPolicy_ids] using hmem)
  have hpolicy : (o.teardown groupID vgName).PolicySettled ("pp-" ++ vgName) := fun pp hpp =>
    (o.teardownGroup groupID).settled_teardownPolicy (by rw [teardownGroup_names]; exact h.1) _ pp
      (by simpa [teardown, protectionPolicyByName?] using hpp)
  have hrule : (o.teardown groupID vgName).RuleSettled ("rr-" ++ vgName) :=
    settled_teardownRule _ (by simpa [teardownPolicy_names] using h.2) _
  exact teardown_of_settled hgone hpolicy hrule

end ArrayObjects

/-- Whatever the calls and their fates, the arrays keep the names of their policies, and of their
    rules, distinct. -/
theorem World.namesUnique_serve {w : World} (h : ∀ a, (w.arrays a).NamesUnique) (c : Call) :
    ∀ a, ((World.serve c w).2.arrays a).NamesUnique := by
  intro a'
  unfold World.serve World.apply
  split
  · exact h a'
  · split
    · rename_i a _
      by_cases ha : a' = a
      · subst ha
        simp only [Function.update_same]
        exact (h a').serve c
      · simp only [Function.update_noteq ha]
        exact h a'
    · exact h a'

/-- Against arrays on which every call takes effect, and lookups and deletions of absent objects
    fail as not found: when each array's protection policies have distinct names, and so have its
    replication rules, a teardown that succeeded succeeds again on the arrays it left, and leaves
    them as they are. -/
theorem deleteStorageProtectionGroup_repeatable (s : Service) (req : ProtectionGroupRequest)
    (arrays : String → ArrayObjects) (hnames : ∀ a, (arrays a).NamesUnique)
    (hok : ((s.deleteStorageProtectionGroup req).interp World.serve ⟨arrays, []⟩).1 =
      .ok (some (), none)) :
    let after := ((s.deleteStorageProtectionGroup req).interp World.serve ⟨arrays, []⟩).2
    (s.deleteStorageProtectionGroup req).interp World.serve after = (.ok (some (), none), after) := by
  obtain ⟨arr, vgName, harr, hname⟩ := Service.deleteStorageProtectionGroup_ok hok
  simp only [Service.deleteStorageProtectionGroup_interp s req harr hname, Function.update_same,
    Function.update_idem, ArrayObjects.teardown_teardown _ (hnames _)]

/-- When the deletion of an unprotected group fails with an error that is no `APIError` other
    than not found, a broken connection say, and every other call takes effect, the teardown
    succeeds and leaves the group; a second teardown against the arrays it left succeeds too, and
    deletes the group. -/
theorem deleteStorageProtectionGroup_second_run_deletes_group (s : Service)
    (req : ProtectionGroupRequest) {arr : PowerStoreArray}
    (harr : s.groupArray req.protectionGroupAttributes = .ok arr) {vgName : String}
    (hname : s.localParam req.protectionGroupAttributes "VolumeGroupName" = some vgName)
    (arrays : String → ArrayObjects) {vg : VolumeGroup}
    (hvg : (arrays arr.globalID).volumeGroup? req.protectionGroupId = some vg) (hid : vg.id ≠ "")
    (hpp : vg.protectionPolicyID = "") {e : GoError}
    (he : isAPIErrorOtherThanNotFound (some e) = false) :
    let run := fun w => (s.deleteStorageProtectionGroup req).interp World.serve w
    let first := run ⟨arrays, [.effect, .fail e]⟩
    let second := run ⟨first.2.arrays, []⟩
    first.1 = .ok (some (), none) ∧
      req.protectionGroupId ∈ (first.2.arrays arr.globalID).volumeGroups.map (·.id) ∧
      second.1 = .ok (some (), none) ∧
      req.protectionGroupId ∉ (second.2.arrays arr.globalID).volumeGroups.map (·.id) := by
  have hgid : vg.id = req.protectionGroupId := by simpa using List.find?_some hvg
  have hfirst : (s.deleteStorageProtectionGroup req).interp World.serve
      ⟨arrays, [.effect, .fail e]⟩ = (.ok (some (), none), ⟨Function.update arrays arr.globalID
        (((arrays arr.globalID).teardownPolicy ("pp-" ++ vgName)).teardownRule ("rr-" ++ vgName)),
        []⟩) := by
    rw [Service.deleteStorageProtectionGroup_eq s req harr, hname]
    simp only [Service.groupPhase_interp_of_failed_delete _ _ _ _ hvg hid hpp he,
      Service.policyPhase_interp, Service.rulePhase_interp, Function.update_same,
      Function.update_idem]
  simp only [hfirst, Service.deleteStorageProtectionGroup_interp s req harr hname,
    Function.update_same]
  refine ⟨trivial, ?_, trivial, fun h => hid (hgid.trans ?_)⟩
  · simpa [ArrayObjects.teardownPolicy_ids, ← hgid] using
      List.mem_map_of_mem (·.id) (List.mem_of_find?_eq_some hvg)
  · exact ArrayObjects.gone_teardownGroup _ _
      (by simpa [ArrayObjects.teardown, ArrayObjects.teardownPolicy_ids] using h)

/-- The group `pg1` of `PS1`, whose deletion meets a reset connection. -/
theorem deleteStorageProtectionGroup_second_run_deletes_group_reset :
    (sampleTeardownArrays "PS1").volumeGroup? "pg1" =
        some { id := "pg1", name := "vg1", protectionPolicyID := "" } ∧
      isAPIErrorOtherThanNotFound (some (.plain "connection reset by peer")) = false ∧
    let run := fun w =>
      (sampleService.deleteStorageProtectionGroup ⟨"pg1", sampleGroupAttributes⟩).interp World.serve w
    let first := run ⟨sampleTeardownArrays, [.effect, .fail (.plain "connection reset by peer")]⟩
    let second := run ⟨first.2.arrays, []⟩
    first.1 = .ok (some (), none) ∧
      "pg1" ∈ (first.2.arrays "PS1").volumeGroups.map (·.id) ∧
      second.1 = .ok (some (), none) ∧
      "pg1" ∉ (second.2.arrays "PS1").volumeGroups.map (·.id) :=
  ⟨rfl, rfl, @deleteStorageProtectionGroup_second_run_deletes_group sampleService
    ⟨"pg1", sampleGroupAttributes⟩ (sampleArray "PS1" "10.0.0.1") rfl "vg1" rfl sampleTeardownArrays
    _ rfl (by decide) rfl _ rfl⟩

end PowerStoreCsi
