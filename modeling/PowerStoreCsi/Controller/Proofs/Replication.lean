import PowerStoreCsi.Array.Proofs.Registry
import PowerStoreCsi.Controller.Replication

set_option autoImplicit false

/-! # Proofs: replication actions

`validateRSState` sorts every (state, action) pair into one of three answers, and
`executeAction` is fixed by that answer: it returns at once when the session is in the desired
state or still failing over, and otherwise makes exactly one array call. What it then returns is
an error only when the array refused a failover from the destination side; every other refusal
of the action is dropped, and `Service.executeAction` goes on to report success. When
`Service.executeAction` issues no action, the session already was in the state the status
reports as the action's goal. -/

namespace PowerStoreCsi

variable (session : ReplicationSession) (pstoreClient : String) (action : ActionType)
  (failoverParams : Option FailoverParams)

/-- The states in which a session already is where an action leads: `OK` after a resume or a
    reprotect, one of the paused states after a pause, `Failed_Over` after a failover. A sync
    has none. -/
def ActionType.desiredStates : ActionType → List String
  | .resume | .reprotect => ["OK"]
  | .pause => ["Paused", "Paused_For_Migration", "Paused_For_NDU"]
  | .failover => ["Failed_Over"]
  | .sync => []

/-- `validateRSState` decides by the table of desired states, with `Failing_Over` under a
    failover as the one state in which neither holds; it never reports an error. -/
theorem validateRSState_eq :
    validateRSState session action =
      if session.state ∈ action.desiredStates then (true, false, none)
      else if action = .failover ∧ session.state = "Failing_Over" then (false, false, none)
      else (false, true, none) := by
  unfold validateRSState
  cases action <;> simp only [ActionType.desiredStates, List.mem_cons, List.mem_singleton,
    List.not_mem_nil, or_false, reduceCtorEq, false_and, true_and, if_false]
  -- a failover: `Failing_Over` and `Failed_Over` are tested in the other order
  split_ifs <;> simp_all

theorem executeAction_of_inDesiredState
    (h : validateRSState session action = (true, false, none)) :
    executeAction session pstoreClient action failoverParams = .pure none := by
  simp [executeAction, h]

theorem executeAction_of_pending
    (h : validateRSState session action = (false, false, none)) :
    executeAction session pstoreClient action failoverParams =
      .pure (some (.status .aborted
        ("Execute action: RS (" ++ session.id ++ ") is still executing previous action"))) := by
  simp [executeAction, h]

/-- The only error `executeAction` makes of the array's answer. -/
def actionError (err : Option GoError) : Option GoError :=
  match err with
  | some (.api e) =>
    if e.unableToFailoverFromDestination then
      some (.status .internal ("Execute action: Failed to modify RS (" ++ session.id ++
        ") - Error (" ++ e.message ++ ")"))
    else none
  | _ => none

theorem executeAction_of_required
    (h : validateRSState session action = (false, true, none)) :
    executeAction session pstoreClient action failoverParams =
      .call (.executeActionOnReplicationSession pstoreClient session.id action failoverParams)
        fun err => .pure (actionError session err) := by
  simp [executeAction, h]
  funext err
  rcases err with _ | (e | _ | _) <;> simp [actionError, GoError.asAPIError, GoError.error, apply_ite]

/-- The three things `executeAction` can be: nothing, in a state the action leads to; an
    error and no call, outside one; or the one call of the action on the session. -/
theorem executeAction_cases :
    (session.state ∈ action.desiredStates ∧
      executeAction session pstoreClient action failoverParams = .pure none) ∨
    (∃ e, executeAction session pstoreClient action failoverParams = .pure (some e)) ∨
    executeAction session pstoreClient action failoverParams =
      .call (.executeActionOnReplicationSession pstoreClient session.id action failoverParams)
        fun err => .pure (actionError session err) := by
  by_cases hd : session.state ∈ action.desiredStates
  · exact .inl ⟨hd, executeAction_of_inDesiredState _ _ _ _ (by rw [validateRSState_eq, if_pos hd])⟩
  by_cases hp : action = .failover ∧ session.state = "Failing_Over"
  · exact .inr (.inl ⟨_, executeAction_of_pending _ _ _ _
      (by rw [validateRSState_eq, if_neg hd, if_pos hp])⟩)
  · exact .inr (.inr (executeAction_of_required _ _ _ _
      (by rw [validateRSState_eq, if_neg hd, if_neg hp])))

/-- A refusal of the action other than a failover from the destination side leaves no trace in
    the answer: `executeAction` returns nil. -/
theorem actionError_of_not_failover_refusal (err : GoError)
    (herr : ∀ e, err.asAPIError = some e → e.unableToFailoverFromDestination = false) :
    actionError session (some err) = none := by
  rcases err with e | _ | _ <;> simp_all [actionError, GoError.asAPIError]

/-- `Service.ExecuteAction` answers `Success = true` for an action the array refused: the
    session is read, the action is refused with an error that is not a refused failover from
    the destination side, the status is read again from the unchanged session, and the handler
    returns the success response with that status. -/
theorem executeAction_reports_success_on_refused_action (s : Service)
    (req : ExecuteActionRequest) (arr : PowerStoreArray) (rs : ReplicationSession)
    (action : ActionType) (params : Option FailoverParams) (err : GoError)
    (harr : s.groupArray req.protectionGroupAttributes = .ok arr)
    (hact : sessionAction req.action = some (action, params))
    (hreq : validateRSState rs action = (false, true, none))
    (herr : ∀ e, err.asAPIError = some e → e.unableToFailoverFromDestination = false) :
    (s.executeAction req).Reaches
      [⟨.getReplicationSessionByLocalResourceID arr.globalID req.protectionGroupId, (rs, none)⟩,
        ⟨.executeActionOnReplicationSession arr.globalID rs.id action params, some err⟩,
        ⟨.getReplicationSessionByLocalResourceID arr.globalID req.protectionGroupId, (rs, none)⟩]
      (.ok (some ⟨true, req.action, ⟨protectionGroupState rs.state, rs.role != "Destination"⟩⟩,
        none)) := by
  simp only [Service.executeAction, Service.getStorageProtectionGroupStatus, harr, hact,
    Prog.pure_eq, Prog.bind_eq, Prog.query_bind, Prog.pure_bind]
  refine .call _ ?_
  simp only [executeAction_of_required _ _ _ _ hreq, Prog.call_bind, Prog.pure_bind]
  refine .call _ ?_
  simp only [actionError_of_not_failover_refusal _ _ herr, Prog.pure_bind, Prog.query_bind]
  refine .call _ ?_
  exact .pure _

/-- A controller serving the one array `PS1`, under the replication prefix of the driver's
    deployments. -/
def sampleService : Service :=
  ⟨⟨GoMap.empty.insert "PS1" (sampleArray "PS1" "10.0.0.1"), GoMap.empty,
    some (sampleArray "PS1" "10.0.0.1")⟩, "replication.storage.dell.com/"⟩

/-- The attributes the driver gives protection group `pg1` of volume group `vg1` on `PS1`. -/
def sampleGroupAttributes : GoMap String String :=
  (GoMap.empty.insert "replication.storage.dell.com/globalID" "PS1").insert
    "replication.storage.dell.com/VolumeGroupName" "vg1"

/-- A `Suspend` of a synchronised session, refused by the array with a server error (500). -/
theorem executeAction_reports_success_on_refused_action_sample :
    (sampleService.executeAction ⟨"pg1", sampleGroupAttributes, .suspend⟩).Reaches
      [⟨.getReplicationSessionByLocalResourceID "PS1" "pg1",
          ({ id := "rs1", state := "OK", role := "Source" }, none)⟩,
        ⟨.executeActionOnReplicationSession "PS1" "rs1" .pause none,
          some (.api ⟨500, "Internal Server Error"⟩)⟩,
        ⟨.getReplicationSessionByLocalResourceID "PS1" "pg1",
          ({ id := "rs1", state := "OK", role := "Source" }, none)⟩]
      (.ok (some ⟨true, .suspend, ⟨.synchronized, true⟩⟩, none)) :=
  executeAction_reports_success_on_refused_action sampleService _ (sampleArray "PS1" "10.0.0.1")
    { id := "rs1", state := "OK", role := "Source" } .pause none (.api ⟨500, "Internal Server Error"⟩)
    rfl rfl rfl fun _ h => by cases h; rfl

/-! ## An action left out

`ExecuteAction` issues no call when `validateRSState` finds the session in a state the action
leads to. Each such state is one that `GetStorageProtectionGroupStatus` reports as the action's
goal, so the skip never hides an action that was due. The converse fails for `System_Paused`:
the status reports a suspended group, but a `Suspend` still issues a pause. -/

/-- The state `GetStorageProtectionGroupStatus` reports once a supported action has taken
    effect: failed over after a failover, suspended after a suspend, synchronized after a resume
    or a reprotect. A sync has no such state. -/
def ReplicationActionType.goal : ReplicationActionType → Option ProtectionGroupState
  | .failoverRemote | .unplannedFailoverLocal => some .failedOver
  | .suspend => some .suspended
  | .resume | .reprotectLocal => some .synchronized
  | .sync | .other _ => none

/-- Every state in which a session already is where its action leads is reported as the
    action's goal. -/
theorem goal_of_desiredState {a : ReplicationActionType} {action : ActionType}
    {params : Option FailoverParams} (ha : sessionAction a = some (action, params))
    {state : String} (hs : state ∈ action.desiredStates) :
    a.goal = some (protectionGroupState state) := by
  cases a <;> simp only [sessionAction, Option.some.injEq, Prod.mk.injEq, reduceCtorEq] at ha <;>
    obtain ⟨rfl, rfl⟩ := ha <;>
    simp only [ActionType.desiredStates, List.mem_cons, List.mem_singleton, List.not_mem_nil,
      or_false] at hs <;>
    rcases hs with rfl | rfl | rfl <;> decide

/-- A successful `ExecuteAction` that asks the array for no action read the session twice, and
    the first read found it already in the state that `GetStorageProtectionGroupStatus` reports
    as the action's goal; the response reports the second read. -/
theorem executeAction_skips_only_at_goal (s : Service) (req : ExecuteActionRequest)
    (t : List Event) (resp : ExecuteActionResponse)
    (h : (s.executeAction req).Reaches t (.ok (some resp, none)))
    (hskip : ∀ ev ∈ t, ∀ a id action params,
      ev.call ≠ .executeActionOnReplicationSession a id action params) :
    ∃ arr rs rs', s.groupArray req.protectionGroupAttributes = .ok arr ∧
      t = [⟨.getReplicationSessionByLocalResourceID arr.globalID req.protectionGroupId, (rs, none)⟩,
        ⟨.getReplicationSessionByLocalResourceID arr.globalID req.protectionGroupId, (rs', none)⟩] ∧
      req.action.goal = some (protectionGroupState rs.state) ∧
      resp = ⟨true, req.action, ⟨protectionGroupState rs'.state, rs'.role != "Destination"⟩⟩ := by
  simp only [Service.executeAction, Prog.bind_eq, Prog.pure_eq, Prog.pure_bind, Prog.query_bind]
    at h
  cases harr : s.groupArray req.protectionGroupAttributes with
  | error err => simp only [harr] at h; cases (Prog.reaches_pure_iff.1 h).2
  | ok arr =>
  simp only [harr] at h
  obtain ⟨⟨rs, err⟩, t₁, rfl, h₁⟩ := Prog.reaches_call_iff.1 h
  cases err with
  | some err => cases (Prog.reaches_pure_iff.1 h₁).2
  | none =>
  cases hact : sessionAction req.action with
  | none => simp only [hact] at h₁; cases (Prog.reaches_pure_iff.1 h₁).2
  | some ap =>
  obtain ⟨action, params⟩ := ap
  simp only [hact] at h₁
  obtain ⟨t₂, t₃, resErr, rfl, hex, h₃⟩ := h₁.of_bind_ok
  -- outside a desired state, the action either ends the run with an error or is issued
  rcases executeAction_cases rs arr.globalID action params with ⟨hin, he⟩ | ⟨e, he⟩ | he
  rotate_left
  · rw [he] at hex
    obtain ⟨rfl, ⟨⟩⟩ := Prog.reaches_pure_iff.1 hex
    cases (Prog.reaches_pure_iff.1 h₃).2
  · rw [he] at hex
    obtain ⟨r, t', rfl, -⟩ := Prog.reaches_call_iff.1 hex
    exact absurd rfl (hskip _ (List.mem_cons_of_mem _ (List.mem_append_left _
      (List.mem_cons_self _ _))) _ _ _ _)
  rw [he] at hex
  obtain ⟨rfl, ⟨⟩⟩ := Prog.reaches_pure_iff.1 hex
  -- the status is read from the session again
  simp only [Service.getStorageProtectionGroupStatus, harr, Prog.bind_eq, Prog.pure_eq,
    Prog.query_bind, Prog.call_bind, Prog.pure_bind] at h₃
  obtain ⟨⟨rs', err⟩, t₄, rfl, h₄⟩ := Prog.reaches_call_iff.1 h₃
  cases err with
  | some err => cases (Prog.reaches_pure_iff.1 h₄).2
  | none =>
  obtain ⟨rfl, ⟨⟩⟩ := Prog.reaches_pure_iff.1 h₄
  exact ⟨arr, rs, rs', rfl, rfl, goal_of_desiredState hact hin, rfl⟩

/-- A `Resume` of a synchronised session: nothing is issued, and the status read twice is the
    resume's goal. -/
theorem executeAction_skips_only_at_goal_resume :
    (∀ ev ∈ [(⟨.getReplicationSessionByLocalResourceID "PS1" "pg1",
          ({ id := "rs1", state := "OK", role := "Source" }, none)⟩ : Event),
        ⟨.getReplicationSessionByLocalResourceID "PS1" "pg1",
          ({ id := "rs1", state := "OK", role := "Source" }, none)⟩],
      ∀ a id action params, ev.call ≠ .executeActionOnReplicationSession a id action params) ∧
    ∃ arr rs rs', sampleService.groupArray sampleGroupAttributes = .ok arr ∧
      [(⟨.getReplicationSessionByLocalResourceID "PS1" "pg1",
          ({ id := "rs1", state := "OK", role := "Source" }, none)⟩ : Event),
        ⟨.getReplicationSessionByLocalResourceID "PS1" "pg1",
          ({ id := "rs1", state := "OK", role := "Source" }, none)⟩] =
        [⟨.getReplicationSessionByLocalResourceID arr.globalID "pg1", (rs, none)⟩,
          ⟨.getReplicationSessionByLocalResourceID arr.globalID "pg1", (rs', none)⟩] ∧
      ReplicationActionType.resume.goal = some (protectionGroupState rs.state) ∧
      (⟨true, .resume, ⟨.synchronized, true⟩⟩ : ExecuteActionResponse) =
        ⟨true, .resume, ⟨protectionGroupState rs'.state, rs'.role != "Destination"⟩⟩ :=
  have hskip : ∀ ev ∈ [(⟨.getReplicationSessionByLocalResourceID "PS1" "pg1",
        ({ id := "rs1", state := "OK", role := "Source" }, none)⟩ : Event),
      ⟨.getReplicationSessionByLocalResourceID "PS1" "pg1",
        ({ id := "rs1", state := "OK", role := "Source" }, none)⟩],
      ∀ a id action params, ev.call ≠ .executeActionOnReplicationSession a id action params := by
    simp
  ⟨hskip, executeAction_skips_only_at_goal sampleService ⟨"pg1", sampleGroupAttributes, .resume⟩
    _ _ (.call _ <| .call _ <| .pure _) hskip⟩

end PowerStoreCsi
