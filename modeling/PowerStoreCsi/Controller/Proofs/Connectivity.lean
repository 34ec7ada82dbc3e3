import PowerStoreCsi.ArrayModel
import PowerStoreCsi.Controller.Connectivity
import PowerStoreCsi.Controller.Proofs.Replication

set_option autoImplicit false

/-! # Proofs: what a "no IO in progress" answer rests on

`lastFourLoop` checks the last four samples, latest first, reading the clock for each sample
with positive IOPS and a timestamp; a run that ends with the "no IO" error is one in which every
such reading found its sample stale (`NoneActive`). `isIOInProgress` ends with an error after a
failed metrics query or after such a run (`IOCheckFailed`). The handler answers "no IO" with a
nil error only after every volume of the request passed one such check, on the array and volume
its handle decodes to: the local half of the handle, whatever the metrics query answered.

Against a world that holds the series of the one volume queried, and a clock with a fixed
reading (`metricsAt`), the check is a function of the series: nil exactly when one of its last four samples is active at that clock
reading (`isIOInProgress_interp`). -/

namespace PowerStoreCsi

/-! ## Samples and the clock -/

/-- A reading of the clock, as an event of a run. -/
def clockEvent (now : Int) : Event := ⟨.now, now⟩

/-- `NoneActive samples nows`: checking `samples` in turn, with the clock readings `nows` taken
    for the samples with positive IOPS and a timestamp, finds none of them less than 60 s old. -/
inductive NoneActive : List MetricsSample → List Int → Prop
  | nil : NoneActive [] []
  | idle {sample : MetricsSample} {samples : List MetricsSample} {nows : List Int}
      (h : ¬ (0 < sample.totalIops ∧ sample.timestamp.isSome)) :
      NoneActive samples nows → NoneActive (sample :: samples) nows
  | stale {sample : MetricsSample} {samples : List MetricsSample} {nows : List Int} {t now : Int}
      (hiops : 0 < sample.totalIops) (ht : sample.timestamp = some t)
      (hstale : 60000000000 ≤ now - t) :
      NoneActive samples nows → NoneActive (sample :: samples) (now :: nows)

/-- The samples the loop checks from `n`, latest first: those at indices below `n` and at least
    `len(resp) - 4`. -/
def checkedFrom (resp : List MetricsSample) (n : Nat) : List MetricsSample :=
  ((resp.take n).drop (resp.length - 4)).reverse

/-- The last four samples, latest first. -/
def lastFour (resp : List MetricsSample) : List MetricsSample := checkedFrom resp resp.length

theorem checkedFrom_zero (resp : List MetricsSample) : checkedFrom resp 0 = [] := by
  simp [checkedFrom]

theorem checkedFrom_succ_of_lt {resp : List MetricsSample} {n : Nat} (hc : resp.length ≤ n + 4)
    (hn : n < resp.length) : checkedFrom resp (n + 1) = resp[n] :: checkedFrom resp n := by
  have hlen : resp.length - 4 ≤ (resp.take n).length := by simp; omega
  unfold checkedFrom
  rw [List.take_succ, List.getElem?_eq_getElem hn, Option.toList_some,
    List.drop_append_of_le_length hlen, List.reverse_append]
  rfl

theorem checkedFrom_succ_of_le {resp : List MetricsSample} {n : Nat} (hc : n + 4 < resp.length) :
    checkedFrom resp (n + 1) = [] := by
  simp [checkedFrom]; omega

/-! ## The loop over the last four samples -/

theorem lastFourLoop_succ_of_lt {resp : List MetricsSample} {n : Nat} (hc : resp.length ≤ n + 4)
    (hn : n < resp.length) :
    lastFourLoop resp (n + 1) =
      if resp[n].totalIops > 0 then
        (checkIfEntryIsLatest resp[n].timestamp).bind fun fresh =>
          if fresh then .pure none else lastFourLoop resp n
      else lastFourLoop resp n := by
  simp only [lastFourLoop, Prog.index_of_lt hn, if_pos (by omega : (n : Int) ≥ resp.length - 4)]
  rfl

theorem lastFourLoop_succ_of_le {resp : List MetricsSample} {n : Nat} (hc : n + 4 < resp.length) :
    lastFourLoop resp (n + 1) = .pure (some (.plain "no IOInProgress")) := by
  simp only [lastFourLoop, if_neg (by omega : ¬ (n : Int) ≥ resp.length - 4)]
  rfl

/-- A run of the loop that ends with an error read the clock once for each checked sample with
    positive IOPS and a timestamp, and found each of them stale. -/
theorem lastFourLoop_finds_none_active {resp : List MetricsSample} {n : Nat} (hn : n ≤ resp.length)
    {t : List Event} {e : GoError} (h : (lastFourLoop resp n).Reaches t (.ok (some e))) :
    e = .plain "no IOInProgress" ∧ ∃ nows, t = nows.map clockEvent ∧
      NoneActive (checkedFrom resp n) nows := by
  induction n generalizing t with
  | zero =>
    obtain ⟨rfl, ⟨⟩⟩ := Prog.reaches_pure_iff.1 h
    exact ⟨rfl, [], rfl, checkedFrom_zero resp ▸ .nil⟩
  | succ n ih =>
    by_cases hc : n + 4 < resp.length
    · rw [lastFourLoop_succ_of_le hc] at h
      obtain ⟨rfl, ⟨⟩⟩ := Prog.reaches_pure_iff.1 h
      exact ⟨rfl, [], rfl, checkedFrom_succ_of_le hc ▸ .nil⟩
    have hlt : n < resp.length := by omega
    rw [lastFourLoop_succ_of_lt (by omega) hlt] at h
    rw [checkedFrom_succ_of_lt (by omega) hlt]
    have next := fun {t} (h' : (lastFourLoop resp n).Reaches t (.ok (some e))) => ih (by omega) h'
    split at h
    · next hiops =>
      cases hts : resp[n].timestamp with
      | none =>
        rw [hts] at h
        obtain ⟨rfl, nows, rfl, hnone⟩ := next h
        exact ⟨rfl, nows, rfl, .idle (by simp [hts]) hnone⟩
      | some ts =>
        rw [hts] at h
        obtain ⟨now, t', rfl, h'⟩ := Prog.reaches_call_iff.1 h
        simp only [Prog.pure_eq, Prog.pure_bind] at h'
        split at h'
        · cases (Prog.reaches_pure_iff.1 h').2
        · next hfresh =>
          obtain ⟨rfl, nows, rfl, hnone⟩ := next h'
          exact ⟨rfl, now :: nows, rfl, .stale hiops hts (by simp at hfresh; omega) hnone⟩
    · next hiops =>
      obtain ⟨rfl, nows, rfl, hnone⟩ := next h
      exact ⟨rfl, nows, rfl, .idle (fun h => hiops h.1) hnone⟩

/-! ## One volume's check -/

/-- The metrics query `IsIOInProgress` makes for a protocol, with its answer. -/
def metricsEvent (protocol arrayID volID : String) (answer : List MetricsSample × Option GoError) :
    Event :=
  if protocol = "scsi" then ⟨.performanceMetricsByVolume arrayID volID, answer⟩
  else ⟨.performanceMetricsByFileSystem arrayID volID, answer⟩

/-- The run of a check that found no IO in progress: the metrics query, answered with an error,
    or with samples of which the clock readings that follow found none of the last four active. -/
def IOCheckFailed (protocol arrayID volID : String) (t : List Event) : Prop :=
  ∃ resp err nows, t = metricsEvent protocol arrayID volID (resp, err) :: nows.map clockEvent ∧
    (err.isSome ∧ nows = [] ∨ err = none ∧ NoneActive (lastFour resp) nows)

/-- `IsIOInProgress` reports an error only after a failed metrics query or a run of the loop
    that found every checked sample stale. -/
theorem isIOInProgress_failed {volID : String} {arr : PowerStoreArray} {protocol : String}
    {t : List Event} {e : GoError} (h : (isIOInProgress volID arr protocol).Reaches t (.ok (some e))) :
    IOCheckFailed protocol arr.globalID volID t := by
  by_cases hp : protocol = "scsi" <;>
  · simp only [isIOInProgress, hp, if_true, if_false, Prog.bind_eq, Prog.pure_eq, Prog.pure_bind,
      Prog.query_bind] at h
    obtain ⟨⟨resp, err⟩, t', rfl, h'⟩ := Prog.reaches_call_iff.1 h
    refine ⟨resp, err, ?_⟩
    cases err with
    | some err =>
      obtain ⟨rfl, -⟩ := Prog.reaches_pure_iff.1 h'
      exact ⟨[], by simp [metricsEvent, hp], .inl ⟨rfl, rfl⟩⟩
    | none =>
      obtain ⟨-, nows, rfl, hnone⟩ := lastFourLoop_finds_none_active le_rfl h'
      exact ⟨nows, by simp [metricsEvent, hp], .inr ⟨rfl, hnone⟩⟩

/-! ## One volume's check against a fixed clock -/

/-- A world that holds one series of samples, that of volume `volID` on array `arrayID` under
    `protocol`: the query for it (per volume for `scsi`, per file system otherwise) answers
    `answer`, every other metrics query fails as not found, and every reading of the clock
    answers `now`; it keeps no state. -/
def metricsAt (arrayID volID protocol : String) (answer : List MetricsSample × Option GoError)
    (now : Int) : (c : Call) → Unit → c.Resp × Unit
  | .performanceMetricsByVolume a v, _ =>
    (if protocol = "scsi" ∧ a = arrayID ∧ v = volID then answer else ([], some notFoundError), ())
  | .performanceMetricsByFileSystem a v, _ =>
    (if protocol ≠ "scsi" ∧ a = arrayID ∧ v = volID then answer else ([], some notFoundError), ())
  | .now, _ => (now, ())
  | c, _ => (c.failWith notFoundError, ())

/-- A sample shows IO at clock reading `now`: positive IOPS and a timestamp less than 60 s
    before `now`. -/
def activeAt (now : Int) (sample : MetricsSample) : Bool :=
  0 < sample.totalIops && sample.timestamp.any fun t => now - t < 60000000000

/-- Against a fixed clock the loop answers nil exactly when a checked sample is active, and it
    never indexes outside the series. -/
theorem lastFourLoop_interp (arrayID volID protocol : String)
    (answer : List MetricsSample × Option GoError) (now : Int)
    {resp : List MetricsSample} {n : Nat} (hn : n ≤ resp.length) :
    (lastFourLoop resp n).interp (metricsAt arrayID volID protocol answer now) () =
      (.ok (if (checkedFrom resp n).any (activeAt now) then none
        else some (.plain "no IOInProgress")), ()) := by
  induction n with
  | zero => rw [checkedFrom_zero]; rfl
  | succ n ih =>
    by_cases hc : n + 4 < resp.length
    · rw [lastFourLoop_succ_of_le hc, checkedFrom_succ_of_le hc]; rfl
    have hlt : n < resp.length := by omega
    rw [lastFourLoop_succ_of_lt (by omega) hlt, checkedFrom_succ_of_lt (by omega) hlt,
      List.any_cons]
    have ih := ih (by omega)
    by_cases hiops : 0 < resp[n].totalIops
    · cases hts : resp[n].timestamp with
      | none => simp [hiops, hts, activeAt, checkIfEntryIsLatest, ih]
      | some t =>
        by_cases hfresh : now - t < 60000000000
        · simp [hiops, hts, activeAt, checkIfEntryIsLatest, hfresh, Prog.interp, metricsAt]
        · simp [hiops, hts, activeAt, checkIfEntryIsLatest, hfresh, Prog.interp, metricsAt, ih]
    · simp [hiops, activeAt, ih]

/-- The checked samples are those at indices from `len(resp) - 4` on. -/
theorem any_lastFour_iff (p : MetricsSample → Bool) (resp : List MetricsSample) :
    (lastFour resp).any p = true ↔
      ∃ i s, resp.length - 4 ≤ i ∧ resp[i]? = some s ∧ p s = true := by
  simp only [lastFour, checkedFrom, List.take_length, List.any_reverse, List.any_eq_true,
    List.mem_iff_getElem?, List.getElem?_drop]
  constructor
  · rintro ⟨s, ⟨j, hj⟩, hp⟩
    exact ⟨_, s, Nat.le_add_right _ j, hj, hp⟩
  · rintro ⟨i, s, hi, hs, hp⟩
    exact ⟨s, ⟨i - (resp.length - 4), by rwa [Nat.add_sub_cancel' hi]⟩, hp⟩

/-- `IsIOInProgress` against a fixed answer and clock: nil when a checked sample is active, the
    "no IO" error otherwise, the query's error wrapped when it fails, on either branch. -/
theorem isIOInProgress_interp (volID : String) (arr : PowerStoreArray) (protocol : String)
    (resp : List MetricsSample) (err : Option GoError) (now : Int) :
    ((isIOInProgress volID arr protocol).interp
      (metricsAt arr.globalID volID protocol (resp, err) now) ()).1 =
      match err with
      | some e => .ok (some (metricsQueryError e))
      | none => .ok (if (lastFour resp).any (activeAt now) then none
          else some (.plain "no IOInProgress")) := by
  by_cases hp : protocol = "scsi" <;> cases err <;>
    simp [isIOInProgress, hp, Prog.query, Prog.interp, metricsAt,
      lastFourLoop_interp _ _ _ _ _ (le_refl resp.length), lastFour]

/-- For every series of samples, volume, protocol and clock reading, `IsIOInProgress`, asking the
    array for the one series of the volume, runs to an answer without indexing outside the series; it answers nil exactly when one of the last four
    samples has positive IOPS and a timestamp less than 60 s old; the block and file-system
    branches answer alike; and a failed metrics query is answered with an error. -/
theorem isIOInProgress_io_window (volID : String) (arr : PowerStoreArray) (protocol : String)
    (resp : List MetricsSample) (now : Int) :
    let run := fun (answer : List MetricsSample × Option GoError) (protocol : String) =>
      ((isIOInProgress volID arr protocol).interp
        (metricsAt arr.globalID volID protocol answer now) ()).1
    (∃ e, run (resp, none) protocol = .ok e) ∧
    (run (resp, none) protocol = .ok none ↔ ∃ i s, resp.length - 4 ≤ i ∧ resp[i]? = some s ∧
      0 < s.totalIops ∧ ∃ t, s.timestamp = some t ∧ now - t < 60000000000) ∧
    run (resp, none) "scsi" = run (resp, none) protocol ∧
    ∀ e, run (resp, some e) protocol = .ok (some (metricsQueryError e)) := by
  have active : (lastFour resp).any (activeAt now) = true ↔ ∃ i s, resp.length - 4 ≤ i ∧
      resp[i]? = some s ∧ 0 < s.totalIops ∧ ∃ t, s.timestamp = some t ∧ now - t < 60000000000 := by
    have fresh (o : Option Int) : o.any (fun t => now - t < 60000000000) = true ↔
        ∃ t, o = some t ∧ now - t < 60000000000 := by
      cases o <;> simp
    rw [any_lastFour_iff]
    simp [activeAt, fresh]
  simp only [isIOInProgress_interp, ← active]
  refine ⟨⟨_, rfl⟩, ?_, trivial, fun _ => trivial⟩
  cases (lastFour resp).any (activeAt now) <;> simp

/-! ## The volumes of one array -/

namespace Service

variable (s : Service) (common : Common)

/-- The volume check of one array returns early only with an error, or with IO in progress. -/
theorem checkIOOfVolumes_answer {globalID : String} {rep : HostConnectivity} {volIDs : List String}
    {t : List Event} {answer : Option HostConnectivity × Option GoError}
    (h : (s.checkIOOfVolumes common globalID rep volIDs).Reaches t (.ok (some answer))) :
    answer.2.isSome ∨ answer = (some { rep with iosInProgress := true }, none) := by
  induction volIDs generalizing t with
  | nil => cases (Prog.reaches_pure_iff.1 h).2
  | cons volID rest ih =>
    simp only [checkIOOfVolumes, Prog.bind_eq, Prog.pure_eq, Prog.pure_bind] at h
    obtain ⟨t₁, t₂, ⟨vh, _⟩, -, -, h₂⟩ := h.of_bind_ok
    dsimp only at h₂
    split at h₂
    · cases (Prog.reaches_pure_iff.1 h₂).2; simp
    split at h₂
    · cases (Prog.reaches_pure_iff.1 h₂).2; simp
    obtain ⟨t₃, t₄, err, -, -, h₄⟩ := h₂.of_bind_ok
    split at h₄
    · cases (Prog.reaches_pure_iff.1 h₄).2; simp
    · exact ih h₄

/-- A volume check of one array that runs to its end decoded every volume to that array, found
    it in the registry, and ran a failed IO check on it, each in a part of the run. -/
theorem checkIOOfVolumes_completed {globalID : String} {rep : HostConnectivity}
    {volIDs : List String} {t : List Event}
    (h : (s.checkIOOfVolumes common globalID rep volIDs).Reaches t (.ok none)) :
    ∀ volID ∈ volIDs, ∃ vh e arr t₁ t₂,
      (parseVolumeID common s.registry.ipToArray volID s.registry.defaultArray none).Reaches t₁
        (.ok (vh, e)) ∧ vh.arrayID = globalID ∧ s.registry.arrays globalID = some arr ∧
      IOCheckFailed vh.protocol arr.globalID vh.localVolumeID t₂ ∧ t₁ ++ t₂ <:+: t := by
  induction volIDs generalizing t with
  | nil => simp
  | cons volID rest ih =>
    simp only [checkIOOfVolumes, Prog.bind_eq, Prog.pure_eq, Prog.pure_bind] at h
    obtain ⟨t₁, t₂, ⟨vh, e⟩, rfl, h₁, h₂⟩ := h.of_bind_ok
    dsimp only at h₂
    split at h₂
    · cases (Prog.reaches_pure_iff.1 h₂).2
    next hg =>
    cases hget : s.registry.getOneArray globalID with
    | error err =>
      rw [hget] at h₂
      cases (Prog.reaches_pure_iff.1 h₂).2
    | ok arr =>
      rw [hget] at h₂
      obtain ⟨t₃, t₄, err, rfl, h₃, h₄⟩ := h₂.of_bind_ok
      cases err with
      | none => cases (Prog.reaches_pure_iff.1 h₄).2
      | some e' =>
        have hhead : t₁ ++ t₃ <:+: t₁ ++ (t₃ ++ t₄) := by
          simpa using (List.prefix_append (t₁ ++ t₃) t₄).isInfix
        have htail : t₄ <:+: t₁ ++ (t₃ ++ t₄) := by
          simpa using (List.suffix_append (t₁ ++ t₃) t₄).isInfix
        intro v hv
        rcases List.mem_cons.1 hv with rfl | hv
        · exact ⟨vh, e, arr, t₁, t₃, h₁, not_not.1 hg, Registry.getOneArray_eq_ok.1 hget,
            isIOInProgress_failed h₃, hhead⟩
        · obtain ⟨vh', e'', arr', t₅, t₆, h₅, hg', harr', hio', hinf⟩ := ih h₄ v hv
          exact ⟨vh', e'', arr', t₅, t₆, h₅, hg', harr', hio', hinf.trans htail⟩

theorem insertKey_ne_nil (keys : List String) (k : String) : insertKey keys k ≠ [] := by
  unfold insertKey
  split
  · exact List.ne_nil_of_mem ‹_›
  · simp

/-- The set of arrays is not empty once a volume has been seen. -/
theorem collectGlobalIDs_ne_nil {keys volIDs globalIDs : List String} {t : List Event}
    (h : (s.collectGlobalIDs common keys volIDs).Reaches t (.ok globalIDs))
    (hne : keys ≠ [] ∨ volIDs ≠ []) : globalIDs ≠ [] := by
  induction volIDs generalizing keys t with
  | nil =>
    obtain ⟨-, ⟨⟩⟩ := Prog.reaches_pure_iff.1 h
    simpa using hne
  | cons volID rest ih =>
    simp only [collectGlobalIDs, Prog.bind_eq, Prog.pure_eq, Prog.pure_bind] at h
    obtain ⟨t₁, t₂, ⟨vh, e⟩, -, -, h₂⟩ := h.of_bind_ok
    dsimp only at h₂
    split at h₂
    · obtain ⟨t₃, t₄, d, -, -, h₄⟩ := h₂.of_bind_ok
      exact ih h₄ (.inl (insertKey_ne_nil _ _))
    · exact ih h₂ (.inl (insertKey_ne_nil _ _))

/-- `checkIfNodeIsConnected` leaves `IosInProgress` as it was. -/
theorem checkIfNodeIsConnected_iosInProgress {arrayID nodeID : String} {rep rep' : HostConnectivity}
    {err : Option GoError} {t : List Event}
    (h : (checkIfNodeIsConnected common arrayID nodeID rep).Reaches t (.ok (rep', err))) :
    rep'.iosInProgress = rep.iosInProgress := by
  unfold checkIfNodeIsConnected at h
  split at h
  · cases (Prog.reaches_pure_iff.1 h).2; rfl
  · simp only [Prog.bind_eq, Prog.pure_eq, Prog.query_bind] at h
    obtain ⟨⟨connected, e⟩, t', -, h'⟩ := Prog.reaches_call_iff.1 h
    cases e <;> cases connected <;> cases (Prog.reaches_pure_iff.1 h').2 <;> rfl

/-- A run of the array loop that answers "no IO" with a nil error ran every array's volume
    check to its end. -/
theorem checkArrays_ran_volume_checks {req : ValidateVolumeHostConnectivityRequest} {rep : HostConnectivity}
    {order : List String} {t : List Event} {resp : HostConnectivity}
    (h : (s.checkArrays common req rep order).Reaches t (.ok (some resp, none)))
    (hio : resp.iosInProgress = false) (hvols : req.volumeIds ≠ []) :
    ∀ globalID ∈ order, ∃ rep' t', (s.checkIOOfVolumes common globalID rep' req.volumeIds).Reaches t'
      (.ok none) ∧ t' <:+: t := by
  induction order generalizing rep t with
  | nil => simp
  | cons globalID rest ih =>
    simp only [checkArrays, Prog.bind_eq, Prog.pure_eq, Prog.pure_bind] at h
    obtain ⟨t₁, t₂, ⟨rep₁, err⟩, rfl, -, h₂⟩ := h.of_bind_ok
    cases err with
    | some err => cases (Prog.reaches_pure_iff.1 h₂).2
    | none =>
      simp only [if_pos hvols] at h₂
      obtain ⟨t₃, t₄, answer, rfl, h₃, h₄⟩ := h₂.of_bind_ok
      cases answer with
      | some answer =>
        cases (Prog.reaches_pure_iff.1 h₄).2
        rcases checkIOOfVolumes_answer s common h₃ with hs | hs
        · simp at hs
        · simp only [Prod.mk.injEq, Option.some.injEq] at hs
          simp [hs.1] at hio
      | none =>
        have hhead : t₃ <:+: t₁ ++ (t₃ ++ t₄) := by simp
        have htail : t₄ <:+: t₁ ++ (t₃ ++ t₄) := by
          simpa using (List.suffix_append (t₁ ++ t₃) t₄).isInfix
        intro g hg
        rcases List.mem_cons.1 hg with rfl | hg
        · exact ⟨rep₁, t₃, h₃, hhead⟩
        · obtain ⟨rep', t', h', hinf⟩ := ih h₄ g hg
          exact ⟨rep', t', h', hinf.trans htail⟩

/-- A run of the handler for a request with a node ID and volumes that returns runs the array
    loop, from the empty response, over a non-empty iteration order. -/
theorem validateVolumeHostConnectivity_runs_checkArrays
    {req : ValidateVolumeHostConnectivityRequest} {t : List Event}
    {o : Option HostConnectivity × Option GoError} (hnode : req.nodeId ≠ "")
    (hvols : req.volumeIds ≠ []) (h : (s.validateVolumeHostConnectivity common req).Reaches t (.ok o)) :
    ∃ order t', order ≠ [] ∧
      (s.checkArrays common req ⟨false, false, []⟩ order).Reaches t' (.ok o) ∧ t' <:+: t := by
  simp only [validateVolumeHostConnectivity, hnode, and_false, if_false, Prog.bind_eq,
    Prog.pure_eq, Prog.pure_bind, Prog.query_bind] at h
  by_cases harr : req.arrayId = ""
  · simp only [harr, hvols, if_true, if_false] at h
    obtain ⟨t₁, t₂, globalIDs, rfl, h₁, h₂⟩ := h.of_bind_ok
    obtain ⟨order, t₃, rfl, h₃⟩ := Prog.reaches_call_iff.1 h₂
    have hne := collectGlobalIDs_ne_nil s common h₁ (.inr hvols)
    refine ⟨order.1, t₃, ?_, h₃, ⟨t₁ ++ [⟨_, order⟩], [], by simp⟩⟩
    exact fun h0 => hne (List.eq_nil_of_length_eq_zero (by simp [← order.2.length_eq, h0]))
  · simp only [harr, if_false] at h
    obtain ⟨order, t₃, rfl, h₃⟩ := Prog.reaches_call_iff.1 h
    refine ⟨order.1, t₃, ?_, h₃, List.suffix_cons _ _ |>.isInfix⟩
    exact fun h0 => by simpa [h0] using order.2.length_eq

end Service

/-! ## The answer "no IO in progress" -/

/-- When the handler answers a request with a node ID and volumes with a nil error and
    `IosInProgress = false`, every volume of the request was decoded to an array of the registry
    and that array was asked for the metrics of the decoded volume, in a part of the run; and
    each such check failed, because the metrics query answered an error, whatever the error, or
    because none of the last four samples was active at the clock reading taken for it. The
    checks are those of the local half of each handle. -/
theorem validateVolumeHostConnectivity_noIO_evidence (s : Service) (common : Common)
    (req : ValidateVolumeHostConnectivityRequest) (t : List Event) (resp : HostConnectivity)
    (hnode : req.nodeId ≠ "") (hvols : req.volumeIds ≠ [])
    (h : (s.validateVolumeHostConnectivity common req).Reaches t (.ok (some resp, none)))
    (hio : resp.iosInProgress = false) :
    ∀ volID ∈ req.volumeIds, ∃ vh e arr t₁ t₂,
      (parseVolumeID common s.registry.ipToArray volID s.registry.defaultArray none).Reaches t₁
        (.ok (vh, e)) ∧ s.registry.arrays vh.arrayID = some arr ∧
      IOCheckFailed vh.protocol arr.globalID vh.localVolumeID t₂ ∧ t₁ ++ t₂ <:+: t := by
  obtain ⟨order, t', hne, h', hinf⟩ :=
    Service.validateVolumeHostConnectivity_runs_checkArrays s common hnode hvols h
  obtain ⟨globalID, hg⟩ := List.exists_mem_of_ne_nil order hne
  obtain ⟨rep', t'', hvol, hinf'⟩ := Service.checkArrays_ran_volume_checks s common h' hio hvols globalID hg
  intro volID hv
  obtain ⟨vh, e, arr, t₁, t₂, h₁, rfl, harr, hcheck, hinf''⟩ :=
    Service.checkIOOfVolumes_completed s common hvol volID hv
  exact ⟨vh, e, arr, t₁, t₂, h₁, harr, hcheck, hinf''.trans (hinf'.trans hinf)⟩

/-! ## Sample requests -/

/-- `GetIPListFromString` on the strings of the sample requests: the node's ID holds one IP, an
    array's `GlobalID` none. -/
def sampleCommon : Common :=
  { getIPListFromString := fun s => if s = "csi-node-1-127.0.0.1" then ["127.0.0.1"] else []
    apiPort := ":8083", arrayStatus := "/array-status", autoDetectTransport := "AUTO" }

/-- A controller serving the arrays `PS1` and `PS2`, `PS1` the default. -/
def twoArrayService : Service :=
  ⟨⟨(GoMap.empty.insert "PS1" (sampleArray "PS1" "10.0.0.1")).insert "PS2"
      (sampleArray "PS2" "10.0.0.2"), GoMap.empty, some (sampleArray "PS1" "10.0.0.1")⟩,
    "replication.storage.dell.com/"⟩

/-- The metro volume `v1` on `PS1`, paired with `v2` on `PS2`: the handler reads the metrics of
    `v1` only, and the answer is `IosInProgress = false` whatever `v2` shows. -/
theorem validateVolumeHostConnectivity_noIO_evidence_metro :
    ∃ vh e arr t₁ t₂,
      (parseVolumeID sampleCommon twoArrayService.registry.ipToArray "v1/PS1/scsi:v2/PS2"
          twoArrayService.registry.defaultArray none).Reaches t₁ (.ok (vh, e)) ∧
        twoArrayService.registry.arrays vh.arrayID = some arr ∧
        IOCheckFailed vh.protocol arr.globalID vh.localVolumeID t₂ ∧
        t₁ ++ t₂ <:+: [⟨.mapRange ["PS1"], ⟨["PS1"], List.Perm.refl _⟩⟩,
          ⟨.queryArrayStatus "http://127.0.0.1:8083/array-status/PS1", (true, none)⟩,
          ⟨.performanceMetricsByVolume "PS1" "v1", ([], none)⟩] :=
  validateVolumeHostConnectivity_noIO_evidence twoArrayService sampleCommon
    ⟨"csi-node-1-127.0.0.1", "", ["v1/PS1/scsi:v2/PS2"]⟩
    [⟨.mapRange ["PS1"], ⟨["PS1"], List.Perm.refl _⟩⟩,
      ⟨.queryArrayStatus "http://127.0.0.1:8083/array-status/PS1", (true, none)⟩,
      ⟨.performanceMetricsByVolume "PS1" "v1", ([], none)⟩]
    ⟨true, false, ["array PS1 is connected to node csi-node-1-127.0.0.1"]⟩ (by decide) (by decide)
    (.call _ <| .call _ <| .call _ <| .pure _) rfl _ (List.mem_singleton_self _)

/-- A failed metrics query counts as no IO: the only volume's query answers an internal server
    error, and the handler answers `IosInProgress = false` with a nil error. -/
theorem validateVolumeHostConnectivity_swallows_metrics_error :
    (twoArrayService.validateVolumeHostConnectivity sampleCommon
        ⟨"csi-node-1-127.0.0.1", "", ["v1/PS1/scsi"]⟩).Reaches
      [⟨.mapRange ["PS1"], ⟨["PS1"], List.Perm.refl _⟩⟩,
        ⟨.queryArrayStatus "http://127.0.0.1:8083/array-status/PS1", (true, none)⟩,
        ⟨.performanceMetricsByVolume "PS1" "v1",
          ([], some (.api ⟨500, "Internal Server Error"⟩))⟩]
      (.ok (some ⟨true, false, ["array PS1 is connected to node csi-node-1-127.0.0.1"]⟩, none)) :=
  .call _ <| .call _ <| .call _ <| .pure _

/-- Two requests whose metrics queries all succeed. The metro volume `v1/PS1/scsi:v2/PS2` gets
    `IosInProgress = false` after the metrics of `v1` alone; `v2` on `PS2` is never asked, so the
    answer is the same when `v2` is busy. Volumes on the two arrays `PS1` and `PS2` get an
    error, whichever array the map iteration visits first (here `PS1`). -/
theorem validateVolumeHostConnectivity_skips_remote_and_rejects_two_arrays :
    (twoArrayService.validateVolumeHostConnectivity sampleCommon
        ⟨"csi-node-1-127.0.0.1", "", ["v1/PS1/scsi:v2/PS2"]⟩).Reaches
      [⟨.mapRange ["PS1"], ⟨["PS1"], List.Perm.refl _⟩⟩,
        ⟨.queryArrayStatus "http://127.0.0.1:8083/array-status/PS1", (true, none)⟩,
        ⟨.performanceMetricsByVolume "PS1" "v1", ([], none)⟩]
      (.ok (some ⟨true, false, ["array PS1 is connected to node csi-node-1-127.0.0.1"]⟩, none)) ∧
    (twoArrayService.validateVolumeHostConnectivity sampleCommon
        ⟨"csi-node-1-127.0.0.1", "", ["v1/PS1/scsi", "v2/PS2/scsi"]⟩).Reaches
      [⟨.mapRange ["PS1", "PS2"], ⟨["PS1", "PS2"], List.Perm.refl _⟩⟩,
        ⟨.queryArrayStatus "http://127.0.0.1:8083/array-status/PS1", (true, none)⟩,
        ⟨.performanceMetricsByVolume "PS1" "v1", ([], none)⟩]
      (.ok (none, some (.plain "invalid globalId PS1 is provided"))) :=
  ⟨.call _ <| .call _ <| .call _ <| .pure _, .call _ <| .call _ <| .call _ <| .pure _⟩

end PowerStoreCsi
