import Mathlib.Data.List.Nodup
import Mathlib.Data.List.ReduceOption
import PowerStoreCsi.Array.Registry

set_option autoImplicit false

/-! # What `GetPowerStoreArrays` and `UpdateArrays` guarantee

`Registry.BuiltFrom r done` is what the loop of `GetPowerStoreArrays` keeps true of the
registry `r` it builds from the entries `done` it has completed: every map entry points at a
completed entry under that entry's own `GlobalID` and IP, and the default is one of them. The
loop preserves it one entry at a time (`BuiltFrom.insert`), so every result of
`GetPowerStoreArrays` is built from the completed entries before the first `nil` entry
(`getPowerStoreArrays_builtFrom`). The consistency of the result and the all-or-nothing reload
follow from that one fact.

Two things the loop does not do shape what holds: it stops, successfully, at the first `nil`
entry, and it never checks that `GlobalID`s are distinct, so a later entry replaces an earlier
one with the same `GlobalID` in the map while the default and the IP index may still name the
earlier one. -/

namespace PowerStoreCsi

/-! ## Completing one entry -/

/-- Completing an entry only fills in its block protocol and its IP. -/
theorem completeArray_eq {env : ConfigEnv} {a a' : PowerStoreArray}
    (h : completeArray env a = .ok a') :
    ∃ bp ip, a' = { a with blockProtocol := bp, ip := ip } := by
  unfold completeArray at h
  split at h
  · cases h
  split at h
  · cases h
  cases he : endpointIP env.common a.endpoint with
  | error e => simp [he] at h
  | ok ip =>
    simp only [he, Except.ok.injEq] at h
    exact ⟨_, ip, h.symm⟩

theorem completeArray_globalID {env : ConfigEnv} {a a' : PowerStoreArray}
    (h : completeArray env a = .ok a') : a'.globalID = a.globalID := by
  obtain ⟨_, _, rfl⟩ := completeArray_eq h
  rfl

/-! ## The loop invariant -/

/-- The registry `r` is built from the completed entries `done`. -/
structure Registry.BuiltFrom (r : Registry) (done : List PowerStoreArray) : Prop where
  arrays_mem : ∀ g a, r.arrays g = some a → a ∈ done ∧ a.globalID = g
  mem_arrays : ∀ a ∈ done, (r.arrays a.globalID).isSome
  ipToArray_mem : ∀ ip g, r.ipToArray ip = some g → ∃ a ∈ done, a.ip = ip ∧ a.globalID = g
  defaultArray_mem : ∀ d, r.defaultArray = some d → d ∈ done
  defaultArray_isSome : done ≠ [] → r.defaultArray.isSome

theorem Registry.builtFrom_empty :
    Registry.BuiltFrom ⟨GoMap.empty, GoMap.empty, none⟩ [] where
  arrays_mem := by simp
  mem_arrays := by simp
  ipToArray_mem := by simp
  defaultArray_mem := by simp
  defaultArray_isSome := by simp

/-- One iteration of the loop keeps the invariant, whether or not it moves the default. -/
theorem Registry.BuiltFrom.insert {r : Registry} {done : List PowerStoreArray}
    {a : PowerStoreArray} {d : Option PowerStoreArray} (hr : r.BuiltFrom done)
    (hd : d = r.defaultArray ∨ d = some a) (hs : d.isSome) :
    Registry.BuiltFrom ⟨r.arrays.insert a.globalID a, r.ipToArray.insert a.ip a.globalID, d⟩
      (done ++ [a]) where
  arrays_mem g b h := by
    by_cases hg : g = a.globalID
    · simp only [GoMap.insert_apply, if_pos hg, Option.some.injEq] at h
      subst h
      exact ⟨by simp, hg.symm⟩
    · simp only [GoMap.insert_apply, if_neg hg] at h
      exact ⟨List.mem_append_left _ (hr.arrays_mem g b h).1, (hr.arrays_mem g b h).2⟩
  mem_arrays b hb := by
    simp only [GoMap.insert_apply]
    split
    · rfl
    · rcases List.mem_append.1 hb with hb | hb
      · exact hr.mem_arrays b hb
      · simp_all
  ipToArray_mem ip g h := by
    by_cases hip : ip = a.ip
    · simp only [GoMap.insert_apply, if_pos hip, Option.some.injEq] at h
      subst h
      exact ⟨a, by simp, hip.symm, rfl⟩
    · simp only [GoMap.insert_apply, if_neg hip] at h
      obtain ⟨b, hb, hip, hg⟩ := hr.ipToArray_mem ip g h
      exact ⟨b, List.mem_append_left _ hb, hip, hg⟩
  defaultArray_mem e h := by
    rcases hd with rfl | rfl
    · exact List.mem_append_left _ (hr.defaultArray_mem e h)
    · cases h; simp
  defaultArray_isSome _ := hs

/-- Every key of a registry built from `done` is the `GlobalID` of a completed entry. -/
theorem Registry.BuiltFrom.isSome_arrays_iff {r : Registry} {done : List PowerStoreArray}
    (hr : r.BuiltFrom done) (g : String) :
    (r.arrays g).isSome ↔ g ∈ done.map PowerStoreArray.globalID := by
  constructor
  · intro h
    obtain ⟨a, ha⟩ := Option.isSome_iff_exists.1 h
    obtain ⟨hmem, rfl⟩ := hr.arrays_mem g a ha
    exact List.mem_map_of_mem _ hmem
  · intro h
    obtain ⟨a, ha, rfl⟩ := List.mem_map.1 h
    exact hr.mem_arrays a ha

/-- The default of a built registry is nil exactly when its map is empty. -/
theorem Registry.BuiltFrom.defaultArray_eq_none_iff {r : Registry}
    {done : List PowerStoreArray} (hr : r.BuiltFrom done) :
    r.defaultArray = none ↔ ∀ g, r.arrays g = none := by
  constructor
  · intro hd g
    cases ha : r.arrays g with
    | none => rfl
    | some a =>
      have hne : done ≠ [] := List.ne_nil_of_mem (hr.arrays_mem g a ha).1
      simpa [hd] using hr.defaultArray_isSome hne
  · intro hg
    cases hd : r.defaultArray with
    | none => rfl
    | some d => simpa [hg] using hr.mem_arrays d (hr.defaultArray_mem d hd)

/-- With distinct `GlobalID`s, the map of a built registry holds each completed entry under its
    own `GlobalID`. -/
theorem Registry.BuiltFrom.arrays_of_mem {r : Registry} {done : List PowerStoreArray}
    (hr : r.BuiltFrom done) (hnd : (done.map PowerStoreArray.globalID).Nodup)
    {a : PowerStoreArray} (ha : a ∈ done) : r.arrays a.globalID = some a := by
  obtain ⟨b, hb⟩ := Option.isSome_iff_exists.1 (hr.mem_arrays a ha)
  obtain ⟨hbmem, hbg⟩ := hr.arrays_mem _ b hb
  rw [hb, List.inj_on_of_nodup_map hnd hbmem ha hbg]

/-- The loop after its first iteration: the result is built from the entries completed so far
    and the completed entries listed before the next `nil` entry. -/
theorem getPowerStoreArraysLoop_builtFrom {env : ConfigEnv} :
    ∀ {cfg : List (Option PowerStoreArray)} {r r' : Registry} {found : Bool}
      {done : List PowerStoreArray}, r.BuiltFrom done → done ≠ [] →
      getPowerStoreArraysLoop env cfg r found false = .ok r' →
      ∃ done', done'.map PowerStoreArray.globalID =
          (listedArrays cfg).map PowerStoreArray.globalID ∧ r'.BuiltFrom (done ++ done')
  | [], _, _, _, _, hr, _, h => by cases h; exact ⟨[], rfl, by simpa using hr⟩
  | none :: _, _, _, _, _, hr, _, h => by cases h; exact ⟨[], rfl, by simpa using hr⟩
  | some a :: rest, r, r', found, done, hr, hd, h => by
    simp only [getPowerStoreArraysLoop] at h
    split at h
    · cases h
    rename_i a' ha
    have hs : r.defaultArray.isSome := hr.defaultArray_isSome hd
    have hlisted : listedArrays (some a :: rest) = a :: listedArrays rest := by
      simp [listedArrays, List.reduceOption_cons_of_some]
    split at h
    all_goals
      obtain ⟨done', hmap, hr'⟩ := getPowerStoreArraysLoop_builtFrom
        (hr.insert (by simp) (by simp [hs])) (by simp) h
      refine ⟨a' :: done', ?_, by simpa using hr'⟩
      simp [hlisted, hmap, completeArray_globalID ha]

/-- Every result of `GetPowerStoreArrays` is built from the completed entries listed before the
    first `nil` entry. -/
theorem getPowerStoreArrays_builtFrom {env : ConfigEnv} {cfg : List (Option PowerStoreArray)}
    {r : Registry} (h : getPowerStoreArrays env (.ok cfg) = .ok r) :
    ∃ done, done.map PowerStoreArray.globalID = (listedArrays cfg).map PowerStoreArray.globalID ∧
      r.BuiltFrom done := by
  match cfg, h with
  | [], h => cases h; exact ⟨[], rfl, Registry.builtFrom_empty⟩
  | none :: _, h => cases h; exact ⟨[], rfl, Registry.builtFrom_empty⟩
  | some a :: rest, h =>
    simp only [getPowerStoreArrays, getPowerStoreArraysLoop] at h
    split at h
    · cases h
    rename_i a' ha
    have hlisted : listedArrays (some a :: rest) = a :: listedArrays rest := by
      simp [listedArrays, List.reduceOption_cons_of_some]
    split at h
    all_goals
      obtain ⟨done', hmap, hr'⟩ := getPowerStoreArraysLoop_builtFrom
        (@Registry.BuiltFrom.insert _ _ a' _ Registry.builtFrom_empty (by simp) (by simp)) (by simp) h
      refine ⟨a' :: done', ?_, by simpa using hr'⟩
      simp [hlisted, hmap, completeArray_globalID ha]

/-! ## Consistency of a built registry -/

/-- A successful `GetPowerStoreArrays` serves its default and every IP of its index: both name
    a `GlobalID` the map holds, and the default is nil exactly when the map is empty. When the
    entries it reads have distinct `GlobalID`s, the map holds the default array itself and,
    under the `GlobalID` of each IP of the index, an array with that IP. -/
theorem getPowerStoreArrays_consistent {env : ConfigEnv} {cfg : List (Option PowerStoreArray)}
    {r : Registry} (h : getPowerStoreArrays env (.ok cfg) = .ok r) :
    (r.defaultArray = none ↔ ∀ g, r.arrays g = none) ∧
    (∀ d, r.defaultArray = some d → (r.arrays d.globalID).isSome) ∧
    (∀ ip g, r.ipToArray ip = some g → (r.arrays g).isSome) ∧
    (((listedArrays cfg).map PowerStoreArray.globalID).Nodup →
      (∀ d, r.defaultArray = some d → r.arrays d.globalID = some d) ∧
      (∀ ip g, r.ipToArray ip = some g → ∃ a, r.arrays g = some a ∧ a.ip = ip)) := by
  obtain ⟨done, hmap, hr⟩ := getPowerStoreArrays_builtFrom h
  refine ⟨hr.defaultArray_eq_none_iff, fun d hd => hr.mem_arrays d (hr.defaultArray_mem d hd),
    fun ip g hg => ?_, fun hnd => ?_⟩
  · obtain ⟨a, ha, -, rfl⟩ := hr.ipToArray_mem ip g hg
    exact hr.mem_arrays a ha
  · rw [← hmap] at hnd
    refine ⟨fun d hd => hr.arrays_of_mem hnd (hr.defaultArray_mem d hd), fun ip g hg => ?_⟩
    obtain ⟨a, ha, rfl, rfl⟩ := hr.ipToArray_mem ip g hg
    exact ⟨a, hr.arrays_of_mem hnd ha, rfl⟩

/-- A configuration environment in which every client can be built and the endpoints
    `https://10.0.0.1/api/rest` and `https://10.0.0.2/api/rest` carry their IP. -/
def sampleConfigEnv : ConfigEnv where
  common :=
    { getIPListFromString := fun s =>
        if s = "https://10.0.0.1/api/rest" then ["10.0.0.1"]
        else if s = "https://10.0.0.2/api/rest" then ["10.0.0.2"] else []
      apiPort := ":8083"
      arrayStatus := "/array-status"
      autoDetectTransport := "AUTO" }
  throttlingRateLimit := none
  newClientWithArgs := fun _ _ _ _ => none

/-- A configuration entry for the array `globalID` at `https://<ip>/api/rest`. -/
def sampleArray (globalID ip : String) : PowerStoreArray :=
  { endpoint := "https://" ++ ip ++ "/api/rest", globalID := globalID, username := "admin",
    password := "password", blockProtocol := "", insecure := true, isDefault := false, ip := "" }

theorem getPowerStoreArrays_consistent_sample :
    ∃ r, getPowerStoreArrays sampleConfigEnv
        (.ok [some (sampleArray "PS1" "10.0.0.1"), some (sampleArray "PS2" "10.0.0.2")]) = .ok r ∧
      (r.defaultArray = none ↔ ∀ g, r.arrays g = none) ∧
      (∀ d, r.defaultArray = some d → (r.arrays d.globalID).isSome) ∧
      (∀ ip g, r.ipToArray ip = some g → (r.arrays g).isSome) ∧
      ((((listedArrays [some (sampleArray "PS1" "10.0.0.1"),
          some (sampleArray "PS2" "10.0.0.2")]).map PowerStoreArray.globalID).Nodup →
        (∀ d, r.defaultArray = some d → r.arrays d.globalID = some d) ∧
        (∀ ip g, r.ipToArray ip = some g → ∃ a, r.arrays g = some a ∧ a.ip = ip))) :=
  ⟨_, rfl, @getPowerStoreArrays_consistent sampleConfigEnv _ _ rfl⟩

/-- Two entries with one `GlobalID`: the default is the first, the map serves the second. -/
theorem getPowerStoreArrays_default_shadowed :
    ∃ r d, getPowerStoreArrays sampleConfigEnv
        (.ok [some (sampleArray "PS1" "10.0.0.1"), some (sampleArray "PS1" "10.0.0.2")]) = .ok r ∧
      r.defaultArray = some d ∧ r.arrays d.globalID ≠ some d :=
  ⟨_, _, rfl, rfl, by decide⟩

/-! ## The default array -/

/-- The default the loop leaves: the completion of the first flagged entry it reads, unless a
    flagged entry was found before it. -/
theorem getPowerStoreArraysLoop_defaultArray {env : ConfigEnv} :
    ∀ {cs : List PowerStoreArray} {r r' : Registry} {found : Bool},
      getPowerStoreArraysLoop env (cs.map some) r found false = .ok r' →
      r'.defaultArray = match found, cs.find? (·.isDefault) with
        | false, some a => (completeArray env a).toOption
        | _, _ => r.defaultArray
  | [], _, _, found, h => by cases h; cases found <;> rfl
  | a :: cs, r, r', found, h => by
    simp only [List.map_cons, getPowerStoreArraysLoop] at h
    split at h
    · cases h
    rename_i a' ha
    obtain ⟨_, _, rfl⟩ := completeArray_eq ha
    split at h <;> rename_i hc <;> rw [getPowerStoreArraysLoop_defaultArray h]
    · obtain ⟨hd, rfl⟩ : a.isDefault = true ∧ found = false := by simpa using hc
      simp [List.find?_cons_of_pos _ hd, ha, Except.toOption]
    · cases found
      · have hd : a.isDefault = false := by simpa using hc
        simp [List.find?_cons, hd]
      · rfl

/-- For every non-empty list of entries, none of them `nil`, on which `GetPowerStoreArrays`
    succeeds, the default array is the first entry flagged `IsDefault`, or the first entry when
    none is, as the loop completes it: a later flagged entry never replaces an earlier one. -/
theorem getPowerStoreArrays_default_first_flagged (env : ConfigEnv) (d : PowerStoreArray)
    (ds : List PowerStoreArray) (r : Registry)
    (h : getPowerStoreArrays env (.ok ((d :: ds).map some)) = .ok r) :
    r.defaultArray = (completeArray env (((d :: ds).find? (·.isDefault)).getD d)).toOption := by
  simp only [List.map_cons, getPowerStoreArrays, getPowerStoreArraysLoop] at h
  split at h
  · cases h
  rename_i a' ha
  obtain ⟨_, _, rfl⟩ := completeArray_eq ha
  split at h <;> rename_i hc <;> rw [getPowerStoreArraysLoop_defaultArray h]
  · have hd : d.isDefault = true := by simpa using hc
    simp [List.find?_cons_of_pos _ hd, ha, Except.toOption]
  · have hd : d.isDefault = false := by simpa using hc
    simp only [List.find?_cons, hd]
    cases ds.find? (·.isDefault) <;> simp [ha, hd, Except.toOption]

/-- Of two entries, the second flagged, the second is the default. -/
theorem getPowerStoreArrays_default_first_flagged_second :
    ∃ r, getPowerStoreArrays sampleConfigEnv (.ok ([sampleArray "PS1" "10.0.0.1",
        { sampleArray "PS2" "10.0.0.2" with isDefault := true }].map some)) = .ok r ∧
      r.defaultArray = (completeArray sampleConfigEnv (([sampleArray "PS1" "10.0.0.1",
        { sampleArray "PS2" "10.0.0.2" with isDefault := true }].find? (·.isDefault)).getD
        (sampleArray "PS1" "10.0.0.1"))).toOption ∧
      r.defaultArray.map (·.globalID) = some "PS2" :=
  ⟨_, rfl, getPowerStoreArrays_default_first_flagged _ _ _ _ rfl, rfl⟩

/-! ## Reloading -/

/-- `UpdateArrays` is all or nothing: on an error it leaves the registry as it was; otherwise
    the map it installs holds exactly the `GlobalID`s of the entries listed before the first
    `nil` entry of the document. -/
theorem updateArrays_all_or_nothing (env : ConfigEnv) (r : Registry)
    (doc : Except GoError (List (Option PowerStoreArray))) :
    match r.updateArrays (getPowerStoreArrays env doc) with
    | (r', some _) => r' = r
    | (r', none) => ∃ cfg, doc = .ok cfg ∧
        ∀ g, (r'.arrays g).isSome ↔ g ∈ (listedArrays cfg).map PowerStoreArray.globalID := by
  cases h : getPowerStoreArrays env doc with
  | error e => rfl
  | ok new =>
    obtain ⟨cfg, rfl⟩ : ∃ cfg, doc = .ok cfg := by
      cases doc with
      | error e => cases h
      | ok cfg => exact ⟨cfg, rfl⟩
    obtain ⟨done, hmap, hr⟩ := getPowerStoreArrays_builtFrom h
    refine ⟨cfg, rfl, fun g => ?_⟩
    rw [← hmap]
    exact hr.isSome_arrays_iff g

/-- A `nil` entry ends the reload successfully: the array listed after it is not installed. -/
theorem updateArrays_stops_at_nil :
    (Registry.updateArrays ⟨GoMap.empty, GoMap.empty, none⟩ (getPowerStoreArrays sampleConfigEnv
        (.ok [some (sampleArray "PS1" "10.0.0.1"), none, some (sampleArray "PS2" "10.0.0.2")]))).2
        = none ∧
    (Registry.updateArrays ⟨GoMap.empty, GoMap.empty, none⟩ (getPowerStoreArrays sampleConfigEnv
        (.ok [some (sampleArray "PS1" "10.0.0.1"), none, some (sampleArray "PS2" "10.0.0.2")]))).1.arrays
        "PS2" = none :=
  ⟨rfl, rfl⟩

end PowerStoreCsi
