import PowerStoreCsi.Array.Proofs.Registry
import PowerStoreCsi.Array.Reload

set_option autoImplicit false

/-! # Proofs: what readers see of a reload

Every step of the system writes one variable of the registry, with the value it has in the
result of the call that runs it. So each variable always holds its value in the starting
registry or in some call's result (`Provenance`), but the three need not come from the same one:
a handler between `SetArrays` and `SetDefaultArray` sees the new map with the old default, and
two overlapping calls can leave the map of one with the default of the other. When calls do not
overlap, each variable the running call has set holds its result (`Reload.Written`), and once
it has returned the registry is its result. -/

namespace PowerStoreCsi

namespace ReloadState

variable {env : ConfigEnv} {r : Registry}

theorem map_result_set {l : List Reload} {i : Nat} {rl : Reload} (h : l[i]? = some rl)
    (pc : ReloadPc) : (l.set i { rl with pc := pc }).map Reload.result = l.map Reload.result := by
  apply List.ext_getElem?
  intro j
  by_cases hij : i = j
  · subst hij; simp [List.getElem?_set', h]
  · simp [hij]

theorem result_mem_results {s : ReloadState} {i : Nat} {rl : Reload}
    (h : s.reloads[i]? = some rl) : rl.result ∈ s.results r :=
  List.mem_cons_of_mem _ (List.mem_map_of_mem _ (List.getElem?_mem h))

/-- A step changes the registry by running one call's next setter, and keeps every result. -/
theorem next_cases (s : ReloadState) (e : ReloadEvent) :
    ((next env s e).results r = s.results r ∧ (next env s e).registry = s.registry) ∨
      (∃ (i : Nat) (rl : Reload), s.reloads[i]? = some rl ∧
        (next env s e).registry = rl.install s.registry ∧
        (next env s e).results r = s.results r) ∨
      (∃ result, (next env s e).results r = s.results r ++ [result] ∧
        (next env s e).registry = s.registry) := by
  cases e with
  | updateArrays doc =>
    cases hdoc : getPowerStoreArrays env doc with
    | ok result => exact .inr (.inr ⟨result, by simp [next_updateArrays_ok hdoc, results]⟩)
    | error err => exact .inl (by simp [next_updateArrays_error hdoc])
  | advance i =>
    cases hi : s.reloads[i]? with
    | some rl => exact .inr (.inl ⟨i, rl, hi, by simp [next_advance hi, results, map_result_set hi]⟩)
    | none => exact .inl (by simp [next_advance_none hi])

theorem execution_run {s : ReloadState} {es : List ReloadEvent} (h : ValidTrace env s es) :
    ∀ u, Execution env u s → Execution env u (run env s es) := by
  induction es generalizing s with
  | nil => exact fun _ hu => hu
  | cons e es ih => exact fun u hu => ih h.2 u (.tail hu ⟨h.1, rfl⟩)

theorem reachable_run {es : List ReloadEvent} (h : ValidTrace env (initial r) es) :
    Reachable env r (run env (initial r) es) :=
  execution_run h _ (.refl _)

/-! ## Each variable from some result -/

/-- Each variable of the registry holds its value in the starting registry or in the result of
    some `UpdateArrays` call. -/
structure Provenance (r : Registry) (s : ReloadState) : Prop where
  arrays : ∃ q ∈ s.results r, s.registry.arrays = q.arrays
  ipToArray : ∃ q ∈ s.results r, s.registry.ipToArray = q.ipToArray
  defaultArray : ∃ q ∈ s.results r, s.registry.defaultArray = q.defaultArray

theorem provenance_initial : Provenance r (initial r) :=
  ⟨⟨r, List.mem_cons_self _ _, rfl⟩, ⟨r, List.mem_cons_self _ _, rfl⟩,
    ⟨r, List.mem_cons_self _ _, rfl⟩⟩

/-- Provenance over more results, for the same registry. -/
theorem Provenance.mono {s u : ReloadState} (h : Provenance r s) (hres : s.results r ⊆ u.results r)
    (hreg : u.registry = s.registry) : Provenance r u := by
  obtain ⟨⟨a, ha, ea⟩, ⟨p, hp, ep⟩, ⟨d, hd, ed⟩⟩ := h
  exact ⟨⟨a, hres ha, hreg ▸ ea⟩, ⟨p, hres hp, hreg ▸ ep⟩, ⟨d, hres hd, hreg ▸ ed⟩⟩

/-- A setter writes its call's result into one variable and keeps the others. -/
theorem Provenance.install {s : ReloadState} (h : Provenance r s) {i : Nat} {rl : Reload}
    (hi : s.reloads[i]? = some rl) : Provenance r ⟨rl.install s.registry, s.reloads⟩ := by
  have hmem := @result_mem_results r _ _ _ hi
  obtain ⟨ha, hp, hd⟩ := h
  unfold Reload.install
  split
  · exact ⟨⟨_, hmem, rfl⟩, hp, hd⟩
  · exact ⟨ha, ⟨_, hmem, rfl⟩, hd⟩
  · exact ⟨ha, hp, ⟨_, hmem, rfl⟩⟩
  · exact ⟨ha, hp, hd⟩

theorem Provenance.next {s : ReloadState} (h : Provenance r s) (e : ReloadEvent) :
    Provenance r (next env s e) := by
  rcases @next_cases env r s e with ⟨hres, hreg⟩ | ⟨i, rl, hi, hreg, hres⟩ |
    ⟨result, hres, hreg⟩
  · exact h.mono (hres ▸ List.Subset.refl _) hreg
  · exact (h.install hi).mono (hres ▸ List.Subset.refl _) hreg
  · exact h.mono (hres ▸ List.subset_append_left _ _) hreg

theorem Execution.provenance {s u : ReloadState} (h : Execution env s u) (hs : Provenance r s) :
    Provenance r u := by
  induction h with
  | refl => exact hs
  | tail _ step ih => exact step.2 ▸ ih.next _

end ReloadState

/-! ## Calls that do not overlap -/

/-- The variables a call has set hold its result. -/
def Reload.Written (rl : Reload) (reg : Registry) : Prop :=
  match rl.pc with
  | .setArrays => True
  | .setIPToArray => reg.arrays = rl.result.arrays
  | .setDefaultArray => reg.arrays = rl.result.arrays ∧ reg.ipToArray = rl.result.ipToArray
  | .returned => reg = rl.result

/-- Running its next setter keeps what a call has set, and sets one variable more. -/
theorem Reload.Written.install {rl : Reload} {reg : Registry} (h : rl.Written reg) :
    ({ rl with pc := rl.pc.next } : Reload).Written (rl.install reg) := by
  obtain ⟨result, pc⟩ := rl
  cases pc <;> simp_all [Reload.Written, Reload.install, ReloadPc.next, Registry.setArrays,
    Registry.setIPToArray, Registry.setDefaultArray]

namespace ReloadState

variable {env : ConfigEnv} {r : Registry}

/-- The states of runs whose calls do not overlap: every call but the latest has returned, the
    latest has set its result in the variables it has reached, and before any call the registry
    is the starting one. -/
structure SerialInvariant (r : Registry) (s : ReloadState) : Prop where
  returned : ∀ rl ∈ s.reloads.dropLast, rl.pc = .returned
  written : ∀ rl, s.reloads.getLast? = some rl → rl.Written s.registry
  initial : s.reloads = [] → s.registry = r

/-- Of calls of which all but the last have returned, only the last can run a setter. -/
theorem eq_append_of_running {l : List Reload} {i : Nat} {rl : Reload}
    (h : l[i]? = some rl) (hpc : rl.pc ≠ .returned) (hret : ∀ x ∈ l.dropLast, x.pc = .returned) :
    ∃ d, l = d ++ [rl] ∧ i = d.length := by
  have hlt : i < l.length := (List.getElem?_eq_some_iff.1 h).1
  have hi : ¬ i < l.length - 1 := fun hi =>
    hpc (hret rl (List.getElem?_mem (by rw [List.getElem?_dropLast, if_pos hi, h])))
  have hne : l ≠ [] := List.ne_nil_of_length_pos (by omega)
  have hlast : l.getLast hne = rl := by
    rw [List.getLast_eq_getElem]
    exact Option.some_inj.1 ((List.getElem?_eq_getElem _).symm.trans (by rw [← h]; congr 1; omega))
  exact ⟨l.dropLast, by rw [← hlast, List.dropLast_concat_getLast], by simp; omega⟩

theorem serialInvariant_initial : SerialInvariant r (initial r) :=
  ⟨by simp [initial], by simp [initial], fun _ => rfl⟩

theorem SerialInvariant.next {s : ReloadState} (h : SerialInvariant r s) {e : ReloadEvent}
    (he : Enabled s e) (hser : ∀ doc, e = .updateArrays doc → ∀ rl ∈ s.reloads, rl.pc = .returned) :
    SerialInvariant r (next env s e) := by
  cases e with
  | updateArrays doc =>
    cases hdoc : getPowerStoreArrays env doc with
    | ok result =>
      rw [next_updateArrays_ok hdoc]
      refine ⟨by simpa using hser doc rfl, ?_, by simp⟩
      simp only [List.getLast?_concat, Option.some.injEq]
      rintro _ rfl
      trivial
    | error err => rwa [next_updateArrays_error hdoc]
  | advance i =>
    simp only [Enabled] at he
    split at he
    · next rl hi =>
      obtain ⟨d, hd, rfl⟩ := eq_append_of_running hi he h.returned
      have hw := h.written rl (by rw [hd]; exact List.getLast?_concat _)
      have hret := h.returned
      rw [hd] at hret
      rw [next_advance hi, hd]
      refine ⟨by simpa using hret, ?_, by simp⟩
      simp only [List.set_append_right _ _ (le_refl _), Nat.sub_self, List.set_cons_zero,
        List.set_nil, List.getLast?_concat, Option.some.injEq]
      rintro _ rfl
      exact hw.install
    · exact he.elim

theorem SerialExecution.serialInvariant {s : ReloadState} (h : SerialExecution env (initial r) s) :
    SerialInvariant r s := by
  induction h with
  | refl => exact serialInvariant_initial
  | tail _ step hser ih => exact step.2 ▸ ih.next step.1 hser

/-- In a run whose calls do not overlap, once every call has returned the registry is the
    result of the latest call. -/
theorem SerialExecution.registry_eq_latest {s : ReloadState}
    (h : SerialExecution env (initial r) s) (hq : Quiescent s) : s.registry = s.latest r := by
  have inv := h.serialInvariant
  cases hl : s.reloads.getLast? with
  | none => simp [latest, hl, inv.initial (List.getLast?_eq_none_iff.1 hl)]
  | some rl =>
    have hw := inv.written rl hl
    have hpc := hq rl (List.mem_of_getLast?_eq_some hl)
    simp only [Reload.Written, hpc] at hw
    simp [latest, hl, hw]

end ReloadState

/-! ## The registry a handler sees -/

/-- Whatever the calls and however their steps interleave with each other and with the handlers,
    each variable of the registry holds its value in the starting registry or in the result of
    one of the calls made so far. When calls do not overlap, the variables the running call has
    set hold its result, and once it has returned the registry is its result. -/
theorem reload_registry_from_results (env : ConfigEnv) (r : Registry) :
    (∀ s, ReloadState.Reachable env r s → ReloadState.Provenance r s) ∧
      (∀ s, ReloadState.SerialExecution env (.initial r) s →
        ∀ rl, s.reloads.getLast? = some rl → rl.Written s.registry) ∧
      (∀ s, ReloadState.SerialExecution env (.initial r) s → s.Quiescent →
        s.registry = s.latest r) :=
  ⟨fun _ h => h.provenance ReloadState.provenance_initial,
    fun _ h => h.serialInvariant.written, fun _ h hq => h.registry_eq_latest hq⟩

/-- What a `Locker` holds when the driver starts. -/
def emptyRegistry : Registry := ⟨GoMap.empty, GoMap.empty, none⟩

/-- A configuration listing one array. -/
def sampleDocument (globalID ip : String) : Except GoError (List (Option PowerStoreArray)) :=
  .ok [some (sampleArray globalID ip)]

/-- What a handler can tell apart of two registries holding `PS1` and `PS2`. -/
def observe (reg : Registry) : Option PowerStoreArray × Option PowerStoreArray × Option PowerStoreArray :=
  (reg.arrays "PS1", reg.arrays "PS2", reg.defaultArray)

/-- A registry the handlers can observe that is the starting registry or no call's result: after
    the `SetArrays` of a reload to `PS1`, the new map with the old, nil, default; and once two
    overlapping reloads to `PS1` and `PS2` have both returned, the map of the second with the
    default of the first. -/
theorem reload_tears_registry :
    ¬ (∀ s, ReloadState.Reachable sampleConfigEnv emptyRegistry s →
        ∃ q ∈ s.results emptyRegistry, s.registry = q) ∧
      ¬ (∀ s, ReloadState.Reachable sampleConfigEnv emptyRegistry s → s.Quiescent →
        ∃ q ∈ s.results emptyRegistry, s.registry = q) := by
  constructor
  · intro h
    obtain ⟨q, hq, heq⟩ := h _ (@ReloadState.reachable_run sampleConfigEnv emptyRegistry
      [.updateArrays (sampleDocument "PS1" "10.0.0.1"), .advance 0] (by decide))
    exact (by decide : ∀ o ∈ (ReloadState.results emptyRegistry _).map observe, o ≠ observe _)
      _ (List.mem_map_of_mem _ hq) (congrArg observe heq).symm
  · intro h
    obtain ⟨q, hq, heq⟩ := h _ (@ReloadState.reachable_run sampleConfigEnv emptyRegistry
      [.updateArrays (sampleDocument "PS1" "10.0.0.1"),
        .updateArrays (sampleDocument "PS2" "10.0.0.2"), .advance 0, .advance 1, .advance 1,
        .advance 1, .advance 0, .advance 0] (by decide))
      (by unfold ReloadState.Quiescent; decide)
    exact (by decide : ∀ o ∈ (ReloadState.results emptyRegistry _).map observe, o ≠ observe _)
      _ (List.mem_map_of_mem _ hq) (congrArg observe heq).symm

end PowerStoreCsi
