import PowerStoreCsi.Array.Registry

set_option autoImplicit false

/-! # Reloads of the registry, interleaved with everything else

`Locker.UpdateArrays` computes a new registry with `GetPowerStoreArrays` and installs it in three
steps, each under a lock of its own: `SetArrays` under `arraysLock`, `setIPToArray` under
`ipToArrayMux`, `SetDefaultArray` under `defaultArrayLock`. No lock is held from one step to the
next, so other goroutines run in between: the handlers, whose getters (`Arrays`, `GetOneArray`,
`DefaultArray`, the reads of `IPToArray`) each take one lock and read one variable, and further
reloads, started by later changes of the configuration file.

The state is the registry's three variables and the `UpdateArrays` calls made so far. A call
whose `GetPowerStoreArrays` fails returns before any setter and changes nothing, so only the
calls that got a result are kept, each with the setter it runs next. A getter changes nothing:
what a handler can observe is the registry of a reachable state. -/

namespace PowerStoreCsi

/-- The next step of an `UpdateArrays` call that has its result. -/
inductive ReloadPc where
  | setArrays | setIPToArray | setDefaultArray | returned
  deriving DecidableEq, Repr

/-- The step after this one. -/
def ReloadPc.next : ReloadPc → ReloadPc
  | .setArrays => .setIPToArray
  | .setIPToArray => .setDefaultArray
  | .setDefaultArray | .returned => .returned

/-- An `UpdateArrays` call: the result `GetPowerStoreArrays` gave it, and its next step. -/
structure Reload where
  result : Registry
  pc : ReloadPc

/-- The setter a call runs at its current step. -/
def Reload.install (rl : Reload) (r : Registry) : Registry :=
  match rl.pc with
  | .setArrays => r.setArrays rl.result.arrays
  | .setIPToArray => r.setIPToArray rl.result.ipToArray
  | .setDefaultArray => r.setDefaultArray rl.result.defaultArray
  | .returned => r

/-- The registry's variables and the `UpdateArrays` calls made so far, oldest first. -/
structure ReloadState where
  registry : Registry
  reloads : List Reload

/-- A step of the system: an `UpdateArrays` call reads the configuration document `doc`, or the
    `i`-th call runs its next setter. -/
inductive ReloadEvent where
  | updateArrays (doc : Except GoError (List (Option PowerStoreArray)))
  | advance (i : Nat)

namespace ReloadState

variable (env : ConfigEnv)

/-- The state before any `UpdateArrays` call. -/
def initial (r : Registry) : ReloadState := ⟨r, []⟩

/-- Whether an event can happen: a call can run its next setter until it has returned. -/
def Enabled (s : ReloadState) : ReloadEvent → Prop
  | .updateArrays _ => True
  | .advance i =>
    match s.reloads[i]? with
    | some rl => rl.pc ≠ .returned
    | none => False

instance (s : ReloadState) : (e : ReloadEvent) → Decidable (Enabled s e)
  | .updateArrays _ => isTrue trivial
  | .advance i =>
    match h : s.reloads[i]? with
    | some rl =>
      if hp : rl.pc = .returned then isFalse (by simp [Enabled, h, hp])
      else isTrue (by simp [Enabled, h, hp])
    | none => isFalse (by simp [Enabled, h])

/-- The state after an event. -/
def next (s : ReloadState) : ReloadEvent → ReloadState
  | .updateArrays doc =>
    match getPowerStoreArrays env doc with
    | .ok result => { s with reloads := s.reloads ++ [⟨result, .setArrays⟩] }
    | .error _ => s
  | .advance i =>
    match s.reloads[i]? with
    | some rl => ⟨rl.install s.registry, s.reloads.set i { rl with pc := rl.pc.next }⟩
    | none => s

variable {env} in
theorem next_updateArrays_ok {s : ReloadState} {doc : Except GoError (List (Option PowerStoreArray))}
    {result : Registry} (h : getPowerStoreArrays env doc = .ok result) :
    next env s (.updateArrays doc) = { s with reloads := s.reloads ++ [⟨result, .setArrays⟩] } := by
  simp [next, h]

variable {env} in
theorem next_updateArrays_error {s : ReloadState}
    {doc : Except GoError (List (Option PowerStoreArray))} {err : GoError}
    (h : getPowerStoreArrays env doc = .error err) : next env s (.updateArrays doc) = s := by
  simp [next, h]

variable {env} in
theorem next_advance {s : ReloadState} {i : Nat} {rl : Reload} (h : s.reloads[i]? = some rl) :
    next env s (.advance i) = ⟨rl.install s.registry, s.reloads.set i { rl with pc := rl.pc.next }⟩ := by
  simp [next, h]

variable {env} in
theorem next_advance_none {s : ReloadState} {i : Nat} (h : s.reloads[i]? = none) :
    next env s (.advance i) = s := by
  simp [next, h]

/-- One step. -/
def Step (s : ReloadState) (e : ReloadEvent) (u : ReloadState) : Prop :=
  Enabled s e ∧ u = next env s e

/-- Runs of the system. -/
inductive Execution : ReloadState → ReloadState → Prop where
  | refl (s : ReloadState) : Execution s s
  | tail {s u v : ReloadState} {e : ReloadEvent} : Execution s u → Step env u e v → Execution s v

/-- The states reachable from a registry. -/
def Reachable (r : Registry) (s : ReloadState) : Prop := Execution env (initial r) s

/-- The runs in which `UpdateArrays` calls do not overlap: a call starts only once every earlier
    one has returned, as when one goroutine handles the configuration changes in turn. Handlers
    still run between the steps. -/
inductive SerialExecution : ReloadState → ReloadState → Prop where
  | refl (s : ReloadState) : SerialExecution s s
  | tail {s u v : ReloadState} {e : ReloadEvent} : SerialExecution s u → Step env u e v →
      (∀ doc, e = .updateArrays doc → ∀ rl ∈ u.reloads, rl.pc = .returned) →
      SerialExecution s v

/-- The state after a list of events. -/
def run (s : ReloadState) (es : List ReloadEvent) : ReloadState := es.foldl (next env) s

/-- Every event of the list is enabled when it comes. -/
def ValidTrace : ReloadState → List ReloadEvent → Prop
  | _, [] => True
  | s, e :: es => Enabled s e ∧ ValidTrace (next env s e) es

instance (s : ReloadState) (es : List ReloadEvent) : Decidable (ValidTrace env s es) := by
  induction es generalizing s with
  | nil => exact isTrue trivial
  | cons e es ih => exact instDecidableAnd

/-- No `UpdateArrays` call is between its steps. -/
def Quiescent (s : ReloadState) : Prop := ∀ rl ∈ s.reloads, rl.pc = .returned

/-- The results of the calls made so far, after the registry they started from. -/
def results (r : Registry) (s : ReloadState) : List Registry := r :: s.reloads.map Reload.result

/-- The result of the latest call, or the starting registry when there is none. -/
def latest (r : Registry) (s : ReloadState) : Registry :=
  (s.reloads.getLast?.map Reload.result).getD r

end ReloadState

end PowerStoreCsi
