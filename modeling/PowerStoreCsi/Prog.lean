import PowerStoreCsi.Gopowerstore

set_option autoImplicit false

/-! # Handlers as programs over calls

A handler of the driver is a `Prog`: a tree whose inner nodes are calls to the outside world
(`Call`), one branch per possible answer, and whose leaves are the handler's return values or a
Go runtime panic (an index out of range, a nil pointer dereference).

`Prog.Reaches p t o` says that some behaviour of the world answers the calls of `t` in turn and
`p` then ends with `o` (`.ok` of a returned value, `.error` of a panic message). A property of
a handler "for every behaviour of the array" is a statement over all `t` with `p.Reaches t o`:
the answers are arbitrary, also from one call to the next of the same request. A handler that
makes no call at all is `.pure` or `.panic`, which is how "without contacting the array" is
stated. `AllCalls` and `AllRuns` say what every call, or every whole run, of a program
satisfies; each comes with one rule per constructor, so that a proof walks the handler's tree.
`Prog.interp` runs a program against a world that is a state machine; its runs are `Reaches`
runs (`Prog.reaches_interp`). -/

namespace PowerStoreCsi

/-- A program that talks to the outside world through `Call`s. -/
inductive Prog (α : Type) : Type where
  | pure (a : α)
  | call (c : Call) (k : c.Resp → Prog α)
  | panic (msg : String)

namespace Prog

variable {α β : Type}

/-- Sequencing: run `p`, then `f` on its result; a panic ends the run. -/
def bind : Prog α → (α → Prog β) → Prog β
  | .pure a, f => f a
  | .call c k, f => .call c fun r => (k r).bind f
  | .panic m, _ => .panic m

instance : Monad Prog where
  pure := .pure
  bind := .bind

/-- Make one call and return its answer. -/
def query (c : Call) : Prog c.Resp := .call c .pure

/-- Go's `xs[i]`: panics when `i` is out of range. -/
def index (xs : List α) (i : Nat) : Prog α :=
  match xs[i]? with
  | some x => .pure x
  | none => .panic "runtime error: index out of range"

/-- Go's `*p` on a pointer: panics when `p` is nil. -/
def deref (p : Option α) : Prog α :=
  match p with
  | some a => .pure a
  | none => .panic "runtime error: invalid memory address or nil pointer dereference"

@[simp] theorem pure_eq (a : α) : (Pure.pure a : Prog α) = .pure a := rfl

@[simp] theorem bind_eq (p : Prog α) (f : α → Prog β) : p >>= f = p.bind f := rfl

@[simp] theorem pure_bind (a : α) (f : α → Prog β) : (Prog.pure a).bind f = f a := rfl

@[simp] theorem panic_bind (m : String) (f : α → Prog β) : (Prog.panic m).bind f = .panic m :=
  rfl

@[simp] theorem call_bind (c : Call) (k : c.Resp → Prog α) (f : α → Prog β) :
    (Prog.call c k).bind f = .call c fun r => (k r).bind f := rfl

@[simp] theorem query_bind (c : Call) (f : c.Resp → Prog β) : (query c).bind f = .call c f :=
  rfl

/-- Sequencing is associative: a program is a tree, and `bind` grafts at its leaves. -/
theorem bind_assoc {γ : Type} (p : Prog α) (f : α → Prog β) (g : β → Prog γ) :
    (p.bind f).bind g = p.bind fun a => (f a).bind g := by
  induction p with
  | pure a => rfl
  | call c k ih => exact congrArg (Prog.call c) (funext ih)
  | panic m => rfl

theorem index_of_lt {xs : List α} {i : Nat} (h : i < xs.length) :
    index xs i = .pure (xs.get ⟨i, h⟩) := by
  simp [index, List.getElem?_eq_getElem h]

theorem index_of_le {xs : List α} {i : Nat} (h : xs.length ≤ i) :
    index xs i = .panic "runtime error: index out of range" := by
  simp [index, List.getElem?_eq_none h]

/-! ## Runs -/

/-- `p.Reaches t o`: answering the calls of `t` in turn, `p` ends with `o`. -/
inductive Reaches : Prog α → List Event → Except String α → Prop
  | pure (a : α) : Reaches (.pure a) [] (.ok a)
  | panic (m : String) : Reaches (.panic m) [] (.error m)
  | call {c : Call} {k : c.Resp → Prog α} (r : c.Resp) {t : List Event} {o : Except String α} :
      Reaches (k r) t o → Reaches (.call c k) (⟨c, r⟩ :: t) o

@[simp] theorem reaches_pure_iff {a : α} {t : List Event} {o : Except String α} :
    (Prog.pure a).Reaches t o ↔ t = [] ∧ o = .ok a := by
  constructor
  · rintro ⟨⟩; exact ⟨rfl, rfl⟩
  · rintro ⟨rfl, rfl⟩; exact .pure a

@[simp] theorem reaches_panic_iff {m : String} {t : List Event} {o : Except String α} :
    (Prog.panic m : Prog α).Reaches t o ↔ t = [] ∧ o = .error m := by
  constructor
  · rintro ⟨⟩; exact ⟨rfl, rfl⟩
  · rintro ⟨rfl, rfl⟩; exact .panic m

@[simp] theorem reaches_call_iff {c : Call} {k : c.Resp → Prog α} {t : List Event}
    {o : Except String α} :
    (Prog.call c k).Reaches t o ↔ ∃ r t', t = ⟨c, r⟩ :: t' ∧ (k r).Reaches t' o := by
  constructor
  · intro h; cases h with | call r h => exact ⟨r, _, rfl, h⟩
  · rintro ⟨r, t', rfl, h⟩; exact .call r h

/-- A run of `p.bind f` that returns is a returning run of `p` followed by a run of `f`. -/
theorem Reaches.bind {p : Prog α} {f : α → Prog β} {t₁ t₂ : List Event} {a : α}
    {o : Except String β} (h₁ : p.Reaches t₁ (.ok a)) (h₂ : (f a).Reaches t₂ o) :
    (p.bind f).Reaches (t₁ ++ t₂) o := by
  generalize hx : (Except.ok a : Except String α) = x at h₁
  induction h₁ with
  | pure => cases hx; exact h₂
  | panic => cases hx
  | call r _ ih => exact .call r (ih hx)

/-- Every run of `p.bind f` either passes through a returning run of `p`, or is a run of `p`
    that panics. -/
theorem Reaches.of_bind {p : Prog α} {f : α → Prog β} {t : List Event} {o : Except String β}
    (h : (p.bind f).Reaches t o) :
    (∃ t₁ t₂ a, t = t₁ ++ t₂ ∧ p.Reaches t₁ (.ok a) ∧ (f a).Reaches t₂ o) ∨
      (∃ m, o = .error m ∧ p.Reaches t (.error m)) := by
  induction p generalizing t with
  | pure a => exact .inl ⟨[], t, a, rfl, .pure a, h⟩
  | panic m =>
    obtain ⟨rfl, rfl⟩ := reaches_panic_iff.1 h
    exact .inr ⟨m, rfl, .panic m⟩
  | call c k ih =>
    obtain ⟨r, t', rfl, h'⟩ := reaches_call_iff.1 h
    rcases ih r h' with ⟨t₁, t₂, a, rfl, h₁, h₂⟩ | ⟨m, rfl, h₁⟩
    · exact .inl ⟨⟨c, r⟩ :: t₁, t₂, a, rfl, .call r h₁, h₂⟩
    · exact .inr ⟨m, rfl, .call r h₁⟩

/-- A run of `p.bind f` that returns passes through a returning run of `p`. -/
theorem Reaches.of_bind_ok {p : Prog α} {f : α → Prog β} {t : List Event} {b : β}
    (h : (p.bind f).Reaches t (.ok b)) :
    ∃ t₁ t₂ a, t = t₁ ++ t₂ ∧ p.Reaches t₁ (.ok a) ∧ (f a).Reaches t₂ (.ok b) := by
  rcases h.of_bind with h | ⟨_, he, _⟩
  · exact h
  · cases he

theorem reaches_bind_iff {p : Prog α} {f : α → Prog β} {t : List Event}
    {o : Except String β} :
    (p.bind f).Reaches t o ↔
      (∃ t₁ t₂ a, t = t₁ ++ t₂ ∧ p.Reaches t₁ (.ok a) ∧ (f a).Reaches t₂ o) ∨
        (∃ m, o = .error m ∧ p.Reaches t (.error m)) := by
  refine ⟨Reaches.of_bind, ?_⟩
  rintro (⟨t₁, t₂, a, rfl, h₁, h₂⟩ | ⟨m, rfl, h⟩)
  · exact h₁.bind h₂
  · generalize hx : (Except.error m : Except String α) = x at h
    induction h with
    | pure => cases hx
    | panic => cases hx; exact .panic m
    | call r _ ih => exact .call r (ih hx)

/-! ## What every call satisfies -/

/-- Every call of every run of `p` satisfies `P`. -/
def AllCalls (P : Call → Prop) (p : Prog α) : Prop :=
  ∀ t o, p.Reaches t o → ∀ ev ∈ t, P ev.call

theorem allCalls_pure (P : Call → Prop) (a : α) : AllCalls P (.pure a) := by
  intro t o h ev hev
  rw [(reaches_pure_iff.1 h).1] at hev
  cases hev

theorem allCalls_panic (P : Call → Prop) (m : String) : AllCalls P (.panic m : Prog α) := by
  intro t o h ev hev
  rw [(reaches_panic_iff.1 h).1] at hev
  cases hev

theorem allCalls_call {P : Call → Prop} {c : Call} {k : c.Resp → Prog α} (hc : P c)
    (hk : ∀ r, AllCalls P (k r)) : AllCalls P (.call c k) := by
  intro t o h ev hev
  obtain ⟨r, t', rfl, h'⟩ := reaches_call_iff.1 h
  rcases List.mem_cons.1 hev with rfl | hev
  · exact hc
  · exact hk r t' o h' ev hev

/-- Conversely, whatever the answer to the first call, the rest of the program makes only calls
    of `P`. -/
theorem AllCalls.of_call {P : Call → Prop} {c : Call} {k : c.Resp → Prog α}
    (h : AllCalls P (.call c k)) (r : c.Resp) : AllCalls P (k r) :=
  fun _ o hr ev hev => h _ o (.call r hr) ev (List.mem_cons_of_mem _ hev)

/-- The first call is one of `P`, when the rest has a run after some answer to it. -/
theorem AllCalls.head {P : Call → Prop} {c : Call} {k : c.Resp → Prog α}
    (h : AllCalls P (.call c k)) {r : c.Resp} {t : List Event} {o : Except String α}
    (hr : (k r).Reaches t o) : P c :=
  h _ o (.call r hr) _ (List.mem_cons_self _ _)

theorem allCalls_bind {P : Call → Prop} {p : Prog α} {f : α → Prog β} (hp : AllCalls P p)
    (hf : ∀ a, AllCalls P (f a)) : AllCalls P (p.bind f) := by
  intro t o h ev hev
  rcases h.of_bind with ⟨t₁, t₂, a, rfl, h₁, h₂⟩ | ⟨m, rfl, h₁⟩
  · rcases List.mem_append.1 hev with hev | hev
    · exact hp _ _ h₁ ev hev
    · exact hf a _ _ h₂ ev hev
  · exact hp _ _ h₁ ev hev

theorem AllCalls.mono {P Q : Call → Prop} {p : Prog α} (h : AllCalls P p)
    (hPQ : ∀ c, P c → Q c) : AllCalls Q p :=
  fun t o hr ev hev => hPQ _ (h t o hr ev hev)

theorem allCalls_index (P : Call → Prop) (xs : List α) (i : Nat) :
    AllCalls P (index xs i) := by
  unfold index
  split
  · exact allCalls_pure _ _
  · exact allCalls_panic _ _

theorem allCalls_deref (P : Call → Prop) (p : Option α) :
    AllCalls P (deref p) := by
  unfold deref
  split
  · exact allCalls_pure _ _
  · exact allCalls_panic _ _

theorem allCalls_ite {P : Call → Prop} {c : Prop} [Decidable c] {a b : Prog α}
    (ha : c → AllCalls P a) (hb : ¬ c → AllCalls P b) : AllCalls P (if c then a else b) := by
  by_cases hc : c
  · rw [if_pos hc]; exact ha hc
  · rw [if_neg hc]; exact hb hc

/-! ## What every run satisfies -/

/-- Every run of `p`, its calls with their answers and its outcome, satisfies `R`. Walking a
    call shifts `R` by the event it adds, so a walk down a handler ends at each leaf with `R`
    of that leaf's whole trace. -/
def AllRuns (R : List Event → Except String α → Prop) (p : Prog α) : Prop :=
  ∀ t o, p.Reaches t o → R t o

theorem allRuns_pure {R : List Event → Except String α → Prop} {a : α} (h : R [] (.ok a)) :
    AllRuns R (.pure a) := by
  intro t o hr
  obtain ⟨rfl, rfl⟩ := reaches_pure_iff.1 hr
  exact h

theorem allRuns_panic {R : List Event → Except String α → Prop} {m : String}
    (h : R [] (.error m)) : AllRuns R (.panic m) := by
  intro t o hr
  obtain ⟨rfl, rfl⟩ := reaches_panic_iff.1 hr
  exact h

theorem allRuns_call {R : List Event → Except String α → Prop} {c : Call}
    {k : c.Resp → Prog α} (hk : ∀ r, AllRuns (fun t o => R (⟨c, r⟩ :: t) o) (k r)) :
    AllRuns R (.call c k) := by
  intro t o hr
  obtain ⟨r, t', rfl, h'⟩ := reaches_call_iff.1 hr
  exact hk r t' o h'

theorem AllRuns.mono {R R' : List Event → Except String α → Prop} {p : Prog α}
    (h : AllRuns R p) (hR : ∀ t o, R t o → R' t o) : AllRuns R' p :=
  fun t o hr => hR t o (h t o hr)

theorem allRuns_ite {R : List Event → Except String α → Prop} {c : Prop} [Decidable c]
    {a b : Prog α} (ha : c → AllRuns R a) (hb : ¬ c → AllRuns R b) :
    AllRuns R (if c then a else b) := by
  by_cases hc : c
  · rw [if_pos hc]; exact ha hc
  · rw [if_neg hc]; exact hb hc

/-! ## Running against a stateful world -/

/-- Run `p` against a world whose answers come from, and change, a state of type `σ`. -/
def interp {σ : Type} (serve : (c : Call) → σ → c.Resp × σ) : Prog α → σ → Except String α × σ
  | .pure a, s => (.ok a, s)
  | .panic m, s => (.error m, s)
  | .call c k, s => interp serve (k (serve c s).1) (serve c s).2

/-- The calls of a run of `p` against a stateful world, with their answers. -/
def trace {σ : Type} (serve : (c : Call) → σ → c.Resp × σ) : Prog α → σ → List Event
  | .pure _, _ => []
  | .panic _, _ => []
  | .call c k, s => ⟨c, (serve c s).1⟩ :: trace serve (k (serve c s).1) (serve c s).2

/-- A run against a stateful world is one of the runs `Reaches` speaks about. -/
theorem reaches_interp {σ : Type} (serve : (c : Call) → σ → c.Resp × σ) (p : Prog α) (s : σ) :
    p.Reaches (p.trace serve s) (p.interp serve s).1 := by
  induction p generalizing s with
  | pure a => exact .pure a
  | panic m => exact .panic m
  | call c k ih => exact .call _ (ih _ _)

/-- A reflexive and transitive relation between states that every call of a run keeps holds
    between the states before and after the run. -/
theorem interp_of_trace {σ : Type} {serve : (c : Call) → σ → c.Resp × σ}
    {R : σ → σ → Prop} (hrefl : ∀ s, R s s)
    (htrans : ∀ {s₁ s₂ s₃}, R s₁ s₂ → R s₂ s₃ → R s₁ s₃)
    {P : Call → Prop} (hstep : ∀ c s, P c → R s (serve c s).2) (p : Prog α) (s : σ)
    (h : ∀ ev ∈ p.trace serve s, P ev.call) : R s (p.interp serve s).2 := by
  induction p generalizing s with
  | pure a => exact hrefl s
  | panic m => exact hrefl s
  | call c k ih =>
    exact htrans (hstep c s (h _ (List.mem_cons_self _ _)))
      (ih _ _ fun ev hev => h ev (List.mem_cons_of_mem _ hev))

/-- What every call of every run of `p` keeps, a run of `p` against a stateful world keeps. -/
theorem AllCalls.interp {σ : Type} {serve : (c : Call) → σ → c.Resp × σ}
    {R : σ → σ → Prop} (hrefl : ∀ s, R s s)
    (htrans : ∀ {s₁ s₂ s₃}, R s₁ s₂ → R s₂ s₃ → R s₁ s₃)
    {P : Call → Prop} (hstep : ∀ c s, P c → R s (serve c s).2) {p : Prog α}
    (h : AllCalls P p) (s : σ) : R s (p.interp serve s).2 :=
  interp_of_trace hrefl htrans hstep p s (h _ _ (reaches_interp serve p s))

@[simp] theorem interp_bind {σ : Type} (serve : (c : Call) → σ → c.Resp × σ) (p : Prog α)
    (f : α → Prog β) (s : σ) :
    (p.bind f).interp serve s =
      match p.interp serve s with
      | (.ok a, s') => (f a).interp serve s'
      | (.error m, s') => (.error m, s') := by
  induction p generalizing s with
  | pure a => rfl
  | panic m => rfl
  | call c k ih => exact ih _ _

end Prog

end PowerStoreCsi
