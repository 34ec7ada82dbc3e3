import PowerStoreCsi.Prog

set_option autoImplicit false

/-! # Requests served at once

A gRPC server runs each request it receives in a goroutine of its own, so the handlers of the
requests in flight make their calls interleaved in any order, against one shared world. A
`Pool` holds that world's state and, for every request received so far, the rest of its
handler. A schedule is a list of events: a request arrives and its handler starts, or the
handler of the `i`-th request makes its next call and the world answers it. A handler that
has returned or panicked stays in the pool and takes no more steps.

What each call keeps, every schedule keeps (`Pool.run_keeps`): when every request that arrives
makes only calls of `P`, and every call of `P` keeps a reflexive and transitive relation `R`
between states, then `R` holds between the state before a schedule and the state after it. The
invariant behind it is that every handler in the pool still makes only calls of `P`; an
arrival adds one that does, and a call leaves the rest of a handler that does. -/

namespace PowerStoreCsi

/-- Drop a handler's response: what is left is what its calls do. -/
def Prog.discard {α : Type} (p : Prog α) : Prog Unit := p.bind fun _ => .pure ()

theorem Prog.allCalls_discard {α : Type} {P : Call → Prop} {p : Prog α} (h : AllCalls P p) :
    AllCalls P p.discard :=
  allCalls_bind h fun _ => allCalls_pure _ _

/-- The shared state, and the rest of the handler of every request received, in order. -/
structure Pool (σ : Type) where
  state : σ
  threads : List (Prog Unit)

/-- An event of a schedule. -/
inductive PoolEvent (ρ : Type) where
  /-- The request `r` arrives. -/
  | arrive (r : ρ)
  /-- The handler of the `i`-th request makes its next call. -/
  | advance (i : Nat)

namespace Pool

variable {σ ρ : Type} (serve : (c : Call) → σ → c.Resp × σ) (handler : ρ → Prog Unit)

/-- The pool after an event. -/
def next (pool : Pool σ) : PoolEvent ρ → Pool σ
  | .arrive r => ⟨pool.state, pool.threads ++ [handler r]⟩
  | .advance i =>
    match pool.threads[i]? with
    | some (.call c k) =>
      ⟨(serve c pool.state).2, pool.threads.set i (k (serve c pool.state).1)⟩
    | some (.pure _) | some (.panic _) | none => pool

/-- The pool after a schedule. -/
def run (pool : Pool σ) (es : List (PoolEvent ρ)) : Pool σ := es.foldl (next serve handler) pool

section Keeps

variable {serve handler} {P : Call → Prop} {R : σ → σ → Prop} (hrefl : ∀ s, R s s)
  (htrans : ∀ {s₁ s₂ s₃}, R s₁ s₂ → R s₂ s₃ → R s₁ s₃)
  (hstep : ∀ c s, P c → R s (serve c s).2)

include hrefl hstep in
/-- One event keeps `R`, and leaves only handlers that make calls of `P`. -/
theorem next_keeps {pool : Pool σ} (hpool : ∀ p ∈ pool.threads, Prog.AllCalls P p)
    {e : PoolEvent ρ} (he : ∀ r, e = .arrive r → Prog.AllCalls P (handler r)) :
    R pool.state (pool.next serve handler e).state ∧
      ∀ p ∈ (pool.next serve handler e).threads, Prog.AllCalls P p := by
  cases e with
  | arrive r =>
    refine ⟨hrefl _, fun p hp => ?_⟩
    rcases List.mem_append.1 hp with hp | hp
    · exact hpool p hp
    · rw [List.mem_singleton.1 hp]; exact he r rfl
  | advance i =>
    simp only [next]
    split
    · rename_i c k hi
      have hck := hpool _ (List.getElem?_mem hi)
      have hc := hck.head (Prog.reaches_interp serve (k (serve c pool.state).1) pool.state)
      refine ⟨hstep c _ hc, fun p hp => ?_⟩
      rcases List.mem_or_eq_of_mem_set hp with hp | rfl
      · exact hpool p hp
      · exact hck.of_call _
    all_goals exact ⟨hrefl _, hpool⟩

include hrefl htrans hstep in
/-- A schedule in which only requests that make calls of `P` arrive keeps `R`. -/
theorem run_keeps (es : List (PoolEvent ρ)) {pool : Pool σ}
    (hpool : ∀ p ∈ pool.threads, Prog.AllCalls P p)
    (hes : ∀ r, .arrive r ∈ es → Prog.AllCalls P (handler r)) :
    R pool.state (pool.run serve handler es).state := by
  induction es generalizing pool with
  | nil => exact hrefl _
  | cons e es ih =>
    obtain ⟨hR, hnext⟩ :=
      next_keeps hrefl hstep hpool fun r he => hes r (he ▸ List.mem_cons_self _ _)
    exact htrans hR (ih hnext fun r hr => hes r (List.mem_cons_of_mem _ hr))

end Keeps

end Pool

end PowerStoreCsi
