import Mathlib.Data.Nat.Find
import Mathlib.Data.String.Basic
import PowerStoreCsi.Node.FileSystem

set_option autoImplicit false

/-! # Proofs: WWPN formatting and the reading of the mount table

On an ASCII string, `formatWWPN` joins the consecutive two-character chunks of the string with
`':'`: the loop's test of the byte offset's parity is a test of the character's position. The
colons of the result are the separators only when the string has none of its own.

`consistentRead` reads the mount table until two reads in a row agree. Against a file whose
reads answer any sequence, it stops at the first read after the first one that fails or agrees
with the one before it, or after the last retry (`consistentRead_run`). The first read is made
whatever the retry bound. -/

namespace PowerStoreCsi

namespace Node

/-! ## `formatWWPN` -/

/-- The consecutive two-character chunks of a list, the last one a single character when the
    length is odd. -/
def pairChunks : List Char → List (List Char)
  | a :: b :: rest => [a, b] :: pairChunks rest
  | [a] => [[a]]
  | [] => []

/-- The chunks of a list, joined by `':'`. -/
def joinPairs (l : List Char) : List Char := [':'].intercalate (pairChunks l)

@[simp] theorem joinPairs_nil : joinPairs [] = [] := rfl

@[simp] theorem joinPairs_single (a : Char) : joinPairs [a] = [a] := rfl

theorem joinPairs_cons_cons (a b : Char) (rest : List Char) :
    joinPairs (a :: b :: rest) = a :: b :: if rest = [] then [] else ':' :: joinPairs rest := by
  match rest with
  | [] => rfl
  | [_] => simp [joinPairs, pairChunks, List.intercalate, List.intersperse_cons_cons]
  | _ :: _ :: _ => simp [joinPairs, pairChunks, List.intercalate, List.intersperse_cons_cons]

theorem joinPairs_cons (c : Char) (cs : List Char) : ∃ Y, joinPairs (c :: cs) = c :: Y := by
  match cs with
  | [] => exact ⟨[], rfl⟩
  | _ :: _ => exact ⟨_, joinPairs_cons_cons _ _ _⟩

theorem utf8Size_of_ascii {c : Char} (h : c.toNat < 128) : c.utf8Size = 1 := by
  have : c.val.toNat < 128 := h
  simp only [Char.utf8Size]
  rw [if_pos]
  show c.val.toNat ≤ 127
  omega

theorem utf8Len_of_ascii {l : List Char} (hl : ∀ c ∈ l, c.toNat < 128) :
    String.utf8Len l = l.length := by
  induction l with
  | nil => rfl
  | cons c cs ih =>
    simp only [String.utf8Len_cons, List.length_cons, utf8Size_of_ascii (hl c (by simp)),
      ih fun d hd => hl d (List.mem_cons_of_mem _ hd)]

/-- From an even offset, the loop appends the chunks of what is left joined by `':'`: each
    character at an odd offset closes a chunk, and a colon follows it unless it is the last. -/
theorem formatWWPNLoop_ascii (buffer : String) (i : Nat) (l : List Char)
    (hl : ∀ c ∈ l, c.toNat < 128) (heven : i % 2 = 0) :
    (formatWWPNLoop (i + l.length) buffer i l).data = buffer.data ++ joinPairs l := by
  induction l using pairChunks.induct generalizing buffer i with
  | case1 a b rest ih =>
    have ha := utf8Size_of_ascii (hl a (by simp))
    have hb := utf8Size_of_ascii (hl b (by simp))
    have hstep : formatWWPNLoop (i + (a :: b :: rest).length) buffer i (a :: b :: rest) =
        formatWWPNLoop (i + 2 + rest.length)
          (if rest = [] then (buffer.push a).push b else (buffer.push a).push b ++ ":") (i + 2)
          rest := by
      rw [show i + (a :: b :: rest).length = i + 2 + rest.length by simp; omega]
      simp only [formatWWPNLoop, ha, hb]
      by_cases hr : rest = [] <;> simp [hr, heven, Nat.add_mod, List.length_pos]
    rw [hstep, ih _ _ (fun c hc => hl c (by simp [hc])) (by omega), joinPairs_cons_cons]
    by_cases hr : rest = [] <;> simp [hr]
  | case2 a => simp [formatWWPNLoop, heven]
  | case3 => simp [formatWWPNLoop]

theorem count_joinPairs (l : List Char) (hl : ':' ∉ l) :
    (joinPairs l).count ':' = (l.length - 1) / 2 := by
  induction l using pairChunks.induct with
  | case1 a b rest ih =>
    simp only [List.mem_cons, not_or] at hl
    rw [joinPairs_cons_cons]
    by_cases hr : rest = []
    · subst hr; simp [List.count_cons, Ne.symm hl.1, Ne.symm hl.2.1]
    · have := List.length_pos.2 hr
      simp [hr, List.count_cons, Ne.symm hl.1, Ne.symm hl.2.1, ih hl.2.2]
      omega
  | case2 a =>
    simp only [List.mem_singleton] at hl
    simp [List.count_cons, Ne.symm hl]
  | case3 => rfl

theorem filter_joinPairs (l : List Char) (hl : ':' ∉ l) :
    (joinPairs l).filter (· ≠ ':') = l := by
  induction l using pairChunks.induct with
  | case1 a b rest ih =>
    simp only [List.mem_cons, not_or] at hl
    rw [joinPairs_cons_cons]
    have ih' := ih hl.2.2
    simp only [ne_eq, decide_not] at ih' ⊢
    by_cases hr : rest = [] <;> simp [hr, Ne.symm hl.1, Ne.symm hl.2.1, ih']
  | case2 a =>
    simp only [List.mem_singleton] at hl
    simp [Ne.symm hl]
  | case3 => rfl

theorem head?_joinPairs (l : List Char) : (joinPairs l).head? = l.head? := by
  match l with
  | [] => rfl
  | [_] => rfl
  | _ :: _ :: _ => rw [joinPairs_cons_cons]; rfl

theorem getLast?_joinPairs (l : List Char) : (joinPairs l).getLast? = l.getLast? := by
  induction l using pairChunks.induct with
  | case1 a b rest ih =>
    rw [joinPairs_cons_cons]
    by_cases hr : rest = []
    · subst hr; rfl
    · obtain ⟨c, cs, rfl⟩ := List.exists_cons_of_ne_nil hr
      obtain ⟨Y, hY⟩ := joinPairs_cons c cs
      simp only [hr, if_false, hY, List.getLast?_cons_cons]
      rw [← hY, ih]
  | case2 a => rfl
  | case3 => rfl

theorem not_doubled_joinPairs (l : List Char) (hl : ':' ∉ l) :
    ¬ [':', ':'] <:+: joinPairs l := by
  induction l using pairChunks.induct with
  | case1 a b rest ih =>
    simp only [List.mem_cons, not_or] at hl
    rw [joinPairs_cons_cons]
    by_cases hr : rest = []
    · subst hr; simp [List.infix_cons_iff, List.cons_prefix_cons, hl.1, hl.2.1]
    · obtain ⟨c, cs, rfl⟩ := List.exists_cons_of_ne_nil hr
      obtain ⟨Y, hY⟩ := joinPairs_cons c cs
      have hc : c ≠ ':' := fun h => hl.2.2 (h ▸ List.mem_cons_self _ _)
      have hrest := ih hl.2.2
      rw [hY] at hrest ⊢
      simp [List.infix_cons_iff, List.cons_prefix_cons, hl.1, hl.2.1, Ne.symm hc, hrest]
  | case2 a => simp [List.infix_cons_iff]
  | case3 => simp

/-- On an ASCII string `formatWWPN` answers no error and the consecutive two-character chunks of
    the string joined by `':'`. When the string has no `':'` of its own, as the hex digits of a
    WWPN, the colons are the separators: `(len - 1) / 2` of them, none first, last or next to
    another, and deleting them gives the string back. -/
theorem formatWWPN_joins_pairs (s : String) (hs : ∀ c ∈ s.data, c.toNat < 128) :
    formatWWPN s = (⟨joinPairs s.data⟩, none) ∧
    (':' ∉ s.data →
      (formatWWPN s).1.data.count ':' = (s.length - 1) / 2 ∧
      (formatWWPN s).1.data.head? ≠ some ':' ∧ (formatWWPN s).1.data.getLast? ≠ some ':' ∧
      ¬ [':', ':'] <:+: (formatWWPN s).1.data ∧
      (formatWWPN s).1.data.filter (· ≠ ':') = s.data) := by
  have hfmt : formatWWPN s = (⟨joinPairs s.data⟩, none) := by
    obtain ⟨l⟩ := s
    have hloop := formatWWPNLoop_ascii "" 0 l hs rfl
    rw [Nat.zero_add] at hloop
    simp only [formatWWPN, String.utf8ByteSize_mk, utf8Len_of_ascii hs]
    exact Prod.ext (String.ext hloop) rfl
  refine ⟨hfmt, fun hcolon => ?_⟩
  rw [hfmt]
  exact ⟨count_joinPairs _ hcolon,
    fun h => hcolon (List.mem_of_mem_head? (head?_joinPairs s.data ▸ h)),
    fun h => hcolon (List.mem_of_mem_getLast? (getLast?_joinPairs s.data ▸ h)),
    not_doubled_joinPairs _ hcolon, filter_joinPairs _ hcolon⟩

/-- The WWPN `5001438a` is formatted `50:01:43:8a`. -/
theorem formatWWPN_joins_pairs_wwpn :
    (∀ c ∈ "5001438a".data, c.toNat < 128) ∧ (formatWWPN "5001438a").1 = "50:01:43:8a" :=
  ⟨by decide, by rw [(formatWWPN_joins_pairs "5001438a" (by decide)).1]; rfl⟩

/-- A colon is formatted as itself: a colon where `(len - 1) / 2 = 0` are counted, first and
    last. -/
theorem formatWWPN_colon : formatWWPN ":" = (":", none) := rfl

/-! ## Reading the mount table -/

/-- A file whose successive reads answer `r 0`, `r 1`, and so on; the state counts the reads
    made so far. -/
def readSequence (r : Nat → String × Option GoError) : (c : Call) → Nat → c.Resp × Nat
  | .readFile _, i => (r i, i + 1)
  | c, i => (c.failWith NodeFs.notFsCallError, i)

/-- Read `l` stops the loop of `consistentRead`: it fails, or it agrees with the read before it. -/
def Stops (r : Nat → String × Option GoError) (l : Nat) : Prop :=
  (r l).2.isSome ∨ (r l).1 = (r (l - 1)).1

instance (r : Nat → String × Option GoError) : DecidablePred (Stops r) :=
  fun _ => inferInstanceAs (Decidable (_ ∨ _))

/-- What `consistentRead` answers when read `l` stops its loop. -/
def stopAnswer (r : Nat → String × Option GoError) (l : Nat) : Except String (String × Option GoError) :=
  match (r l).2 with
  | some e => .ok ("", some e)
  | none => .ok ((r l).1, none)

/-- The error of a loop that ran out of retries. -/
def consistentReadError (filename : String) (retry : Int) : GoError :=
  .plain ("could not get consistent content of " ++ filename ++ " after " ++ toString retry ++
    " attempts")

section ConsistentRead

variable (env : Env) (filename : String) (retry : Int) (r : Nat → String × Option GoError)

/-- The first read after the first one, within the retries, that stops the loop. -/
theorem exists_first_stop {N : Nat} (h : ∃ l, 0 < l ∧ l ≤ N ∧ Stops r l) :
    ∃ l₀, 0 < l₀ ∧ l₀ ≤ N ∧ Stops r l₀ ∧ ∀ l, 0 < l → l < l₀ → ¬ Stops r l :=
  ⟨Nat.find h, (Nat.find_spec h).1, (Nat.find_spec h).2.1, (Nat.find_spec h).2.2,
    fun l hl hlt hs => Nat.find_min h hlt ⟨hl, by have := (Nat.find_spec h).2.1; omega, hs⟩⟩

theorem not_stops {l : Nat} : ¬ Stops r l ↔ (r l).2 = none ∧ (r l).1 ≠ (r (l - 1)).1 := by
  simp [Stops, Option.not_isSome_iff_eq_none]

/-- No read before `m` stops the loop when all of them succeed and no two consecutive ones
    agree. -/
theorem not_stops_of_lt {m : Nat} (hok : ∀ i < m, (r i).2 = none)
    (hneq : ∀ i, i + 1 < m → (r (i + 1)).1 ≠ (r i).1) : ∀ l, 0 < l → l < m → ¬ Stops r l := by
  intro l hl hlm
  refine (not_stops r).2 ⟨hok l hlm, ?_⟩
  simpa [Nat.sub_add_cancel hl] using hneq (l - 1) (by omega)

/-- The first read that stops the loop is unique. -/
theorem first_stop_unique {l₀ l₁ : Nat} (h₀ : 0 < l₀) (h₁ : 0 < l₁) (s₀ : Stops r l₀)
    (s₁ : Stops r l₁) (f₀ : ∀ l, 0 < l → l < l₀ → ¬ Stops r l)
    (f₁ : ∀ l, 0 < l → l < l₁ → ¬ Stops r l) : l₀ = l₁ := by
  rcases Nat.lt_trichotomy l₀ l₁ with h | h | h
  · exact absurd s₀ (f₁ l₀ h₀ h)
  · exact h
  · exact absurd s₁ (f₀ l₁ h₁ h)

/-- An iteration whose read neither fails nor agrees with the read before goes on with the
    next read. -/
theorem consistentReadLoop_step (m j : Nat) (hns : ¬ Stops r (j + 1)) :
    (consistentReadLoop env filename retry (m + 1) (r j).1).interp (readSequence r) (j + 1) =
      (consistentReadLoop env filename retry m (r (j + 1)).1).interp (readSequence r) (j + 2) := by
  obtain ⟨hok, hne⟩ := (not_stops r).1 hns
  rw [Nat.add_sub_cancel] at hne
  simp only [consistentReadLoop, Prog.bind_eq, Prog.pure_eq, Prog.query_bind, Prog.interp,
    readSequence]
  rw [show r (j + 1) = ((r (j + 1)).1, none) from Prod.ext rfl hok]
  simp only [Prog.pure_bind, if_neg (Ne.symm hne)]

/-- A loop that meets a read that stops it within its iterations answers that read. -/
theorem consistentReadLoop_stop (m j l₀ : Nat) (hj : j < l₀) (hl : l₀ ≤ j + m)
    (hstop : Stops r l₀) (hfirst : ∀ l, j < l → l < l₀ → ¬ Stops r l) :
    (consistentReadLoop env filename retry m (r j).1).interp (readSequence r) (j + 1) =
      (stopAnswer r l₀, l₀ + 1) := by
  induction m generalizing j with
  | zero => omega
  | succ m ih =>
    by_cases hnext : j + 1 = l₀
    · subst hnext
      simp only [consistentReadLoop, Prog.bind_eq, Prog.pure_eq, Prog.query_bind, Prog.interp,
        readSequence]
      unfold Stops at hstop
      cases he : (r (j + 1)).2 with
      | some e =>
        rw [show r (j + 1) = ((r (j + 1)).1, some e) from Prod.ext rfl he]
        simp [Prog.interp, stopAnswer, he]
      | none =>
        simp only [he, Option.isSome_none, Bool.false_eq_true, false_or, Nat.add_sub_cancel] at hstop
        rw [show r (j + 1) = ((r (j + 1)).1, none) from Prod.ext rfl he]
        simp [Prog.interp, stopAnswer, he, hstop]
    · rw [consistentReadLoop_step env filename retry r m j (hfirst (j + 1) (by omega) (by omega))]
      exact ih (j + 1) (by omega) (by omega) fun l h1 h2 => hfirst l (by omega) h2

/-- A loop that meets no such read runs out after its last iteration. -/
theorem consistentReadLoop_exhaust (m j : Nat) (hnone : ∀ l, j < l → l ≤ j + m → ¬ Stops r l) :
    (consistentReadLoop env filename retry m (r j).1).interp (readSequence r) (j + 1) =
      (.ok ("", some (consistentReadError filename retry)), j + m + 1) := by
  induction m generalizing j with
  | zero => rfl
  | succ m ih =>
    rw [consistentReadLoop_step env filename retry r m j (hnone (j + 1) (by omega) (by omega)),
      ih (j + 1) fun l h1 h2 => hnone l (by omega) (by omega)]
    congr 2; omega

theorem consistentRead_interp_error {e : GoError} (h0 : (r 0).2 = some e) :
    (consistentRead env filename retry).interp (readSequence r) 0 = (.ok ("", some e), 1) := by
  simp only [consistentRead, Prog.bind_eq, Prog.pure_eq, Prog.query_bind, Prog.interp, readSequence]
  rw [show r 0 = ((r 0).1, some e) from Prod.ext rfl h0]
  rfl

theorem consistentRead_interp_ok (h0 : (r 0).2 = none) :
    (consistentRead env filename retry).interp (readSequence r) 0 =
      (consistentReadLoop env filename retry retry.toNat (r 0).1).interp (readSequence r) (0 + 1) := by
  simp only [consistentRead, Prog.bind_eq, Prog.pure_eq, Prog.query_bind, Prog.interp, readSequence]
  rw [show r 0 = ((r 0).1, none) from Prod.ext rfl h0]
  rfl

/-- How a run of `consistentRead` on the sequence ends: with the first read's error, at the first
    later read within the retries that fails or agrees with the one before, or after the last
    retry. -/
theorem consistentRead_run :
    let run := (consistentRead env filename retry).interp (readSequence r) 0
    (∃ e, (r 0).2 = some e ∧ run = (.ok ("", some e), 1)) ∨
    ((r 0).2 = none ∧ ∃ l₀, 0 < l₀ ∧ l₀ ≤ retry.toNat ∧ Stops r l₀ ∧
      (∀ l, 0 < l → l < l₀ → ¬ Stops r l) ∧ run = (stopAnswer r l₀, l₀ + 1)) ∨
    ((r 0).2 = none ∧ (∀ l, 0 < l → l ≤ retry.toNat → ¬ Stops r l) ∧
      run = (.ok ("", some (consistentReadError filename retry)), retry.toNat + 1)) := by
  cases h0 : (r 0).2 with
  | some e => exact .inl ⟨e, rfl, consistentRead_interp_error env filename retry r h0⟩
  | none =>
    rw [consistentRead_interp_ok env filename retry r h0]
    by_cases hs : ∃ l, 0 < l ∧ l ≤ retry.toNat ∧ Stops r l
    · obtain ⟨l₀, hl0, hlN, hstop, hfirst⟩ := exists_first_stop r hs
      exact .inr (.inl ⟨rfl, l₀, hl0, hlN, hstop, hfirst,
        consistentReadLoop_stop env filename retry r _ 0 l₀ hl0 (by omega) hstop
          fun l hl hlt => hfirst l hl hlt⟩)
    · have hnone : ∀ l, 0 < l → l ≤ retry.toNat → ¬ Stops r l := fun l h1 h2 hs' => hs ⟨l, h1, h2, hs'⟩
      refine .inr (.inr ⟨rfl, hnone, ?_⟩)
      rw [consistentReadLoop_exhaust env filename retry r _ 0 fun l h1 h2 => hnone l h1 (by omega)]
      simp [Nat.add_comm]

/-- For every retry bound `n` and every sequence of reads, `consistentRead` reads the file at most
    `max n 0 + 1` times. It answers content `c` and no error exactly when, for some
    `k < max n 0`, the reads up to `k + 1` succeed, read `k + 1` agrees with read `k`, and no two
    earlier consecutive reads agree; `c` is read `k + 1`. A failed read before that is answered
    with its error. Otherwise it fails after `max n 0 + 1` reads. -/
theorem consistentRead_contract :
    let run := (consistentRead env filename retry).interp (readSequence r) 0
    run.2 ≤ retry.toNat + 1 ∧
    (∀ c, run.1 = .ok (c, none) ↔ ∃ k < retry.toNat, (∀ j ≤ k + 1, (r j).2 = none) ∧
      (r (k + 1)).1 = (r k).1 ∧ (∀ j < k, (r (j + 1)).1 ≠ (r j).1) ∧ c = (r (k + 1)).1) ∧
    (∀ j e, j ≤ retry.toNat → (r j).2 = some e → (∀ i < j, (r i).2 = none) →
      (∀ i, i + 1 < j → (r (i + 1)).1 ≠ (r i).1) → run.1 = .ok ("", some e)) ∧
    ((∀ j ≤ retry.toNat, (r j).2 = none) → (∀ i < retry.toNat, (r (i + 1)).1 ≠ (r i).1) →
      run = (.ok ("", some (consistentReadError filename retry)), retry.toNat + 1)) := by
  intro run
  rcases consistentRead_run env filename retry r with
    ⟨e0, h0, hrun⟩ | ⟨h0, l₀, hl0, hlN, hstop, hfirst, hrun⟩ | ⟨h0, hnone, hrun⟩
  · -- the first read fails
    refine ⟨by simp [run, hrun], fun c => ⟨fun h => by simp [run, hrun] at h, ?_⟩, ?_, ?_⟩
    · rintro ⟨k, -, hok, -⟩
      simp [hok 0 (by omega)] at h0
    · intro j e hj he hbefore _
      cases j with
      | zero => simp_all [run]
      | succ j => simp [hbefore 0 (by omega)] at h0
    · intro hok _
      simp [hok 0 (by omega)] at h0
  · -- a later read stops the loop
    have hok : ∀ j, j < l₀ → (r j).2 = none := fun j hj =>
      if hj0 : j = 0 then hj0 ▸ h0 else (not_stops r).1 (hfirst j (by omega) hj) |>.1
    refine ⟨by simp [run, hrun]; omega, fun c => ⟨fun h => ?_, ?_⟩, ?_, ?_⟩
    · cases he : (r l₀).2 with
      | some e => simp [run, hrun, stopAnswer, he] at h
      | none =>
        simp only [run, hrun, stopAnswer, he, Except.ok.injEq, Prod.mk.injEq, and_true] at h
        have hagree : (r l₀).1 = (r (l₀ - 1)).1 := by simpa [Stops, he] using hstop
        refine ⟨l₀ - 1, by omega, fun j hj => ?_, ?_, fun j hj => ?_, ?_⟩
        · rcases Nat.lt_or_ge j l₀ with hj' | hj'
          · exact hok j hj'
          · rw [show j = l₀ by omega, he]
        · rw [Nat.sub_add_cancel hl0]; exact hagree
        · simpa using ((not_stops r).1 (hfirst (j + 1) (by omega) (by omega))).2
        · rw [Nat.sub_add_cancel hl0]; exact h.symm
    · -- the agreeing read `k + 1` is the first stop
      rintro ⟨k, hk, hoks, hagree, hneq, rfl⟩
      have hl : l₀ = k + 1 := first_stop_unique r hl0 (by omega) hstop
        (.inr (by simpa using hagree)) hfirst
        (not_stops_of_lt r (fun i hi => hoks i (by omega)) fun i hi => hneq i (by omega))
      simp [run, hrun, stopAnswer, hl, hoks (k + 1) le_rfl]
    · -- the failed read `j` is the first stop
      intro j e hj he hbefore hneq
      have hj0 : j ≠ 0 := fun hj0 => by simp [hj0 ▸ he] at h0
      have hl : l₀ = j := first_stop_unique r hl0 (by omega) hstop (.inl (by simp [he])) hfirst
        (not_stops_of_lt r hbefore hneq)
      simp [run, hrun, stopAnswer, hl, he]
    · -- reads that all succeed and never agree leave no stop within the retries
      intro hoks hneq
      have hnone : ∀ l, 0 < l → l < retry.toNat + 1 → ¬ Stops r l :=
        not_stops_of_lt r (fun i hi => hoks i (by omega)) fun i hi => hneq i (by omega)
      exact absurd hstop (hnone l₀ hl0 (by omega))
  · -- the loop runs out
    refine ⟨by simp [run, hrun], fun c => ⟨fun h => by simp [run, hrun] at h, ?_⟩, ?_,
      fun _ _ => hrun⟩
    · rintro ⟨k, hk, hoks, hagree, -, -⟩
      exact absurd (.inr (by simpa using hagree)) (hnone (k + 1) (by omega) (by omega))
    · intro j e hj he _ _
      have hj0 : j ≠ 0 := fun hj0 => by simp [hj0 ▸ he] at h0
      exact absurd (.inl (by simp [he])) (hnone j (by omega) hj)

/-- With a bound of zero or less the file is still read once. -/
theorem consistentRead_reads_once_of_nonpos (hretry : retry ≤ 0) :
    ((consistentRead env filename retry).interp (readSequence r) 0).2 = 1 := by
  have h0 : retry.toNat = 0 := by omega
  rcases consistentRead_run env filename retry r with ⟨_, _, h⟩ | ⟨_, l₀, hl0, hlN, -⟩ | ⟨_, _, h⟩
  · simp [h]
  · omega
  · simp [h, h0]

end ConsistentRead

/-- A negative bound, for which `n + 1 = 0` reads would be made: the mount table is read once. -/
theorem consistentRead_negative_retry :
    ((consistentRead sampleNodeEnv "/proc/self/mountinfo" (-1)).interp
      (readSequence fun _ => ("", none)) 0).2 = 1 :=
  consistentRead_reads_once_of_nonpos _ _ _ _ (by decide)

end Node

end PowerStoreCsi
