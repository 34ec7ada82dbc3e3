import Mathlib.Data.Nat.Digits
import PowerStoreCsi.Node.Base

set_option autoImplicit false

/-! # Proofs: the node plugin's options

`getNodeOptions` reads the plugin's options from the environment once, at start-up, and never
fails: a variable that is not set, or whose value does not parse, leaves its option at the zero
value or at its default.

A maximum the operator writes in decimal is the one the plugin uses: `strconv.ParseInt` reads
back every `int64` as Go and Lean print it. The proof runs the digit loop of `ParseUint` over
the digits `Nat.toDigits` produces; its range checks along the way come to one check of the
final value, since the value only grows. -/

namespace PowerStoreCsi

/-! ## `strconv.ParseInt` -/

namespace Go

/-- The value of the decimal digits `cs` read after the value `n`. -/
def digitsValue (n : Nat) (cs : List Char) : Nat :=
  cs.foldl (fun n c => n * 10 + (c.toNat - '0'.toNat)) n

theorem digitsValue_cons (n : Nat) (c : Char) (cs : List Char) :
    digitsValue n (c :: cs) = digitsValue (n * 10 + (c.toNat - '0'.toNat)) cs := rfl

theorem le_digitsValue (n : Nat) (cs : List Char) : n ≤ digitsValue n cs := by
  induction cs generalizing n with
  | nil => exact le_rfl
  | cons c cs ih => rw [digitsValue_cons]; exact le_trans (by omega) (ih _)

/-- The digit loop accepts exactly the digit strings whose value fits a `uint64`. -/
theorem parseUintLoop_eq {n : Nat} (cs : List Char) (hn : n ≤ 18446744073709551615) :
    parseUintLoop n cs =
      if cs.all Char.isDigit ∧ digitsValue n cs ≤ 18446744073709551615 then
        some (digitsValue n cs) else none := by
  induction cs generalizing n with
  | nil => simp [parseUintLoop, digitsValue, hn]
  | cons c cs ih =>
    by_cases hc : c.isDigit
    · have hle := le_digitsValue (n * 10 + (c.toNat - '0'.toNat)) cs
      simp only [parseUintLoop, hc, if_true, List.all_cons, Bool.true_and, digitsValue_cons]
      split
      · rw [if_neg]; omega
      · exact ih (by omega)
    · simp [parseUintLoop, hc]

theorem digitChar_digit {k : Nat} (hk : k < 10) :
    (Nat.digitChar k).isDigit ∧ (Nat.digitChar k).toNat - '0'.toNat = k := by
  revert k; decide

theorem all_isDigit_toDigitsCore (fuel n : Nat) (ds : List Char) :
    (Nat.toDigitsCore 10 fuel n ds).all Char.isDigit = ds.all Char.isDigit := by
  induction fuel generalizing n ds with
  | zero => rfl
  | succ fuel ih =>
    have hd := (digitChar_digit (Nat.mod_lt n (by omega))).1
    simp only [Nat.toDigitsCore]
    split <;> simp [ih, hd]

/-- The digits `Nat.toDigitsCore` puts before `ds`, with enough fuel, are worth `n`. -/
theorem digitsValue_toDigitsCore {fuel n : Nat} (ds : List Char) (h : n < fuel) :
    digitsValue 0 (Nat.toDigitsCore 10 fuel n ds) = digitsValue n ds := by
  induction fuel generalizing n ds with
  | zero => omega
  | succ fuel ih =>
    have hd := (digitChar_digit (Nat.mod_lt n (by omega))).2
    simp only [Nat.toDigitsCore]
    split
    · rw [digitsValue_cons, hd]; congr 1; omega
    · rw [ih _ (by omega), digitsValue_cons, hd]; congr 1; omega

theorem toDigitsCore_ne_nil (fuel n : Nat) {ds : List Char} (h : ds ≠ []) :
    Nat.toDigitsCore 10 fuel n ds ≠ [] := by
  induction fuel generalizing n ds with
  | zero => exact h
  | succ fuel ih =>
    simp only [Nat.toDigitsCore]
    split
    · simp
    · exact ih _ (by simp)

theorem toDigits_ne_nil (n : Nat) : Nat.toDigits 10 n ≠ [] := by
  rw [Nat.toDigits, Nat.toDigitsCore]
  split
  · simp
  · exact toDigitsCore_ne_nil _ _ (List.cons_ne_nil _ _)

theorem parseUint_toDigits {n : Nat} (hn : n ≤ 18446744073709551615) :
    parseUint (Nat.toDigits 10 n) = some n := by
  rw [parseUint, if_neg (toDigits_ne_nil n), parseUintLoop_eq _ (Nat.zero_le _), Nat.toDigits,
    digitsValue_toDigitsCore _ (Nat.lt_succ_self n), all_isDigit_toDigitsCore]
  simp [digitsValue, hn]

/-- A decimal numeral starts with a digit, not with a sign. -/
theorem toDigits_head (n : Nat) :
    ∃ c rest, Nat.toDigits 10 n = c :: rest ∧ c ≠ '+' ∧ c ≠ '-' := by
  have hall := all_isDigit_toDigitsCore (n + 1) n []
  cases h : Nat.toDigits 10 n with
  | nil => exact absurd h (toDigits_ne_nil n)
  | cons c rest =>
    rw [← Nat.toDigits, h, List.all_cons] at hall
    refine ⟨c, rest, rfl, ?_, ?_⟩ <;> rintro rfl <;> simp at hall

/-- `strconv.ParseInt(s, 10, 64)` reads back every `int64` printed in decimal. -/
theorem parseInt_toString {v : Int} (hlo : -9223372036854775808 ≤ v)
    (hhi : v < 9223372036854775808) : parseInt (toString v) = some v := by
  cases v with
  | ofNat m =>
    rw [Int.ofNat_eq_coe] at hhi ⊢
    obtain ⟨c, rest, hcr, hp, hm⟩ := toDigits_head m
    show parseInt ⟨Nat.toDigits 10 m⟩ = _
    simp only [parseInt, hcr, hp, hm, if_false]
    rw [← hcr, parseIntDigits, parseUint_toDigits (by omega)]
    simp
    omega
  | negSucc m =>
    rw [Int.negSucc_eq] at hlo ⊢
    show parseInt ⟨'-' :: Nat.toDigits 10 (m + 1)⟩ = _
    simp only [parseInt, show ('-' : Char) ≠ '+' by decide, if_false, if_true]
    rw [parseIntDigits, parseUint_toDigits (by omega)]
    simp
    omega

end Go

/-! ## `getNodeOptions` -/

namespace Node

/-- The maximum number of volumes is its variable parsed as an `int64`, and 0 when the variable
    is not set or does not parse. -/
theorem getNodeOptions_maxVolumesPerNode (env : OptionsEnv) :
    (getNodeOptions env).maxVolumesPerNode =
      ((env.lookupEnv env.envMaxVolumesPerNode).bind Go.parseInt).getD 0 := by
  simp only [getNodeOptions, apply_ite Opts.maxVolumesPerNode, ite_self]
  cases env.lookupEnv env.envMaxVolumesPerNode with
  | none => rfl
  | some s => cases h : Go.parseInt s <;> simp [h]

/-- A maximum number of volumes written in decimal is the one the plugin uses. -/
theorem getNodeOptions_maxVolumesPerNode_roundTrip (env : OptionsEnv) {n : Int}
    (hlo : -9223372036854775808 ≤ n) (hhi : n < 9223372036854775808)
    (h : env.lookupEnv env.envMaxVolumesPerNode = some (toString n)) :
    (getNodeOptions env).maxVolumesPerNode = n := by
  rw [getNodeOptions_maxVolumesPerNode, h, Option.some_bind, Go.parseInt_toString hlo hhi]
  rfl

/-- An environment that sets the maximum number of volumes only; the variables are named after
    the constants of the `identifiers` package. -/
def sampleOptionsEnv (maxVolumes : String) : OptionsEnv where
  lookupEnv k := if k = "EnvMaxVolumesPerNode" then some maxVolumes else none
  envNodeIDFilePath := "EnvNodeIDFilePath"
  envKubeConfigPath := "EnvKubeConfigPath"
  envNodeNamePrefix := "EnvNodeNamePrefix"
  envKubeNodeName := "EnvKubeNodeName"
  envNodeChrootPath := "EnvNodeChrootPath"
  envMaxVolumesPerNode := "EnvMaxVolumesPerNode"
  envTmpDir := "EnvTmpDir"
  envFCPortsFilterFilePath := "EnvFCPortsFilterFilePath"
  envEnableCHAP := "EnvEnableCHAP"
  randomString _ := ""

/-- The largest `int64` is read back. -/
theorem getNodeOptions_maxVolumesPerNode_roundTrip_max :
    (-9223372036854775808 : Int) ≤ 9223372036854775807 ∧
    (9223372036854775807 : Int) < 9223372036854775808 ∧
    (sampleOptionsEnv "9223372036854775807").lookupEnv
        (sampleOptionsEnv "9223372036854775807").envMaxVolumesPerNode =
      some (toString (9223372036854775807 : Int)) ∧
    (getNodeOptions (sampleOptionsEnv "9223372036854775807")).maxVolumesPerNode =
      9223372036854775807 :=
  ⟨by decide, by decide, by decide,
    getNodeOptions_maxVolumesPerNode_roundTrip _ (by decide) (by decide) (by decide)⟩

/-- One past the largest `int64` is out of range, so the maximum stays 0; the defaults fill the
    rest. -/
example : getNodeOptions (sampleOptionsEnv "9223372036854775808") =
    { nodeNamePrefix := "csi-node", nodeChrootPath := "/noderoot", tmpDir := "tmp" } := by
  decide

end Node

end PowerStoreCsi
