import Mathlib.Data.List.Basic
import Mathlib.Data.List.Infix

set_option autoImplicit false

/-! # Go and library facilities the driver's core relies on

The driver is written in Go. This module fixes how the few runtime and library facilities its
core logic reads are taken in Lean, so that every later module states its results against one
reading:

* `strings.Split` with a one-character separator is `List.splitOn` on the characters, so the
  standard library's split/join lemmas apply to volume handles;
* a Go `map` is a partial function; reading a missing key gives the zero value, and a `range`
  over a map visits its keys in an order the runtime chooses (see `Call.mapRange`);
* an `error` is an `APIError` of the array client, classified by its HTTP status code, a gRPC
  status the driver builds, or any other error (a transport failure, `errors.New`,
  `fmt.Errorf`);
* the members of the `common` package that the modelled code reads are not under `src/`, so they
  are parameters (`Common`). -/

namespace PowerStoreCsi

/-! ## Strings -/

/-- `strings.Split(s, sep)` for a one-character separator. -/
def Go.split (s : String) (sep : Char) : List String :=
  (s.data.splitOn sep).map String.mk

/-- `strings.Contains(s, substr)`. Go compares bytes; on valid UTF-8 a byte substring is a
    character substring. -/
def Go.contains (s substr : String) : Bool := decide (substr.data <:+: s.data)

/-- `strings.TrimPrefix(s, prefix)`. -/
def Go.trimPrefix (s pre : String) : String :=
  if pre.data <+: s.data then ⟨s.data.drop pre.data.length⟩ else s

/-- Keys under one prefix are equal exactly when the rest of them is. -/
@[simp] theorem Go.append_left_cancel_iff {p a b : String} : p ++ a = p ++ b ↔ a = b := by
  constructor
  · intro h
    have := congrArg String.data h
    simp only [String.data_append, List.append_cancel_left_eq] at this
    exact String.ext this
  · rintro rfl; rfl

/-- A `[]string` printed by the verb `%s`: its elements between brackets, blank-separated. -/
def Go.sprintStrings (l : List String) : String := "[" ++ " ".intercalate l ++ "]"

theorem Go.split_ne_nil (s : String) (sep : Char) : Go.split s sep ≠ [] := by
  simp only [Go.split, ne_eq, List.map_eq_nil_iff]
  exact List.splitOnP_ne_nil _ _

@[simp] theorem Go.split_empty (sep : Char) : Go.split "" sep = [""] := rfl

theorem Go.append_sep_ne_empty {a b : String} {sep : Char} :
    a ++ String.singleton sep ++ b ≠ "" := by
  intro h
  have := congrArg String.data h
  simp at this

/-- A string without the separator is one field. -/
theorem Go.split_of_not_mem {s : String} {sep : Char} (h : sep ∉ s.data) :
    Go.split s sep = [s] := by
  simp only [Go.split]
  rw [List.splitOn, List.splitOnP_eq_single _ _ fun x hx hxs => h (by simp at hxs; exact hxs ▸ hx)]
  rfl

/-- Splitting at the first separator. -/
theorem Go.split_append_sep {a b : String} {sep : Char} (h : sep ∉ a.data) :
    Go.split (a ++ String.singleton sep ++ b) sep = a :: Go.split b sep := by
  simp only [Go.split, String.data_append, String.data_singleton, List.append_assoc,
    List.singleton_append]
  rw [List.splitOn, List.splitOnP_first _ _ (fun x hx hxs => h (by simp at hxs; exact hxs ▸ hx))
    sep (by simp)]
  rfl

/-- Two fields joined by a separator that neither holds split back into the two. -/
theorem Go.split_pair {a b : String} {sep : Char} (ha : sep ∉ a.data) (hb : sep ∉ b.data) :
    Go.split (a ++ String.singleton sep ++ b) sep = [a, b] := by
  rw [Go.split_append_sep ha, Go.split_of_not_mem hb]

/-- `strings.ToUpper(s)`, on the characters one by one. -/
def Go.toUpper (s : String) : String := ⟨s.data.map Char.toUpper⟩

/-! ## Integers and time -/

/-- Go's `int64` arithmetic wraps around: the `int64` equal to `x` modulo `2^64`. -/
def Go.toInt64 (x : Int) : Int :=
  (x + 9223372036854775808) % 18446744073709551616 - 9223372036854775808

/-- A value in the range of `int64` is kept. -/
theorem Go.toInt64_of_mem_range {x : Int} (hlo : -9223372036854775808 ≤ x)
    (hhi : x < 9223372036854775808) : Go.toInt64 x = x := by
  rw [Go.toInt64, Int.emod_eq_of_lt (by omega) (by omega)]
  omega

/-- `time.Time{}.Unix()`: the zero time, January 1 of year 1 UTC, in Unix seconds. It is what
    `time.Parse` answers when it fails. -/
def Go.zeroTimeUnix : Int := -62135596800

/-! ## Parsing numbers and booleans

`strconv.ParseInt` and `strconv.ParseBool` answer a value and an error; the driver reads the
value only when the error is nil, so each is taken as an `Option`, `none` for any error. -/

/-- The digit loop of `strconv.ParseUint(s, 10, 64)`, from the value `n` of the digits read so
    far: a byte that is not a decimal digit is a syntax error, and a value past `1<<64 - 1` a
    range error. The loop runs over the bytes of `s`; a character of several bytes has none
    that is a digit, so running over the characters fails on the same strings. -/
def Go.parseUintLoop (n : Nat) : List Char → Option Nat
  | [] => some n
  | c :: rest =>
    if c.isDigit then
      let n1 := n * 10 + (c.toNat - '0'.toNat)
      if n1 > 18446744073709551615 then none else Go.parseUintLoop n1 rest
    else none

/-- `strconv.ParseUint(s, 10, 64)`: the empty string is a syntax error. -/
def Go.parseUint (s : List Char) : Option Nat :=
  if s = [] then none else Go.parseUintLoop 0 s

/-- The end of `strconv.ParseInt(s, 10, 64)`, once the sign is read: `ParseUint` of the digits,
    whose value must fit an `int64` with that sign. -/
def Go.parseIntDigits (neg : Bool) (digits : List Char) : Option Int :=
  match Go.parseUint digits with
  | none => none
  | some un =>
    if !neg ∧ 9223372036854775808 ≤ un then none
    else if neg ∧ 9223372036854775808 < un then none
    else some (if neg then -(un : Int) else un)

/-- `strconv.ParseInt(s, 10, 64)`: one optional sign, then decimal digits. -/
def Go.parseInt (s : String) : Option Int :=
  match s.data with
  | [] => none
  | c :: rest =>
    if c = '+' then Go.parseIntDigits false rest
    else if c = '-' then Go.parseIntDigits true rest
    else Go.parseIntDigits false (c :: rest)

/-- `strconv.ParseBool`. -/
def Go.parseBool (str : String) : Option Bool :=
  if str ∈ ["1", "t", "T", "TRUE", "true", "True"] then some true
  else if str ∈ ["0", "f", "F", "FALSE", "false", "False"] then some false
  else none

/-! ## Maps -/

/-- A Go `map[κ]ν`: a partial function from keys to values. -/
def GoMap (κ ν : Type) : Type := κ → Option ν

namespace GoMap

variable {κ ν : Type}

/-- `make(map[κ]ν)`. -/
def empty : GoMap κ ν := fun _ => none

/-- `m[k] = v`. -/
def insert [DecidableEq κ] (m : GoMap κ ν) (k : κ) (v : ν) : GoMap κ ν :=
  fun x => if x = k then some v else m x

/-- A map literal `map[κ]ν{k₁: v₁, …}`: its entries inserted in order. -/
def ofList [DecidableEq κ] (entries : List (κ × ν)) : GoMap κ ν :=
  entries.foldl (fun m e => m.insert e.1 e.2) empty

/-- `m[k]` for a map whose values have a zero value. -/
def getD [Inhabited ν] (m : GoMap κ ν) (k : κ) : ν := (m k).getD default

@[simp] theorem empty_apply (k : κ) : (empty : GoMap κ ν) k = none := rfl

@[simp] theorem insert_apply [DecidableEq κ] (m : GoMap κ ν) (k x : κ) (v : ν) :
    m.insert k v x = if x = k then some v else m x := rfl

end GoMap

/-! ## Errors -/

/-- The gRPC status codes the driver returns. -/
inductive Code where
  | invalidArgument | failedPrecondition | notFound | aborted | internal | unknown
  | unimplemented
  deriving DecidableEq, Repr, Inhabited

/-- The code's name, as `codes.Code.String()` prints it. -/
def Code.name : Code → String
  | .invalidArgument => "InvalidArgument"
  | .failedPrecondition => "FailedPrecondition"
  | .notFound => "NotFound"
  | .aborted => "Aborted"
  | .internal => "Internal"
  | .unknown => "Unknown"
  | .unimplemented => "Unimplemented"

/-- A `gopowerstore.APIError`: an error answer of the array's REST API, with the HTTP status
code of its `ErrorMsg`. Its classifying methods read that code alone. -/
structure APIError where
  statusCode : Nat
  message : String
  deriving DecidableEq, Repr, Inhabited

namespace APIError

/-- `APIError.NotFound()`: `StatusCode == http.StatusNotFound`. -/
def notFound (e : APIError) : Bool := e.statusCode = 404

/-- `APIError.VolumeNameIsAlreadyUse()`: `StatusCode == http.StatusUnprocessableEntity`. -/
def volumeNameIsAlreadyUse (e : APIError) : Bool := e.statusCode = 422

/-- `APIError.UnableToFailoverFromDestination()`: `StatusCode == http.StatusBadRequest`. -/
def unableToFailoverFromDestination (e : APIError) : Bool := e.statusCode = 400

end APIError

/-- A Go `error` value, as far as the driver inspects it. -/
inductive GoError where
  /-- A `gopowerstore.APIError`. -/
  | api (e : APIError)
  /-- `status.Error(code, message)`, built by the driver. -/
  | status (code : Code) (message : String)
  /-- Any other error: a transport failure, `errors.New`, `fmt.Errorf`. -/
  | plain (message : String)
  deriving DecidableEq, Repr, Inhabited

namespace GoError

/-- `err.Error()`. -/
def error : GoError → String
  | .api e => e.message
  | .status c m => "rpc error: code = " ++ c.name ++ " desc = " ++ m
  | .plain m => m

/-- The type assertion `err.(gopowerstore.APIError)`. -/
def asAPIError : GoError → Option APIError
  | .api e => some e
  | _ => none

/-- `status.Code(err)`: the code of a status error, `Unknown` for any other error. -/
def code : GoError → Code
  | .status c _ => c
  | _ => .unknown

end GoError

/-! ## The `common` package -/

/-- The members of the driver's `common` package that the modelled code reads. The package is
    not under `src/`, so they are parameters of the model. -/
structure Common where
  /-- `GetIPListFromString`: the IP addresses found in a string, in order. -/
  getIPListFromString : String → List String
  /-- `APIPort`: the port of the node's status server, with its leading colon. -/
  apiPort : String
  /-- `ArrayStatus`: the path of the node's array-status endpoint. -/
  arrayStatus : String
  /-- `AutoDetectTransport`: the block protocol used when the configuration names none. -/
  autoDetectTransport : String

end PowerStoreCsi
