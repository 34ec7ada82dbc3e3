import PowerStoreCsi.Prog

set_option autoImplicit false

/-! # The array registry: `GetPowerStoreArrays`, `Locker` and `UpdateArrays`

The driver keeps the arrays it manages in a `Locker` (a map from `GlobalID` to array and a
default array, each behind its own mutex) and in the package variable `IPToArray` (legacy
volume handles name an array by IP). `UpdateArrays` reloads all three from the configuration
file: `GetPowerStoreArrays` decodes it and completes each entry (client, block protocol, IP),
and the three setters install the result.

A configuration entry is a pointer: `defaultArray = cfg.Arrays[0]` points at the first entry,
which the loop then completes in place. The model keeps entries as values and makes that
aliasing explicit: the first iteration of `getPowerStoreArraysLoop` also refreshes the default.

Reading and decoding the file (`fs.ReadFile`, `yaml.Unmarshal`) is outside the model: the loop
receives the decoded list, or the error that ended the decoding. The client library's
constructor and the throttling environment variable are parameters (`ConfigEnv`). -/

namespace PowerStoreCsi

/-- `array.PowerStoreArray`: an array's connection settings as the configuration lists them and
    `GetPowerStoreArrays` completes them. The client handle is named by `globalID` (see `Call`);
    `NasName` and `NfsAcls` are read by no modelled code. -/
structure PowerStoreArray where
  endpoint : String
  globalID : String
  username : String
  password : String
  blockProtocol : String
  insecure : Bool
  isDefault : Bool
  ip : String
  deriving DecidableEq, Repr, Inhabited

/-- `gopowerstore.ClientOptions`: the two options `GetPowerStoreArrays` sets. -/
structure ClientOptions where
  insecure : Bool
  rateLimit : Option Nat
  deriving DecidableEq, Repr

/-- What `GetPowerStoreArrays` reads besides the decoded configuration. -/
structure ConfigEnv where
  common : Common
  /-- `csictx.LookupEnv(ctx, EnvThrottlingRateLimit)`. -/
  throttlingRateLimit : Option String
  /-- `gopowerstore.NewClientWithArgs(endpoint, username, password, options)`: the error it
      returns, if any. -/
  newClientWithArgs : String → String → String → ClientOptions → Option GoError

/-- The rate limit `GetPowerStoreArrays` sets: the variable's value when `strconv.Atoi`
    accepts it and it is not negative. -/
def rateLimitOf (throttlingRateLimit : Option String) : Option Nat :=
  match throttlingRateLimit.bind String.toInt? with
  | some n => if n < 0 then none else some n.toNat
  | none => none

/-- `regexp.MustCompile("^[0-9.]*$").MatchString(s)`. -/
def digitsAndDots (s : String) : Bool := s.data.all fun c => c.isDigit || c = '.'

/-- How `GetPowerStoreArrays` finds an entry's IP: the first IP address in the endpoint, or
    else the host of an FQDN endpoint (its third `/`-field), which must not look numeric. -/
def endpointIP (common : Common) (endpoint : String) : Except GoError String :=
  match common.getIPListFromString endpoint with
  | ip :: _ => .ok ip
  | [] =>
    match Go.split endpoint '/' with
    | _ :: _ :: host :: _ =>
      if digitsAndDots host then .error (.plain ("can't get ips from endpoint: " ++ endpoint))
      else .ok host
    | _ => .error (.plain ("can't get ips from endpoint: " ++ endpoint))

/-- The body of the loop of `GetPowerStoreArrays` on a non-nil entry: the entry as the loop
    completes it, or the error that ends the call. -/
def completeArray (env : ConfigEnv) (array : PowerStoreArray) : Except GoError PowerStoreArray :=
  if array.globalID = "" then
    .error (.plain ("no GlobalID field found in config.yaml - " ++
      "update config.yaml according to the documentation"))
  else
    match env.newClientWithArgs array.endpoint array.username array.password
        ⟨array.insecure, rateLimitOf env.throttlingRateLimit⟩ with
    | some err =>
      .error (.status .failedPrecondition ("unable to create PowerStore client: " ++ err.error))
    | none =>
      let blockProtocol :=
        if array.blockProtocol = "" then env.common.autoDetectTransport else array.blockProtocol
      match endpointIP env.common array.endpoint with
      | .error err => .error err
      | .ok ip => .ok { array with blockProtocol := Go.toUpper blockProtocol, ip := ip }

/-- The registry: the two fields of a `Locker` and the package variable `IPToArray`. It is
    also the triple `(arrays, matcher, defaultArray)` that `GetPowerStoreArrays` returns. -/
structure Registry where
  arrays : GoMap String PowerStoreArray
  ipToArray : GoMap String String
  defaultArray : Option PowerStoreArray

/-- The loop `for _, array := range cfg.Arrays` of `GetPowerStoreArrays`. `first` marks the
    iteration on the first entry, which `defaultArray` points at. -/
def getPowerStoreArraysLoop (env : ConfigEnv) :
    List (Option PowerStoreArray) → Registry → Bool → Bool → Except GoError Registry
  | [], r, _, _ => .ok r
  | none :: _, r, _, _ => .ok r
  | some array :: rest, r, foundDefault, first =>
    match completeArray env array with
    | .error err => .error err
    | .ok array =>
      let r : Registry :=
        { arrays := r.arrays.insert array.globalID array
          ipToArray := r.ipToArray.insert array.ip array.globalID
          defaultArray := if first then some array else r.defaultArray }
      if array.isDefault && !foundDefault then
        getPowerStoreArraysLoop env rest { r with defaultArray := some array } true false
      else
        getPowerStoreArraysLoop env rest r foundDefault false

/-- `GetPowerStoreArrays`, from the decoded list of entries (`nil` entries included) or the
    error that reading or decoding the file gave. -/
def getPowerStoreArrays (env : ConfigEnv)
    (doc : Except GoError (List (Option PowerStoreArray))) : Except GoError Registry :=
  match doc with
  | .error err => .error err
  | .ok [] => .ok ⟨GoMap.empty, GoMap.empty, none⟩
  | .ok (first :: rest) =>
    getPowerStoreArraysLoop env (first :: rest) ⟨GoMap.empty, GoMap.empty, first⟩ false true

/-- The entries `GetPowerStoreArrays` reads: those before the first `nil` entry. -/
def listedArrays (cfg : List (Option PowerStoreArray)) : List PowerStoreArray :=
  (cfg.takeWhile Option.isSome).reduceOption

/-! ## The `Locker` operations -/

namespace Registry

/-- `Locker.GetOneArray`. -/
def getOneArray (r : Registry) (globalID : String) : Except GoError PowerStoreArray :=
  match r.arrays globalID with
  | some a => .ok a
  | none => .error (.plain "array not found")

theorem getOneArray_eq_ok {r : Registry} {globalID : String} {a : PowerStoreArray} :
    r.getOneArray globalID = .ok a ↔ r.arrays globalID = some a := by
  unfold getOneArray
  split <;> simp_all

/-- `Locker.SetArrays`. -/
def setArrays (r : Registry) (arrays : GoMap String PowerStoreArray) : Registry :=
  { r with arrays := arrays }

/-- `setIPToArray`. -/
def setIPToArray (r : Registry) (matcher : GoMap String String) : Registry :=
  { r with ipToArray := matcher }

/-- `Locker.SetDefaultArray`. -/
def setDefaultArray (r : Registry) (array : Option PowerStoreArray) : Registry :=
  { r with defaultArray := array }

/-- `Locker.UpdateArrays`, run alone: the registry afterwards and the error returned. -/
def updateArrays (r : Registry) (result : Except GoError Registry) : Registry × Option GoError :=
  match result with
  | .error err => (r, some (.plain ("can't get config for arrays: " ++ err.error)))
  | .ok new => (((r.setArrays new.arrays).setIPToArray new.ipToArray).setDefaultArray
      new.defaultArray, none)

end Registry

end PowerStoreCsi
