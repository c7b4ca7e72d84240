import Mathlib.Algebra.Group.Nat.Basic
import Mathlib.Data.List.Lex

/-! # Values of the GCE backend (`backend/gce.go`)

The Go values the provider reads and returns: the `error` values it can produce, the records of
the compute API it sends and receives (`compute.Operation`, `compute.Instance`, `compute.Image`),
the execution context's cancellation state, and the provider configuration bag.

Go compares `error` values by identity. The sentinels the code tests for (`ErrStaleVM`,
`errGCEMissingIPAddressError`) are therefore constructors of their own, and every error a remote
service returns is `GoError.remote`, so it can never be mistaken for a sentinel. A Go string is a
`String`; `sort.Strings` compares the UTF-8 bytes, which is `goBytes` with the lexicographic order
of `List ℕ`.
-/

namespace GceBackend

instance decEqExcept {ε α : Type} [DecidableEq ε] [DecidableEq α] : DecidableEq (Except ε α) :=
  fun a b => match a, b with
  | .error x, .error y => decidable_of_iff (x = y) (by simp)
  | .ok x, .ok y => decidable_of_iff (x = y) (by simp)
  | .error _, .ok _ => isFalse (by simp)
  | .ok _, .error _ => isFalse (by simp)

/-- The bytes of a file or a script. -/
abbrev Bytes := List UInt8

/-- The UTF-8 bytes of a Go string, as `sort.Strings` compares them. -/
def goBytes (s : String) : List ℕ := s.toUTF8.toList.map UInt8.toNat

/-- One entry of `compute.OperationError.Errors`. -/
structure OperationErrorItem where
  code : String
  location : String
  message : String
  deriving DecidableEq, Repr

/-- `compute.OperationError`: the error payload of a finished or failing zone operation. -/
structure OperationError where
  errors : List OperationErrorItem
  deriving DecidableEq, Repr

/-- `gceOpError`, the wrapper `Start` and `Stop` return for an operation's error payload. -/
structure GceOpError where
  err : OperationError
  deriving DecidableEq, Repr

/-- `(*gceOpError).Error`: every `code/location/message` triple, joined by `", "`. -/
def GceOpError.error (oe : GceOpError) : String :=
  ", ".intercalate (oe.err.errors.map fun e =>
    "code=" ++ e.code ++ " location=" ++ e.location ++ " message=" ++ e.message)

example : GceOpError.error ⟨⟨[⟨"QUOTA_EXCEEDED", "zones/us-central1-a", "out of cpus"⟩]⟩⟩ =
    "code=QUOTA_EXCEEDED location=zones/us-central1-a message=out of cpus" := by decide

/-- `ctx.Err()` once the context is done. -/
inductive CtxErr where
  | canceled
  | deadlineExceeded
  deriving DecidableEq, Repr

/-- The cancellation state of the execution context. -/
inductive Ctx where
  | live
  | done (e : CtxErr)
  deriving DecidableEq, Repr

/-- A non-nil `error` of the code: a cloud, SSH, SFTP or library error (`remote`), a `gceOpError`,
`errGCEMissingIPAddressError`, `ErrStaleVM`, `ctx.Err()`, or the provider's own `fmt.Errorf`. -/
inductive GoError where
  | remote (msg : String)
  | opError (e : GceOpError)
  | missingIPAddress
  | staleVM
  | ctx (e : CtxErr)
  | errorf (text : String)
  deriving DecidableEq, Repr

/-- `compute.Operation`, as the pollers read it. -/
structure Operation where
  name : String
  status : String
  error : Option OperationError
  deriving DecidableEq, Repr

/-- `compute.AccessConfig`. -/
structure AccessConfig where
  name : String
  type : String
  natIP : String
  deriving DecidableEq, Repr

/-- `compute.NetworkInterface`; `accessConfigs = none` is a nil slice. -/
structure NetworkInterface where
  network : String
  accessConfigs : Option (List AccessConfig)
  deriving DecidableEq, Repr

/-- `compute.AttachedDisk` with its `InitializeParams`. -/
structure AttachedDisk where
  type : String
  mode : String
  boot : Bool
  autoDelete : Bool
  sourceImage : String
  diskType : String
  diskSizeGb : Int
  deriving DecidableEq, Repr

/-- `compute.ServiceAccount`. -/
structure ServiceAccount where
  email : String
  scopes : List String
  deriving DecidableEq, Repr

/-- `compute.Instance`: the fields `buildInstance` fills, and the self link and NAT IPs. -/
structure Instance where
  name : String
  description : String
  selfLink : String
  machineType : String
  disks : List AttachedDisk
  preemptible : Bool
  metadata : List (String × String)
  networkInterfaces : List NetworkInterface
  serviceAccounts : List ServiceAccount
  tags : List String
  deriving DecidableEq, Repr

/-- `compute.Image`. -/
structure Image where
  name : String
  selfLink : String
  deriving DecidableEq, Repr

/-- `StartAttributes`, the fields the provider reads. -/
structure StartAttributes where
  language : String
  osxImage : String
  dist : String
  group : String
  os : String
  deriving DecidableEq, Repr

/-- `config.ProviderConfig`: a keyed string bag. -/
structure ProviderConfig where
  lookup : String → Option String

namespace ProviderConfig

/-- `cfg.IsSet(key)`. -/
def isSet (cfg : ProviderConfig) (key : String) : Bool := (cfg.lookup key).isSome

/-- `cfg.Get(key)`; an unset key reads as `""`. -/
def get (cfg : ProviderConfig) (key : String) : String := (cfg.lookup key).getD ""

/-- `cfg.Set(key, value)`. -/
def set (cfg : ProviderConfig) (key value : String) : ProviderConfig :=
  ⟨fun k => if k = key then some value else cfg.lookup k⟩

@[simp] theorem isSet_set (cfg : ProviderConfig) (k key v : String) :
    (cfg.set key v).isSet k = (k = key || cfg.isSet k) := by
  by_cases h : k = key <;> simp [isSet, set, h]

@[simp] theorem get_set (cfg : ProviderConfig) (k key v : String) :
    (cfg.set key v).get k = if k = key then v else cfg.get k := by
  by_cases h : k = key <;> simp [get, set, h]

end ProviderConfig

/-- `image.Params`, the query an env or api image selector answers. -/
structure ImageParams where
  infra : String
  language : String
  osxImage : String
  dist : String
  group : String
  os : String
  deriving DecidableEq, Repr

/-- `image.Selector`: `Select` answers an image name or an error. -/
abbrev ImageSelector := ImageParams → Except GoError String

/-- A resolved `compute.Zone`, `compute.MachineType` or `compute.Network`. -/
structure Resource where
  name : String
  selfLink : String
  deriving DecidableEq, Repr

/-- `gceInstanceConfig` (without the SSH signer, which the model treats as opaque). -/
structure GceInstanceConfig where
  machineType : Option Resource
  zone : Option Resource
  network : Option Resource
  diskType : String
  diskSize : Int
  sshPubKey : String
  autoImplode : Bool
  hardTimeoutMinutes : Int
  deriving DecidableEq, Repr

/-- `gceProvider`; the selector is set exactly for the `env` and `api` selector types. -/
structure GceProvider where
  projectID : String
  ic : GceInstanceConfig
  cfg : ProviderConfig
  imageSelectorType : String
  imageSelector : Option ImageSelector
  instanceGroup : String
  bootPollSleep : Int
  defaultLanguage : String
  defaultImage : String
  uploadRetries : UInt64
  uploadRetrySleep : Int
  selector_set : imageSelectorType = "env" ∨ imageSelectorType = "api" → imageSelector.isSome

end GceBackend
