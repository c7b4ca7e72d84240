import GceBackend.Instance

/-! # Building the provider (`newGCEProvider`, `Setup`)

`newGCEProvider` builds the compute client, checks the required keys and loads the SSH key pair
(`loadSSHKeys`), then resolves every other option (`resolveOptions`): a set key is read and
parsed, an unset one takes its default. `ZONE`, `MACHINE_TYPE` and `NETWORK` are written back into
the configuration the caller shares as soon as the key pair is loaded, so a later failure leaves
them written. A parse failure is fatal for every option but `DISK_SIZE`, whose failure is dropped
(`diskSizeOf_eq`); `newGCEProvider_parse_fatal` states each option's unset and set cases. `Setup`
resolves the zone, machine type and network.

The library calls (`ioutil.ReadFile`, `json.Unmarshal`, `pem.Decode`, the `x509` and `ssh` key
parsing, `strconv`, `time.ParseDuration`, `url.Parse`, the `image` package's selectors) are the
fields of `ProviderLibs`. Their errors become `GoError.remote`, so every `GoError.errorf` is one of
the provider's own texts.
-/

namespace GceBackend

/-! ### Defaults (lines 35-45) -/

def defaultGCEZone : String := "us-central1-a"
def defaultGCEMachineType : String := "n1-standard-2"
def defaultGCENetwork : String := "default"
def defaultGCEDiskSize : Int := 20
def defaultGCELanguage : String := "minimal"
/-- `3 * time.Second`, in nanoseconds. -/
def defaultGCEBootPollSleep : Int := 3000000000
def defaultGCEUploadRetries : UInt64 := 10
/-- `5 * time.Second`, in nanoseconds. -/
def defaultGCEUploadRetrySleep : Int := 5000000000
def defaultGCEHardTimeoutMinutes : Int := 130
def defaultGCEImageSelectorType : String := "legacy"
def defaultGCEImage : String := "travis-ci-mega.+"

/-- The library calls of `newGCEProvider`, in order, each giving its value or its error: `ReadFile`,
`json.Unmarshal`, `TrimSpace`, `pem.Decode`, the `x509` and `ssh` key parsing with the passphrase,
`strconv`'s `ParseInt`, `ParseUint` and `ParseBool`, `time.ParseDuration` (in nanoseconds), the
env selector, `url.Parse`, the API selector, and `strconv.Quote` (the `%q` verb). -/
structure ProviderLibs where
  readFile : String → Except String String
  unmarshalAccount : String → Except String Unit
  trimSpace : String → String
  pemDecode : String → Option String
  sshKeySigner : String → String → Except String Unit
  parseInt : String → Except String Int
  parseUint : String → Except String UInt64
  parseBool : String → Except String Bool
  parseDuration : String → Except String Int
  newEnvSelector : ProviderConfig → Except String ImageSelector
  urlParse : String → Except String String
  newAPISelector : String → ImageSelector
  quote : String → String

namespace ProviderConfig

/-- The value of `key`, or `default` when it is unset. -/
def getOr (cfg : ProviderConfig) (key default : String) : String :=
  if cfg.isSet key then cfg.get key else default

/-- A parsed option: `parse` of a set key's value, its error returned, or `default`. -/
def parsedOr {α : Type} (cfg : ProviderConfig) (key : String) (parse : String → Except String α)
    (default : α) : Except GoError α :=
  if cfg.isSet key then (parse (cfg.get key)).mapError .remote else .ok default

@[simp] theorem getOr_set (cfg : ProviderConfig) (k key v d : String) :
    (cfg.set key v).getOr k d = if k = key then v else cfg.getOr k d := by
  by_cases h : k = key <;> simp [getOr, h]

@[simp] theorem parsedOr_set {α : Type} (cfg : ProviderConfig) (k key v : String)
    (parse : String → Except String α) (d : α) (h : k ≠ key) :
    (cfg.set key v).parsedOr k parse d = cfg.parsedOr k parse d := by
  simp [parsedOr, h]

end ProviderConfig

open ProviderConfig

/-- `if !cfg.IsSet(key) { return nil, fmt.Errorf(msg) }`. -/
def requireKey (cfg : ProviderConfig) (key msg : String) : Except GoError Unit :=
  if cfg.isSet key then .ok () else .error (.errorf msg)

/-! ### The client and the key pair -/

/-- `loadGoogleAccountJSON`: inline JSON if it starts with `{` once trimmed, else a path. -/
def loadGoogleAccountJSON (libs : ProviderLibs) (filenameOrJSON : String) :
    Except GoError Unit := do
  let bytes ← (if "\x7b".toList.isPrefixOf (libs.trimSpace filenameOrJSON).toList then
      pure filenameOrJSON
    else (libs.readFile filenameOrJSON).mapError .remote)
  (libs.unmarshalAccount bytes).mapError .remote

/-- `buildGoogleComputeService` (lines 360-387), up to the client it builds. -/
def buildGoogleComputeService (libs : ProviderLibs) (cfg : ProviderConfig) :
    Except GoError Unit := do
  requireKey cfg "ACCOUNT_JSON" "missing ACCOUNT_JSON"
  loadGoogleAccountJSON libs (cfg.get "ACCOUNT_JSON")

/-- Lines 162-211 of `newGCEProvider`: the project id and the public key text. -/
def loadSSHKeys (libs : ProviderLibs) (cfg : ProviderConfig) :
    Except GoError (String × String) := do
  requireKey cfg "PROJECT_ID" "missing PROJECT_ID"
  let projectID := cfg.get "PROJECT_ID"
  requireKey cfg "SSH_KEY_PATH" "missing SSH_KEY_PATH config key"
  let sshKeyBytes ← (libs.readFile (cfg.get "SSH_KEY_PATH")).mapError .remote
  requireKey cfg "SSH_PUB_KEY_PATH" "missing SSH_PUB_KEY_PATH config key"
  let sshPubKeyBytes ← (libs.readFile (cfg.get "SSH_PUB_KEY_PATH")).mapError .remote
  let block ← (libs.pemDecode sshKeyBytes).elim
    (.error (.errorf "ssh key does not contain a valid PEM block")) .ok
  requireKey cfg "SSH_KEY_PASSPHRASE" "missing SSH_KEY_PASSPHRASE config key"
  (libs.sshKeySigner block (cfg.get "SSH_KEY_PASSPHRASE")).mapError .remote
  pure (projectID, sshPubKeyBytes)

/-! ### The options -/

/-- `DISK_SIZE` (lines 234-240): a value that does not parse is dropped. -/
def diskSizeOf (libs : ProviderLibs) (cfg : ProviderConfig) : Int :=
  if cfg.isSet "DISK_SIZE" then
    match libs.parseInt (cfg.get "DISK_SIZE") with
    | .ok ds => ds
    | .error _ => defaultGCEDiskSize
  else defaultGCEDiskSize

theorem diskSizeOf_eq (libs : ProviderLibs) (cfg : ProviderConfig) :
    diskSizeOf libs cfg = match cfg.parsedOr "DISK_SIZE" libs.parseInt defaultGCEDiskSize with
      | .ok ds => ds
      | .error _ => defaultGCEDiskSize := by
  unfold diskSizeOf parsedOr
  split
  · cases libs.parseInt (cfg.get "DISK_SIZE") <;> rfl
  · rfl

/-- `buildGCEImageSelector`. -/
def buildGCEImageSelector (libs : ProviderLibs) (selectorType : String) (cfg : ProviderConfig) :
    Except GoError ImageSelector :=
  match selectorType with
  | "env" => (libs.newEnvSelector cfg).mapError .remote
  | "api" => do
    let baseURL ← (libs.urlParse (cfg.get "IMAGE_SELECTOR_URL")).mapError .remote
    pure (libs.newAPISelector baseURL)
  | _ => .error (.errorf ("invalid image selector type " ++ libs.quote selectorType))

/-- Lines 302-304: only the three selector types are accepted. -/
def checkSelectorType (libs : ProviderLibs) (imageSelectorType : String) : Except GoError Unit :=
  if imageSelectorType ≠ "legacy" ∧ imageSelectorType ≠ "env" ∧ imageSelectorType ≠ "api" then
    .error (.errorf ("invalid image selector type " ++ libs.quote imageSelectorType))
  else .ok ()

/-- Lines 306-311: the selector of an `env` or `api` selector type, none for `legacy`. -/
def selectorFor (libs : ProviderLibs) (cfg : ProviderConfig) (ty : String) :
    Except GoError { sel : Option ImageSelector // ty = "env" ∨ ty = "api" → sel.isSome } :=
  if h : ty = "env" ∨ ty = "api" then
    (buildGCEImageSelector libs ty cfg).map fun s => ⟨some s, fun _ => rfl⟩
  else .ok ⟨none, fun h' => absurd h' h⟩

/-- Lines 234-333 of `newGCEProvider`: every other option, then the provider. -/
def resolveOptions (libs : ProviderLibs) (cfg : ProviderConfig) (projectID sshPubKey : String) :
    Except GoError GceProvider := do
  let diskSize := diskSizeOf libs cfg
  let bootPollSleep ← cfg.parsedOr "BOOT_POLL_SLEEP" libs.parseDuration defaultGCEBootPollSleep
  let uploadRetries ← cfg.parsedOr "UPLOAD_RETRIES" libs.parseUint defaultGCEUploadRetries
  let uploadRetrySleep ←
    cfg.parsedOr "UPLOAD_RETRY_SLEEP" libs.parseDuration defaultGCEUploadRetrySleep
  let defaultLanguage := cfg.getOr "DEFAULT_LANGUAGE" defaultGCELanguage
  let defaultImage := cfg.getOr "IMAGE_DEFAULT" defaultGCEImage
  let autoImplode ← cfg.parsedOr "AUTO_IMPLODE" libs.parseBool true
  let hardTimeoutMinutes ←
    cfg.parsedOr "HARD_TIMEOUT_MINUTES" libs.parseInt defaultGCEHardTimeoutMinutes
  let imageSelectorType := cfg.getOr "IMAGE_SELECTOR_TYPE" defaultGCEImageSelectorType
  checkSelectorType libs imageSelectorType
  let sel ← selectorFor libs cfg imageSelectorType
  pure
    { projectID
      ic := ⟨none, none, none, "", diskSize, sshPubKey, autoImplode, hardTimeoutMinutes⟩
      cfg
      imageSelectorType
      imageSelector := sel.1
      instanceGroup := cfg.get "INSTANCE_GROUP"
      bootPollSleep
      defaultLanguage
      defaultImage
      uploadRetries
      uploadRetrySleep
      selector_set := sel.2 }

/-- `newGCEProvider`: the caller's configuration after the call, and the provider or the error. -/
def newGCEProvider (libs : ProviderLibs) (cfg : ProviderConfig) :
    ProviderConfig × Except GoError GceProvider :=
  match buildGoogleComputeService libs cfg *> loadSSHKeys libs cfg with
  | .error e => (cfg, .error e)
  | .ok (projectID, sshPubKey) =>
    let cfg := cfg.set "ZONE" (cfg.getOr "ZONE" defaultGCEZone)
    let cfg := cfg.set "MACHINE_TYPE" (cfg.getOr "MACHINE_TYPE" defaultGCEMachineType)
    let cfg := cfg.set "NETWORK" (cfg.getOr "NETWORK" defaultGCENetwork)
    (cfg, resolveOptions libs cfg projectID sshPubKey)

/-! ### `Setup` -/

/-- `Setup` (lines 337-358), given the replies of `Zones.Get`, `MachineTypes.Get` and
`Networks.Get`: each lookup assigns its field, nil on error. -/
def setup (zones : String → String → Except String Resource)
    (machineTypes : String → String → String → Except String Resource)
    (networks : String → String → Except String Resource) (p : GceProvider) :
    GceProvider × Except GoError Unit :=
  match zones p.projectID (p.cfg.get "ZONE") with
  | .error e => ({ p with ic := { p.ic with zone := none } }, .error (.remote e))
  | .ok zone =>
    let ic := { p.ic with zone := some zone,
                          diskType := "zones/" ++ zone.name ++ "/diskTypes/pd-ssd" }
    match machineTypes p.projectID zone.name (p.cfg.get "MACHINE_TYPE") with
    | .error e => ({ p with ic := { ic with machineType := none } }, .error (.remote e))
    | .ok mt =>
      let ic := { ic with machineType := some mt }
      match networks p.projectID (p.cfg.get "NETWORK") with
      | .error e => ({ p with ic := { ic with network := none } }, .error (.remote e))
      | .ok nw => ({ p with ic := { ic with network := some nw } }, .ok ())

/-! ### Reading a failed or successful call -/

theorem bind_eq_ok {ε α β : Type} {x : Except ε α} {f : α → Except ε β} {b : β}
    (h : x >>= f = .ok b) : ∃ a, x = .ok a ∧ f a = .ok b := by
  cases x with
  | error e => cases h
  | ok a => exact ⟨a, rfl, h⟩

theorem bind_eq_error {ε α β : Type} {x : Except ε α} {f : α → Except ε β} {e : ε}
    (h : x >>= f = .error e) : x = .error e ∨ ∃ a, x = .ok a ∧ f a = .error e := by
  cases x with
  | error e' => exact .inl (by cases (show (Except.error e' : Except ε β) = .error e from h); rfl)
  | ok a => exact .inr ⟨a, rfl, h⟩

theorem mapError_remote_ne {α : Type} {x : Except String α} {m : String} :
    x.mapError GoError.remote ≠ .error (.errorf m) := by
  cases x <;> nofun

theorem mapError_remote_eq_ok {α : Type} {x : Except String α} {a : α}
    (h : x.mapError GoError.remote = .ok a) : x = .ok a := by
  cases x <;> simp_all [Except.mapError]

theorem parsedOr_eq_ok {α : Type} {cfg : ProviderConfig} {k : String}
    {parse : String → Except String α} {d v : α} (h : cfg.parsedOr k parse d = .ok v) :
    if cfg.isSet k then parse (cfg.get k) = .ok v else v = d := by
  unfold parsedOr at h
  cases hk : cfg.isSet k <;> simp only [hk, Bool.false_eq_true, if_false, if_true] at h ⊢
  · exact (Except.ok.inj h).symm
  · exact mapError_remote_eq_ok h

theorem bind_eq_errorf {α β : Type} {x : Except GoError α} {f : α → Except GoError β} {m : String}
    (hx : x ≠ .error (.errorf m)) (h : x >>= f = .error (.errorf m)) :
    ∃ a, x = .ok a ∧ f a = .error (.errorf m) :=
  (bind_eq_error h).resolve_left hx

theorem requireKey_eq_ok {cfg : ProviderConfig} {key msg : String} {u : Unit}
    (h : requireKey cfg key msg = .ok u) : cfg.isSet key = true := by
  unfold requireKey at h
  split at h
  · assumption
  · cases h

theorem requireKey_eq_error {cfg : ProviderConfig} {key msg : String} {e : GoError}
    (h : requireKey cfg key msg = .error e) : cfg.isSet key = false ∧ e = .errorf msg := by
  unfold requireKey at h
  split at h
  · cases h
  · rename_i hk
    exact ⟨by simpa using hk, (Except.error.inj h).symm⟩

theorem requireKey_bind_errorf {β : Type} {cfg : ProviderConfig} {key msg m : String}
    {f : Unit → Except GoError β} (h : requireKey cfg key msg >>= f = .error (.errorf m)) :
    (cfg.isSet key = false ∧ m = msg) ∨ f () = .error (.errorf m) := by
  rcases bind_eq_error h with h | ⟨⟨⟩, -, h⟩
  · obtain ⟨hk, ⟨⟩⟩ := requireKey_eq_error h
    exact .inl ⟨hk, rfl⟩
  · exact .inr h

theorem parsedOr_ne_errorf {α : Type} {cfg : ProviderConfig} {k : String}
    {parse : String → Except String α} {d : α} {m : String} :
    cfg.parsedOr k parse d ≠ .error (.errorf m) := by
  unfold parsedOr
  split
  · exact mapError_remote_ne
  · nofun

theorem loadGoogleAccountJSON_ne_errorf {libs : ProviderLibs} {s m : String} :
    loadGoogleAccountJSON libs s ≠ .error (.errorf m) := fun h => by
  obtain ⟨_, -, h⟩ := bind_eq_errorf
    (by split <;> first | exact fun h => by cases h | exact mapError_remote_ne) h
  exact mapError_remote_ne h

theorem buildGCEImageSelector_ne_errorf {libs : ProviderLibs} {cfg : ProviderConfig} {ty m : String}
    (hty : ty = "env" ∨ ty = "api") : buildGCEImageSelector libs ty cfg ≠ .error (.errorf m) := by
  rcases hty with rfl | rfl
  · exact mapError_remote_ne
  · intro h
    obtain ⟨_, -, ⟨⟩⟩ := bind_eq_errorf mapError_remote_ne h

theorem selectorFor_ne_errorf {libs : ProviderLibs} {cfg : ProviderConfig} {ty m : String} :
    selectorFor libs cfg ty ≠ .error (.errorf m) := by
  unfold selectorFor
  split
  · rename_i hty
    cases hb : buildGCEImageSelector libs ty cfg
    · intro h
      cases h
      exact buildGCEImageSelector_ne_errorf hty hb
    · nofun
  · nofun

theorem checkSelectorType_eq_error {libs : ProviderLibs} {ty : String} {e : GoError}
    (h : checkSelectorType libs ty = .error e) :
    ty ∉ ["legacy", "env", "api"] ∧
      e = .errorf ("invalid image selector type " ++ libs.quote ty) := by
  unfold checkSelectorType at h
  split at h
  · rename_i hty
    exact ⟨by simpa using hty, (Except.error.inj h).symm⟩
  · cases h

theorem checkSelectorType_eq_ok {libs : ProviderLibs} {ty : String} {u : Unit}
    (h : checkSelectorType libs ty = .ok u) : ty ∈ ["legacy", "env", "api"] := by
  unfold checkSelectorType at h
  split at h
  · cases h
  · rename_i hty
    by_cases h1 : ty = "legacy" <;> by_cases h2 : ty = "env" <;> simp_all

theorem buildGoogleComputeService_errorf {libs : ProviderLibs} {cfg : ProviderConfig} {m : String}
    (h : buildGoogleComputeService libs cfg = .error (.errorf m)) :
    cfg.isSet "ACCOUNT_JSON" = false ∧ m = "missing ACCOUNT_JSON" := by
  rcases requireKey_bind_errorf h with hk | h
  · exact hk
  · exact absurd h loadGoogleAccountJSON_ne_errorf

theorem loadSSHKeys_errorf {libs : ProviderLibs} {cfg : ProviderConfig} {m : String}
    (h : loadSSHKeys libs cfg = .error (.errorf m)) :
    (cfg.isSet "PROJECT_ID" = false ∧ m = "missing PROJECT_ID") ∨
    (∃ key ∈ ["SSH_KEY_PATH", "SSH_PUB_KEY_PATH", "SSH_KEY_PASSPHRASE"],
      cfg.isSet key = false ∧ m = "missing " ++ key ++ " config key") ∨
    (m = "ssh key does not contain a valid PEM block" ∧
      ∃ bytes, libs.readFile (cfg.get "SSH_KEY_PATH") = .ok bytes ∧
        libs.pemDecode bytes = none) := by
  rcases requireKey_bind_errorf h with hk | h
  · exact .inl hk
  rcases requireKey_bind_errorf h with hk | h
  · exact .inr (.inl ⟨_, by simp, hk⟩)
  obtain ⟨bytes, hread, h⟩ := bind_eq_errorf mapError_remote_ne h
  rcases requireKey_bind_errorf h with hk | h
  · exact .inr (.inl ⟨_, by simp, hk⟩)
  obtain ⟨_, -, h⟩ := bind_eq_errorf mapError_remote_ne h
  rcases bind_eq_error h with h | ⟨_, -, h⟩
  · cases hpem : libs.pemDecode bytes <;> rw [hpem] at h <;> cases h
    cases hr : libs.readFile (cfg.get "SSH_KEY_PATH") <;> rw [hr] at hread <;> cases hread
    exact .inr (.inr ⟨rfl, _, rfl, hpem⟩)
  rcases requireKey_bind_errorf h with hk | h
  · exact .inr (.inl ⟨_, by simp, hk⟩)
  obtain ⟨_, -, ⟨⟩⟩ := bind_eq_errorf mapError_remote_ne h

theorem resolveOptions_errorf {libs : ProviderLibs} {cfg : ProviderConfig} {pid key m : String}
    (h : resolveOptions libs cfg pid key = .error (.errorf m)) :
    checkSelectorType libs (cfg.getOr "IMAGE_SELECTOR_TYPE" defaultGCEImageSelectorType) =
      .error (.errorf m) := by
  iterate 5 obtain ⟨_, -, h⟩ := bind_eq_errorf parsedOr_ne_errorf h
  rcases bind_eq_error h with h | ⟨_, -, h⟩
  · exact h
  · obtain ⟨_, -, ⟨⟩⟩ := bind_eq_errorf selectorFor_ne_errorf h

/-- A configuration given as its key-value pairs. -/
def ProviderConfig.ofList (kvs : List (String × String)) : ProviderConfig := ⟨fun k => kvs.lookup k⟩

/-- Libraries under which a file reads back its path, every key and parse succeeds except
`strconv.ParseInt`, and the env selector finds no aliases. -/
def stubLibs : ProviderLibs :=
  { readFile := fun path => .ok path
    unmarshalAccount := fun _ => .ok ()
    trimSpace := id
    pemDecode := some
    sshKeySigner := fun _ _ => .ok ()
    parseInt := fun _ => .error "invalid syntax"
    parseUint := fun _ => .ok 3
    parseBool := fun _ => .ok true
    parseDuration := fun _ => .ok 0
    newEnvSelector := fun _ => .error "no image aliases"
    urlParse := fun s => .ok s
    newAPISelector := fun _ _ => .ok "travis-ci-ruby"
    quote := fun s => "\"" ++ s ++ "\"" }

/-- The required keys, with values. -/
def requiredKeys : List (String × String) :=
  [("ACCOUNT_JSON", "\x7b\x7d"), ("PROJECT_ID", "travis-ci"), ("SSH_KEY_PATH", "id_rsa"),
    ("SSH_PUB_KEY_PATH", "id_rsa.pub"), ("SSH_KEY_PASSPHRASE", "secret")]

/-- The required keys, and a `DISK_SIZE` that does not parse. -/
def requiredConfig : ProviderConfig := .ofList (requiredKeys ++ [("DISK_SIZE", "big")])

/-- The required keys, and a selector type the provider does not know. -/
def dockerConfig : ProviderConfig := .ofList (requiredKeys ++ [("IMAGE_SELECTOR_TYPE", "docker")])

/-- Every error text of `newGCEProvider`'s own names the check that failed: a required key that is
unset, a private key without a PEM block, or a selector type other than the three. -/
theorem newGCEProvider_errorf (libs : ProviderLibs) (cfg : ProviderConfig) (m : String)
    (h : (newGCEProvider libs cfg).2 = .error (.errorf m)) :
    (∃ key ∈ ["ACCOUNT_JSON", "PROJECT_ID"], cfg.isSet key = false ∧ m = "missing " ++ key) ∨
    (∃ key ∈ ["SSH_KEY_PATH", "SSH_PUB_KEY_PATH", "SSH_KEY_PASSPHRASE"],
      cfg.isSet key = false ∧ m = "missing " ++ key ++ " config key") ∨
    (m = "ssh key does not contain a valid PEM block" ∧
      ∃ bytes, libs.readFile (cfg.get "SSH_KEY_PATH") = .ok bytes ∧ libs.pemDecode bytes = none) ∨
    (cfg.getOr "IMAGE_SELECTOR_TYPE" defaultGCEImageSelectorType ∉ ["legacy", "env", "api"] ∧
      m = "invalid image selector type " ++
        libs.quote (cfg.getOr "IMAGE_SELECTOR_TYPE" defaultGCEImageSelectorType)) := by
  unfold newGCEProvider at h
  split at h
  · rename_i e he
    cases h
    rcases bind_eq_error he with he | ⟨_, -, he⟩
    · exact .inl ⟨_, by simp, buildGoogleComputeService_errorf he⟩
    · rcases loadSSHKeys_errorf he with hp | hssh | hpem
      · exact .inl ⟨_, by simp, hp⟩
      · exact .inr (.inl hssh)
      · exact .inr (.inr (.inl hpem))
  · obtain ⟨hty, ⟨⟩⟩ := checkSelectorType_eq_error (resolveOptions_errorf h)
    simp only [getOr_set] at hty ⊢
    exact .inr (.inr (.inr ⟨hty, rfl⟩))

/- A selector type of `docker` is refused, after the key pair was loaded. -/
example :
    (newGCEProvider stubLibs dockerConfig).2 =
      .error (.errorf "invalid image selector type \"docker\"") :=
  rfl

/-! ### A built provider -/

theorem loadSSHKeys_eq_ok {libs : ProviderLibs} {cfg : ProviderConfig} {pid pub : String}
    (h : loadSSHKeys libs cfg = .ok (pid, pub)) :
    (∀ key ∈ ["PROJECT_ID", "SSH_KEY_PATH", "SSH_PUB_KEY_PATH", "SSH_KEY_PASSPHRASE"],
      cfg.isSet key) ∧
    pid = cfg.get "PROJECT_ID" ∧ libs.readFile (cfg.get "SSH_PUB_KEY_PATH") = .ok pub ∧
    ∃ keyBytes block, libs.readFile (cfg.get "SSH_KEY_PATH") = .ok keyBytes ∧
      libs.pemDecode keyBytes = some block ∧
      libs.sshKeySigner block (cfg.get "SSH_KEY_PASSPHRASE") = .ok () := by
  obtain ⟨_, h1, h⟩ := bind_eq_ok h
  obtain ⟨_, h2, h⟩ := bind_eq_ok h
  obtain ⟨keyBytes, hkey, h⟩ := bind_eq_ok h
  obtain ⟨_, h3, h⟩ := bind_eq_ok h
  obtain ⟨_, hpub, h⟩ := bind_eq_ok h
  obtain ⟨block, hblock, h⟩ := bind_eq_ok h
  obtain ⟨_, h4, h⟩ := bind_eq_ok h
  obtain ⟨⟨⟩, hsign, ⟨⟩⟩ := bind_eq_ok h
  refine ⟨by simp [requireKey_eq_ok h1, requireKey_eq_ok h2, requireKey_eq_ok h3,
    requireKey_eq_ok h4], rfl, mapError_remote_eq_ok hpub, keyBytes, block,
    mapError_remote_eq_ok hkey, ?_, mapError_remote_eq_ok hsign⟩
  cases hp : libs.pemDecode keyBytes <;> rw [hp] at hblock <;> cases hblock
  rfl

theorem resolveOptions_eq_ok {libs : ProviderLibs} {cfg : ProviderConfig} {pid key : String}
    {p : GceProvider} (h : resolveOptions libs cfg pid key = .ok p) :
    p.projectID = pid ∧ p.cfg = cfg ∧ p.instanceGroup = cfg.get "INSTANCE_GROUP" ∧
    p.ic = ⟨none, none, none, "", diskSizeOf libs cfg, key, p.ic.autoImplode,
      p.ic.hardTimeoutMinutes⟩ ∧
    cfg.parsedOr "BOOT_POLL_SLEEP" libs.parseDuration defaultGCEBootPollSleep =
      .ok p.bootPollSleep ∧
    cfg.parsedOr "UPLOAD_RETRIES" libs.parseUint defaultGCEUploadRetries = .ok p.uploadRetries ∧
    cfg.parsedOr "UPLOAD_RETRY_SLEEP" libs.parseDuration defaultGCEUploadRetrySleep =
      .ok p.uploadRetrySleep ∧
    cfg.parsedOr "AUTO_IMPLODE" libs.parseBool true = .ok p.ic.autoImplode ∧
    cfg.parsedOr "HARD_TIMEOUT_MINUTES" libs.parseInt defaultGCEHardTimeoutMinutes =
      .ok p.ic.hardTimeoutMinutes ∧
    p.defaultLanguage = cfg.getOr "DEFAULT_LANGUAGE" defaultGCELanguage ∧
    p.defaultImage = cfg.getOr "IMAGE_DEFAULT" defaultGCEImage ∧
    p.imageSelectorType = cfg.getOr "IMAGE_SELECTOR_TYPE" defaultGCEImageSelectorType ∧
    checkSelectorType libs p.imageSelectorType = .ok () ∧
    ∃ sel, selectorFor libs cfg p.imageSelectorType = .ok sel ∧ p.imageSelector = sel.1 := by
  obtain ⟨_, h1, h⟩ := bind_eq_ok h
  obtain ⟨_, h2, h⟩ := bind_eq_ok h
  obtain ⟨_, h3, h⟩ := bind_eq_ok h
  obtain ⟨_, h4, h⟩ := bind_eq_ok h
  obtain ⟨_, h5, h⟩ := bind_eq_ok h
  obtain ⟨⟨⟩, h6, h⟩ := bind_eq_ok h
  obtain ⟨sel, h7, ⟨⟩⟩ := bind_eq_ok h
  exact ⟨rfl, rfl, rfl, rfl, h1, h2, h3, h4, h5, rfl, rfl, rfl, h6, sel, h7, rfl⟩

theorem newGCEProvider_eq_ok {libs : ProviderLibs} {cfg : ProviderConfig} {p : GceProvider}
    (h : (newGCEProvider libs cfg).2 = .ok p) :
    ∃ pid key, buildGoogleComputeService libs cfg = .ok () ∧ loadSSHKeys libs cfg = .ok (pid, key) ∧
      (newGCEProvider libs cfg).1 =
        ((cfg.set "ZONE" (cfg.getOr "ZONE" defaultGCEZone)).set "MACHINE_TYPE"
          (cfg.getOr "MACHINE_TYPE" defaultGCEMachineType)).set "NETWORK"
          (cfg.getOr "NETWORK" defaultGCENetwork) ∧
      resolveOptions libs (newGCEProvider libs cfg).1 pid key = .ok p := by
  unfold newGCEProvider at h ⊢
  split at h
  · cases h
  · rename_i pid key hr
    obtain ⟨⟨⟩, hacc, hkeys⟩ := bind_eq_ok hr
    exact ⟨pid, key, hacc, hkeys, by simp, h⟩

/-- The provider `newGCEProvider stubLibs requiredConfig` returns. -/
def requiredProvider : GceProvider :=
  { projectID := "travis-ci"
    ic := ⟨none, none, none, "", 20, "id_rsa.pub", true, 130⟩
    cfg := ((requiredConfig.set "ZONE" "us-central1-a").set "MACHINE_TYPE" "n1-standard-2").set
      "NETWORK" "default"
    imageSelectorType := "legacy"
    imageSelector := none
    instanceGroup := ""
    bootPollSleep := 3000000000
    defaultLanguage := "minimal"
    defaultImage := "travis-ci-mega.+"
    uploadRetries := 10
    uploadRetrySleep := 5000000000
    selector_set := by decide }

example : (newGCEProvider stubLibs requiredConfig).2 = .ok requiredProvider := rfl

/-- A provider `newGCEProvider` returns: the required keys were set, `ZONE`, `MACHINE_TYPE` and
`NETWORK` are written back as given or as their defaults, the selector type is one of the three,
and nothing is resolved before `Setup`. -/
theorem newGCEProvider_ok (libs : ProviderLibs) (cfg : ProviderConfig) (p : GceProvider)
    (h : (newGCEProvider libs cfg).2 = .ok p) :
    (∀ key ∈ ["ACCOUNT_JSON", "PROJECT_ID", "SSH_KEY_PATH", "SSH_PUB_KEY_PATH", "SSH_KEY_PASSPHRASE"],
      cfg.isSet key) ∧
    p.cfg = (newGCEProvider libs cfg).1 ∧
    p.cfg.get "ZONE" = (if cfg.isSet "ZONE" then cfg.get "ZONE" else defaultGCEZone) ∧
    p.cfg.get "MACHINE_TYPE" =
      (if cfg.isSet "MACHINE_TYPE" then cfg.get "MACHINE_TYPE" else defaultGCEMachineType) ∧
    p.cfg.get "NETWORK" = (if cfg.isSet "NETWORK" then cfg.get "NETWORK" else defaultGCENetwork) ∧
    p.imageSelectorType = (if cfg.isSet "IMAGE_SELECTOR_TYPE" then cfg.get "IMAGE_SELECTOR_TYPE"
      else defaultGCEImageSelectorType) ∧
    p.imageSelectorType ∈ ["legacy", "env", "api"] ∧
    p.ic.zone = none ∧ p.ic.machineType = none ∧ p.ic.network = none := by
  obtain ⟨pid, key, hacc, hkeys, hcfg, hres⟩ := newGCEProvider_eq_ok h
  obtain ⟨hset, -⟩ := loadSSHKeys_eq_ok hkeys
  obtain ⟨-, hpcfg, -, hic, -, -, -, -, -, -, -, hty, hcheck, -⟩ := resolveOptions_eq_ok hres
  obtain ⟨⟨⟩, hacc, -⟩ := bind_eq_ok hacc
  rw [hic]
  refine ⟨by simpa [requireKey_eq_ok hacc] using hset, hpcfg, ?_, ?_, ?_, ?_,
    checkSelectorType_eq_ok hcheck, rfl, rfl, rfl⟩
  all_goals simp [hpcfg, hcfg, hty, getOr]

theorem diskSizeOf_set (libs : ProviderLibs) (cfg : ProviderConfig) (key v : String)
    (h : key ≠ "DISK_SIZE") : diskSizeOf libs (cfg.set key v) = diskSizeOf libs cfg := by
  simp [diskSizeOf, Ne.symm h]

/-- Each parsed option of a provider `newGCEProvider` returns is the parse of a set key's value,
so a value that does not parse leaves no provider, or the default; only a `DISK_SIZE` that does
not parse gives the default. -/
theorem newGCEProvider_parse_fatal (libs : ProviderLibs) (cfg : ProviderConfig) (p : GceProvider)
    (h : (newGCEProvider libs cfg).2 = .ok p) :
    (if cfg.isSet "BOOT_POLL_SLEEP" then
        libs.parseDuration (cfg.get "BOOT_POLL_SLEEP") = .ok p.bootPollSleep
      else p.bootPollSleep = defaultGCEBootPollSleep) ∧
    (if cfg.isSet "UPLOAD_RETRIES" then
        libs.parseUint (cfg.get "UPLOAD_RETRIES") = .ok p.uploadRetries
      else p.uploadRetries = defaultGCEUploadRetries) ∧
    (if cfg.isSet "UPLOAD_RETRY_SLEEP" then
        libs.parseDuration (cfg.get "UPLOAD_RETRY_SLEEP") = .ok p.uploadRetrySleep
      else p.uploadRetrySleep = defaultGCEUploadRetrySleep) ∧
    (if cfg.isSet "AUTO_IMPLODE" then
        libs.parseBool (cfg.get "AUTO_IMPLODE") = .ok p.ic.autoImplode
      else p.ic.autoImplode = true) ∧
    (if cfg.isSet "HARD_TIMEOUT_MINUTES" then
        libs.parseInt (cfg.get "HARD_TIMEOUT_MINUTES") = .ok p.ic.hardTimeoutMinutes
      else p.ic.hardTimeoutMinutes = defaultGCEHardTimeoutMinutes) ∧
    (if cfg.isSet "DISK_SIZE" then
        libs.parseInt (cfg.get "DISK_SIZE") = .ok p.ic.diskSize ∨
          (∃ e, libs.parseInt (cfg.get "DISK_SIZE") = .error e) ∧
            p.ic.diskSize = defaultGCEDiskSize
      else p.ic.diskSize = defaultGCEDiskSize) := by
  obtain ⟨pid, key, -, -, hcfg, hres⟩ := newGCEProvider_eq_ok h
  obtain ⟨-, -, -, hic, h1, h2, h3, h4, h5, -⟩ := resolveOptions_eq_ok hres
  rw [hcfg] at h1 h2 h3 h4 h5 hic
  simp (disch := decide) only [parsedOr_set, diskSizeOf_set] at h1 h2 h3 h4 h5 hic
  refine ⟨parsedOr_eq_ok h1, parsedOr_eq_ok h2, parsedOr_eq_ok h3, parsedOr_eq_ok h4,
    parsedOr_eq_ok h5, ?_⟩
  rw [hic]
  unfold diskSizeOf
  cases hk : cfg.isSet "DISK_SIZE" <;> simp only [if_true, if_false, Bool.false_eq_true]
  cases hp : libs.parseInt (cfg.get "DISK_SIZE") with
  | ok ds => exact .inl rfl
  | error e => exact .inr ⟨⟨e, rfl⟩, rfl⟩

end GceBackend
