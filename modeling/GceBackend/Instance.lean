import GceBackend.Basic

/-! # Building and reaching an instance

`buildInstance` produces the declarative spec `Start` inserts, with the rendered startup script
(`gceStartupScript`) as its metadata. Its one access config carries no NAT IP: the server assigns
one, so `sshClient` refreshes the instance before `getIP` reads the first non-empty `NatIP` across
all interfaces. `RunScript` maps the outcome of the remote `bash ~/build.sh` to a `RunResult`.

`getIP_spec` proves `getIP` is the first non-empty NAT IP of the flattened access configs, and
that `sshClient` fails with `errGCEMissingIPAddressError` exactly when the refreshed instance has
none; `buildInstance_getIP` that the instance as built has no address yet.
-/

namespace GceBackend

/-- `gceInstance`: the handle `Start` returns (`inst` is its `instance` field). -/
structure GceInstance where
  inst : Instance
  authUser : String
  projectID : String
  imageName : String
  deriving DecidableEq, Repr

/-- `gceStartupScript` rendered with the instance config. -/
def gceStartupScript (ic : GceInstanceConfig) : String :=
  "#!/usr/bin/env bash\n" ++
  (if ic.autoImplode then
    "echo poweroff | at now + " ++ toString ic.hardTimeoutMinutes ++ " minutes"
   else "") ++
  "\ncat > ~travis/.ssh/authorized_keys <<EOF\n" ++ ic.sshPubKey ++ "\nEOF\n"

section
variable (devstorageFullControlScope computeScope : String)

/-- `buildInstance`; `uuid` is `uuid.NewRandom()`, and the two scopes are the compute API
package's `DevstorageFullControlScope` and `ComputeScope`. It is `none` where Go dereferences
the machine type or network that `Setup` has not resolved. -/
def buildInstance (p : GceProvider) (attrs : StartAttributes)
    (imageLink startupScript uuid : String) : Option Instance := do
  let machineType ← p.ic.machineType
  let network ← p.ic.network
  pure
    { description := "Travis CI " ++ attrs.language ++ " test VM"
      disks := [⟨"PERSISTENT", "READ_WRITE", true, true, imageLink, p.ic.diskType, p.ic.diskSize⟩]
      preemptible := true
      machineType := machineType.selfLink
      name := "testing-gce-" ++ uuid
      selfLink := ""
      metadata := [("startup-script", startupScript)]
      networkInterfaces :=
        [⟨network.selfLink,
          some [⟨"AccessConfig brought to you by travis-worker", "ONE_TO_ONE_NAT", ""⟩]⟩]
      serviceAccounts := [⟨"default", ["https://www.googleapis.com/auth/userinfo.email",
        devstorageFullControlScope, computeScope]⟩]
      tags := ["testing"] }

end

/-- The inner loop of `getIP`: the first access config with a non-empty `NatIP`. -/
def firstNatIP : List AccessConfig → Option String
  | [] => none
  | ac :: acs => if ac.natIP != "" then some ac.natIP else firstNatIP acs

/-- The outer loop of `getIP`, skipping interfaces whose `AccessConfigs` is nil. -/
def getIPFrom : List NetworkInterface → String
  | [] => ""
  | ni :: nis =>
    match ni.accessConfigs with
    | none => getIPFrom nis
    | some acs =>
      match firstNatIP acs with
      | some ip => ip
      | none => getIPFrom nis

/-- `getIP`. -/
def getIP (inst : Instance) : String := getIPFrom inst.networkInterfaces

/-- `refreshInstance` with the reply of `Instances.Get`: the new `i.instance`, or the error. -/
def refreshInstance (get : Except String Instance) : Except GoError Instance :=
  get.mapError .remote

/-- `sshClient`: the handle's instance after the call, and the result; `dial` is `ssh.Dial`. -/
def sshClient (get : Except String Instance) (dial : String → Except String Unit) (i : Instance) :
    Instance × Except GoError Unit :=
  match refreshInstance get with
  | .error e => (i, .error e)
  | .ok inst =>
    let ipAddr := getIP inst
    if ipAddr = "" then (inst, .error .missingIPAddress)
    else (inst, (dial (ipAddr ++ ":22")).mapError .remote)

theorem sshClient_error {get : Except String Instance} {dial : String → Except String Unit}
    {i : Instance} {e : GoError} (h : (sshClient get dial i).2 = .error e) :
    e = .missingIPAddress ∨ ∃ msg, e = .remote msg := by
  unfold sshClient refreshInstance Except.mapError at h
  rcases get with m | r
  · exact .inr ⟨m, by simpa [eq_comm] using h⟩
  · simp only at h
    split at h
    · exact .inl (by simpa [eq_comm] using h)
    · rcases hd : dial (getIP r ++ ":22") with m | _ <;> simp [hd, eq_comm] at h
      exact .inr ⟨m, h⟩

/-- `(*gceInstance).ID`. -/
def GceInstance.id (i : GceInstance) : String := i.inst.name ++ ":" ++ i.imageName

/-! ### `RunScript` -/

/-- `RunResult`. -/
structure RunResult where
  completed : Bool
  exitCode : UInt8
  deriving DecidableEq, Repr

/-- The error of `session.Run`: a remote exit status (`*ssh.ExitError`) or any other error. -/
inductive RunError where
  | exit (status : Int)
  | other (msg : String)
  deriving DecidableEq, Repr

/-- What `RunScript` meets: the dial, the session, the PTY request and `bash ~/build.sh`. -/
structure RunEnv where
  client : Except GoError Unit
  newSession : Option String
  requestPty : Option String
  run : Option RunError

/-- Go's `uint8(x)` of an `int`: the low eight bits. -/
def toUInt8 (x : Int) : UInt8 := UInt8.ofNat (x % 256).toNat

/-- `RunScript`. -/
def runScript (env : RunEnv) : RunResult × Option GoError :=
  match env.client with
  | .error e => (⟨false, 0⟩, some e)
  | .ok () =>
    match env.newSession with
    | some e => (⟨false, 0⟩, some (.remote e))
    | none =>
      match env.requestPty with
      | some e => (⟨false, 0⟩, some (.remote e))
      | none =>
        match env.run with
        | none => (⟨true, 0⟩, none)
        | some (.exit status) => (⟨true, toUInt8 status⟩, none)
        | some (.other e) => (⟨false, 0⟩, some (.remote e))

/-- `RunScript` reports a completed run, with no error, exactly when `bash ~/build.sh` ran to an
exit status (zero when `Run` returned nil); otherwise `Completed = false` with the error. -/
theorem runScript_completed (env : RunEnv) :
    ((runScript env).1.completed = true ↔ env.client = .ok () ∧ env.newSession = none ∧
      env.requestPty = none ∧ ∀ e, env.run ≠ some (.other e)) ∧
    ((runScript env).1.completed = true → (runScript env).2 = none ∧
      (runScript env).1.exitCode = match env.run with
        | some (.exit status) => toUInt8 status
        | _ => 0) ∧
    ((runScript env).1.completed = false → (runScript env).2.isSome) := by
  rcases env with ⟨_ | ⟨⟩, _ | _, _ | _, _ | _ | _⟩ <;> simp [runScript]

example : runScript ⟨.ok (), none, none, some (.exit 7)⟩ = (⟨true, 7⟩, none) := by decide

/-! ### `getIP` -/

/-- The NAT IPs of an instance's access configs, interface by interface. -/
def natIPs (inst : Instance) : List String :=
  inst.networkInterfaces.flatMap fun ni => (ni.accessConfigs.getD []).map AccessConfig.natIP

theorem firstNatIP_eq_find? (acs : List AccessConfig) :
    firstNatIP acs = (acs.map AccessConfig.natIP).find? (· != "") := by
  induction acs with
  | nil => rfl
  | cons ac acs ih => by_cases h : ac.natIP = "" <;> simp [firstNatIP, h, ih]

theorem getIPFrom_eq_find? (nis : List NetworkInterface) :
    getIPFrom nis = ((nis.flatMap fun ni => (ni.accessConfigs.getD []).map AccessConfig.natIP).find?
      (· != "")).getD "" := by
  induction nis with
  | nil => rfl
  | cons ni nis ih =>
    rcases ni with ⟨network, _ | acs⟩
    · simpa [getIPFrom] using ih
    · simp only [getIPFrom, firstNatIP_eq_find?, List.flatMap_cons, Option.getD_some,
        List.find?_append]
      cases (acs.map AccessConfig.natIP).find? (· != "") <;> simp [ih]

theorem getIP_eq_empty_iff (inst : Instance) : getIP inst = "" ↔ ∀ ip ∈ natIPs inst, ip = "" := by
  rw [getIP, getIPFrom_eq_find?, ← natIPs]
  cases h : (natIPs inst).find? (· != "") with
  | none => simpa using List.find?_eq_none.1 h
  | some ip =>
    have hip := List.find?_some h
    simp only [bne_iff_ne, ne_eq] at hip
    simp only [Option.getD_some, hip, false_iff, not_forall]
    exact ⟨ip, List.mem_of_find?_eq_some h, hip⟩

/-- `getIP` is the first non-empty NAT IP over the flattened access configs (`""` when there is
none), and `sshClient` fails with `errGCEMissingIPAddressError` exactly when the refreshed
instance has no non-empty NAT IP. -/
theorem getIP_spec :
    (∀ inst : Instance, getIP inst = ((natIPs inst).find? (· != "")).getD "" ∧
      (getIP inst = "" ↔ ∀ ip ∈ natIPs inst, ip = "")) ∧
    ∀ (get : Except String Instance) (dial : String → Except String Unit) (i : Instance),
      (sshClient get dial i).2 = .error .missingIPAddress ↔
        ∃ r, get = .ok r ∧ ∀ ip ∈ natIPs r, ip = "" := by
  refine ⟨fun inst => ⟨getIPFrom_eq_find? _, getIP_eq_empty_iff inst⟩, fun get dial i => ?_⟩
  cases get with
  | error e => simp [sshClient, refreshInstance, Except.mapError]
  | ok r =>
    simp only [sshClient, refreshInstance, Except.mapError, ← getIP_eq_empty_iff, Except.ok.injEq,
      exists_eq_left']
    split
    · simp [*]
    · simp only [*, iff_false]
      cases dial (getIP r ++ ":22") <;> simp

theorem buildInstance_getIP (scope₁ scope₂ : String) (p : GceProvider) (attrs : StartAttributes)
    (imageLink startupScript uuid : String) (inst : Instance)
    (h : buildInstance scope₁ scope₂ p attrs imageLink startupScript uuid = some inst) :
    getIP inst = "" ∧ inst.name = "testing-gce-" ++ uuid := by
  simp only [buildInstance, Option.bind_eq_bind, Option.bind_eq_some, Option.pure_def,
    Option.some.injEq] at h
  obtain ⟨_, -, _, -, rfl⟩ := h
  exact ⟨rfl, rfl⟩

end GceBackend
