import GceBackend.StartLog

/-! # From the configuration to the VM

`newGCEProvider`, `Setup` and the prologue of `Start` composed. `provider_start_instance` reads
the instance `Start` inserts off the configuration keys and the replies of the three lookups of
`Setup`: the machine type and network resolved for `ZONE`, `MACHINE_TYPE` and `NETWORK` (or their
defaults, which `newGCEProvider` writes back into the configuration), a `pd-ssd` boot disk of
`DISK_SIZE` gigabytes in the resolved zone from the image `getImage` picked, and the startup
script rendered from the contents of the file `SSH_PUB_KEY_PATH`, `AUTO_IMPLODE` and
`HARD_TIMEOUT_MINUTES`. The project is `PROJECT_ID` and the group path is taken for a non-empty
`INSTANCE_GROUP`.
-/

namespace GceBackend

open ProviderConfig

theorem setup_eq_ok {zones : String → String → Except String Resource}
    {machineTypes : String → String → String → Except String Resource}
    {networks : String → String → Except String Resource} {p : GceProvider}
    (h : (setup zones machineTypes networks p).2 = .ok ()) :
    ∃ zone mt nw, zones p.projectID (p.cfg.get "ZONE") = .ok zone ∧
      machineTypes p.projectID zone.name (p.cfg.get "MACHINE_TYPE") = .ok mt ∧
      networks p.projectID (p.cfg.get "NETWORK") = .ok nw ∧
      (setup zones machineTypes networks p).1 =
        { p with ic := { p.ic with zone := some zone,
                                   diskType := "zones/" ++ zone.name ++ "/diskTypes/pd-ssd",
                                   machineType := some mt, network := some nw } } := by
  unfold setup at h ⊢
  rcases hz : zones p.projectID (p.cfg.get "ZONE") with e | zone
  · simp only [hz] at h; cases h
  rcases hm : machineTypes p.projectID zone.name (p.cfg.get "MACHINE_TYPE") with e | mt
  · simp only [hz, hm] at h; cases h
  rcases hn : networks p.projectID (p.cfg.get "NETWORK") with e | nw
  · simp only [hz, hm, hn] at h; cases h
  exact ⟨zone, mt, nw, rfl, hm, rfl, by simp only [hm]⟩

/-- The VM `Start` asks for, from the configuration on: the machine type and network `Setup`
resolved, one `pd-ssd` boot disk of `DISK_SIZE` gigabytes from the image picked, and the startup
script rendered from the public key file, `AUTO_IMPLODE` and `HARD_TIMEOUT_MINUTES`. -/
theorem provider_start_instance (libs : ProviderLibs) (cfg : ProviderConfig) (p : GceProvider)
    (zones : String → String → Except String Resource)
    (machineTypes : String → String → String → Except String Resource)
    (networks : String → String → Except String Resource) (scope₁ scope₂ : String)
    (toUpper : String → String) (images : Catalogue) (attrs : StartAttributes) (uuid : String)
    (si : StartInput) (hp : (newGCEProvider libs cfg).2 = .ok p)
    (hs : (setup zones machineTypes networks p).2 = .ok ())
    (hsi : startInput scope₁ scope₂ (setup zones machineTypes networks p).1 toUpper images attrs
      uuid = .ok (some si)) :
    ∃ zone mt nw pubKey autoImplode hardTimeoutMinutes diskSize,
      zones (cfg.get "PROJECT_ID")
        (if cfg.isSet "ZONE" then cfg.get "ZONE" else defaultGCEZone) = .ok zone ∧
      machineTypes (cfg.get "PROJECT_ID") zone.name
        (if cfg.isSet "MACHINE_TYPE" then cfg.get "MACHINE_TYPE" else defaultGCEMachineType) =
          .ok mt ∧
      networks (cfg.get "PROJECT_ID")
        (if cfg.isSet "NETWORK" then cfg.get "NETWORK" else defaultGCENetwork) = .ok nw ∧
      libs.readFile (cfg.get "SSH_PUB_KEY_PATH") = .ok pubKey ∧
      (if cfg.isSet "AUTO_IMPLODE" then libs.parseBool (cfg.get "AUTO_IMPLODE") = .ok autoImplode
        else autoImplode = true) ∧
      (if cfg.isSet "HARD_TIMEOUT_MINUTES" then
          libs.parseInt (cfg.get "HARD_TIMEOUT_MINUTES") = .ok hardTimeoutMinutes
        else hardTimeoutMinutes = defaultGCEHardTimeoutMinutes) ∧
      (if cfg.isSet "DISK_SIZE" then libs.parseInt (cfg.get "DISK_SIZE") = .ok diskSize ∨
          (∃ e, libs.parseInt (cfg.get "DISK_SIZE") = .error e) ∧ diskSize = defaultGCEDiskSize
        else diskSize = defaultGCEDiskSize) ∧
      si.projectID = cfg.get "PROJECT_ID" ∧ si.instanceGroup = cfg.get "INSTANCE_GROUP" ∧
      si.inst.machineType = mt.selfLink ∧
      si.inst.networkInterfaces.map NetworkInterface.network = [nw.selfLink] ∧
      si.inst.disks.map (fun d => (d.sourceImage, d.diskType, d.diskSizeGb)) =
        [(si.image.selfLink, "zones/" ++ zone.name ++ "/diskTypes/pd-ssd", diskSize)] ∧
      si.inst.metadata = [("startup-script", "#!/usr/bin/env bash\n" ++
        (if autoImplode then "echo poweroff | at now + " ++ toString hardTimeoutMinutes ++
          " minutes" else "") ++
        "\ncat > ~travis/.ssh/authorized_keys <<EOF\n" ++ pubKey ++ "\nEOF\n")] := by
  obtain ⟨pid, key, -, hkeys, hcfg, hres⟩ := newGCEProvider_eq_ok hp
  obtain ⟨-, hpid, hpub, -⟩ := loadSSHKeys_eq_ok hkeys
  obtain ⟨hproj, hpcfg, hgrp, hic, -⟩ := resolveOptions_eq_ok hres
  obtain ⟨-, -, -, hai, hht, hds⟩ := newGCEProvider_parse_fatal libs cfg p hp
  obtain ⟨zone, mt, nw, hz, hm, hn, hsetup⟩ := setup_eq_ok hs
  obtain ⟨image, -, hsiproj, hsigrp, rfl, hb⟩ := startInput_eq_some hsi
  rw [hsetup] at hb hsiproj hsigrp
  simp only [buildInstance, Option.bind_eq_bind, Option.some_bind, Option.pure_def,
    Option.some.injEq] at hb
  rw [hpcfg, hcfg, hproj, hpid] at hz hm hn
  simp only [get_set, getOr] at hz hm hn
  rw [hcfg] at hgrp
  refine ⟨zone, mt, nw, key, p.ic.autoImplode, p.ic.hardTimeoutMinutes, p.ic.diskSize, hz, hm, hn,
    hpub, hai, hht, hds, hsiproj.trans (hproj.trans hpid),
    hsigrp.trans (by simpa using hgrp), ?_⟩
  have hkey : p.ic.sshPubKey = key := by rw [hic]
  rw [← hb]
  simp [gceStartupScript, hkey]

end GceBackend
