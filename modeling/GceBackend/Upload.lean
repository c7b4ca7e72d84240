import GceBackend.Instance

/-! # Uploading the build script (`UploadScript`, `uploadScriptAttempt`)

`uploadScriptAttempt` dials the VM, opens SFTP, and reports `ErrStaleVM` when `Lstat("build.sh")`
succeeds; otherwise it creates `build.sh` and writes the script. The uploader goroutine of
`UploadScript` repeats attempts: a nil attempt is sent at once, any other error bumps the `uint64`
counter `errCount` and is sent once the counter exceeds `UPLOAD_RETRIES`.

Here the context is never cancelled, so `UploadScript` returns what the uploader sends.
`uploadLoop` is that loop over an arbitrary world `σ`, with `attempt k` the `k`-th call;
`uploadLoop_eq_sent` characterises a run that sends, and `uploadLoop_stops` computes where it
stops. Both the retry policy (`uploadScript_retries`, over any outcome sequence) and the
behaviour on the VM's `build.sh` (`uploadScript_buildSh`, over any failure pattern) follow.
`ErrStaleVM` is counted and retried like every other error, and a retry sees the `build.sh` that
a failed attempt created; the cancelled context is the subject of `Cancel`.
-/

namespace GceBackend

/-! ### `uint64` bookkeeping -/

theorem uint64_lt_iff (a b : UInt64) : a < b ↔ a.toNat < b.toNat :=
  UInt64.lt_def.trans BitVec.lt_def

/-! ### The retry loop -/

/-- What the uploader does after an attempt: send a result, or go round with a new counter. -/
inductive UploadStep where
  | send (r : Option GoError)
  | retry (errCount : UInt64)
  deriving DecidableEq, Repr

/-- Lines 856-867: nil is sent; an error bumps `errCount` and is sent once it exceeds the bound. -/
def uploadStep (uploadRetries errCount : UInt64) : Option GoError → UploadStep
  | none => .send none
  | some err => if errCount + 1 > uploadRetries then .send (some err) else .retry (errCount + 1)

theorem uploadStep_eq_send {R c : UInt64} {o r : Option GoError} (h : uploadStep R c o = .send r) :
    r = o := by
  cases o with
  | none => simpa [uploadStep, eq_comm] using h
  | some e =>
    simp only [uploadStep] at h
    split at h
    · exact (UploadStep.send.inj h).symm
    · cases h

theorem uploadStep_eq_retry {R c c' : UInt64} {o : Option GoError}
    (h : uploadStep R c o = .retry c') :
    o ≠ none := by
  rintro rfl; simp [uploadStep] at h

theorem uploadStep_retry {R c : UInt64} (e : GoError) (hc : c.toNat < R.toNat) :
    uploadStep R c (some e) = .retry (c + 1) ∧ (c + 1).toNat = c.toNat + 1 := by
  have : R.toNat < 2 ^ 64 := R.toNat_lt_size
  have hadd : (c + 1).toNat = (c.toNat + 1) % 2 ^ 64 := BitVec.toNat_add _ _
  simp only [uploadStep, GT.gt, uint64_lt_iff, hadd]
  constructor
  · rw [if_neg (by omega)]
  · omega

theorem uploadStep_send {R c : UInt64} (e : GoError) (hc : c.toNat = R.toNat)
    (hR : R.toNat + 1 < 2 ^ 64) : uploadStep R c (some e) = .send (some e) := by
  have hadd : (c + 1).toNat = (c.toNat + 1) % 2 ^ 64 := BitVec.toNat_add _ _
  simp only [uploadStep, GT.gt, uint64_lt_iff, hadd]
  rw [if_pos (by omega)]

/-- Where a run of the uploader is after its passes. -/
inductive UploadRun (σ : Type) where
  | running (s : σ)
  | sent (r : Option GoError) (calls : Nat) (s : σ)
  deriving DecidableEq, Repr

/-- The uploader goroutine with the context never cancelled: `attempt k s` is the `k`-th call
of `uploadScriptAttempt` from world `s`, `k` the calls made so far, `fuel` the passes left. -/
def uploadLoop {σ : Type} (uploadRetries : UInt64) (attempt : Nat → σ → Option GoError × σ) :
    Nat → Nat → UInt64 → σ → UploadRun σ
  | 0, _, _, s => .running s
  | fuel + 1, k, errCount, s =>
    match uploadStep uploadRetries errCount (attempt k s).1 with
    | .send r => .sent r (k + 1) (attempt k s).2
    | .retry c => uploadLoop uploadRetries attempt fuel (k + 1) c (attempt k s).2

section Trace
variable {σ : Type} (attempt : Nat → σ → Option GoError × σ) (s₀ : σ)

/-- The world before the `k`-th attempt when every attempt runs. -/
def worldAt : Nat → σ
  | 0 => s₀
  | k + 1 => (attempt k (worldAt k)).2

/-- The outcome of the `k`-th attempt. -/
def outcomeAt (k : Nat) : Option GoError := (attempt k (worldAt attempt s₀ k)).1

@[simp] theorem worldAt_succ (k : Nat) :
    worldAt attempt s₀ (k + 1) = (attempt k (worldAt attempt s₀ k)).2 := rfl

theorem uploadLoop_eq_sent {R : UInt64} :
    ∀ {fuel k : Nat} {c : UInt64} {r : Option GoError} {calls : Nat} {s : σ},
      uploadLoop R attempt fuel k c (worldAt attempt s₀ k) = .sent r calls s →
      k < calls ∧ r = outcomeAt attempt s₀ (calls - 1) ∧ s = worldAt attempt s₀ calls ∧
        ∀ i, k ≤ i → i + 1 < calls → outcomeAt attempt s₀ i ≠ none
  | 0, _, _, _, _, _, h => by simp [uploadLoop] at h
  | fuel + 1, k, c, r, calls, s, h => by
    simp only [uploadLoop] at h
    split at h
    · rename_i r' hstep
      obtain ⟨rfl, rfl, rfl⟩ := UploadRun.sent.inj h
      exact ⟨by omega, uploadStep_eq_send hstep, rfl, fun i hi hi' => by omega⟩
    · rename_i c' hstep
      obtain ⟨hlt, hr, hs, hfail⟩ := uploadLoop_eq_sent (k := k + 1) h
      refine ⟨by omega, hr, hs, fun i hi hi' => ?_⟩
      rcases Nat.eq_or_lt_of_le hi with rfl | hi
      · exact uploadStep_eq_retry hstep
      · exact hfail i hi hi'

/-- Where the uploader stops: at the first index `n` whose attempt succeeds, or at the
`UPLOAD_RETRIES`-th retry, as long as the counter does not wrap. -/
theorem uploadLoop_stops {R : UInt64} {n : Nat} (hn : n ≤ R.toNat)
    (hprev : ∀ i < n, outcomeAt attempt s₀ i ≠ none)
    (hstop : outcomeAt attempt s₀ n = none ∨ (n = R.toNat ∧ R.toNat + 1 < 2 ^ 64)) :
    ∀ {fuel k : Nat} {c : UInt64}, k ≤ n → c.toNat = k → n - k < fuel →
      uploadLoop R attempt fuel k c (worldAt attempt s₀ k) =
        .sent (outcomeAt attempt s₀ n) (n + 1) (worldAt attempt s₀ (n + 1))
  | 0, _, _, _, _, hf => absurd hf (Nat.not_lt_zero _)
  | fuel + 1, k, c, hk, hc, hf => by
    simp only [uploadLoop]
    rcases Nat.eq_or_lt_of_le hk with rfl | hk
    · simp only [outcomeAt] at hstop ⊢
      cases ho : (attempt k (worldAt attempt s₀ k)).1 with
      | none => simp [uploadStep]
      | some e =>
        obtain ⟨hnR, hR⟩ := hstop.resolve_left (by simp [ho])
        simp [uploadStep_send e (hc.trans hnR) hR]
    · obtain ⟨e, he⟩ := Option.ne_none_iff_exists'.1 (hprev k hk)
      obtain ⟨hstep, hc'⟩ := uploadStep_retry (R := R) (c := c) e (by omega)
      simp only [outcomeAt] at he
      rw [he, hstep]
      exact uploadLoop_stops hn hprev hstop (by omega) (by omega) (by omega)

end Trace

/-! ### The retry policy -/

/-- The retry policy over any outcomes `o 0, o 1, ...`: with `n` the first nil attempt or else the
`UPLOAD_RETRIES`-th retry, the uploader makes `n + 1` calls and returns `o n`, as long as
`errCount` does not wrap. `ErrStaleVM` counts as an error like any other. -/
theorem uploadScript_retries (R : UInt64) (o : Nat → Option GoError) (n : Nat) (hn : n ≤ R.toNat)
    (hprev : ∀ i < n, o i ≠ none) (hstop : o n = none ∨ (n = R.toNat ∧ R.toNat + 1 < 2 ^ 64))
    (fuel : Nat) (hfuel : n < fuel) :
    uploadLoop R (fun k _ => (o k, ())) fuel 0 0 () = .sent (o n) (n + 1) () :=
  uploadLoop_stops (fun k _ => (o k, ())) () hn hprev hstop (Nat.zero_le n) rfl (by omega)

/- `UPLOAD_RETRIES=3` with every attempt failing: four attempts, then the last error. -/
example :
    uploadLoop 3 (fun _ _ => (some (.remote "connection refused"), ())) 4 0 0 () =
      .sent (some (.remote "connection refused")) 4 () :=
  uploadScript_retries 3 (fun _ => some (.remote "connection refused")) 3 (by decide)
    (fun _ _ => Option.some_ne_none _) (.inr ⟨rfl, by decide⟩) 4 (by decide)

/-- `ErrStaleVM` is retried: with `UPLOAD_RETRIES=1`, a stale first attempt and a good second one,
the uploader makes two calls and returns nil, not `ErrStaleVM` after one. -/
theorem uploadScript_retries_staleVM :
    uploadLoop 1 (fun k _ => (if k = 0 then some .staleVM else none, ())) 2 0 0 () =
        .sent none 2 () ∧
      uploadLoop 1 (fun k _ => (if k = 0 then some .staleVM else none, ())) 2 0 0 () ≠
        .sent (some .staleVM) 1 () := by
  decide

/-- With `UPLOAD_RETRIES` at the top of `uint64` the counter can never exceed it: `errCount++`
wraps, and an uploader whose attempts all fail never sends. -/
theorem uploadLoop_max_retries_running (o : Nat → GoError) :
    ∀ (fuel k : Nat) (c : UInt64),
      uploadLoop 18446744073709551615 (fun k _ => (some (o k), ())) fuel k c () = .running ()
  | 0, _, _ => rfl
  | fuel + 1, k, c => by
    have hc : (c + 1).toNat < 2 ^ 64 := (c + 1).toNat_lt_size
    have hstep : uploadStep 18446744073709551615 c (some (o k)) = .retry (c + 1) := by
      simp only [uploadStep, GT.gt, uint64_lt_iff]
      exact if_neg (by show ¬ 18446744073709551615 < (c + 1).toNat; omega)
    simp only [uploadLoop, hstep]
    exact uploadLoop_max_retries_running o fuel (k + 1) (c + 1)

/-! ### One attempt against the VM -/

/-- What one `uploadScriptAttempt` meets at each step that can fail: the refresh and dial, the SFTP
client, `Lstat` of an existing `build.sh`, `Create`, and `Write` (with what a failure leaves). -/
structure AttemptEnv where
  get : Except String Instance
  dial : String → Except String Unit
  sftpOpen : Option String
  lstat : Option String
  create : Option String
  write : Option (String × Bytes)

/-- The handle's instance record and the VM's `build.sh`, absent or with its bytes. -/
structure UploadWorld where
  inst : Instance
  buildSh : Option Bytes
  deriving DecidableEq

/-- `sftp.Lstat("build.sh")`: `err` for an existing file, always an error for an absent one. -/
def lstatErr (err : Option String) : Option Bytes → Option GoError
  | some _ => err.map .remote
  | none => some (.remote "file does not exist")

/-- `uploadScriptAttempt`; `Create` truncates `build.sh`, and `Write` fills it with the script. -/
def uploadScriptAttempt (script : Bytes) (a : AttemptEnv) (w : UploadWorld) :
    Option GoError × UploadWorld :=
  let ssh := sshClient a.get a.dial w.inst
  let w := { w with inst := ssh.1 }
  match ssh.2 with
  | .error e => (some e, w)
  | .ok () =>
    match a.sftpOpen with
    | some e => (some (.remote e), w)
    | none =>
      match lstatErr a.lstat w.buildSh with
      | none => (some .staleVM, w)
      | some _ =>
        match a.create with
        | some e => (some (.remote e), w)
        | none =>
          match a.write with
          | some (e, left) => (some (.remote e), { w with buildSh := some left })
          | none => (none, { w with buildSh := some script })

/-- What an attempt does to `build.sh`: `ErrStaleVM` only over an existing file, left as it
was; a nil attempt leaves exactly the script; and the file changes only after `Lstat` failed. -/
theorem uploadScriptAttempt_buildSh (script : Bytes) (a : AttemptEnv) (w : UploadWorld) :
    ((uploadScriptAttempt script a w).1 = some .staleVM →
      w.buildSh.isSome ∧ (uploadScriptAttempt script a w).2.buildSh = w.buildSh) ∧
    ((uploadScriptAttempt script a w).1 = none →
      (uploadScriptAttempt script a w).2.buildSh = some script) ∧
    ((uploadScriptAttempt script a w).2.buildSh ≠ w.buildSh →
      (lstatErr a.lstat w.buildSh).isSome) := by
  have hssh := @sshClient_error a.get a.dial w.inst
  unfold uploadScriptAttempt
  generalize sshClient a.get a.dial w.inst = ssh at hssh ⊢
  obtain ⟨get, dial, sftpOpen, lstat, create, write⟩ := a
  obtain ⟨inst, buildSh⟩ := w
  rcases ssh with ⟨i, e | ⟨⟩⟩
  · rcases hssh rfl with rfl | ⟨m, rfl⟩ <;> simp
  rcases sftpOpen with _ | e
  swap
  · simp
  rcases buildSh with _ | b
  · rcases create with _ | e <;> rcases write with _ | ⟨e, left⟩ <;> simp [lstatErr]
  · rcases lstat with _ | e
    · simp [lstatErr]
    · rcases create with _ | e <;> rcases write with _ | ⟨e, left⟩ <;> simp [lstatErr]

/-- `UploadScript` with the context never cancelled: the `k`-th attempt meets `env k`. -/
def scriptAttempts (script : Bytes) (env : Nat → AttemptEnv) :
    Nat → UploadWorld → Option GoError × UploadWorld :=
  fun k => uploadScriptAttempt script (env k)

theorem exists_created {f : Nat → Option Bytes} (h0 : f 0 = none) :
    ∀ {m : Nat}, (f m).isSome → ∃ k, k < m ∧ f k = none ∧ (f (k + 1)).isSome
  | 0, hm => by simp [h0] at hm
  | m + 1, hm => by
    cases hf : f m with
    | none => exact ⟨m, by omega, hf, hm⟩
    | some _ =>
      obtain ⟨k, hk, hk'⟩ := exists_created h0 (m := m) (by simp [hf])
      exact ⟨k, by omega, hk'⟩

/-- `UploadScript` and the VM's `build.sh`, the context live: `ErrStaleVM` only if the file existed
or an earlier attempt of the call created it; an existing file kept unless some `Lstat` of it
fails; nil only with the file holding exactly the script. -/
theorem uploadScript_buildSh (R : UInt64) (script : Bytes) (env : Nat → AttemptEnv)
    (w₀ : UploadWorld) (fuel : Nat) (r : Option GoError) (calls : Nat) (w : UploadWorld)
    (h : uploadLoop R (scriptAttempts script env) fuel 0 0 w₀ = .sent r calls w) :
    (r = some .staleVM → w₀.buildSh.isSome ∨
      ∃ k, k + 1 < calls ∧ (worldAt (scriptAttempts script env) w₀ k).buildSh = none ∧
        (worldAt (scriptAttempts script env) w₀ (k + 1)).buildSh.isSome) ∧
    (w₀.buildSh.isSome → (∀ k < calls, (env k).lstat = none) → w.buildSh = w₀.buildSh) ∧
    (r = none → w.buildSh = some script) := by
  obtain ⟨hcalls, rfl, rfl, -⟩ := uploadLoop_eq_sent (scriptAttempts script env) w₀ (k := 0) h
  obtain ⟨m, rfl⟩ : ∃ m, calls = m + 1 := ⟨calls - 1, by omega⟩
  simp only [Nat.add_sub_cancel, outcomeAt, worldAt_succ]
  have hattempt := fun k => uploadScriptAttempt_buildSh script (env k)
    (worldAt (scriptAttempts script env) w₀ k)
  refine ⟨fun hs => ?_, fun hsome hl => ?_, fun hn => (hattempt m).2.1 hn⟩
  · have hpresent := ((hattempt m).1 hs).1
    cases h0 : w₀.buildSh with
    | some _ => exact .inl rfl
    | none =>
      obtain ⟨k, hk, hk'⟩ := exists_created
        (f := fun k => (worldAt (scriptAttempts script env) w₀ k).buildSh) h0 hpresent
      exact .inr ⟨k, by omega, hk'⟩
  · have hkeep : ∀ k ≤ m + 1, (worldAt (scriptAttempts script env) w₀ k).buildSh = w₀.buildSh := by
      intro k hk
      induction k with
      | zero => rfl
      | succ k ih =>
        rw [worldAt_succ, ← ih (by omega)]
        by_contra hne
        have hl' := (hattempt k).2.2 hne
        rw [ih (by omega)] at hl'
        obtain ⟨b, hb⟩ := Option.isSome_iff_exists.1 hsome
        simp [lstatErr, hb, hl k (by omega)] at hl'
    exact hkeep (m + 1) le_rfl

/-- A VM as `Instances.Get` returns it once the server has assigned its NAT IP. -/
def reachableVM : Instance :=
  ⟨"testing-gce-1", "", "", "", [], true, [],
    [⟨"default", some [⟨"nat", "ONE_TO_ONE_NAT", "10.0.0.2"⟩]⟩], [], []⟩

/-- An attempt that reaches the VM and opens SFTP, then meets `lstat`, `create` and `write`. -/
def reachingAttempt (lstat create : Option String) (write : Option (String × Bytes)) : AttemptEnv :=
  ⟨.ok reachableVM, fun _ => .ok (), none, lstat, create, write⟩

/- A fresh VM, one attempt that uploads the script. -/
example :
    uploadLoop 1 (scriptAttempts [1] fun _ => reachingAttempt none none none) 1 0 0
      ⟨reachableVM, none⟩ = .sent none 1 ⟨reachableVM, some [1]⟩ := by
  decide

/-- With `UPLOAD_RETRIES=1`: a failed `Write` leaves `build.sh` behind and the retry reports
`ErrStaleVM`; and an `Lstat` failing for another reason lets an attempt rewrite a `build.sh`. -/
theorem uploadScript_buildSh_retry_effects :
    uploadLoop 1 (scriptAttempts [1] fun k =>
        if k = 0 then reachingAttempt none none (some ("broken pipe", [])) else
          reachingAttempt none none none) 2 0 0 ⟨reachableVM, none⟩ =
      .sent (some .staleVM) 2 ⟨reachableVM, some []⟩ ∧
    uploadLoop 1 (scriptAttempts [1] fun _ => reachingAttempt (some "connection reset") none none)
        1 0 0 ⟨reachableVM, some [7]⟩ =
      .sent none 1 ⟨reachableVM, some [1]⟩ := by
  decide

end GceBackend
