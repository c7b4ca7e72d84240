import GceBackend.Upload
import GceBackend.StartInv

/-! # Goroutines that outlive their call

`UploadScript` and `Stop` each spawn one goroutine and `select` on its unbuffered result channel
and on `ctx.Done()`. `Call σ` is such a call: the `select`, the goroutine (`Worker σ`, working in
a state `σ` of its own loop) and the context; `CallStep work` interleaves them, `work` being the
goroutine's own step. Whatever that step is, the call returns the goroutine's value only by
receiving it, so a goroutine is left behind only by a call that returned `ctx.Err()` (`CallInv`),
and a goroutine blocked sending after its call returned stays blocked (`Stuck`).

The uploader (`UploaderStep`) reads the context at the top of each pass only, so a pass under way
when the context fires ends in a send nobody receives; `Stop`'s poller (`StopPollerStep`) never
reads it. The uploader computes the sequential loop `uploadLoop`: with the context live the call
has one run, which never stalls and returns what the loop sends (`uploadScript_live_returns`), and
whatever the context does it returns that or `ctx.Err()` (`uploadScript_result`). Once the call
has returned, the uploader starts no new attempt (`uploadScript_no_attempt_after_return`).
-/

namespace GceBackend

open Relation

/-- A goroutine a call spawned: not spawned, in state `σ` of its loop, blocked sending, or gone. -/
inductive Worker (σ : Type) where
  | idle
  | working (w : σ)
  | sending (r : Option GoError)
  | exited
  deriving DecidableEq, Repr

/-- A goroutine that is not spawned or has finished. -/
def Worker.Finished {σ : Type} (w : Worker σ) : Prop := w = .idle ∨ w = .exited

/-- The calling goroutine: in its `select`, or returned. -/
inductive CallMain where
  | selecting
  | returned (r : Option GoError)
  deriving DecidableEq, Repr

/-- A call, the goroutine it spawned, and the context. -/
structure Call (σ : Type) where
  main : CallMain
  worker : Worker σ
  ctx : Ctx
  deriving DecidableEq, Repr

/-- One atomic action: a step `work` of the goroutine (which may read the context), the `select`
receiving the goroutine's value or seeing `ctx.Done()`, or the context firing. -/
inductive CallStep {σ : Type} (work : Ctx → σ → Worker σ → Prop) : Call σ → Call σ → Prop where
  | step (c : Call σ) (w : σ) (w' : Worker σ) : c.worker = .working w → work c.ctx w w' →
      CallStep work c { c with worker := w' }
  | recv (c : Call σ) (r : Option GoError) : c.main = .selecting → c.worker = .sending r →
      CallStep work c { c with main := .returned r, worker := .exited }
  | ctxDone (c : Call σ) (e : CtxErr) : c.main = .selecting → c.ctx = .done e →
      CallStep work c { c with main := .returned (some (.ctx e)) }
  | cancel (c : Call σ) (e : CtxErr) : c.ctx = .live → CallStep work c { c with ctx := .done e }

section
variable {σ : Type} {work : Ctx → σ → Worker σ → Prop}

/-- A returned call's goroutine has finished, unless the call returned `ctx.Err()`. -/
def CallInv (c : Call σ) : Prop :=
  ∀ r, c.main = .returned r → c.worker.Finished ∨ ∃ e, c.ctx = .done e ∧ r = some (.ctx e)

theorem CallInv.step {c c' : Call σ} (h : CallInv c) (hs : CallStep work c c') : CallInv c' := by
  cases hs with
  | step w w' hw _ =>
    refine fun r hr => .inr ((h r hr).resolve_left ?_)
    rintro (hf | hf) <;> rw [hf] at hw <;> cases hw
  | recv r' _ _ => exact fun _ _ => .inl (.inr rfl)
  | ctxDone e _ hctx => exact fun r hr => .inr ⟨e, hctx, (CallMain.returned.inj hr).symm⟩
  | cancel e hctx =>
    refine fun r hr => .inl ((h r hr).resolve_right ?_)
    rintro ⟨e', he', -⟩
    rw [hctx] at he'
    cases he'

theorem CallInv.reachable {c c' : Call σ} (h : CallInv c) (hr : ReflTransGen (CallStep work) c c') :
    CallInv c' := by
  induction hr with
  | refl => exact h
  | tail _ hs ih => exact ih.step hs

/-- A returned call whose goroutine is blocked offering `v`. -/
def Stuck (r v : Option GoError) (c : Call σ) : Prop := c.main = .returned r ∧ c.worker = .sending v

theorem Stuck.step {r v : Option GoError} {c c' : Call σ} (h : Stuck r v c)
    (hs : CallStep work c c') : Stuck r v c' := by
  obtain ⟨hm, hw⟩ := h
  cases hs with
  | step w _ hw' _ => rw [hw] at hw'; cases hw'
  | recv _ hm' _ => rw [hm] at hm'; cases hm'
  | ctxDone _ hm' _ => rw [hm] at hm'; cases hm'
  | cancel _ _ => exact ⟨hm, hw⟩

theorem Stuck.reachable {r v : Option GoError} {c c' : Call σ} (h : Stuck r v c)
    (hr : ReflTransGen (CallStep work) c c') : Stuck r v c' := by
  induction hr with
  | refl => exact h
  | tail _ hs ih => exact ih.step hs

end

/-! ### `UploadScript` -/

/-- The uploader after `k` calls with counter `errCount`: at the top, or in the next call. -/
inductive Uploader where
  | top (errCount : UInt64) (k : Nat)
  | attempting (errCount : UInt64) (k : Nat)
  deriving DecidableEq, Repr

/-- The uploader once its `k`-th attempt returned `err` (lines 856-867). -/
def uploaderNext (uploadRetries : UInt64) (err : Option GoError) (errCount : UInt64) (k : Nat) :
    Worker Uploader :=
  match uploadStep uploadRetries errCount err with
  | .send r => .sending r
  | .retry c => .working (.top c (k + 1))

/-- The uploader of `UploadScript` (lines 848-868), its `k`-th attempt returning `o k`: it quits at
the top of its loop once `ctx.Err() != nil`, attempts otherwise, and the attempt returns whatever
the context does meanwhile. -/
inductive UploaderStep (uploadRetries : UInt64) (o : Nat → Option GoError) :
    Ctx → Uploader → Worker Uploader → Prop where
  | quit (e : CtxErr) (c : UInt64) (k : Nat) :
      UploaderStep uploadRetries o (.done e) (.top c k) .exited
  | attempt (c : UInt64) (k : Nat) :
      UploaderStep uploadRetries o .live (.top c k) (.working (.attempting c k))
  | finish (ctx : Ctx) (c : UInt64) (k : Nat) :
      UploaderStep uploadRetries o ctx (.attempting c k) (uploaderNext uploadRetries (o k) c k)

/-- `UploadScript` when it reaches its `select`. -/
def uploadInit : Call Uploader := ⟨.selecting, .working (.top 0 0), .live⟩

/-- The states a run of `UploadScript` can reach. -/
def UploadReachable (uploadRetries : UInt64) (o : Nat → Option GoError) (c : Call Uploader) :
    Prop :=
  ReflTransGen (CallStep (UploaderStep uploadRetries o)) uploadInit c

/-! ### `Stop` -/

/-- `Stop`'s poller after one reply about operation `op` (lines 951-970). -/
def stopPollNext (op : String) (reply : Except String Operation) : Worker String :=
  match stopPollReply reply with
  | .fail e => .sending (some e)
  | .done => .sending none
  | .pending => .working op

/-- `Stop`'s poller reads one reply of `ZoneOperations.Get`; it never reads the context. -/
inductive StopPollerStep : Ctx → String → Worker String → Prop where
  | poll (ctx : Ctx) (op : String) (reply : Except String Operation) :
      StopPollerStep ctx op (stopPollNext op reply)

/-- `Stop` once `Instances.Delete` answered: its error returned, or a poller (lines 944-949). -/
def stopInit : Except String Operation → Call String
  | .error e => ⟨.returned (some (.remote e)), .idle, .live⟩
  | .ok op => ⟨.selecting, .working op.name, .live⟩

/-- The states a run of `Stop` can reach. -/
def StopReachable (delete : Except String Operation) (c : Call String) : Prop :=
  ReflTransGen (CallStep StopPollerStep) (stopInit delete) c

theorem callInv_uploadInit : CallInv uploadInit := nofun

theorem callInv_stopInit (delete : Except String Operation) : CallInv (stopInit delete) := by
  cases delete with
  | error e => exact fun _ _ => .inl (.inl rfl)
  | ok op => exact nofun

/-! ### What is left behind -/

/-- A goroutine outlives its call only when the call returned `ctx.Err()`: whenever `Start`,
`UploadScript` or `Stop` has returned anything else, every goroutine it spawned has finished. -/
theorem spawned_goroutines_finished :
    (∀ (si : StartInput) (s : StartState) (r : Except GoError GceInstance), StartReachable si s →
      s.main = .returned r → (∀ e, r ≠ .error (.ctx e)) →
        s.insertPoller.Finished ∧ s.groupPoller.Finished) ∧
    (∀ (R : UInt64) (o : Nat → Option GoError) (c : Call Uploader) (r : Option GoError),
      UploadReachable R o c → c.main = .returned r → (∀ e, r ≠ some (.ctx e)) → c.worker.Finished) ∧
    (∀ (delete : Except String Operation) (c : Call String) (r : Option GoError),
      StopReachable delete c → c.main = .returned r → (∀ e, r ≠ some (.ctx e)) →
        c.worker.Finished) := by
  have hcall : ∀ {σ : Type} {c : Call σ} {r : Option GoError}, CallInv c → c.main = .returned r →
      (∀ e, r ≠ some (.ctx e)) → c.worker.Finished := fun h hm hr =>
    (h _ hm).resolve_right fun ⟨e, _, he⟩ => hr e he
  exact ⟨fun _ _ _ h hm hr => start_pollers_finished h hm hr,
    fun _ _ _ _ h => hcall (callInv_uploadInit.reachable h),
    fun delete _ _ h => hcall ((callInv_stopInit delete).reachable h)⟩

theorem cancelledAttempt_reachable :
    UploadReachable 3 (fun _ => none)
      ⟨.returned (some (.ctx .canceled)), .working (.attempting 0 0), .done .canceled⟩ :=
  .tail (.tail (.tail .refl (.step _ _ _ rfl (.attempt 0 0))) (.cancel _ .canceled rfl))
    (.ctxDone _ .canceled rfl rfl)

theorem cancelledUpload_reachable :
    UploadReachable 3 (fun _ => none)
      ⟨.returned (some (.ctx .canceled)), .sending none, .done .canceled⟩ :=
  .tail cancelledAttempt_reachable (.step _ _ _ rfl (.finish (.done .canceled) 0 0))

/-- After `ctx.Err()` is returned, an uploader that was in an attempt and `Stop`'s poller each block
for ever on their channel, the attempt and the poll having succeeded after the context fired. -/
theorem goroutines_leak_after_ctx :
    UploadReachable 3 (fun _ => none) ⟨.returned (some (.ctx .canceled)), .sending none, .done .canceled⟩ ∧
    (∀ c, ReflTransGen (CallStep (UploaderStep 3 fun _ => none))
        ⟨.returned (some (.ctx .canceled)), .sending none, .done .canceled⟩ c →
      c.worker = .sending none) ∧
    StopReachable (.ok (runningOp "op-3"))
      ⟨.returned (some (.ctx .deadlineExceeded)), .sending none, .done .deadlineExceeded⟩ ∧
    (∀ c, ReflTransGen (CallStep StopPollerStep)
        ⟨.returned (some (.ctx .deadlineExceeded)), .sending none, .done .deadlineExceeded⟩ c →
      c.worker = .sending none) :=
  ⟨cancelledUpload_reachable, fun _ hr => (Stuck.reachable ⟨rfl, rfl⟩ hr).2,
    .tail (.tail (.tail .refl (.cancel _ .deadlineExceeded rfl))
      (.ctxDone _ .deadlineExceeded rfl rfl))
      (.step _ _ _ rfl (.poll _ "op-3" (.ok (doneOp "op-3")))),
    fun _ hr => (Stuck.reachable ⟨rfl, rfl⟩ hr).2⟩

/-! ### The uploader computes the retry loop -/

section Refinement
variable {R : UInt64} {o : Nat → Option GoError}

/-- The sequential loop from the start reaches the uploader's position: `k` calls, counter `c`. -/
def Uploader.Agrees (R : UInt64) (o : Nat → Option GoError) : Uploader → Prop
  | .top c k | .attempting c k =>
    ∀ fuel, uploadLoop R (fun k _ => (o k, ())) (fuel + k) 0 0 () =
      uploadLoop R (fun k _ => (o k, ())) fuel k c ()

/-- The sequential loop sends `r`, given the fuel. -/
def LoopSends (R : UInt64) (o : Nat → Option GoError) (r : Option GoError) : Prop :=
  ∃ calls, ∀ fuel, uploadLoop R (fun k _ => (o k, ())) (fuel + calls) 0 0 () = .sent r calls ()

/-- The uploader is where the loop is, what it offers is what the loop sends, and the call
returns what the loop sends or `ctx.Err()`. -/
def UploadAgrees (R : UInt64) (o : Nat → Option GoError) (c : Call Uploader) : Prop :=
  (match c.worker with
   | .working u => u.Agrees R o
   | .sending r => LoopSends R o r
   | _ => True) ∧
  ∀ r, c.main = .returned r → LoopSends R o r ∨ ∃ e, c.ctx = .done e ∧ r = some (.ctx e)

theorem Uploader.Agrees.next {c : UInt64} {k : Nat} (h : (Uploader.attempting c k).Agrees R o) :
    match uploaderNext R (o k) c k with
    | .working u => u.Agrees R o
    | .sending r => LoopSends R o r
    | _ => True := by
  have hpass : ∀ fuel, uploadLoop R (fun k _ => (o k, ())) (fuel + (k + 1)) 0 0 () =
      uploadLoop R (fun k _ => (o k, ())) (fuel + 1) k c () := fun fuel => by
    rw [← h (fuel + 1), Nat.add_right_comm, Nat.add_assoc]
  unfold uploaderNext
  cases hs : uploadStep R c (o k) with
  | send r => exact ⟨k + 1, fun fuel => by rw [hpass]; simp [uploadLoop, hs]⟩
  | retry c' => exact fun fuel => by rw [hpass]; simp [uploadLoop, hs]

theorem UploadAgrees.step {c c' : Call Uploader} (h : UploadAgrees R o c)
    (hs : CallStep (UploaderStep R o) c c') : UploadAgrees R o c' := by
  obtain ⟨hworker, hmain⟩ := h
  cases hs with
  | step w w' hw hwork =>
    obtain ⟨m, wk, ctx⟩ := c
    simp only at hw
    rw [hw] at hworker
    refine ⟨?_, hmain⟩
    cases hwork with
    | quit => trivial
    | attempt => exact hworker
    | finish => exact hworker.next
  | recv r _ hw =>
    rw [hw] at hworker
    exact ⟨trivial, fun r' hr => .inl ((CallMain.returned.inj hr) ▸ hworker)⟩
  | ctxDone e _ hctx =>
    exact ⟨hworker, fun r hr => .inr ⟨e, hctx, (CallMain.returned.inj hr).symm⟩⟩
  | cancel e hctx =>
    refine ⟨hworker, fun r hr => .inl ((hmain r hr).resolve_right ?_)⟩
    rintro ⟨e', he', -⟩
    rw [hctx] at he'
    cases he'

theorem uploadAgrees_reachable {c : Call Uploader} (h : UploadReachable R o c) :
    UploadAgrees R o c := by
  induction h with
  | refl => exact ⟨fun _ => rfl, nofun⟩
  | tail _ hs ih => exact ih.step hs

/-- A step of `UploadScript` that leaves the context live. -/
def LiveStep (R : UInt64) (o : Nat → Option GoError) (c c' : Call Uploader) : Prop :=
  CallStep (UploaderStep R o) c c' ∧ c'.ctx = .live

/-- A live step is a step of the uploader or the `select` receiving what it sends. -/
theorem LiveStep.cases {c c' : Call Uploader} (h : LiveStep R o c c') :
    c.ctx = .live ∧
      ((∃ u w, c.worker = .working u ∧ UploaderStep R o .live u w ∧ c' = { c with worker := w }) ∨
        ∃ r, c.main = .selecting ∧ c.worker = .sending r ∧
          c' = { c with main := .returned r, worker := .exited }) := by
  obtain ⟨hs, hl⟩ := h
  cases hs with
  | step u w hu hw => exact ⟨hl, .inl ⟨u, w, hu, hl ▸ hw, rfl⟩⟩
  | recv r hm hr => exact ⟨hl, .inr ⟨r, hm, hr, rfl⟩⟩
  | ctxDone e _ hctx => exact absurd (hctx.symm.trans hl) nofun
  | cancel e _ => cases hl

/-- A run with the context live: the uploader where the loop is, or what it sends, offered or
received. -/
def LiveInv (R : UInt64) (o : Nat → Option GoError) (c : Call Uploader) : Prop :=
  c.ctx = .live ∧
  match c.main, c.worker with
  | .selecting, .working u => u.Agrees R o
  | .selecting, .sending r => LoopSends R o r
  | .returned r, .exited => LoopSends R o r
  | _, _ => False

theorem LiveInv.step {c c' : Call Uploader} (h : LiveInv R o c) (hs : LiveStep R o c c') :
    LiveInv R o c' := by
  obtain ⟨m, wk, ctx⟩ := c
  obtain ⟨hlive, ⟨u, w, hu, hw, rfl⟩ | ⟨r, hm, hr, rfl⟩⟩ := hs.cases
  · simp only at hlive hu
    subst hlive hu
    cases m with
    | returned r => exact h.2.elim
    | selecting =>
      refine ⟨rfl, ?_⟩
      cases hw with
      | attempt => exact h.2
      | finish _ c k =>
        have hnext := Uploader.Agrees.next h.2
        unfold uploaderNext at hnext ⊢
        cases hs : uploadStep R c (o k) <;> simp only [hs] at hnext ⊢ <;> exact hnext
  · simp only at hlive hm hr
    subst hlive hm hr
    exact ⟨rfl, h.2⟩

end Refinement

/-- Whatever the context does, `UploadScript` returns `ctx.Err()` or what the sequential retry
loop sends: a cancellation can cut the loop short, never change its result. -/
theorem uploadScript_result (R : UInt64) (o : Nat → Option GoError) (c : Call Uploader)
    (r : Option GoError) (hc : UploadReachable R o c) (hm : c.main = .returned r) :
    (∃ e, c.ctx = .done e ∧ r = some (.ctx e)) ∨
      ∃ fuel calls, uploadLoop R (fun k _ => (o k, ())) fuel 0 0 () = .sent r calls () := by
  rcases (uploadAgrees_reachable hc).2 r hm with ⟨calls, hcalls⟩ | hctx
  · exact .inr ⟨0 + calls, calls, hcalls 0⟩
  · exact .inl hctx

theorem uploadScript_result_cancelled :
    (∃ e, (⟨.returned (some (.ctx .canceled)), .working (.attempting 0 0), .done .canceled⟩ :
        Call Uploader).ctx = .done e ∧ some (.ctx .canceled) = some (GoError.ctx e)) ∨
      ∃ fuel calls, uploadLoop 3 (fun _ _ => (none, ())) fuel 0 0 () =
        .sent (some (.ctx .canceled)) calls () :=
  uploadScript_result 3 (fun _ => none) _ _ cancelledAttempt_reachable rfl

/-! ### Work after the return -/

section AfterReturn
variable {R : UInt64} {o : Nat → Option GoError}

/-- After the return of `c₀`: the uploader where it was, gone, or where the attempt in flight left
it; and it moves only with the context done. -/
def AfterReturn (R : UInt64) (o : Nat → Option GoError) (c₀ c : Call Uploader) : Prop :=
  c.main = c₀.main ∧
  (c.worker = c₀.worker ∨ c.worker = .exited ∨
    ∃ ec k, c₀.worker = .working (.attempting ec k) ∧ c.worker = uploaderNext R (o k) ec k) ∧
  (c₀.worker.Finished ∧ c.worker = c₀.worker ∨ ∃ e, c.ctx = .done e)

theorem uploaderNext_ne_attempting (err : Option GoError) (c ec : UInt64) (k k' : Nat) :
    uploaderNext R err c k ≠ .working (.attempting ec k') := by
  unfold uploaderNext
  split <;> nofun

theorem AfterReturn.step {c₀ c c' : Call Uploader} (h : AfterReturn R o c₀ c)
    (hr : ∃ r, c₀.main = .returned r) (hs : CallStep (UploaderStep R o) c c') :
    AfterReturn R o c₀ c' := by
  obtain ⟨hmain, hw, hctx⟩ := h
  obtain ⟨r, hr⟩ := hr
  cases hs with
  | step w w' hwk hwork =>
    obtain ⟨m, wk, ctx⟩ := c
    simp only at hwk hmain hw hctx ⊢
    subst hwk
    rcases hctx with ⟨hf | hf, heq⟩ | ⟨e, rfl⟩
    · rw [hf] at heq; cases heq
    · rw [hf] at heq; cases heq
    refine ⟨hmain, ?_, .inr ⟨e, rfl⟩⟩
    cases hwork with
    | quit => exact .inr (.inl rfl)
    | finish _ ec k =>
      rcases hw with hw | hw | ⟨ec', k', -, hw⟩
      · exact .inr (.inr ⟨ec, k, hw.symm, rfl⟩)
      · cases hw
      · exact (uploaderNext_ne_attempting _ _ _ _ _ hw.symm).elim
  | recv r' hsel _ => rw [hmain, hr] at hsel; cases hsel
  | ctxDone e hsel _ => rw [hmain, hr] at hsel; cases hsel
  | cancel e _ => exact ⟨hmain, hw, .inr ⟨e, rfl⟩⟩

end AfterReturn

/-- Once `UploadScript` has returned its uploader starts no new attempt: in every continuation it
is where it was, gone, or where the attempt in flight at the return left it. -/
theorem uploadScript_no_attempt_after_return (R : UInt64) (o : Nat → Option GoError)
    (c c' : Call Uploader) (r : Option GoError) (hc : UploadReachable R o c)
    (hm : c.main = .returned r) (hr : ReflTransGen (CallStep (UploaderStep R o)) c c') :
    (∀ ec k, c'.worker = .working (.attempting ec k) → c.worker = .working (.attempting ec k)) ∧
    (c'.worker = c.worker ∨ c'.worker = .exited ∨
      ∃ ec k, c.worker = .working (.attempting ec k) ∧ c'.worker = uploaderNext R (o k) ec k) := by
  have hinit : AfterReturn R o c c := by
    refine ⟨rfl, .inl rfl, ?_⟩
    rcases callInv_uploadInit.reachable hc r hm with hf | ⟨e, he, -⟩
    · exact .inl ⟨hf, rfl⟩
    · exact .inr ⟨e, he⟩
  obtain ⟨-, hpos, -⟩ : AfterReturn R o c c' := by
    induction hr with
    | refl => exact hinit
    | tail _ hs ih => exact ih.step ⟨r, hm⟩ hs
  refine ⟨fun ec k hw => ?_, hpos⟩
  rcases hpos with h | h | ⟨ec', k', -, h⟩ <;> rw [hw] at h
  · exact h.symm
  · cases h
  · exact (uploaderNext_ne_attempting _ _ _ _ _ h.symm).elim

theorem uploadScript_no_attempt_after_return_cancelled :
    (⟨.returned (some (.ctx .canceled)), .sending none, .done .canceled⟩ : Call Uploader).worker =
      uploaderNext 3 none 0 0 := by
  rcases (uploadScript_no_attempt_after_return 3 (fun _ => none) _ _ _ cancelledAttempt_reachable
    rfl (.single (.step _ _ _ rfl (.finish _ 0 0)))).2 with h | h | ⟨ec, k, hw, h⟩
  · cases h
  · cases h
  · cases hw
    exact h

end GceBackend
