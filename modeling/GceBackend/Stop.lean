import GceBackend.Cancel

/-! # `Stop` over the cloud's replies

`StopPollerStep` lets each poll of the delete operation read any reply. Here the replies are
fixed in advance, the `k`-th poll reading `replies k`, so that a theorem can say which reply a
result comes from. `StopSeqStep` is `Stop`'s poller counting its polls; forgetting the count
(`Call.map Prod.fst`) maps each of its runs onto a run of `Stop` (`stopSeq_reachable`).

Over every such run and every interleaving with the context, `Stop` returns `ctx.Err()`, the
error of `Instances.Delete`, or the reading of the first reply that is not a running operation
(`stop_result`): nil only if that reply is `DONE` without an error payload. A running operation
is polled again whatever its error payload says, where `Start`'s pollers fail at once
(`stopPollReply_eq`).
-/

namespace GceBackend

open Relation

/-- A goroutine with its loop state mapped by `f`. -/
def Worker.map {σ τ : Type} (f : σ → τ) : Worker σ → Worker τ
  | .idle => .idle
  | .working w => .working (f w)
  | .sending r => .sending r
  | .exited => .exited

/-- A call with its goroutine's loop state mapped by `f`. -/
def Call.map {σ τ : Type} (f : σ → τ) (c : Call σ) : Call τ := ⟨c.main, c.worker.map f, c.ctx⟩

/-- `Stop`'s poller at its `k`-th poll of operation `op`, reading `replies k`. -/
inductive StopSeqStep (replies : Nat → Except String Operation) :
    Ctx → String × Nat → Worker (String × Nat) → Prop where
  | poll (ctx : Ctx) (op : String) (k : Nat) :
      StopSeqStep replies ctx (op, k) ((stopPollNext op (replies k)).map (·, k + 1))

/-- `stopInit` with no poll made. -/
def stopSeqInit (delete : Except String Operation) : Call (String × Nat) :=
  (stopInit delete).map (·, 0)

/-- The states a run of `Stop` reaches when its polls read `replies`. -/
def StopSeqReachable (replies : Nat → Except String Operation) (delete : Except String Operation)
    (c : Call (String × Nat)) : Prop :=
  ReflTransGen (CallStep (StopSeqStep replies)) (stopSeqInit delete) c

/-! ### The runs are runs of `Stop` -/

section
variable {replies : Nat → Except String Operation}

theorem stopPollNext_map (op : String) (reply : Except String Operation) (k : Nat) :
    ((stopPollNext op reply).map (·, k)).map Prod.fst = stopPollNext op reply := by
  unfold stopPollNext
  split <;> rfl

theorem CallStep.map_stopSeq {c c' : Call (String × Nat)}
    (h : CallStep (StopSeqStep replies) c c') :
    CallStep StopPollerStep (c.map Prod.fst) (c'.map Prod.fst) := by
  obtain ⟨m, wk, ctx⟩ := c
  cases h with
  | step w w' hw hwork =>
    simp only at hw hwork
    subst hw
    cases hwork with
    | poll op k =>
      show CallStep StopPollerStep ⟨m, .working op, ctx⟩ ⟨m, _, ctx⟩
      rw [stopPollNext_map]
      exact .step _ op _ rfl (.poll ctx op (replies k))
  | recv r hm hw =>
    simp only at hm hw
    subst hw
    exact .recv _ r hm rfl
  | ctxDone e hm hctx => exact .ctxDone _ e hm hctx
  | cancel e hctx => exact .cancel _ e hctx

theorem stopSeq_reachable {delete : Except String Operation} {c : Call (String × Nat)}
    (h : StopSeqReachable replies delete c) : StopReachable delete (c.map Prod.fst) := by
  have hinit : (stopSeqInit delete).map Prod.fst = stopInit delete := by cases delete <;> rfl
  rw [StopReachable, ← hinit]
  exact h.lift _ fun _ _ => CallStep.map_stopSeq

end

/-! ### What `Stop` returns -/

section
variable (replies : Nat → Except String Operation)

/-- The replies before the `k`-th all report a running operation. -/
def RunningUpTo (k : Nat) : Prop := ∀ j < k, stopPollReply (replies j) = .pending

/-- The value a reply that ends the polling makes the poller send. -/
def Ends (reply : Except String Operation) (v : Option GoError) : Prop :=
  (stopPollReply reply = .done ∧ v = none) ∨ ∃ e, stopPollReply reply = .fail e ∧ v = some e

/-- The poller has read running operations only, or offers the reading of the first reply that
is not one; `Stop` returns that, `ctx.Err()`, or the `Delete` error. -/
def StopSeqInv (delete : Except String Operation) (c : Call (String × Nat)) : Prop :=
  (match c.worker with
   | .working (_, k) => RunningUpTo replies k
   | .sending v => ∃ k, RunningUpTo replies k ∧ Ends (replies k) v
   | _ => True) ∧
  ∀ r, c.main = .returned r → (∃ e, c.ctx = .done e ∧ r = some (.ctx e)) ∨
    (∃ e, delete = .error e ∧ r = some (.remote e)) ∨ ∃ k, RunningUpTo replies k ∧ Ends (replies k) r

theorem stopSeqInv_init (delete : Except String Operation) :
    StopSeqInv replies delete (stopSeqInit delete) := by
  cases delete with
  | error e => exact ⟨trivial, fun r hr => .inr (.inl ⟨e, rfl, (CallMain.returned.inj hr).symm⟩)⟩
  | ok op => exact ⟨fun _ h => absurd h (Nat.not_lt_zero _), nofun⟩

variable {replies}

theorem RunningUpTo.poll {op : String} {k : Nat} (h : RunningUpTo replies k) :
    match (stopPollNext op (replies k)).map (·, k + 1) with
    | .working (_, k') => RunningUpTo replies k'
    | .sending v => ∃ k, RunningUpTo replies k ∧ Ends (replies k) v
    | _ => True := by
  unfold stopPollNext
  cases hr : stopPollReply (replies k) with
  | fail e => exact ⟨k, h, .inr ⟨e, hr, rfl⟩⟩
  | done => exact ⟨k, h, .inl ⟨hr, rfl⟩⟩
  | pending =>
    intro j hj
    rcases Nat.lt_succ_iff_lt_or_eq.1 hj with hj | rfl
    · exact h j hj
    · exact hr

theorem StopSeqInv.step {delete : Except String Operation} {c c' : Call (String × Nat)}
    (h : StopSeqInv replies delete c) (hs : CallStep (StopSeqStep replies) c c') :
    StopSeqInv replies delete c' := by
  obtain ⟨hworker, hmain⟩ := h
  obtain ⟨m, wk, ctx⟩ := c
  cases hs with
  | step w w' hw hwork =>
    simp only at hw hwork hworker hmain
    subst hw
    cases hwork with
    | poll op k => exact ⟨hworker.poll, hmain⟩
  | recv r _ hw =>
    simp only at hw hworker
    subst hw
    exact ⟨trivial, fun r' hr => .inr (.inr ((CallMain.returned.inj hr) ▸ hworker))⟩
  | ctxDone e _ hctx =>
    exact ⟨hworker, fun r hr => .inl ⟨e, hctx, (CallMain.returned.inj hr).symm⟩⟩
  | cancel e hctx =>
    refine ⟨hworker, fun r hr => .inr ((hmain r hr).resolve_left ?_)⟩
    rintro ⟨e', he', -⟩
    simp only at hctx
    rw [hctx] at he'
    cases he'

end

/-! ### Reading the replies -/

section
variable {reply : Except String Operation}

theorem stopPollReply_pending (h : stopPollReply reply = .pending) :
    ∃ o, reply = .ok o ∧ o.status ≠ "DONE" := by
  rcases reply with m | ⟨name, status, _ | err⟩
  · cases h
  all_goals by_cases hs : status = "DONE" <;> simp_all [stopPollReply]

theorem stopPollReply_done (h : stopPollReply reply = .done) :
    ∃ o, reply = .ok o ∧ o.Succeeded := by
  rcases reply with m | ⟨name, status, _ | err⟩
  · cases h
  all_goals by_cases hs : status = "DONE" <;> simp_all [stopPollReply, Operation.Succeeded]

theorem stopPollReply_fail {e : GoError} (h : stopPollReply reply = .fail e) :
    (∃ m, reply = .error m ∧ e = .remote m) ∨
      ∃ o err, reply = .ok o ∧ o.status = "DONE" ∧ o.error = some err ∧ e = .opError ⟨err⟩ := by
  rcases reply with m | ⟨name, status, _ | err⟩
  · cases h
    exact .inl ⟨m, rfl, rfl⟩
  all_goals by_cases hs : status = "DONE" <;> simp_all [stopPollReply]

end

/-- What `Stop` may return: `ctx.Err()`, the `Delete` error, or the reading of the first reply that
is not a running operation (whatever the earlier ones' error payloads): nil for `DONE` without a
payload, the transport error, or the operation error of `DONE` with one. -/
def StopOutcome (replies : Nat → Except String Operation) (delete : Except String Operation)
    (ctx : Ctx) (r : Option GoError) : Prop :=
  (∃ e, ctx = .done e ∧ r = some (.ctx e)) ∨ (∃ e, delete = .error e ∧ r = some (.remote e)) ∨
  ∃ k, (∀ j < k, ∃ o, replies j = .ok o ∧ o.status ≠ "DONE") ∧
    ((∃ o, replies k = .ok o ∧ o.Succeeded ∧ r = none) ∨
     (∃ m, replies k = .error m ∧ r = some (.remote m)) ∨
     ∃ o err, replies k = .ok o ∧ o.status = "DONE" ∧ o.error = some err ∧
       r = some (.opError ⟨err⟩))

/-- Every return of `Stop`, over every run and interleaving with the context, is a `StopOutcome`:
nil only after a poll saw the delete operation `DONE` without an error payload. -/
theorem stop_result (replies : Nat → Except String Operation) (delete : Except String Operation)
    (c : Call (String × Nat)) (r : Option GoError) (hc : StopSeqReachable replies delete c)
    (hm : c.main = .returned r) : StopOutcome replies delete c.ctx r := by
  have hinv : StopSeqInv replies delete c := by
    clear hm
    induction hc with
    | refl => exact stopSeqInv_init replies delete
    | tail _ hs ih => exact ih.step hs
  rcases hinv.2 r hm with hctx | hdel | ⟨k, hrun, hend⟩
  · exact .inl hctx
  · exact .inr (.inl hdel)
  refine .inr (.inr ⟨k, fun j hj => stopPollReply_pending (hrun j hj), ?_⟩)
  rcases hend with ⟨hd, rfl⟩ | ⟨e, hf, rfl⟩
  · obtain ⟨o, ho, hs⟩ := stopPollReply_done hd
    exact .inl ⟨o, ho, hs, rfl⟩
  · rcases stopPollReply_fail hf with ⟨m, hmsg, rfl⟩ | ⟨o, err, ho, hs, he, rfl⟩
    · exact .inr (.inl ⟨m, hmsg, rfl⟩)
    · exact .inr (.inr ⟨o, err, ho, hs, he, rfl⟩)

/-- The delete operation runs with a quota payload at the first poll, and is `DONE` next. -/
def payloadReplies (k : Nat) : Except String Operation :=
  if k = 0 then .ok ⟨"op-3", "RUNNING", some quotaExceeded⟩ else .ok (doneOp "op-3")

theorem stop_result_payload_skipped :
    StopOutcome payloadReplies (.ok (runningOp "op-3")) .live none :=
  stop_result payloadReplies _ ⟨.returned none, .exited, .live⟩ none
    (.tail (.tail (.tail .refl (.step _ _ _ rfl (.poll .live "op-3" 0)))
      (.step _ _ _ rfl (.poll .live "op-3" 1))) (.recv _ none rfl rfl)) rfl

end GceBackend
