import GceBackend.Start

/-! # What every run of `Start` keeps

`StartInv si s` has one structure per position of the main goroutine. While `Start` waits (in
the loop or the final `select`) the poller it listens to is polling the operation it started, or
blocked offering what the code sends: the built instance after a poll saw the operation `DONE`
without error, or a non-context error. Past the wait loop the insert poller is gone. On the group
path the final `select` listens to the group poller only, which polls the `AddInstances`
operation and offers the refreshed instance. No `Instances.Delete` is issued before `Start`
returns, and the deferred one runs exactly when `abandonedStart` is set. Every exit sets it
except the returns of two cloud calls' own errors (`refusals`): `Insert`, when nothing was
inserted, and the refresh of line 528, which leaves the inserted instance behind
(`start_refresh_error_leaks`). A refusal in the log is always what `Start` returned
(`RefusalInv`).

The history is kept in the ghost log as ordered sublists (`insertTrace`, `joinTrace`), so the
theorems read as "these calls happened, in this order, with these replies". The one place where
`Start` waits on the context alone is the group path's wait loop facing an insert poller that
offers an error (`ErrorUnheard`, `start_progress`).
-/

namespace GceBackend

open StartState List

/-- A zone operation observed finished without error. -/
def Operation.Succeeded (o : Operation) : Prop := o.status = "DONE" ∧ o.error = none

theorem startPollReply_done {reply : Except String Operation} (h : startPollReply reply = .done) :
    ∃ o, reply = .ok o ∧ o.Succeeded := by
  unfold startPollReply at h
  split at h
  · cases h
  · rename_i o
    split at h
    · split at h
      · cases h
      · exact ⟨o, rfl, ‹_›, ‹_›⟩
    · split at h <;> cases h

/-- The instance an event deletes, if it is an `Instances.Delete`. -/
def Event.deleted : Event → Option String
  | .instancesDelete name => some name
  | _ => none

/-- The names `Instances.Delete` was called with, in order. -/
def deletes (E : List Event) : List String := E.filterMap Event.deleted

@[simp] theorem deletes_nil : deletes [] = [] := rfl

@[simp] theorem deletes_append (E F : List Event) : deletes (E ++ F) = deletes E ++ deletes F :=
  List.filterMap_append E F _

@[simp] theorem deletes_cons (e : Event) (E : List Event) :
    deletes (e :: E) = e.deleted.toList ++ deletes E := by
  cases e <;> rfl

/-- The error of a refused `Instances.Insert` or `Instances.Get`. -/
def Event.refusal : Event → Option String
  | .instancesInsert _ (.error m) => some m
  | .instancesGet _ (.error m) => some m
  | _ => none

/-- The errors `Instances.Insert` and `Instances.Get` were answered with, in order. -/
def refusals (E : List Event) : List String := E.filterMap Event.refusal

@[simp] theorem refusals_nil : refusals [] = [] := rfl

@[simp] theorem refusals_append (E F : List Event) :
    refusals (E ++ F) = refusals E ++ refusals F :=
  List.filterMap_append E F _

@[simp] theorem refusals_cons (e : Event) (E : List Event) :
    refusals (e :: E) = e.refusal.toList ++ refusals E := by
  simp only [refusals, filterMap_cons]
  cases e.refusal <;> rfl

section
variable (si : StartInput)

/-- The successful insert of `si.inst` with operation `op`, then a poll of `op` answering `o`. -/
def insertTrace (op o : Operation) : List Event :=
  [.instancesInsert si.inst.name (.ok op), .zoneOperationsGet op.name (.ok o)]

/-- The refresh answering `r`, then `AddInstances` with `r`'s self link answering `aop`. -/
def joinTrace (r : Instance) (aop : Operation) : List Event :=
  [.instancesGet si.inst.name (.ok r), .addInstances si.instanceGroup r.selfLink (.ok aop)]

/-- The insert operation was seen done without error. -/
def InsertDone (E : List Event) : Prop :=
  ∃ op o, o.Succeeded ∧ insertTrace si op o <+ E

/-- After the insert succeeded, the refresh answered `r`. -/
def Refreshed (E : List Event) (r : Instance) : Prop :=
  ∃ op o, o.Succeeded ∧ insertTrace si op o ++ [.instancesGet si.inst.name (.ok r)] <+ E

/-- The whole group join: the insert and the `AddInstances` operation were both seen done
without error, `AddInstances` naming the refreshed `r`. -/
def Joined (E : List Event) (r : Instance) : Prop :=
  ∃ op o aop o', o.Succeeded ∧ o'.Succeeded ∧
    insertTrace si op o ++ joinTrace si r aop ++ [.zoneOperationsGet aop.name (.ok o')] <+ E

/-- A poller that is not spawned or has finished. -/
def Poller.Finished (q : Poller) : Prop := q = .idle ∨ q = .exited

/-- The insert poller while `Start` listens to it. -/
def InsertPollerInv (s : StartState) : Prop :=
  ∃ op, [.instancesInsert si.inst.name (.ok op)] <+ s.events ∧
    (s.insertPoller = .polling op.name ∨
     (s.insertPoller = .sending .instanceReady (.inst si.inst) ∧
        ∃ o, o.Succeeded ∧ insertTrace si op o <+ s.events) ∨
     ∃ e, s.insertPoller = .sending .errChan (.err e) ∧ ∀ c, e ≠ .ctx c)

/-- The group poller while the final `select` listens to it. -/
def GroupPollerInv (s : StartState) : Prop :=
  ∃ op o aop, o.Succeeded ∧ insertTrace si op o ++ joinTrace si s.inst aop <+ s.events ∧
    (s.groupPoller = .polling aop.name ∨
     (s.groupPoller = .sending .groupInstChan (.inst s.inst) ∧
        ∃ o', o'.Succeeded ∧
          insertTrace si op o ++ joinTrace si s.inst aop ++ [.zoneOperationsGet aop.name (.ok o')]
            <+ s.events) ∨
     ∃ e, s.groupPoller = .sending .errChan (.err e) ∧ ∀ c, e ≠ .ctx c)

/-- At `Instances.Insert`: nothing called, no poller, the instance as built. -/
structure InsertingInv (s : StartState) : Prop where
  events : s.events = []
  insertPoller : s.insertPoller = .idle
  groupPoller : s.groupPoller = .idle
  notAbandoned : s.abandonedStart = false
  inst : s.inst = si.inst

/-- On the group path between the insert and the final `select`: `instChan` rebound, nothing
abandoned or deleted, no group poller. -/
structure GroupWaitInv (s : StartState) : Prop where
  group : si.instanceGroup ≠ ""
  instChan : s.instChan = .groupInstChan
  notAbandoned : s.abandonedStart = false
  noDelete : deletes s.events = []
  groupPoller : s.groupPoller = .idle

/-- In the wait loop, listening to the insert poller. -/
structure WaitReadyInv (s : StartState) extends GroupWaitInv si s : Prop where
  inst : s.inst = si.inst
  insertPoll : InsertPollerInv si s

/-- At the refresh, once the insert operation was seen done. -/
structure RefreshingInv (s : StartState) extends GroupWaitInv si s : Prop where
  insertPoller : s.insertPoller = .exited
  inst : s.inst = si.inst
  insertDone : InsertDone si s.events

/-- At `AddInstances`, once the refresh answered `inst`. -/
structure AddingInv (s : StartState) extends GroupWaitInv si s : Prop where
  insertPoller : s.insertPoller = .exited
  refreshed : Refreshed si s.events s.inst

/-- The final `select` of the plain path, listening to the insert poller. -/
structure PlainSelectInv (s : StartState) : Prop where
  plain : si.instanceGroup = ""
  instChan : s.instChan = .instanceReady
  groupPoller : s.groupPoller = .idle
  inst : s.inst = si.inst
  insertPoll : InsertPollerInv si s

/-- The final `select` of the group path, listening to the group poller. -/
structure GroupSelectInv (s : StartState) : Prop where
  group : si.instanceGroup ≠ ""
  instChan : s.instChan = .groupInstChan
  insertPoller : s.insertPoller = .exited
  groupPoll : GroupPollerInv si s

/-- In the final `select`. -/
structure SelectingInv (s : StartState) : Prop where
  notAbandoned : s.abandonedStart = false
  noDelete : deletes s.events = []
  path : PlainSelectInv si s ∨ GroupSelectInv si s

/-- What holds once `Start` has returned `r`, given the log and the two pollers. -/
structure ReturnedInv (E : List Event) (p₁ p₂ : Poller) (r : Except GoError GceInstance) :
    Prop where
  ok : ∀ gi, r = .ok gi → p₁.Finished ∧ p₂.Finished ∧ deletes E = [] ∧
    (si.instanceGroup = "" → InsertDone si E) ∧ (si.instanceGroup ≠ "" → Joined si E gi.inst)
  ctx : ∀ c, r = .error (.ctx c) → deletes E = [si.inst.name]
  err : ∀ e, r = .error e → (∀ c, e ≠ .ctx c) → p₁.Finished ∧ p₂.Finished ∧
    (refusals E = [] → deletes E = [si.inst.name])

/-- The invariant of `Start`: the shared `inst` keeps its name, and each phase its structure. -/
structure StartInv (s : StartState) : Prop where
  name : s.inst.name = si.inst.name
  phase : match s.main with
    | .inserting => InsertingInv si s
    | .waitReady => WaitReadyInv si s
    | .refreshing => RefreshingInv si s
    | .adding => AddingInv si s
    | .selecting => SelectingInv si s
    | .returned r => ReturnedInv si s.events s.insertPoller s.groupPoller r

theorem startInv_init : StartInv si (init si) :=
  ⟨rfl, rfl, rfl, rfl, rfl, rfl⟩

variable {si} {s : StartState}

/-! ### Reading a phase -/

theorem StartInv.inserting (hi : StartInv si s) (hm : s.main = .inserting) : InsertingInv si s := by
  have h := hi.phase
  rwa [hm] at h

theorem StartInv.waitReady (hi : StartInv si s) (hm : s.main = .waitReady) : WaitReadyInv si s := by
  have h := hi.phase
  rwa [hm] at h

theorem StartInv.refreshing (hi : StartInv si s) (hm : s.main = .refreshing) :
    RefreshingInv si s := by
  have h := hi.phase
  rwa [hm] at h

theorem StartInv.adding (hi : StartInv si s) (hm : s.main = .adding) : AddingInv si s := by
  have h := hi.phase
  rwa [hm] at h

theorem StartInv.selecting (hi : StartInv si s) (hm : s.main = .selecting) : SelectingInv si s := by
  have h := hi.phase
  rwa [hm] at h

theorem StartInv.returned {r : Except GoError GceInstance} (hi : StartInv si s)
    (hm : s.main = .returned r) : ReturnedInv si s.events s.insertPoller s.groupPoller r := by
  have h := hi.phase
  rwa [hm] at h

theorem StartInv.setCtx (hi : StartInv si s) (c : Ctx) : StartInv si { s with ctx := c } := by
  refine ⟨hi.name, ?_⟩
  cases hm : s.main <;> simp only [hm]
  case inserting => exact { hi.inserting hm with }
  case waitReady =>
    have h := hi.waitReady hm
    exact { h with toGroupWaitInv := { h.toGroupWaitInv with } }
  case refreshing =>
    have h := hi.refreshing hm
    exact { h with toGroupWaitInv := { h.toGroupWaitInv with } }
  case adding =>
    have h := hi.adding hm
    exact { h with toGroupWaitInv := { h.toGroupWaitInv with } }
  case selecting =>
    obtain ⟨a, b, hp | hp⟩ := hi.selecting hm
    exacts [⟨a, b, .inl { hp with }⟩, ⟨a, b, .inr { hp with }⟩]
  case returned r => exact hi.returned hm

/-! ### The history only grows -/

theorem InsertDone.append {E : List Event} (h : InsertDone si E) (F : List Event) :
    InsertDone si (E ++ F) :=
  let ⟨op, o, ho, hs⟩ := h; ⟨op, o, ho, sublist_append_of_sublist_left hs⟩

theorem Joined.append {E : List Event} {r : Instance} (h : Joined si E r) (F : List Event) :
    Joined si (E ++ F) r :=
  let ⟨op, o, aop, o', ho, ho', hs⟩ := h
  ⟨op, o, aop, o', ho, ho', sublist_append_of_sublist_left hs⟩

theorem Joined.insertDone {E : List Event} {r : Instance} (h : Joined si E r) : InsertDone si E :=
  let ⟨op, o, _, _, ho, _, hs⟩ := h
  ⟨op, o, ho, (sublist_append_left _ _).trans ((sublist_append_left _ _).trans hs)⟩

/-! ### A poll -/

/-- The state after poller `w` reads `reply` about `op`. -/
def polled (s : StartState) (w : PollerId) (op : String) (reply : Except String Operation) :
    StartState :=
  setPoller { s with events := s.events ++ [.zoneOperationsGet op reply] } w (s.pollNext w op reply)

@[simp] theorem polled_main (s : StartState) (w : PollerId) (op : String)
    (reply : Except String Operation) : (polled s w op reply).main = s.main := by cases w <;> rfl

@[simp] theorem polled_events (s : StartState) (w : PollerId) (op : String)
    (reply : Except String Operation) :
    (polled s w op reply).events = s.events ++ [.zoneOperationsGet op reply] := by cases w <;> rfl

theorem pollNext_cases (s : StartState) (w : PollerId) (op : String)
    (reply : Except String Operation) :
    (∃ e, s.pollNext w op reply = .sending .errChan (.err e) ∧ ∀ c, e ≠ .ctx c) ∨
    (∃ o, reply = .ok o ∧ o.Succeeded ∧
      s.pollNext w op reply = .sending (s.successChan w) (.inst s.inst)) ∨
    s.pollNext w op reply = .polling op := by
  unfold pollNext
  rcases h : startPollReply reply with e | _ | _
  · exact .inl ⟨e, rfl, startPollReply_fail h⟩
  · obtain ⟨o, rfl, ho⟩ := startPollReply_done h
    exact .inr (.inl ⟨o, rfl, ho, rfl⟩)
  · exact .inr (.inr rfl)

theorem InsertPollerInv.poll {op : String} (reply : Except String Operation)
    (h : InsertPollerInv si s) (hp : s.insertPoller = .polling op) (hinst : s.inst = si.inst) :
    InsertPollerInv si (polled s .insert op reply) := by
  obtain ⟨iop, hins, hq | ⟨hq, -⟩ | ⟨e, hq, -⟩⟩ := h <;> rw [hp] at hq <;> cases hq
  refine ⟨iop, sublist_append_of_sublist_left hins, ?_⟩
  rcases pollNext_cases s .insert iop.name reply with ⟨e, he, hc⟩ | ⟨o, rfl, ho, he⟩ | he <;>
    simp only [polled, setPoller_insert, he]
  · exact .inr (.inr ⟨e, rfl, hc⟩)
  · exact .inr (.inl ⟨by rw [successChan_insert, hinst], o, ho, hins.append_right _⟩)
  · exact .inl trivial

theorem GroupPollerInv.poll {op : String} (reply : Except String Operation)
    (h : GroupPollerInv si s) (hp : s.groupPoller = .polling op)
    (hchan : s.instChan = .groupInstChan) : GroupPollerInv si (polled s .group op reply) := by
  obtain ⟨iop, o, aop, ho, hjoin, hq | ⟨hq, -⟩ | ⟨e, hq, -⟩⟩ := h <;> rw [hp] at hq <;> cases hq
  refine ⟨iop, o, aop, ho, sublist_append_of_sublist_left hjoin, ?_⟩
  rcases pollNext_cases s .group aop.name reply with ⟨e, he, hc⟩ | ⟨o', rfl, ho', he⟩ | he <;>
    simp only [polled, setPoller_group, he]
  · exact .inr (.inr ⟨e, rfl, hc⟩)
  · exact .inr (.inl ⟨by rw [successChan_group, hchan], o', ho', hjoin.append_right _⟩)
  · exact .inl trivial

theorem Poller.Finished.ne_polling {q : Poller} (h : q.Finished) (op : String) :
    q ≠ .polling op := by
  rcases h with rfl | rfl <;> nofun

theorem ReturnedInv.poll {r : Except GoError GceInstance} {w : PollerId} {op : String}
    (reply : Except String Operation)
    (h : ReturnedInv si s.events s.insertPoller s.groupPoller r) (hp : s.poller w = .polling op) :
    ReturnedInv si (polled s w op reply).events (polled s w op reply).insertPoller
      (polled s w op reply).groupPoller r := by
  have hfin : ¬ (s.insertPoller.Finished ∧ s.groupPoller.Finished) := fun ⟨h1, h2⟩ => by
    cases w
    · exact h1.ne_polling op hp
    · exact h2.ne_polling op hp
  refine ⟨fun gi hr => absurd ⟨(h.ok gi hr).1, (h.ok gi hr).2.1⟩ hfin, fun c hr => ?_,
    fun e hr hc => absurd ⟨(h.err e hr hc).1, (h.err e hr hc).2.1⟩ hfin⟩
  cases w <;> simpa [polled, Event.deleted] using h.ctx c hr

/-! ### What a blocked poller offers -/

theorem InsertPollerInv.ready {c : Chan} {i : Instance} (h : InsertPollerInv si s)
    (hq : s.insertPoller = .sending c (.inst i)) :
    c = .instanceReady ∧ i = si.inst ∧ InsertDone si s.events := by
  obtain ⟨op, -, h' | ⟨h', o, ho, htr⟩ | ⟨e, h', -⟩⟩ := h <;> rw [hq] at h' <;> cases h'
  exact ⟨rfl, rfl, op, o, ho, htr⟩

theorem InsertPollerInv.err {c : Chan} {e : GoError} (h : InsertPollerInv si s)
    (hq : s.insertPoller = .sending c (.err e)) : c = .errChan ∧ ∀ c', e ≠ .ctx c' := by
  obtain ⟨op, -, h' | ⟨h', -⟩ | ⟨e, h', hc⟩⟩ := h <;> rw [hq] at h' <;> cases h'
  exact ⟨rfl, hc⟩

theorem GroupPollerInv.ready {c : Chan} {i : Instance} (h : GroupPollerInv si s)
    (hq : s.groupPoller = .sending c (.inst i)) :
    c = .groupInstChan ∧ i = s.inst ∧ Joined si s.events s.inst := by
  obtain ⟨op, o, aop, ho, -, h' | ⟨h', o', ho', htr⟩ | ⟨e, h', -⟩⟩ := h <;> rw [hq] at h' <;>
    cases h'
  exact ⟨rfl, rfl, op, o, aop, o', ho, ho', htr⟩

theorem GroupPollerInv.err {c : Chan} {e : GoError} (h : GroupPollerInv si s)
    (hq : s.groupPoller = .sending c (.err e)) : c = .errChan ∧ ∀ c', e ≠ .ctx c' := by
  obtain ⟨op, o, aop, ho, -, h' | ⟨h', -⟩ | ⟨e, h', hc⟩⟩ := h <;> rw [hq] at h' <;> cases h'
  exact ⟨rfl, hc⟩

/-! ### One step -/

@[simp] theorem ret_main (s : StartState) (r : Except GoError GceInstance) :
    (ret s r).main = .returned r := rfl

theorem ret_events (s : StartState) (r : Except GoError GceInstance) :
    (ret s r).events =
      s.events ++ if s.abandonedStart then [.instancesDelete s.inst.name] else [] := by
  by_cases h : s.abandonedStart <;> simp [ret, h]

@[simp] theorem ret_insertPoller (s : StartState) (r : Except GoError GceInstance) :
    (ret s r).insertPoller = s.insertPoller := rfl

@[simp] theorem ret_groupPoller (s : StartState) (r : Except GoError GceInstance) :
    (ret s r).groupPoller = s.groupPoller := rfl

@[simp] theorem refusals_ret (s : StartState) (r : Except GoError GceInstance) :
    refusals (ret s r).events = refusals s.events := by
  rw [ret_events]; split <;> simp [Event.refusal]

@[simp] theorem refusals_cancelled (s : StartState) (e : CtxErr) :
    refusals (s.cancelled e).events = refusals s.events := by
  cases e <;> simp [cancelled_events, Event.refusal]

theorem StartInv.cancelled (e : CtxErr) (hname : s.inst.name = si.inst.name)
    (hdel : deletes s.events = []) : StartInv si (s.cancelled e) := by
  refine ⟨hname, nofun, fun c hc => ?_, fun e' he hc => absurd (Except.error.inj he).symm (hc e)⟩
  by_cases hd : e = .deadlineExceeded <;>
    simp [StartState.cancelled, StartState.ret, hd, hdel, hname, Event.deleted]

theorem StartInv.retAbandoned {e : GoError} (hname : s.inst.name = si.inst.name)
    (hab : s.abandonedStart = true) (hc : ∀ c, e ≠ .ctx c) (h1 : s.insertPoller.Finished)
    (h2 : s.groupPoller.Finished) (hdel : deletes s.events = []) :
    StartInv si (ret s (.error e)) := by
  refine ⟨hname, nofun, fun c he => absurd (Except.error.inj he) (hc c), fun _ he _ => ?_⟩
  cases he
  simp only [ret_events, hab, if_true]
  exact ⟨h1, h2, fun _ => by simp [hdel, hname, Event.deleted]⟩

theorem StartInv.retDelivered {gi : GceInstance}
    (hname : s.inst.name = si.inst.name) (hab : s.abandonedStart = false)
    (h1 : s.insertPoller.Finished) (h2 : s.groupPoller.Finished) (hdel : deletes s.events = [])
    (hplain : si.instanceGroup = "" → InsertDone si s.events)
    (hgroup : si.instanceGroup ≠ "" → Joined si s.events gi.inst) :
    StartInv si (ret s (.ok gi)) := by
  refine ⟨hname, fun gi' hgi => ?_, nofun, nofun⟩
  cases hgi
  simp only [ret_events, hab, Bool.false_eq_true, if_false, List.append_nil]
  exact ⟨h1, h2, hdel, hplain, hgroup⟩

theorem StartInv.poll {w : PollerId} {op : String} (reply : Except String Operation)
    (hi : StartInv si s) (hp : s.poller w = .polling op) : StartInv si (polled s w op reply) := by
  have hdel : deletes (polled s w op reply).events = deletes s.events := by simp [Event.deleted]
  refine ⟨by cases w <;> exact hi.name, ?_⟩
  rw [polled_main]
  cases hm : s.main with
  | inserting =>
    have h := hi.inserting hm
    cases w <;> simp [h.insertPoller, h.groupPoller] at hp
  | waitReady =>
    have h := hi.waitReady hm
    cases w
    · exact ⟨⟨h.group, h.instChan, h.notAbandoned, hdel.trans h.noDelete, h.groupPoller⟩, h.inst,
        h.insertPoll.poll reply hp h.inst⟩
    · simp [h.groupPoller] at hp
  | refreshing =>
    have h := hi.refreshing hm
    cases w <;> simp [h.insertPoller, h.groupPoller] at hp
  | adding =>
    have h := hi.adding hm
    cases w <;> simp [h.insertPoller, h.groupPoller] at hp
  | selecting =>
    have h := hi.selecting hm
    rcases h.path with hpl | hgr <;> cases w
    · exact ⟨h.notAbandoned, hdel.trans h.noDelete, .inl ⟨hpl.plain, hpl.instChan,
        hpl.groupPoller, hpl.inst, hpl.insertPoll.poll reply hp hpl.inst⟩⟩
    · simp [hpl.groupPoller] at hp
    · simp [hgr.insertPoller] at hp
    · exact ⟨h.notAbandoned, hdel.trans h.noDelete, .inr ⟨hgr.group, hgr.instChan,
        hgr.insertPoller, hgr.groupPoll.poll reply hp hgr.instChan⟩⟩
  | returned r => exact (hi.returned hm).poll reply hp

theorem StartInv.step {s' : StartState} (hi : StartInv si s) (h : StartStep si s s') :
    StartInv si s' := by
  cases h with
  | insertFail e hm =>
    have h := hi.inserting hm
    refine ⟨hi.name, nofun, nofun, fun _ he _ => ?_⟩
    cases he
    exact ⟨.inl h.insertPoller, .inl h.groupPoller,
      fun hr => by simp [h.events, Event.refusal] at hr⟩
  | insertOk op hm =>
    have h := hi.inserting hm
    have hpoll : InsertPollerInv si
        { s with insertPoller := .polling op.name,
                 events := s.events ++ [.instancesInsert s.inst.name (.ok op)] } :=
      ⟨op, by simp [hi.name], .inl rfl⟩
    have hdel : deletes (s.events ++ [.instancesInsert s.inst.name (.ok op)]) = [] := by
      simp [h.events, Event.deleted]
    refine ⟨hi.name, ?_⟩
    by_cases hg : si.instanceGroup = ""
    · rw [if_pos hg, if_pos hg]
      exact ⟨h.notAbandoned, hdel, .inl ⟨hg, rfl, h.groupPoller, h.inst, hpoll⟩⟩
    · rw [if_neg hg, if_neg hg]
      exact ⟨⟨hg, rfl, h.notAbandoned, hdel, h.groupPoller⟩, h.inst, hpoll⟩
  | poll w op reply hp => exact hi.poll reply hp
  | waitRecv w i hm hp =>
    have h := hi.waitReady hm
    cases w
    · obtain ⟨-, rfl, hdone⟩ := h.insertPoll.ready hp
      exact ⟨rfl, ⟨h.group, h.instChan, h.notAbandoned, h.noDelete, h.groupPoller⟩, rfl, rfl,
        hdone⟩
    · simp [h.groupPoller] at hp
  | waitCtx e hm hctx => exact StartInv.cancelled e hi.name (hi.waitReady hm).noDelete
  | refreshFail e hm =>
    have h := hi.refreshing hm
    refine ⟨hi.name, nofun, nofun, fun _ he _ => ?_⟩
    cases he
    simp only [ret_events, h.notAbandoned, Bool.false_eq_true, if_false, List.append_nil]
    exact ⟨.inr h.insertPoller, .inl h.groupPoller, fun hr => by simp [Event.refusal] at hr⟩
  | refreshOk r hm hr =>
    have h := hi.refreshing hm
    obtain ⟨op, o, ho, htr⟩ := h.insertDone
    refine ⟨hr.trans hi.name, ⟨h.group, h.instChan, h.notAbandoned,
      by simp [h.noDelete, Event.deleted], h.groupPoller⟩, h.insertPoller, op, o, ho, ?_⟩
    rw [hi.name]
    exact htr.append_right _
  | addFail e hm =>
    have h := hi.adding hm
    exact StartInv.retAbandoned hi.name rfl nofun (.inr h.insertPoller) (.inl h.groupPoller)
      (by simp [h.noDelete, Event.deleted])
  | addOk op hm =>
    have h := hi.adding hm
    obtain ⟨iop, o, ho, htr⟩ := h.refreshed
    refine ⟨hi.name, h.notAbandoned, by simp [h.noDelete, Event.deleted],
      .inr ⟨h.group, h.instChan, h.insertPoller, iop, o, op, ho, ?_, .inl rfl⟩⟩
    simpa [joinTrace, hi.name] using
      htr.append_right [.addInstances si.instanceGroup s.inst.selfLink (.ok op)]
  | selectInst w i hm hp =>
    have h := hi.selecting hm
    have hdel : deletes (s.events ++ [.timeBoot]) = [] := by simp [h.noDelete, Event.deleted]
    rcases h.path with hpl | hgr <;> cases w
    · rw [poller_insert, hpl.instChan] at hp
      obtain ⟨-, rfl, hdone⟩ := hpl.insertPoll.ready hp
      exact StartInv.retDelivered hi.name h.notAbandoned (.inr rfl) (.inl hpl.groupPoller) hdel
        (fun _ => hdone.append _) (absurd hpl.plain)
    · simp [hpl.groupPoller] at hp
    · simp [hgr.insertPoller] at hp
    · obtain ⟨-, rfl, hjoin⟩ := hgr.groupPoll.ready hp
      exact StartInv.retDelivered hi.name h.notAbandoned (.inr hgr.insertPoller) (.inr rfl) hdel
        (fun h' => absurd h' hgr.group) (fun _ => hjoin.append _)
  | selectErr w e hm hp =>
    have h := hi.selecting hm
    rcases h.path with hpl | hgr <;> cases w
    · exact StartInv.retAbandoned hi.name rfl (hpl.insertPoll.err hp).2 (.inr rfl)
        (.inl hpl.groupPoller) h.noDelete
    · simp [hpl.groupPoller] at hp
    · simp [hgr.insertPoller] at hp
    · exact StartInv.retAbandoned hi.name rfl (hgr.groupPoll.err hp).2 (.inr hgr.insertPoller)
        (.inr rfl) h.noDelete
  | selectCtx e hm hctx => exact StartInv.cancelled e hi.name (hi.selecting hm).noDelete
  | cancel e hctx => exact hi.setCtx _

theorem startInv_reachable (h : StartReachable si s) : StartInv si s := by
  induction h with
  | refl => exact startInv_init si
  | tail _ hst ih => exact ih.step hst

/-! ### Refusals -/

/-- A refused `Insert` or refresh is what `Start` returned, and nothing was deleted. -/
def RefusalInv (s : StartState) : Prop :=
  ∀ m ∈ refusals s.events, s.main = .returned (.error (.remote m)) ∧ deletes s.events = []

theorem RefusalInv.fresh {s' : StartState} (h : RefusalInv s) (hm : ∀ r, s.main ≠ .returned r)
    (hE : refusals s'.events = refusals s.events) : RefusalInv s' := fun m hmem =>
  absurd (h m (hE ▸ hmem)).1 (hm _)

theorem RefusalInv.step {s' : StartState} (hi : StartInv si s) (h : RefusalInv s)
    (hs : StartStep si s s') : RefusalInv s' := by
  cases hs with
  | insertFail e hm =>
    have he := (hi.inserting hm).events
    intro m hmem
    obtain rfl : m = e := by simpa [he, Event.refusal] using hmem
    exact ⟨rfl, by simp [he, Event.deleted]⟩
  | refreshFail e hm =>
    have hr := hi.refreshing hm
    intro m hmem
    simp only [refusals_ret, refusals_append, refusals_cons, Event.refusal, Option.toList_some,
      refusals_nil, append_nil, mem_append, mem_singleton] at hmem
    rcases hmem with hmem | rfl
    · exact absurd (h m hmem).1 (by simp [hm])
    · simp [ret_events, hr.notAbandoned, hr.noDelete, Event.deleted]
  | poll w op reply hp =>
    intro m hmem
    obtain ⟨h1, h2⟩ := h m (by simpa [Event.refusal] using hmem)
    exact ⟨by simpa using h1, by simpa [Event.deleted] using h2⟩
  | cancel e hctx => exact h
  | _ => exact h.fresh (by simp [*]) (by simp [Event.refusal])

theorem refusalInv_reachable (h : StartReachable si s) : RefusalInv s := by
  have hboth : StartInv si s ∧ RefusalInv s := by
    induction h with
    | refl => exact ⟨startInv_init si, fun _ h => by simp [init] at h⟩
    | tail _ hs ih => exact ⟨ih.1.step hs, ih.2.step ih.1 hs⟩
  exact hboth.2

/-! ### What a returned `Start` has done -/

/-- `Start` delivers an instance only after every operation it issued was seen `DONE` without
error: the insert, and on the group path, after the refresh answered the delivered instance,
`AddInstances` of its self link. -/
theorem start_delivers_after_ops {s : StartState} (h : StartReachable si s) {gi : GceInstance}
    (hret : s.main = .returned (.ok gi)) :
    InsertDone si s.events ∧ (si.instanceGroup ≠ "" → Joined si s.events gi.inst) := by
  obtain ⟨-, -, -, hplain, hgroup⟩ := ((startInv_reachable h).returned hret).ok gi rfl
  by_cases hg : si.instanceGroup = ""
  · exact ⟨hplain hg, fun h => absurd hg h⟩
  · exact ⟨(hgroup hg).insertDone, hgroup⟩

/-- The abandonment rule as the code has it: a returned instance leaves no `Instances.Delete`;
a refusal of `Instances.Insert` or of the refresh of line 528 is the error `Start` returned, and
leaves none either; every other error leaves exactly one, for the inserted instance. -/
theorem start_abandonment {s : StartState} (h : StartReachable si s)
    {r : Except GoError GceInstance} (hret : s.main = .returned r) :
    (∀ gi, r = .ok gi → deletes s.events = []) ∧
    (∀ m ∈ refusals s.events, r = .error (.remote m) ∧ deletes s.events = []) ∧
    (∀ e, r = .error e → refusals s.events = [] → deletes s.events = [si.inst.name]) := by
  have hi := (startInv_reachable h).returned hret
  refine ⟨fun gi hr => ?_, fun m hm => ?_, fun e hr hnone => ?_⟩
  · obtain ⟨-, -, hdel, -⟩ := hi.ok gi hr
    exact hdel
  · obtain ⟨h1, h2⟩ := refusalInv_reachable h m hm
    rw [hret] at h1
    exact ⟨Main.returned.inj h1, h2⟩
  · by_cases hc : ∃ c, e = .ctx c
    · obtain ⟨c, rfl⟩ := hc
      exact hi.ctx c hr
    · obtain ⟨-, -, hdel⟩ := hi.err e hr fun c he => hc ⟨c, he⟩
      exact hdel hnone

/-- Whenever `Start` returns other than through `ctx.Done()`, both pollers have finished. -/
theorem start_pollers_finished {s : StartState} (h : StartReachable si s)
    {r : Except GoError GceInstance} (hret : s.main = .returned r) (hr : ∀ c, r ≠ .error (.ctx c)) :
    s.insertPoller.Finished ∧ s.groupPoller.Finished := by
  have hi := (startInv_reachable h).returned hret
  rcases r with e | gi
  · obtain ⟨h1, h2, -⟩ := hi.err e rfl fun c he => hr c (he ▸ rfl)
    exact ⟨h1, h2⟩
  · exact ⟨(hi.ok gi rfl).1, (hi.ok gi rfl).2.1⟩

/-- `Start` never waits for nothing but the context, except in one place: every reachable state
before the return has a step that leaves the context alone, unless the group path's wait loop
faces an insert poller that offers an error. -/
theorem start_progress {s : StartState} (h : StartReachable si s)
    (hm : ∀ r, s.main ≠ .returned r) :
    (∃ s', StartStep si s s' ∧ s'.ctx = s.ctx) ∨
      (s.main = .waitReady ∧ ∃ e, s.insertPoller = .sending .errChan (.err e)) := by
  have hi := startInv_reachable h
  have hpoll : ∀ w op, s.poller w = .polling op → ∃ s', StartStep si s s' ∧ s'.ctx = s.ctx :=
    fun w op hp => ⟨_, .poll s w op (.error "") hp, by cases w <;> rfl⟩
  cases hmain : s.main with
  | inserting => exact .inl ⟨_, .insertOk s ⟨"", "", none⟩ hmain, rfl⟩
  | refreshing => exact .inl ⟨_, .refreshFail s "" hmain, rfl⟩
  | adding => exact .inl ⟨_, .addFail s "" hmain, rfl⟩
  | returned r => exact absurd hmain (hm r)
  | waitReady =>
    obtain ⟨op, -, hq | ⟨hq, -⟩ | ⟨e, hq, -⟩⟩ := (hi.waitReady hmain).insertPoll
    · exact .inl (hpoll .insert _ hq)
    · exact .inl ⟨_, .waitRecv s .insert _ hmain hq, rfl⟩
    · exact .inr ⟨rfl, e, hq⟩
  | selecting =>
    rcases (hi.selecting hmain).path with
      ⟨-, hch, -, -, op, -, hq | ⟨hq, -⟩ | ⟨e, hq, -⟩⟩ |
      ⟨-, hch, -, op, o, aop, -, -, hq | ⟨hq, -⟩ | ⟨e, hq, -⟩⟩
    · exact .inl (hpoll .insert _ hq)
    · exact .inl ⟨_, .selectInst s .insert _ hmain (by rw [hch]; exact hq), rfl⟩
    · exact .inl ⟨_, .selectErr s .insert e hmain hq, rfl⟩
    · exact .inl (hpoll .group _ hq)
    · exact .inl ⟨_, .selectInst s .group _ hmain (by rw [hch]; exact hq), rfl⟩
    · exact .inl ⟨_, .selectErr s .group e hmain hq, rfl⟩

/-! ### The insert poller's error on the group path -/

/-- The group path's wait loop hears only `origInstanceReady` and the context: an error the insert
poller offers stays unheard, and `Start` can only return `ctx.Err()`. -/
def ErrorUnheard (e : GoError) (s : StartState) : Prop :=
  s.insertPoller = .sending .errChan (.err e) ∧ s.groupPoller = .idle ∧
    (s.main = .waitReady ∨ ∃ c, s.ctx = .done c ∧ s.main = .returned (.error (.ctx c)))

theorem ErrorUnheard.step {e : GoError} {s' : StartState} (h : ErrorUnheard e s)
    (hst : StartStep si s s') : ErrorUnheard e s' := by
  obtain ⟨h1, h2, hm⟩ := h
  cases hst with
  | poll w op reply hp => cases w <;> simp_all
  | waitRecv w i hm' hp => cases w <;> simp_all
  | waitCtx c hm' hctx => exact ⟨h1, h2, .inr ⟨c, hctx, rfl⟩⟩
  | cancel c hctx =>
    rcases hm with hm | ⟨c', hc', -⟩
    · exact ⟨h1, h2, .inl hm⟩
    · simp_all
  | _ => simp_all

theorem ErrorUnheard.reachable {e : GoError} {s' : StartState} (h : ErrorUnheard e s)
    (hr : Relation.ReflTransGen (StartStep si) s s') : ErrorUnheard e s' := by
  induction hr with
  | refl => exact h
  | tail _ hst ih => exact ih.step hst

end

/-! ### Runs on the group path

`groupInput` asks for a VM in the instance group `builders`. The insert operation `op-1` and the
`AddInstances` operation `op-2` are answered by the polls below. -/

/-- The instance `buildInstance` makes, before the server fills in its self link. -/
def insertedVM : Instance := ⟨"testing-gce-1", "", "", "", [], false, [], [], [], []⟩

/-- The same instance as `Instances.Get` returns it after the insert. -/
def refreshedVM : Instance :=
  ⟨"testing-gce-1", "", "zones/us-central1-a/instances/testing-gce-1", "", [], false, [], [], [],
    []⟩

/-- `Start` for `insertedVM` with `INSTANCE_GROUP=builders`. -/
def groupInput : StartInput :=
  ⟨"travis-ci", "builders", ⟨"travis-ci-ruby-1", "images/travis-ci-ruby-1"⟩, insertedVM⟩

/-- Operation `name` while it runs. -/
def runningOp (name : String) : Operation := ⟨name, "RUNNING", none⟩

/-- Operation `name` finished without error. -/
def doneOp (name : String) : Operation := ⟨name, "DONE", none⟩

/-- The error payload of an insert refused for want of quota. -/
def quotaExceeded : OperationError := ⟨[⟨"QUOTA_EXCEEDED", "us-central1-a", "CPUS quota exceeded"⟩]⟩

theorem groupInput_refreshing :
    StartReachable groupInput
      ⟨.refreshing, insertedVM, .groupInstChan, false, .exited, .idle, .live,
        [.instancesInsert "testing-gce-1" (.ok (runningOp "op-1")),
         .zoneOperationsGet "op-1" (.ok (doneOp "op-1"))]⟩ :=
  .tail (.tail (.tail .refl (.insertOk _ (runningOp "op-1") rfl))
    (.poll _ .insert "op-1" (.ok (doneOp "op-1")) rfl))
    (.waitRecv _ .insert insertedVM (by decide) (by decide))

/-- The group path after the refresh of line 528 failed with `backendError`. -/
def refreshFailed : StartState :=
  ⟨.returned (.error (.remote "backendError")), insertedVM, .groupInstChan, false, .exited, .idle,
    .live,
    [.instancesInsert "testing-gce-1" (.ok (runningOp "op-1")),
     .zoneOperationsGet "op-1" (.ok (doneOp "op-1")),
     .instancesGet "testing-gce-1" (.error "backendError")]⟩

theorem refreshFailed_reachable : StartReachable groupInput refreshFailed :=
  .tail groupInput_refreshing (.refreshFail _ "backendError" rfl)

/-- The refresh of line 528 fails: `Start` returns its error, and the deferred function, with
`abandonedStart` unset, deletes nothing although the instance was inserted. -/
theorem start_refresh_error_leaks :
    ∃ s, StartReachable groupInput s ∧ s.main = .returned (.error (.remote "backendError")) ∧
      .instancesInsert insertedVM.name (.ok (runningOp "op-1")) ∈ s.events ∧ deletes s.events = [] :=
  ⟨refreshFailed, refreshFailed_reachable, rfl, by decide, by decide⟩

theorem refreshFailed_abandonment :
    "backendError" ∈ refusals refreshFailed.events ∧ deletes refreshFailed.events = [] :=
  ⟨by decide, ((start_abandonment refreshFailed_reachable rfl).2.1 "backendError" (by decide)).2⟩

/-- The whole group path: the refresh answers `refreshedVM` and `AddInstances` runs `op-2`. -/
def joinedRun : StartState :=
  ⟨.returned (.ok ⟨refreshedVM, "travis", "travis-ci", "travis-ci-ruby-1"⟩), refreshedVM,
    .groupInstChan, false, .exited, .exited, .live,
    [.instancesInsert "testing-gce-1" (.ok (runningOp "op-1")),
     .zoneOperationsGet "op-1" (.ok (doneOp "op-1")),
     .instancesGet "testing-gce-1" (.ok refreshedVM),
     .addInstances "builders" refreshedVM.selfLink (.ok (runningOp "op-2")),
     .zoneOperationsGet "op-2" (.ok (doneOp "op-2")), .timeBoot]⟩

theorem joinedRun_reachable : StartReachable groupInput joinedRun :=
  .tail (.tail (.tail (.tail groupInput_refreshing (.refreshOk _ refreshedVM rfl rfl))
    (.addOk _ (runningOp "op-2") rfl)) (.poll _ .group "op-2" (.ok (doneOp "op-2")) rfl))
    (.selectInst _ .group refreshedVM rfl rfl)

theorem joinedRun_delivers :
    InsertDone groupInput joinedRun.events ∧
      (groupInput.instanceGroup ≠ "" → Joined groupInput joinedRun.events refreshedVM) :=
  start_delivers_after_ops joinedRun_reachable rfl

/-- The insert operation fails for quota while the group path waits for the instance. -/
def quotaUnheard : StartState :=
  ⟨.waitReady, insertedVM, .groupInstChan, false,
    .sending .errChan (.err (.opError ⟨quotaExceeded⟩)), .idle, .live,
    [.instancesInsert "testing-gce-1" (.ok (runningOp "op-1")),
     .zoneOperationsGet "op-1" (.ok ⟨"op-1", "DONE", some quotaExceeded⟩)]⟩

theorem quotaUnheard_reachable : StartReachable groupInput quotaUnheard :=
  .tail (.tail .refl (.insertOk _ (runningOp "op-1") rfl))
    (.poll _ .insert "op-1" (.ok ⟨"op-1", "DONE", some quotaExceeded⟩) rfl)

theorem quotaUnheard_progress :
    (∃ s', StartStep groupInput quotaUnheard s' ∧ s'.ctx = quotaUnheard.ctx) ∨
      (quotaUnheard.main = .waitReady ∧
        ∃ e, quotaUnheard.insertPoller = .sending .errChan (.err e)) :=
  start_progress quotaUnheard_reachable fun _ h => by cases h

/-- On the group path a failed insert operation is never reported: the insert poller stays
blocked offering its error, with the context live, and from there `Start` waits for ever or
returns the context's error. -/
theorem start_group_insert_error_unheard :
    StartReachable groupInput quotaUnheard ∧ quotaUnheard.ctx = .live ∧
      quotaUnheard.main = .waitReady ∧
      quotaUnheard.insertPoller = .sending .errChan (.err (.opError ⟨quotaExceeded⟩)) ∧
      ∀ s', Relation.ReflTransGen (StartStep groupInput) quotaUnheard s' →
        s'.insertPoller = quotaUnheard.insertPoller ∧
        ∀ r, s'.main = .returned r → ∃ c, s'.ctx = .done c ∧ r = .error (.ctx c) := by
  refine ⟨quotaUnheard_reachable, rfl, rfl, rfl, fun s' hr => ?_⟩
  obtain ⟨h1, -, hm⟩ := ErrorUnheard.reachable (e := .opError ⟨quotaExceeded⟩)
    ⟨rfl, rfl, .inl rfl⟩ hr
  refine ⟨h1, fun r hr' => ?_⟩
  rcases hm with hm | ⟨c, hc, hm⟩ <;> rw [hr'] at hm
  · cases hm
  · exact ⟨c, hc, Main.returned.inj hm⟩

end GceBackend
