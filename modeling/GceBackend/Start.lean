import Mathlib.Logic.Relation
import GceBackend.Instance

/-! # `Start` as a system of goroutines

`gceProvider.Start` inserts the instance, then races a background poller of the insert
operation against the context. On the group path (`INSTANCE_GROUP` set) it first waits in a loop
for the poller's ready instance, refreshes the instance, calls `InstanceGroups.AddInstances`, and
spawns a second poller for that operation; `instChan` has been rebound to a fresh channel, so the
final `select` receives the instance from the second poller only. Every exit taken after a
successful insert with `abandonedStart` set runs the deferred `Instances.Delete`.

The model is a state per goroutine (`Main`, two `Poller`s), the context, the variables shared
through closures (`inst`, `instChan`, `abandonedStart`), and a ghost log of the cloud calls and
metric marks in the order they happen. `StartStep` has one constructor per atomic action of one
goroutine, with the cloud's reply as a free parameter; unbuffered sends are a sender blocked in
`Poller.sending` until a receive in a `select` takes the value. The `default` branch of the wait
loop only sleeps and is left out.
-/

namespace GceBackend

/-! ### Reading a zone operation -/

/-- What a poller does with one `ZoneOperations.Get` reply. -/
inductive PollResult where
  | fail (e : GoError)
  | done
  | pending
  deriving DecidableEq, Repr

/-- The reply as `Start`'s two pollers read it (lines 451-487 and 558-590): a transport error or
an error payload fails, `DONE` without error completes, anything else is polled again. -/
def startPollReply : Except String Operation → PollResult
  | .error e => .fail (.remote e)
  | .ok newOp =>
    if newOp.status = "DONE" then
      match newOp.error with
      | some err => .fail (.opError ⟨err⟩)
      | none => .done
    else
      match newOp.error with
      | some err => .fail (.opError ⟨err⟩)
      | none => .pending

/-- The reply as `Stop`'s poller reads it (lines 952-968): it has no check of an error payload on
a running operation. -/
def stopPollReply : Except String Operation → PollResult
  | .error e => .fail (.remote e)
  | .ok newOp =>
    if newOp.status = "DONE" then
      match newOp.error with
      | some err => .fail (.opError ⟨err⟩)
      | none => .done
    else .pending

/-- The two readings differ only on a running operation carrying an error payload, which
`Start` fails at once and `Stop` keeps polling. -/
theorem stopPollReply_eq (reply : Except String Operation) :
    stopPollReply reply = startPollReply reply ∨
      ∃ newOp err, reply = .ok newOp ∧ newOp.status ≠ "DONE" ∧ newOp.error = some err ∧
        stopPollReply reply = .pending ∧ startPollReply reply = .fail (.opError ⟨err⟩) := by
  rcases reply with e | ⟨name, status, _ | err⟩
  · exact .inl rfl
  · by_cases h : status = "DONE" <;> simp [stopPollReply, startPollReply, h]
  · by_cases h : status = "DONE" <;> simp [stopPollReply, startPollReply, h]

theorem startPollReply_fail {reply : Except String Operation} {e : GoError}
    (h : startPollReply reply = .fail e) : ∀ c, e ≠ .ctx c := by
  intro c hc; subst hc
  unfold startPollReply at h
  split at h
  · cases h
  · split at h <;> split at h <;> cases h

/-! ### The state -/

/-- `Start`'s channels: `instanceReady`, the group path's fresh `instChan` (line 498), `errChan`. -/
inductive Chan where
  | instanceReady
  | groupInstChan
  | errChan
  deriving DecidableEq, Repr

/-- A value offered on a channel. -/
inductive Msg where
  | inst (i : Instance)
  | err (e : GoError)
  deriving DecidableEq, Repr

/-- A poller goroutine: not spawned, polling an operation, blocked offering a value, or gone. -/
inductive Poller where
  | idle
  | polling (op : String)
  | sending (c : Chan) (m : Msg)
  | exited
  deriving DecidableEq, Repr

/-- `Start`'s own goroutine: at `Instances.Insert` (line 428), in the wait loop of the group path
(lines 500-522), at `Instances.Get` (line 528), at `InstanceGroups.AddInstances` (line 542), in
the final `select` (lines 595-618), or returned. -/
inductive Main where
  | inserting
  | waitReady
  | refreshing
  | adding
  | selecting
  | returned (r : Except GoError GceInstance)
  deriving DecidableEq, Repr

/-- The insert-operation poller (lines 449-489) and the group-addition poller (lines 556-591). -/
inductive PollerId where
  | insert
  | group
  deriving DecidableEq, Repr

/-- A cloud call or metric mark, with the cloud's reply. -/
inductive Event where
  | instancesInsert (name : String) (reply : Except String Operation)
  | zoneOperationsGet (op : String) (reply : Except String Operation)
  | instancesGet (name : String) (reply : Except String Instance)
  | addInstances (group selfLink : String) (reply : Except String Operation)
  | instancesDelete (name : String)
  | markBootTimeout
  | timeBoot
  deriving DecidableEq, Repr

/-- What `Start` is given once the image is resolved and the instance built. -/
structure StartInput where
  projectID : String
  instanceGroup : String
  image : Image
  inst : Instance
  deriving DecidableEq, Repr

/-- The goroutines of one `Start` call, the variables they share, and the ghost call log. -/
structure StartState where
  main : Main
  inst : Instance
  instChan : Chan
  abandonedStart : Bool
  insertPoller : Poller
  groupPoller : Poller
  ctx : Ctx
  events : List Event
  deriving DecidableEq, Repr

namespace StartState

/-- The state when `Start` reaches `Instances.Insert`. -/
def init (si : StartInput) : StartState :=
  ⟨.inserting, si.inst, .instanceReady, false, .idle, .idle, .live, []⟩

/-- A poller's state. -/
def poller (s : StartState) : PollerId → Poller
  | .insert => s.insertPoller
  | .group => s.groupPoller

/-- Replace a poller's state. -/
def setPoller (s : StartState) : PollerId → Poller → StartState
  | .insert, q => { s with insertPoller := q }
  | .group, q => { s with groupPoller := q }

/-- The channel a poller sends the instance on: the captured `instanceReady`, or `instChan` as
the group poller's closure reads it. -/
def successChan (s : StartState) : PollerId → Chan
  | .insert => .instanceReady
  | .group => s.instChan

/-- A poller after one reply about `op`; a completed poll offers the shared `inst`. -/
def pollNext (s : StartState) (w : PollerId) (op : String) (reply : Except String Operation) :
    Poller :=
  match startPollReply reply with
  | .fail e => .sending .errChan (.err e)
  | .done => .sending (s.successChan w) (.inst s.inst)
  | .pending => .polling op

/-- `Start` returns `r`; the deferred function deletes the instance when `abandonedStart` is set. -/
def ret (s : StartState) (r : Except GoError GceInstance) : StartState :=
  { s with main := .returned r,
           events := if s.abandonedStart then s.events ++ [.instancesDelete s.inst.name]
                     else s.events }

/-- The `<-ctx.Done()` branch of both waits: mark a deadline, abandon, return `ctx.Err()`. -/
def cancelled (s : StartState) (e : CtxErr) : StartState :=
  ret { s with abandonedStart := true,
               events := s.events ++ if e = .deadlineExceeded then [.markBootTimeout] else [] }
    (.error (.ctx e))

@[simp] theorem poller_insert (s : StartState) : s.poller .insert = s.insertPoller := rfl
@[simp] theorem poller_group (s : StartState) : s.poller .group = s.groupPoller := rfl
@[simp] theorem setPoller_insert (s : StartState) (q : Poller) :
    s.setPoller .insert q = { s with insertPoller := q } := rfl
@[simp] theorem setPoller_group (s : StartState) (q : Poller) :
    s.setPoller .group q = { s with groupPoller := q } := rfl
@[simp] theorem successChan_insert (s : StartState) : s.successChan .insert = .instanceReady := rfl
@[simp] theorem successChan_group (s : StartState) : s.successChan .group = s.instChan := rfl

@[simp] theorem setPoller_main (s : StartState) (w : PollerId) (q : Poller) :
    (s.setPoller w q).main = s.main := by cases w <;> rfl

@[simp] theorem setPoller_events (s : StartState) (w : PollerId) (q : Poller) :
    (s.setPoller w q).events = s.events := by cases w <;> rfl

@[simp] theorem setPoller_inst (s : StartState) (w : PollerId) (q : Poller) :
    (s.setPoller w q).inst = s.inst := by cases w <;> rfl

@[simp] theorem cancelled_main (s : StartState) (e : CtxErr) :
    (s.cancelled e).main = .returned (.error (.ctx e)) := rfl

theorem cancelled_events (s : StartState) (e : CtxErr) :
    (s.cancelled e).events = s.events ++
      ((if e = .deadlineExceeded then [.markBootTimeout] else []) ++
        [.instancesDelete s.inst.name]) := by
  simp [cancelled, ret]

end StartState

open StartState

/-- One atomic action of a goroutine of `Start` or of the context: `Insert` failing (lines 428-431)
or starting the insert poller (433-498), a poll, the wait loop's receive (503) or `ctx.Done()`
(510-516), the refresh failing with `abandonedStart` unset (528-531) or answering `inst`,
`AddInstances` failing (546-549) or starting the group poller, and the final `select` (596-617). -/
inductive StartStep (si : StartInput) : StartState → StartState → Prop where
  | insertFail (s : StartState) (e : String) : s.main = .inserting →
      StartStep si s { s with main := .returned (.error (.remote e)),
                              events := s.events ++ [.instancesInsert s.inst.name (.error e)] }
  | insertOk (s : StartState) (op : Operation) : s.main = .inserting →
      StartStep si s { s with main := if si.instanceGroup = "" then .selecting else .waitReady,
                              instChan := if si.instanceGroup = "" then .instanceReady
                                          else .groupInstChan,
                              insertPoller := .polling op.name,
                              events := s.events ++ [.instancesInsert s.inst.name (.ok op)] }
  | poll (s : StartState) (w : PollerId) (op : String) (reply : Except String Operation) :
      s.poller w = .polling op →
      StartStep si s (setPoller { s with events := s.events ++ [.zoneOperationsGet op reply] } w
        (s.pollNext w op reply))
  | waitRecv (s : StartState) (w : PollerId) (i : Instance) : s.main = .waitReady →
      s.poller w = .sending .instanceReady (.inst i) →
      StartStep si s { (s.setPoller w .exited) with main := .refreshing, inst := i }
  | waitCtx (s : StartState) (e : CtxErr) : s.main = .waitReady → s.ctx = .done e →
      StartStep si s (s.cancelled e)
  | refreshFail (s : StartState) (e : String) : s.main = .refreshing →
      StartStep si s (ret { s with events := s.events ++ [.instancesGet s.inst.name (.error e)] }
        (.error (.remote e)))
  | refreshOk (s : StartState) (r : Instance) : s.main = .refreshing → r.name = s.inst.name →
      StartStep si s { s with main := .adding, inst := r,
                              events := s.events ++ [.instancesGet s.inst.name (.ok r)] }
  | addFail (s : StartState) (e : String) : s.main = .adding →
      StartStep si s (ret
        { s with abandonedStart := true,
                 events := s.events ++ [.addInstances si.instanceGroup s.inst.selfLink (.error e)] }
        (.error (.remote e)))
  | addOk (s : StartState) (op : Operation) : s.main = .adding →
      StartStep si s
        { s with main := .selecting, groupPoller := .polling op.name,
                 events := s.events ++ [.addInstances si.instanceGroup s.inst.selfLink (.ok op)] }
  | selectInst (s : StartState) (w : PollerId) (i : Instance) : s.main = .selecting →
      s.poller w = .sending s.instChan (.inst i) →
      StartStep si s (ret { (s.setPoller w .exited) with events := s.events ++ [.timeBoot] }
        (.ok ⟨i, "travis", si.projectID, si.image.name⟩))
  | selectErr (s : StartState) (w : PollerId) (e : GoError) : s.main = .selecting →
      s.poller w = .sending .errChan (.err e) →
      StartStep si s (ret { (s.setPoller w .exited) with abandonedStart := true } (.error e))
  | selectCtx (s : StartState) (e : CtxErr) : s.main = .selecting → s.ctx = .done e →
      StartStep si s (s.cancelled e)
  | cancel (s : StartState) (e : CtxErr) : s.ctx = .live →
      StartStep si s { s with ctx := .done e }

/-- The states a run of `Start` can reach. -/
def StartReachable (si : StartInput) (s : StartState) : Prop :=
  Relation.ReflTransGen (StartStep si) (init si) s

end GceBackend
