import GceBackend.Image
import GceBackend.Config
import GceBackend.StartInv

/-! # What `Start` leaves behind for its caller

Three views of a run of `Start`, each over every interleaving of its goroutines and every reply
of the cloud, read off the ghost log or the returned value.

* The calls (`CallLog`): the first call is the `Instances.Insert` of the built instance, and
  every later one is about what this `Start` created. The pollers poll operations an earlier
  `Insert` or `AddInstances` returned (`PollersOwn`), the refresh comes after the insert
  operation was seen done, the deferred delete after a successful insert, both naming the
  inserted instance, and `AddInstances` adds the self link an earlier refresh returned. This
  holds after `Start` returned as well, for the pollers it leaves behind.
* The metrics (`bootMarks`): `worker.vm.provider.gce.boot.timeout` is marked once, exactly when
  `Start` returned `DeadlineExceeded` from either wait, and the boot time is recorded once,
  exactly when it returned an instance.
* The handle (`startInput`, `start_handle`): composed with its prologue (`getImage`, the
  startup script, `buildInstance`), `Start` returns the handle of the instance it inserted and
  of the image `getImage` picked. On the plain path the handle carries the instance as built,
  without an address; on the group path, the record `Instances.Get` answered.
-/

namespace GceBackend

open StartState List

section
variable {si : StartInput} {s : StartState}

theorem mem_of_insertTrace {op o : Operation} {F E : List Event}
    (h : insertTrace si op o ++ F <+ E) : .instancesInsert si.inst.name (.ok op) ∈ E :=
  h.subset (by simp [insertTrace])

theorem StartInv.inserted (hi : StartInv si s)
    (hm : s.main = .waitReady ∨ s.main = .refreshing ∨ s.main = .adding ∨ s.main = .selecting) :
    ∃ o, .instancesInsert si.inst.name (.ok o) ∈ s.events := by
  have hpoll : InsertPollerInv si s → ∃ o, .instancesInsert si.inst.name (.ok o) ∈ s.events :=
    fun ⟨op, hs, _⟩ => ⟨op, hs.subset (mem_singleton_self _)⟩
  rcases hm with hm | hm | hm | hm
  · exact hpoll (hi.waitReady hm).insertPoll
  · obtain ⟨op, _, -, htr⟩ := (hi.refreshing hm).insertDone
    exact ⟨op, htr.subset (by simp [insertTrace])⟩
  · obtain ⟨op, _, -, htr⟩ := (hi.adding hm).refreshed
    exact ⟨op, mem_of_insertTrace htr⟩
  · rcases (hi.selecting hm).path with hpl | ⟨-, -, -, op, _, _, -, htr, -⟩
    · exact hpoll hpl.insertPoll
    · exact ⟨op, mem_of_insertTrace htr⟩

theorem StartInv.selectInst {w : PollerId} {i : Instance} (hi : StartInv si s)
    (hm : s.main = .selecting) (hp : s.poller w = .sending s.instChan (.inst i)) :
    i.name = si.inst.name ∧ (si.instanceGroup = "" → i = si.inst) := by
  rcases (hi.selecting hm).path with hpl | hgr <;> cases w
  · rw [poller_insert, hpl.instChan] at hp
    obtain ⟨-, rfl, -⟩ := hpl.insertPoll.ready hp
    exact ⟨rfl, fun _ => rfl⟩
  · simp [hpl.groupPoller] at hp
  · simp [hgr.insertPoller] at hp
  · obtain ⟨-, rfl, -⟩ := hgr.groupPoll.ready hp
    exact ⟨hi.name, fun h => absurd h hgr.group⟩

theorem StartInv.selectErr {w : PollerId} {e : GoError} (hi : StartInv si s)
    (hm : s.main = .selecting) (hp : s.poller w = .sending .errChan (.err e)) :
    ∀ c, e ≠ .ctx c := by
  rcases (hi.selecting hm).path with hpl | hgr <;> cases w
  · exact (hpl.insertPoll.err hp).2
  · simp [hpl.groupPoller] at hp
  · simp [hgr.insertPoller] at hp
  · exact (hgr.groupPoll.err hp).2

end

/-! ### The calls -/

/-- A call `Start` may make after the calls `E`: the first, inserting the built instance; a poll of
an operation an `Insert` or `AddInstances` returned; the refresh, the delete and `AddInstances`
of what an earlier call inserted or returned; a metric mark. -/
def Event.Caused (si : StartInput) (E : List Event) : Event → Prop
  | .instancesInsert name _ => name = si.inst.name ∧ E = []
  | .zoneOperationsGet op _ => ∃ o, op = o.name ∧
      (.instancesInsert si.inst.name (.ok o) ∈ E ∨
        ∃ link, .addInstances si.instanceGroup link (.ok o) ∈ E)
  | .instancesGet name _ => name = si.inst.name ∧ InsertDone si E
  | .addInstances group link _ => group = si.instanceGroup ∧
      ∃ r, .instancesGet si.inst.name (.ok r) ∈ E ∧ link = r.selfLink
  | .instancesDelete name => name = si.inst.name ∧ ∃ o, .instancesInsert si.inst.name (.ok o) ∈ E
  | .markBootTimeout => True
  | .timeBoot => True

/-- A log each of whose events `Start` may make after the ones before it. -/
inductive CallLog (si : StartInput) : List Event → Prop where
  | nil : CallLog si []
  | snoc {E : List Event} {e : Event} : CallLog si E → e.Caused si E → CallLog si (E ++ [e])

/-- Every operation a poller polls is one the cloud returned to this `Start`. -/
structure PollersOwn (si : StartInput) (s : StartState) : Prop where
  insert : ∀ op, s.insertPoller = .polling op →
    ∃ o, op = o.name ∧ .instancesInsert si.inst.name (.ok o) ∈ s.events
  group : ∀ op, s.groupPoller = .polling op →
    ∃ o, op = o.name ∧ ∃ link, .addInstances si.instanceGroup link (.ok o) ∈ s.events

section
variable {si : StartInput} {s s' : StartState}

theorem PollersOwn.mono (h : PollersOwn si s) (hE : ∃ F, s'.events = s.events ++ F)
    (h1 : ∀ op, s'.insertPoller = .polling op → s.insertPoller = .polling op)
    (h2 : ∀ op, s'.groupPoller = .polling op → s.groupPoller = .polling op) :
    PollersOwn si s' := by
  obtain ⟨F, hF⟩ := hE
  refine ⟨fun op hp => ?_, fun op hp => ?_⟩
  · obtain ⟨o, rfl, hmem⟩ := h.insert op (h1 op hp)
    exact ⟨o, rfl, hF ▸ mem_append_left F hmem⟩
  · obtain ⟨o, rfl, link, hmem⟩ := h.group op (h2 op hp)
    exact ⟨o, rfl, link, hF ▸ mem_append_left F hmem⟩

theorem PollersOwn.ret (h : PollersOwn si s) (r : Except GoError GceInstance) :
    PollersOwn si (ret s r) :=
  h.mono ⟨_, ret_events s r⟩ (fun _ => id) (fun _ => id)

theorem PollersOwn.cancelled (h : PollersOwn si s) (e : CtxErr) :
    PollersOwn si (s.cancelled e) :=
  h.mono ⟨_, cancelled_events s e⟩ (fun _ => id) (fun _ => id)

theorem pollNext_polling {w : PollerId} {op op' : String} {reply : Except String Operation}
    (h : s.pollNext w op reply = .polling op') : op' = op := by
  rcases pollNext_cases s w op reply with ⟨e, he, -⟩ | ⟨o, -, -, he⟩ | he <;> rw [he] at h <;>
    cases h
  rfl

theorem setPoller_exited_polling {w : PollerId} {op : String} :
    ((s.setPoller w .exited).insertPoller = .polling op → s.insertPoller = .polling op) ∧
    ((s.setPoller w .exited).groupPoller = .polling op → s.groupPoller = .polling op) := by
  cases w <;> simp

theorem PollersOwn.step (hi : StartInv si s) (h : PollersOwn si s) (hs : StartStep si s s') :
    PollersOwn si s' := by
  have hgrow : ∀ {t : StartState} F, t.events = s.events ++ F → t.insertPoller = s.insertPoller →
      t.groupPoller = s.groupPoller → PollersOwn si t := fun F hE h1 h2 =>
    h.mono ⟨F, hE⟩ (fun _ hp => h1 ▸ hp) (fun _ hp => h2 ▸ hp)
  have hexit : ∀ {t : StartState} w F, t.events = s.events ++ F →
      t.insertPoller = (s.setPoller w .exited).insertPoller →
      t.groupPoller = (s.setPoller w .exited).groupPoller → PollersOwn si t := fun w F hE h1 h2 =>
    h.mono ⟨F, hE⟩ (fun _ hp => setPoller_exited_polling.1 (h1 ▸ hp))
      (fun _ hp => setPoller_exited_polling.2 (h2 ▸ hp))
  cases hs with
  | insertFail e hm => exact hgrow _ rfl rfl rfl
  | insertOk op hm =>
    refine ⟨fun op' hp => ?_, fun op' hp => ?_⟩
    · cases hp
      exact ⟨op, rfl, by simp [hi.name]⟩
    · obtain ⟨o, rfl, link, hmem⟩ := h.group op' hp
      exact ⟨o, rfl, link, mem_append_left _ hmem⟩
  | poll w op reply hp =>
    have hmove : ∀ op', s.pollNext w op reply = .polling op' → s.poller w = .polling op' :=
      fun op' h' => (pollNext_polling h') ▸ hp
    cases w
    · exact h.mono ⟨_, rfl⟩ hmove fun _ => id
    · exact h.mono ⟨_, rfl⟩ (fun _ => id) hmove
  | waitRecv w i hm hp => exact hexit w [] (by simp) rfl rfl
  | waitCtx e hm hctx => exact h.cancelled e
  | refreshFail e hm => refine PollersOwn.ret ?_ _; exact hgrow _ rfl rfl rfl
  | refreshOk r hm hr => exact hgrow _ rfl rfl rfl
  | addFail e hm => refine PollersOwn.ret ?_ _; exact hgrow _ rfl rfl rfl
  | addOk op hm =>
    refine ⟨fun op' hp => ?_, fun op' hp => ?_⟩
    · obtain ⟨o, rfl, hmem⟩ := h.insert op' hp
      exact ⟨o, rfl, mem_append_left _ hmem⟩
    · cases hp
      exact ⟨op, rfl, s.inst.selfLink, by simp⟩
  | selectInst w i hm hp => refine PollersOwn.ret ?_ _; exact hexit w [.timeBoot] (by simp) rfl rfl
  | selectErr w e hm hp => refine PollersOwn.ret ?_ _; exact hexit w [] (by simp) rfl rfl
  | selectCtx e hm hctx => exact h.cancelled e
  | cancel e hctx => exact hgrow [] (by simp) rfl rfl

end

/-! ### Every call is caused -/

section
variable {si : StartInput} {s s' : StartState}

theorem CallLog.mark {E : List Event} (h : CallLog si E) : CallLog si (E ++ [.markBootTimeout]) :=
  h.snoc trivial

theorem CallLog.ret {t : StartState} (h : CallLog si t.events) (hname : t.inst.name = si.inst.name)
    (hins : ∃ o, .instancesInsert si.inst.name (.ok o) ∈ t.events) (r : Except GoError GceInstance) :
    CallLog si (StartState.ret t r).events := by
  rw [ret_events]
  split
  · exact h.snoc ⟨hname, hins⟩
  · simpa using h

theorem CallLog.cancelled (h : CallLog si s.events) (hname : s.inst.name = si.inst.name)
    (hins : ∃ o, .instancesInsert si.inst.name (.ok o) ∈ s.events) (e : CtxErr) :
    CallLog si (s.cancelled e).events := by
  obtain ⟨o, ho⟩ := hins
  rw [cancelled_events, ← append_assoc]
  refine CallLog.snoc ?_ ⟨hname, o, mem_append_left _ ho⟩
  split
  · exact h.mark
  · simpa using h

theorem CallLog.step (hi : StartInv si s) (ho : PollersOwn si s) (h : CallLog si s.events)
    (hs : StartStep si s s') : CallLog si s'.events := by
  have hname := hi.name
  cases hs with
  | insertFail e hm => exact h.snoc ⟨hname, (hi.inserting hm).events⟩
  | insertOk op hm => exact h.snoc ⟨hname, (hi.inserting hm).events⟩
  | poll w op reply hp =>
    rw [setPoller_events]
    refine h.snoc ?_
    cases w
    · obtain ⟨o, rfl, hmem⟩ := ho.insert op hp
      exact ⟨o, rfl, .inl hmem⟩
    · obtain ⟨o, rfl, hmem⟩ := ho.group op hp
      exact ⟨o, rfl, .inr hmem⟩
  | waitRecv w i hm hp => simpa using h
  | waitCtx e hm hctx => exact h.cancelled hname (hi.inserted (.inl hm)) e
  | refreshFail e hm =>
    refine CallLog.ret ?_ ?_ ?_ _
    exacts [h.snoc ⟨hname, (hi.refreshing hm).insertDone⟩, hname, by simpa using hi.inserted (.inr (.inl hm))]
  | refreshOk r hm hr => exact h.snoc ⟨hname, (hi.refreshing hm).insertDone⟩
  | addFail e hm =>
    obtain ⟨op, o, -, htr⟩ := (hi.adding hm).refreshed
    refine CallLog.ret ?_ ?_ ?_ _
    exacts [h.snoc ⟨rfl, s.inst, htr.subset (by simp), rfl⟩, hname,
      by simpa using hi.inserted (.inr (.inr (.inl hm)))]
  | addOk op hm =>
    obtain ⟨op, o, -, htr⟩ := (hi.adding hm).refreshed
    exact h.snoc ⟨rfl, s.inst, htr.subset (by simp), rfl⟩
  | selectInst w i hm hp =>
    refine CallLog.ret ?_ ?_ ?_ _
    exacts [h.snoc trivial, by simpa using hname, by simpa using hi.inserted (.inr (.inr (.inr hm)))]
  | selectErr w e hm hp =>
    refine CallLog.ret ?_ ?_ ?_ _
    exacts [by simpa using h, by simpa using hname,
      by simpa using hi.inserted (.inr (.inr (.inr hm)))]
  | selectCtx e hm hctx => exact h.cancelled hname (hi.inserted (.inr (.inr (.inr hm)))) e
  | cancel e hctx => exact h

end

/-- Every call of every run of `Start` is caused by the calls before it: the insert comes first, and
every later call, after the return as well, is about what this `Start` inserted or was returned. -/
theorem start_calls_caused {si : StartInput} {s : StartState} (h : StartReachable si s) :
    CallLog si s.events := by
  have hboth : PollersOwn si s ∧ CallLog si s.events := by
    induction h with
    | refl => exact ⟨⟨nofun, nofun⟩, .nil⟩
    | tail hr hs ih =>
      exact ⟨ih.1.step (startInv_reachable hr) hs, ih.2.step (startInv_reachable hr) ih.1 hs⟩
  exact hboth.2

theorem joinedRun_calls_caused : CallLog groupInput joinedRun.events :=
  start_calls_caused joinedRun_reachable

/-! ### The metrics -/

/-- Whether an event is a metric mark rather than a cloud call. -/
@[simp] def Event.isMark : Event → Bool
  | .markBootTimeout => true
  | .timeBoot => true
  | _ => false

/-- The metric marks of a log, in order. -/
def marks (E : List Event) : List Event := E.filter Event.isMark

@[simp] theorem marks_nil : marks [] = [] := rfl

@[simp] theorem marks_append (E F : List Event) : marks (E ++ F) = marks E ++ marks F :=
  filter_append E F

@[simp] theorem marks_cons (e : Event) (E : List Event) :
    marks (e :: E) = if e.isMark then e :: marks E else marks E := by
  cases e <;> rfl

theorem marks_ret (t : StartState) (r : Except GoError GceInstance) :
    marks (StartState.ret t r).events = marks t.events := by
  rw [ret_events]
  split <;> simp

/-- The marks made by `m`: the boot timeout for `DeadlineExceeded`, the boot time for an instance. -/
def bootMarks : Main → List Event
  | .returned (.ok _) => [.timeBoot]
  | .returned (.error e) => if e = .ctx .deadlineExceeded then [.markBootTimeout] else []
  | .inserting | .waitReady | .refreshing | .adding | .selecting => []

section
variable {si : StartInput} {s s' : StartState}

theorem marks_step (hi : StartInv si s) (h : marks s.events = bootMarks s.main)
    (hs : StartStep si s s') : marks s'.events = bootMarks s'.main := by
  cases hs with
  | insertFail e hm => simpa [hm, bootMarks] using h
  | insertOk op hm =>
    rw [hm] at h
    split <;> simpa [bootMarks] using h
  | poll w op reply hp => simpa using h
  | waitRecv w i hm hp => simpa [hm, bootMarks] using h
  | waitCtx e hm hctx =>
    rw [hm] at h
    cases e <;> simpa [cancelled_events, bootMarks] using h
  | refreshFail e hm => simpa [marks_ret, hm, bootMarks] using h
  | refreshOk r hm hr => simpa [hm, bootMarks] using h
  | addFail e hm => simpa [marks_ret, hm, bootMarks] using h
  | addOk op hm => simpa [hm, bootMarks] using h
  | selectInst w i hm hp => simpa [marks_ret, hm, bootMarks] using h
  | selectErr w e hm hp =>
    have he := hi.selectErr hm hp .deadlineExceeded
    simpa [marks_ret, hm, bootMarks, he] using h
  | selectCtx e hm hctx =>
    rw [hm] at h
    cases e <;> simpa [cancelled_events, bootMarks] using h
  | cancel e hctx => exact h

end

/-- The metrics of every run of `Start`: the boot timeout is marked once, exactly when it returned
`DeadlineExceeded`, the boot time once, exactly when it returned an instance, and nothing else. -/
theorem start_marks {si : StartInput} {s : StartState} (h : StartReachable si s) :
    marks s.events = bootMarks s.main := by
  have hboth : StartInv si s ∧ marks s.events = bootMarks s.main := by
    induction h with
    | refl => exact ⟨startInv_init si, rfl⟩
    | tail _ hs ih => exact ⟨ih.1.step hs, marks_step ih.1 ih.2 hs⟩
  exact hboth.2

theorem joinedRun_marks : marks joinedRun.events = bootMarks joinedRun.main :=
  start_marks joinedRun_reachable

/-! ### The handle -/

/-- A returned handle is the inserted instance's, with `travis`, the project and the image. -/
def HandleInv (si : StartInput) (s : StartState) : Prop :=
  ∀ gi, s.main = .returned (.ok gi) → gi = ⟨gi.inst, "travis", si.projectID, si.image.name⟩ ∧
    gi.inst.name = si.inst.name ∧ (si.instanceGroup = "" → gi.inst = si.inst)

theorem HandleInv.step {si : StartInput} {s s' : StartState} (hi : StartInv si s)
    (h : HandleInv si s) (hs : StartStep si s s') : HandleInv si s' := by
  intro gi hr
  cases hs with
  | poll w op reply hp => exact h gi (by simpa using hr)
  | selectInst w i hm hp =>
    cases hr
    exact ⟨rfl, hi.selectInst hm hp⟩
  | cancel e hctx => exact h gi hr
  | insertOk op hm => split at hr <;> cases hr
  | _ => cases hr

theorem handleInv_reachable {si : StartInput} {s : StartState} (h : StartReachable si s) :
    HandleInv si s := by
  have hboth : StartInv si s ∧ HandleInv si s := by
    induction h with
    | refl => exact ⟨startInv_init si, nofun⟩
    | tail _ hs ih => exact ⟨ih.1.step hs, ih.2.step ih.1 hs⟩
  exact hboth.2

section
variable (devstorageFullControlScope computeScope : String)

/-- `Start` up to `Instances.Insert` (lines 410-428): the image, the startup script, the instance;
`none` where Go dereferences a nil image or what `Setup` has not resolved. -/
def startInput (p : GceProvider) (toUpper : String → String) (images : Catalogue)
    (attrs : StartAttributes) (uuid : String) : Except GoError (Option StartInput) :=
  (getImage p toUpper images attrs).map fun image? => do
    let image ← image?
    let inst ← buildInstance devstorageFullControlScope computeScope p attrs image.selfLink
      (gceStartupScript p.ic) uuid
    p.ic.zone.map fun _ => ⟨p.projectID, p.instanceGroup, image, inst⟩

end

theorem startInput_eq_some {scope₁ scope₂ : String} {p : GceProvider} {toUpper : String → String}
    {images : Catalogue} {attrs : StartAttributes} {uuid : String} {si : StartInput}
    (h : startInput scope₁ scope₂ p toUpper images attrs uuid = .ok (some si)) :
    ∃ image, getImage p toUpper images attrs = .ok (some image) ∧ si.projectID = p.projectID ∧
      si.instanceGroup = p.instanceGroup ∧ si.image = image ∧
      buildInstance scope₁ scope₂ p attrs image.selfLink (gceStartupScript p.ic) uuid =
        some si.inst := by
  unfold startInput at h
  cases hg : getImage p toUpper images attrs with
  | error e => simp [hg, Except.map] at h
  | ok image? =>
    simp only [hg, Except.map, Except.ok.injEq, Option.bind_eq_bind, Option.bind_eq_some,
      Option.map_eq_some'] at h
    obtain ⟨image, rfl, inst, hb, -, -, rfl⟩ := h
    exact ⟨image, rfl, rfl, rfl, rfl, hb⟩

/-- Every handle `Start` returns is that of the inserted instance and of the image `getImage` picked,
with ID `testing-gce-<uuid>:<image name>`: on the plain path the instance as built, with no
address yet; on the group path the record `Instances.Get` answered. -/
theorem start_handle (scope₁ scope₂ : String) (p : GceProvider) (toUpper : String → String)
    (images : Catalogue) (attrs : StartAttributes) (uuid : String) (si : StartInput)
    (s : StartState) (gi : GceInstance)
    (hsi : startInput scope₁ scope₂ p toUpper images attrs uuid = .ok (some si))
    (h : StartReachable si s) (hret : s.main = .returned (.ok gi)) :
    ∃ image, getImage p toUpper images attrs = .ok (some image) ∧
      gi = ⟨gi.inst, "travis", p.projectID, image.name⟩ ∧
      gi.id = "testing-gce-" ++ uuid ++ ":" ++ image.name ∧
      (si.instanceGroup = "" →
        buildInstance scope₁ scope₂ p attrs image.selfLink (gceStartupScript p.ic) uuid =
          some gi.inst ∧ getIP gi.inst = "") ∧
      (si.instanceGroup ≠ "" → .instancesGet gi.inst.name (.ok gi.inst) ∈ s.events) := by
  obtain ⟨image, hg, hpid, -, rfl, hb⟩ := startInput_eq_some hsi
  obtain ⟨hgi, hname, hplain⟩ := handleInv_reachable h gi hret
  obtain ⟨hip, hbname⟩ := buildInstance_getIP scope₁ scope₂ p attrs _ _ uuid si.inst hb
  refine ⟨si.image, hg, hpid ▸ hgi, ?_, fun hgrp => ?_, fun hgrp => ?_⟩
  · rw [GceInstance.id, hname, hbname, hgi]
  · rw [hplain hgrp]
    exact ⟨hb, hip⟩
  · obtain ⟨-, -, -, -, hjoined⟩ := ((startInv_reachable h).returned hret).ok gi rfl
    obtain ⟨_, _, _, _, -, -, hjoin⟩ := hjoined hgrp
    rw [hname]
    exact hjoin.subset (by simp [joinTrace])

/-- `requiredProvider` once `Setup` has resolved its zone, machine type and network. -/
def setUpProvider : GceProvider :=
  (setup (fun _ z => .ok ⟨z, "zones/" ++ z⟩) (fun _ _ m => .ok ⟨m, "machineTypes/" ++ m⟩)
    (fun _ n => .ok ⟨n, "networks/" ++ n⟩) requiredProvider).1

/-- The one image of `rubyImages`. -/
def rubyImage : Image := ⟨"travis-ci-ruby-1", "images/travis-ci-ruby-1"⟩

/-- A catalogue listing `rubyImage` for every filter. -/
def rubyImages : Catalogue := fun _ => .ok [rubyImage]

/-- A job asking for Ruby. -/
def rubyAttrs : StartAttributes := ⟨"ruby", "", "", "", ""⟩

/-- What `Start` is given for a Ruby job on `setUpProvider`, `uuid` being `1`. -/
def plainInput : StartInput :=
  ⟨"travis-ci", "", rubyImage, (buildInstance "devstorage" "compute" setUpProvider rubyAttrs
    rubyImage.selfLink (gceStartupScript setUpProvider.ic) "1").getD insertedVM⟩

theorem startInput_plain :
    startInput "devstorage" "compute" setUpProvider id rubyImages rubyAttrs "1" =
      .ok (some plainInput) := by
  have hget : getImage setUpProvider id rubyImages rubyAttrs = .ok (some rubyImage) := by
    rw [getImage, dif_neg (by decide)]
    simp [legacyImageSelect, candidateLangs, legacyImageLoop, imageForLanguage, imageByFilter,
      rubyImages, imagesByName]
  rw [startInput, hget]
  rfl

theorem start_handle_plain :
    ∃ s gi, startInput "devstorage" "compute" setUpProvider id rubyImages rubyAttrs "1" =
        .ok (some plainInput) ∧ StartReachable plainInput s ∧ s.main = .returned (.ok gi) ∧
      ∃ image, getImage setUpProvider id rubyImages rubyAttrs = .ok (some image) ∧
        gi = ⟨gi.inst, "travis", setUpProvider.projectID, image.name⟩ ∧
        gi.id = "testing-gce-" ++ "1" ++ ":" ++ image.name ∧
        (plainInput.instanceGroup = "" →
          buildInstance "devstorage" "compute" setUpProvider rubyAttrs image.selfLink
            (gceStartupScript setUpProvider.ic) "1" = some gi.inst ∧ getIP gi.inst = "") ∧
        (plainInput.instanceGroup ≠ "" → .instancesGet gi.inst.name (.ok gi.inst) ∈ s.events) := by
  have hrun : StartReachable plainInput _ :=
    .tail (.tail (.tail .refl (.insertOk _ (runningOp "op-1") rfl))
      (.poll _ .insert "op-1" (.ok (doneOp "op-1")) rfl)) (.selectInst _ .insert _ rfl rfl)
  exact ⟨_, _, startInput_plain, hrun, rfl, start_handle "devstorage" "compute" setUpProvider id
    rubyImages rubyAttrs "1" _ _ _ startInput_plain hrun rfl⟩

end GceBackend
