/-
This file finds the footprints of scripts.

What a script looks at and what it does can be read off its steps. A run that is awaited inside an
action looks at and does what its own actions do, so its steps are among those that the action
leads to.
-/

import TestTree.Proofs.Overlap.Execution
import TestTree.Proofs.Overlap.Variables
import TestTree.Script.Plan

namespace TestTree

/-! ### Steps -/

/-- The steps that a behaviour can lead to by itself. -/
def Behaviour.steps (behaviour : Behaviour) : List Step :=
  behaviour.start ++ behaviour.calls.flatten

/-- The steps of all actions of a suite. -/
def Suite.steps (suite : Suite Behaviour) : List Step :=
  suite.root.actions.flatMap Behaviour.steps

/-- The steps of all actions that a plan registers. -/
def Plan.steps (plan : Plan) : List Step :=
  match (Statement.session plan.body).outcome with
  | .ok suite => suite.steps
  | .error _ => []

/-- The step checks only some variables and changes only some, and so does every step of a run
that it awaits. -/
inductive Step.Within (checks changes : String → Prop) : Step → Prop where
  | log (text : String) : Within checks changes (.log text)
  | add (name : String) (amount : Int) (changed : changes name) :
      Within checks changes (.add name amount)
  | check (name : String) (expected : Int) (checked : checks name) :
      Within checks changes (.check name expected)
  | compare (left right : Int) : Within checks changes (.compare left right)
  | fail (complaint : Complaint) : Within checks changes (.fail complaint)
  | succeed : Within checks changes .succeed
  | suspend (times : Nat) : Within checks changes (.suspend times)
  | await (plan : Plan) (steps : ∀ step ∈ plan.steps, Within checks changes step) :
      Within checks changes (.await plan.nested)
  | panic (cause : Panic) : Within checks changes (.panic cause)

/-- What a step does at once is steady, and so is everything that it waits for. -/
structure Step.Steady (footprint : Footprint Shared) (step : Step) : Prop where
  perform : step.perform.Steady footprint
  awaited : ∀ other, step = .await other → ∀ driven, (other driven).Steady footprint

/-- A check of a variable ends in the same way wherever the variable has the same value. -/
theorem Step.steady_check {checks changes : String → Prop} {name : String}
    (checked : checks name) (expected : Int) :
    (Step.check name expected).perform.Steady (Shared.footprint checks changes) := by
  intro one other same
  have value : one.value name = other.value name := same name checked
  show ∃ edit signals result, _ ∧
    (if one.value name = expected then pure none else Immediate.panic _ : Immediate Shared _).run
      one = _ ∧
    (if other.value name = expected then pure none else Immediate.panic _ : Immediate Shared _).run
      other = _
  rw [value]
  by_cases met : other.value name = expected
  · rw [if_pos met]
    exact Immediate.Steady.pure none one other same
  · rw [if_neg met]
    exact Immediate.Steady.panic _ one other same

section

variable {footprint : Footprint Shared}

/-! ### Scripts -/

theorem Script.steady_atOnce {script : Script} (steady : ∀ step ∈ script, step.Steady footprint) :
    script.atOnce.Steady footprint := by
  induction script with
  | nil => exact .pure _
  | cons step rest inductionHypothesis =>
    rw [List.forall_mem_cons] at steady
    refine steady.1.perform.bind fun verdict => ?_
    cases verdict with
    | some verdict => exact .pure verdict
    | none => exact inductionHypothesis steady.2

theorem Script.steady_future {script : Script} (driven : Bool)
    (steady : ∀ step ∈ script, step.Steady footprint) :
    (script.future driven).Steady footprint := by
  induction script with
  | nil => exact .ready _
  | cons step rest inductionHypothesis =>
    rw [List.forall_mem_cons] at steady
    have others := inductionHypothesis steady.2
    have performed := Future.Steady.toFuture steady.1.perform
    cases step with
    | suspend times => exact (Future.Steady.suspend times).bind fun _ => others
    | await other => exact (steady.1.awaited other rfl driven).bind fun _ => others
    | _ =>
      refine performed.bind fun verdict => ?_
      cases verdict with
      | some verdict => exact .ready verdict
      | none => exact others

/-! ### Behaviours -/

namespace Behaviour

theorem mem_steps_of_script {behaviour : Behaviour} {before : Nat} {step : Step}
    (member : step ∈ behaviour.script before) : step ∈ behaviour.steps := by
  unfold script at member
  cases found : behaviour.calls[min before (behaviour.calls.length - 1)]? with
  | none =>
    rw [found] at member
    exact absurd member List.not_mem_nil
  | some script =>
    rw [found] at member
    exact List.mem_append_right _
      (List.mem_flatten.mpr ⟨script, List.mem_of_getElem? found, member⟩)

/-- The history of a run is its own, so counting a call is steady. -/
theorem steady_recount (number : Nat) :
    (recount number).Steady (footprint.beside History) := by
  rintro ⟨one, history⟩ ⟨other, _⟩ ⟨_, rfl⟩
  exact ⟨Prod.map id (List.cons number), [], .ok (history.count number),
    ⟨id, _, footprint.edit_id, rfl⟩, rfl, rfl⟩

theorem begin_eq (behaviour : Behaviour) (number : Nat) :
    behaviour.begin number = (recount number).bind fun before =>
      behaviour.start.atOnce.onFirst.bind fun _ => pure (behaviour.script before) := rfl

/-- The script of a call is one of the behaviour. -/
theorem script_of_begin {behaviour : Behaviour} {number : Nat} {state : Recounted Shared}
    {script : Script} (begun : ((behaviour.begin number).run state).result = .ok script) :
    ∃ before, script = behaviour.script before := by
  rw [begin_eq] at begun
  obtain ⟨before, _, started⟩ := Immediate.exists_of_bind begun
  obtain ⟨_, _, returned⟩ := Immediate.exists_of_bind started
  cases returned
  exact ⟨before, rfl⟩

variable {behaviour : Behaviour} (steady : ∀ step ∈ behaviour.steps, step.Steady footprint)

include steady

theorem steady_begin (number : Nat) :
    (behaviour.begin number).Steady (footprint.beside History) := by
  have start : behaviour.start.atOnce.Steady footprint :=
    Script.steady_atOnce fun step member => steady step (List.mem_append_left _ member)
  rw [begin_eq]
  exact (steady_recount number).bind fun _ => start.onFirst.bind fun _ => .pure _

/-- An action does what its steps do. -/
theorem steady_action (driven : Bool) (number : Nat) :
    (behaviour.action driven number).Steady (footprint.beside History) := by
  have script : ∀ before, ∀ step ∈ behaviour.script before, step.Steady footprint :=
    fun before step member => steady step (mem_steps_of_script member)
  have begun := steady_begin steady number
  unfold action
  by_cases blocking : behaviour.blocking = true
  · rw [if_pos blocking]
    refine ⟨.bind (begun.bind_of ?_) fun _ => .pure _, ?_⟩
    · intro state called ended
      obtain ⟨before, rfl⟩ := script_of_begin ended
      exact (Script.steady_atOnce (script before)).onFirst.bind fun _ => .pure _
    · intro state future ended
      obtain ⟨_, _, returned⟩ := Immediate.exists_of_bind ended
      cases returned
      exact .ready _
  · rw [if_neg blocking]
    refine ⟨begun.bind fun _ => .pure _, ?_⟩
    intro state future ended
    obtain ⟨called, wasBegun, returned⟩ := Immediate.exists_of_bind ended
    obtain ⟨before, rfl⟩ := script_of_begin wasBegun
    cases returned
    exact (Script.steady_future driven (script before)).onFirst.bind fun _ => .ready _

end Behaviour

/-! ### Suites and plans -/

/-- Every action that a suite of behaviours stands for does what its steps do. -/
theorem Suite.steady_scripted {suite : Suite Behaviour}
    (steady : ∀ step ∈ suite.steps, step.Steady footprint) (driven : Bool) :
    ∀ action ∈ (suite.scripted driven).root.actions,
      action.Steady (footprint.beside History) := by
  intro action member
  obtain ⟨behaviour, present, number, rfl⟩ :=
    Group.exists_of_mem_traverse suite.root 0 member
  exact Behaviour.steady_action
    (fun step stepMember => steady step (List.mem_flatMap.mpr ⟨behaviour, present, stepMember⟩))
    driven number

namespace Plan

theorem carryOn_ok (plan : Plan) (driven : Bool) (suite : Suite Behaviour) :
    plan.carryOn driven (.ok suite) =
      if plan.blocking then plan.runBlocking driven suite else plan.runPolled driven suite := rfl

theorem steady_runPolled (plan : Plan) (driven : Bool) {suite : Suite Behaviour}
    (steady : ∀ step ∈ suite.steps, step.Steady footprint) :
    (plan.runPolled driven suite).Steady footprint := by
  refine .bind (.confine [] ?_) fun _ => .ready _
  exact (plan.runner driven suite).steady_conduct (Suite.steady_scripted steady driven)

theorem steady_runBlocking (plan : Plan) (driven : Bool) {suite : Suite Behaviour}
    (steady : ∀ step ∈ suite.steps, step.Steady footprint) :
    (plan.runBlocking driven suite).Steady footprint := by
  unfold runBlocking
  cases driven with
  | true => exact .send _ (.ready _)
  | false => exact (plan.steady_runPolled true steady).uninterrupted

variable {plan : Plan} (steady : ∀ step ∈ plan.steps, step.Steady footprint)

include steady

theorem steady_conduct (driven : Bool) : (plan.conduct driven).Steady footprint := by
  have carried : (plan.carryOn driven (Statement.session plan.body).outcome).Steady footprint := by
    unfold steps at steady
    cases outcome : (Statement.session plan.body).outcome with
    | error failure => exact .ready _
    | ok suite =>
      rw [outcome] at steady
      rw [carryOn_ok]
      by_cases blocking : plan.blocking = true
      · rw [if_pos blocking]
        exact plan.steady_runBlocking driven steady
      · rw [if_neg blocking]
        exact plan.steady_runPolled driven steady
  exact .constant (carried.sendAll _)

theorem steady_nested (keeps : ∀ record, footprint.Edit fun shared => shared.keep record)
    (driven : Bool) : (plan.nested driven).Steady footprint := by
  refine (steady_conduct steady driven).bind fun record => ?_
  cases record.ending with
  | panicked payload => exact .unwind payload
  | _ => exact .modify (keeps record)

end Plan

end

/-- Whatever stays within some variables looks at nothing else and changes nothing else. -/
theorem Step.Within.steady {checks changes : String → Prop} {step : Step}
    (within : step.Within checks changes) : step.Steady (Shared.footprint checks changes) := by
  induction within with
  | log text =>
    exact ⟨(Immediate.Steady.modify (Shared.edits_note changes text)).bind fun _ => .pure _,
      fun other same => nomatch same⟩
  | add name amount changed =>
    exact ⟨(Immediate.Steady.modify (Shared.edits_add changed amount)).bind fun _ => .pure _,
      fun other same => nomatch same⟩
  | check name expected checked =>
    exact ⟨Step.steady_check checked expected, fun other same => nomatch same⟩
  | compare left right =>
    refine ⟨?_, fun other same => nomatch same⟩
    show Immediate.Steady _ (if left = right then pure none else Immediate.panic _)
    by_cases equal : left = right
    · rw [if_pos equal]
      exact .pure none
    · rw [if_neg equal]
      exact .panic _
  | fail complaint => exact ⟨.pure _, fun other same => nomatch same⟩
  | succeed => exact ⟨.pure _, fun other same => nomatch same⟩
  | suspend times => exact ⟨.pure _, fun other same => nomatch same⟩
  | await plan _ inductionHypothesis =>
    refine ⟨.pure _, fun other same driven => ?_⟩
    cases same
    exact Plan.steady_nested inductionHypothesis (Shared.edits_keep changes) driven
  | panic cause => exact ⟨.panic cause, fun other same => nomatch same⟩

end TestTree
