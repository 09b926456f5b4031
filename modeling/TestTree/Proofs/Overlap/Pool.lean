/-
This file defines runs that overlap, and proves that each of them runs as if it were alone.

Several runs sit in a pool and share one state. They are polled in any order, each as often as the
order says, until it is finished. The pool notes who logged what and who kept which record.

The proof simulates each run of the pool by the same run alone. While a run waits, the state of
the pool is the same to it as the state in which it would wait alone, because every edit that
others make in between leaves alone the variables that it checks. So its next poll makes the same
edit to both states.
-/

import TestTree.Proofs.Overlap.Variables
import Mathlib.Logic.Function.Basic

namespace TestTree

open Future

/-! ### Pools -/

/-- Where a run stands: how its last poll ended, how often it was polled, and which signals it
sent. A run that was not polled yet waits for its first poll. -/
structure Seat (Value : Type) where
  progress : Progress Shared Value
  polls : Nat
  signals : List Signal

/-- Runs on one shared state, with the entries of its log and its records in the order in which
they were added, each under the run that added it. -/
structure Pool (Index : Type) (Value : Index → Type) where
  shared : Shared
  seats : (index : Index) → Seat (Value index)
  log : List (Index × String)
  inner : List (Index × RunRecord)

namespace Pool

variable {Index : Type} {Value : Index → Type}

/-- Nobody was polled yet. -/
def opened (futures : (index : Index) → Future Shared (Value index)) (shared : Shared) :
    Pool Index Value :=
  ⟨shared, fun index => ⟨.pending (futures index), 0, []⟩, [], []⟩

variable [DecidableEq Index]

/-- Poll a run once. Nothing happens if it is finished. -/
def poll (pool : Pool Index Value) (index : Index) : Pool Index Value :=
  let seat := pool.seats index
  match seat.progress with
  | .ready _ => pool
  | .unwound _ => pool
  | .pending rest =>
    let polled := rest.poll pool.shared
    { shared := polled.state
      seats := Function.update pool.seats index
        ⟨polled.progress, seat.polls + 1, seat.signals ++ polled.signals⟩
      log := pool.log ++ (polled.state.log.drop pool.shared.log.length).map (Prod.mk index)
      inner := pool.inner ++
        (polled.state.inner.drop pool.shared.inner.length).map (Prod.mk index) }

/-- Poll runs in an order. -/
def pollAll (pool : Pool Index Value) (order : List Index) : Pool Index Value :=
  order.foldl poll pool

/-- The entries that belong to a run. -/
def only {Entry : Type} (index : Index) (entries : List (Index × Entry)) : List Entry :=
  (entries.filter fun entry => entry.1 = index).map Prod.snd

theorem only_append {Entry : Type} (index : Index) (first second : List (Index × Entry)) :
    only index (first ++ second) = only index first ++ only index second := by
  rw [only, List.filter_append, List.map_append]
  rfl

theorem only_map_self {Entry : Type} (index : Index) (entries : List Entry) :
    only index (entries.map (Prod.mk index)) = entries := by
  unfold only
  rw [List.filter_eq_self.mpr, List.map_map]
  · exact List.map_id entries
  · intro entry member
    obtain ⟨_, _, rfl⟩ := List.mem_map.mp member
    exact decide_eq_true rfl

theorem only_map_of_ne {Entry : Type} {index other : Index} (different : other ≠ index)
    (entries : List Entry) : only index (entries.map (Prod.mk other)) = [] := by
  unfold only
  rw [List.filter_eq_nil_iff.mpr, List.map_nil]
  intro entry member
  obtain ⟨_, _, rfl⟩ := List.mem_map.mp member
  simpa using different

/-- A run of the pool ended as it ends alone, and what it left is what it leaves alone. -/
structure Finished (pool : Pool Index Value) (index : Index)
    (alone : Completed Shared (Value index)) (start : Shared) : Prop where
  result : (pool.seats index).progress = .of alone.result
  polls : (pool.seats index).polls = alone.polls
  signals : (pool.seats index).signals = alone.signals
  log : alone.state.log = start.log ++ only index pool.log
  inner : alone.state.inner = start.inner ++ only index pool.inner

/-- After so many turns a run of the pool is as far as it would be alone: it still waits, and each
turn was a poll, or it is finished. -/
structure AsAlone (pool : Pool Index Value) (index : Index)
    (alone : Completed Shared (Value index)) (start : Shared) (turns : Nat) : Prop where
  waiting : turns < alone.polls →
    (pool.seats index).polls = turns ∧ ∃ rest, (pool.seats index).progress = .pending rest
  finished : alone.polls ≤ turns → pool.Finished index alone start

end Pool

/-! ### The simulation -/

/-- What a run comes to if the rest of it runs alone, from the state in which it stands alone. -/
def Seat.complete {Value : Type} (seat : Seat Value) (alone : Shared) : Completed Shared Value :=
  match seat.progress with
  | .ready value => ⟨seat.signals, alone, .ok value, seat.polls - 1⟩
  | .unwound payload => ⟨seat.signals, alone, .error payload, seat.polls - 1⟩
  | .pending rest =>
    let completed := rest.complete alone
    ⟨seat.signals ++ completed.signals, completed.state, completed.result,
      seat.polls + completed.suspensions⟩

/-- A seat after one more poll comes to the same. -/
theorem Seat.complete_poll {Value : Type} {seat : Seat Value} {rest : Future Shared Value}
    (waits : seat.progress = .pending rest) (alone : Shared) :
    Seat.complete ⟨(rest.poll alone).progress, seat.polls + 1,
        seat.signals ++ (rest.poll alone).signals⟩ (rest.poll alone).state =
      seat.complete alone := by
  unfold Seat.complete
  simp only [waits]
  rw [complete_eq_poll rest alone]
  unfold Polled.complete
  cases (rest.poll alone).progress with
  | ready value => rfl
  | unwound payload => rfl
  | pending last =>
    simp only [List.append_assoc, Completed.mk.injEq, true_and]
    omega

namespace Pool

variable {Index : Type} {Value : Index → Type} [DecidableEq Index]

/-- A run of the pool is simulated by the run alone, which stands in the state that is given. -/
structure Follows (pool : Pool Index Value) (index : Index) (footprint : Footprint Shared)
    (future : Future Shared (Value index)) (start : Shared) (turns : Nat) (alone : Shared) :
    Prop where
  complete : (pool.seats index).complete alone = future.complete start
  log : alone.log = start.log ++ only index pool.log
  inner : alone.inner = start.inner ++ only index pool.inner
  waiting : ∀ rest, (pool.seats index).progress = .pending rest →
    rest.Steady footprint ∧ footprint.Agree pool.shared alone ∧ (pool.seats index).polls = turns
  finished : ∀ result, (pool.seats index).progress = .of result →
    0 < (pool.seats index).polls ∧ (pool.seats index).polls ≤ turns

/-- Every run of the pool is simulated by itself alone, after so many turns each, and everything
that was added to the shared log and to the records was added by one of them. -/
structure Simulated (pool : Pool Index Value) (checks changes : Index → String → Prop)
    (futures : (index : Index) → Future Shared (Value index)) (start : Shared)
    (turns : Index → Nat) : Prop where
  log : pool.shared.log = start.log ++ pool.log.map Prod.snd
  inner : pool.shared.inner = start.inner ++ pool.inner.map Prod.snd
  runs : ∀ index, ∃ alone, pool.Follows index
    (Shared.footprint (checks index) (changes index)) (futures index) start (turns index) alone

/-! ### Steps -/

/-- The pool after a poll of a run that edited the state, added texts to the log, and kept
records. -/
def advanced (pool : Pool Index Value) (index : Index) (edit : Shared → Shared)
    (seat : Seat (Value index)) (texts : List String) (records : List RunRecord) :
    Pool Index Value :=
  ⟨edit pool.shared, Function.update pool.seats index seat,
    pool.log ++ texts.map (Prod.mk index), pool.inner ++ records.map (Prod.mk index)⟩

theorem poll_of_finished {pool : Pool Index Value} {index : Index}
    {result : Except Payload (Value index)}
    (finished : (pool.seats index).progress = .of result) : pool.poll index = pool := by
  unfold poll
  cases result <;> simp only [finished, Progress.of]

theorem poll_of_pending {pool : Pool Index Value} {index : Index}
    {rest : Future Shared (Value index)} {edit : Shared → Shared} {signals : List Signal}
    {progress : Progress Shared (Value index)} {texts : List String} {records : List RunRecord}
    (waits : (pool.seats index).progress = .pending rest)
    (polled : rest.poll pool.shared = ⟨signals, edit pool.shared, progress⟩)
    (logged : (edit pool.shared).log = pool.shared.log ++ texts)
    (kept : (edit pool.shared).inner = pool.shared.inner ++ records) :
    pool.poll index = pool.advanced index edit ⟨progress, (pool.seats index).polls + 1,
      (pool.seats index).signals ++ signals⟩ texts records := by
  unfold poll advanced
  simp only [waits, polled, logged, kept, List.drop_left]

section

variable {pool : Pool Index Value} {index : Index} {checks changes : String → Prop}
  {future : Future Shared (Value index)} {start alone : Shared} {turns : Nat}

/-- A finished run stays as it is, however often its turn comes. -/
theorem Follows.later {result : Except Payload (Value index)}
    (follows : pool.Follows index (Shared.footprint checks changes) future start turns alone)
    (finished : (pool.seats index).progress = .of result) :
    pool.Follows index (Shared.footprint checks changes) future start (turns + 1) alone where
  complete := follows.complete
  log := follows.log
  inner := follows.inner
  waiting rest waits := by
    rw [finished] at waits
    cases result <;> cases waits
  finished result ended :=
    ⟨(follows.finished result ended).1, Nat.le_succ_of_le (follows.finished result ended).2⟩

variable {edit : Shared → Shared} {texts : List String} {records : List RunRecord}

/-- The run that is polled makes the same edit alone. -/
theorem Follows.advanced_self {rest : Future Shared (Value index)} {signals : List Signal}
    {progress : Progress Shared (Value index)}
    (follows : pool.Follows index (Shared.footprint checks changes) future start turns alone)
    (waits : (pool.seats index).progress = .pending rest) (edits : Shared.Edits changes edit)
    (polled : rest.poll pool.shared = ⟨signals, edit pool.shared, progress⟩)
    (polledAlone : rest.poll alone = ⟨signals, edit alone, progress⟩)
    (logged : ∀ shared, (edit shared).log = shared.log ++ texts)
    (kept : ∀ shared, (edit shared).inner = shared.inner ++ records) :
    (pool.advanced index edit ⟨progress, (pool.seats index).polls + 1,
      (pool.seats index).signals ++ signals⟩ texts records).Follows index
        (Shared.footprint checks changes) future start (turns + 1) (edit alone) := by
  obtain ⟨steady, same, polls⟩ := follows.waiting rest waits
  have seat : (pool.advanced index edit ⟨progress, (pool.seats index).polls + 1,
      (pool.seats index).signals ++ signals⟩ texts records).seats index =
      ⟨progress, (pool.seats index).polls + 1, (pool.seats index).signals ++ signals⟩ :=
    Function.update_self _ _ _
  refine ⟨?_, ?_, ?_, ?_, ?_⟩
  · have completed := Seat.complete_poll waits alone
    rw [polledAlone] at completed
    rw [seat, completed, follows.complete]
  · show _ = start.log ++ only index (pool.log ++ _)
    rw [logged, follows.log, only_append, only_map_self, List.append_assoc]
  · show _ = start.inner ++ only index (pool.inner ++ _)
    rw [kept, follows.inner, only_append, only_map_self, List.append_assoc]
  · intro last waiting
    rw [seat] at waiting ⊢
    have ended : (rest.poll pool.shared).progress = .pending last := by
      rw [polled]
      exact waiting
    exact ⟨steady.later ended, (Shared.footprint checks changes).agree_edit same edits,
      congrArg Nat.succ polls⟩
  · intro result _
    rw [seat, polls]
    exact ⟨Nat.succ_pos turns, Nat.le_refl _⟩

/-- A run does not see that another one is polled. -/
theorem Follows.advanced_other {others : String → Prop} {other : Index}
    {seat : Seat (Value other)}
    (follows : pool.Follows index (Shared.footprint checks changes) future start turns alone)
    (different : index ≠ other) (apart : ∀ name, checks name → ¬ others name)
    (edits : Shared.Edits others edit) :
    (pool.advanced other edit seat texts records).Follows index
      (Shared.footprint checks changes) future start turns alone := by
  have same : (pool.advanced other edit seat texts records).seats index = pool.seats index :=
    Function.update_of_ne different _ _
  refine ⟨?_, ?_, ?_, ?_, ?_⟩
  · rw [same, follows.complete]
  · show _ = start.log ++ only index (pool.log ++ _)
    rw [only_append, only_map_of_ne different.symm, List.append_nil, follows.log]
  · show _ = start.inner ++ only index (pool.inner ++ _)
    rw [only_append, only_map_of_ne different.symm, List.append_nil, follows.inner]
  · intro rest waits
    rw [same] at waits ⊢
    obtain ⟨steady, agrees, polls⟩ := follows.waiting rest waits
    exact ⟨steady, Shared.agree_of_edits apart agrees edits, polls⟩
  · intro result ended
    rw [same] at ended ⊢
    exact follows.finished result ended

end

section

variable {pool : Pool Index Value} {checks changes : Index → String → Prop}
  {futures : (index : Index) → Future Shared (Value index)} {start : Shared}
  {turns : Index → Nat}

/-- Polling a run takes it one step further in its simulation and leaves the others where they
are. -/
theorem Simulated.poll
    (apart : ∀ index other, index ≠ other → ∀ name, checks index name → ¬ changes other name)
    (simulated : pool.Simulated checks changes futures start turns) (chosen : Index) :
    (pool.poll chosen).Simulated checks changes futures start
      fun index => turns index + if chosen = index then 1 else 0 := by
  obtain ⟨chosenAlone, chosenFollows⟩ := simulated.runs chosen
  have finished : ∀ result, (pool.seats chosen).progress = .of result →
      (pool.poll chosen).Simulated checks changes futures start
        fun index => turns index + if chosen = index then 1 else 0 := by
    intro result ended
    rw [poll_of_finished ended]
    refine ⟨simulated.log, simulated.inner, fun index => ?_⟩
    by_cases same : chosen = index
    · subst same
      rw [if_pos rfl]
      exact ⟨chosenAlone, chosenFollows.later ended⟩
    · rw [if_neg same]
      exact simulated.runs index
  cases progress : (pool.seats chosen).progress with
  | ready value => exact finished (.ok value) progress
  | unwound payload => exact finished (.error payload) progress
  | pending rest =>
    obtain ⟨steady, agrees, _⟩ := chosenFollows.waiting rest progress
    obtain ⟨edit, signals, ended, edits, polled, polledAlone⟩ := steady.alike _ _ agrees
    obtain ⟨texts, logged⟩ := edits.log
    obtain ⟨records, kept⟩ := edits.inner
    rw [poll_of_pending progress polled (logged _) (kept _)]
    refine ⟨?_, ?_, fun index => ?_⟩
    · show (edit pool.shared).log = _ ++ (pool.log ++ texts.map (Prod.mk chosen)).map Prod.snd
      rw [logged, simulated.log, List.map_append, List.map_map, List.append_assoc]
      exact congrArg _ (congrArg _ (List.map_id texts).symm)
    · show (edit pool.shared).inner = _ ++ (pool.inner ++ records.map (Prod.mk chosen)).map Prod.snd
      rw [kept, simulated.inner, List.map_append, List.map_map, List.append_assoc]
      exact congrArg _ (congrArg _ (List.map_id records).symm)
    · by_cases same : chosen = index
      · subst same
        rw [if_pos rfl]
        exact ⟨edit chosenAlone,
          chosenFollows.advanced_self progress edits polled polledAlone logged kept⟩
      · rw [if_neg same]
        obtain ⟨alone, follows⟩ := simulated.runs index
        exact ⟨alone, follows.advanced_other (Ne.symm same) (apart index chosen (Ne.symm same))
          edits⟩

/-- In whichever order runs are polled, each is simulated by itself alone. -/
theorem Simulated.pollAll
    (apart : ∀ index other, index ≠ other → ∀ name, checks index name → ¬ changes other name)
    (simulated : pool.Simulated checks changes futures start turns) (order : List Index) :
    (pool.pollAll order).Simulated checks changes futures start
      fun index => turns index + order.count index := by
  induction order generalizing pool turns with
  | nil => exact simulated
  | cons chosen rest inductionHypothesis =>
    have next := inductionHypothesis (simulated.poll apart chosen)
    have counted : (fun index => turns index + (if chosen = index then 1 else 0) +
        rest.count index) = fun index => turns index + (chosen :: rest).count index := by
      funext index
      rw [List.count_cons]
      simp only [beq_iff_eq]
      omega
    rw [counted] at next
    exact next

end

/-! ### Runs as if alone -/

theorem simulated_opened {checks changes : Index → String → Prop}
    {futures : (index : Index) → Future Shared (Value index)}
    (steady : ∀ index, (futures index).Steady
      (Shared.footprint (checks index) (changes index))) (start : Shared) :
    (opened futures start).Simulated checks changes futures start fun _ => 0 := by
  refine ⟨(List.append_nil start.log).symm, (List.append_nil start.inner).symm, fun index => ?_⟩
  refine ⟨start, ?_, (List.append_nil start.log).symm, (List.append_nil start.inner).symm, ?_, ?_⟩
  · show Completed.mk ([] ++ _) _ _ (0 + _) = _
    rw [List.nil_append, Nat.zero_add]
  · rintro _ ⟨⟩
    exact ⟨steady index, (Shared.footprint _ _).agree_refl start, rfl⟩
  · intro result ended
    cases result <;> cases ended

/-- What is simulated by itself alone is as far as it would be alone. -/
theorem Follows.asAlone {pool : Pool Index Value} {index : Index} {footprint : Footprint Shared}
    {future : Future Shared (Value index)} {start alone : Shared} {turns : Nat}
    (follows : pool.Follows index footprint future start turns alone) :
    pool.AsAlone index (future.complete start) start turns := by
  have complete := follows.complete
  unfold Seat.complete at complete
  have finished : ∀ result, (pool.seats index).progress = .of result →
      future.complete start = ⟨(pool.seats index).signals, alone, result,
        (pool.seats index).polls - 1⟩ →
      pool.AsAlone index (future.complete start) start turns := by
    intro result ended completed
    obtain ⟨positive, polls⟩ := follows.finished result ended
    have count : (pool.seats index).polls = (future.complete start).polls := by
      rw [completed]
      exact (Nat.sub_add_cancel positive).symm
    refine ⟨fun waiting => ?_, fun _ => ?_⟩
    · omega
    · refine ⟨?_, count, ?_, ?_, ?_⟩
      · rw [ended, completed]
      · rw [completed]
      · rw [completed]
        exact follows.log
      · rw [completed]
        exact follows.inner
  cases progress : (pool.seats index).progress with
  | ready value =>
    rw [progress] at complete
    exact finished (.ok value) progress complete.symm
  | unwound payload =>
    rw [progress] at complete
    exact finished (.error payload) progress complete.symm
  | pending rest =>
    rw [progress] at complete
    obtain ⟨_, _, polls⟩ := follows.waiting rest progress
    have more : turns < (future.complete start).polls := by
      rw [← complete, ← polls]
      exact Nat.lt_succ_of_le (Nat.le_add_right _ _)
    exact ⟨fun _ => ⟨polls, rest, progress⟩, fun ended => absurd ended (Nat.not_le_of_lt more)⟩

end Pool

end TestTree
