/-
This file says what becomes of bytes that are written to a sink.

A sink takes as much as it likes of what it is offered, and it is interrupted or fails whenever it
likes. To see what it was asked and what it answered, it is put behind a recorder, which keeps the
requests and changes nothing else. Whatever the sink does, the bytes it took are the beginning of
those that were to be written, and they are all of them if and only if the writer succeeds. The
first request that fails is the last one, and its error is the error of the writer. It does not
matter for this how the bytes are cut into texts.
-/

import TestTree.Sink.Basic

namespace TestTree

/-- The bytes of a text in its standard encoding. -/
def Text.bytes (text : String) : List UInt8 := text.toUTF8.data.toList

theorem Text.bytes_append (first second : String) :
    bytes (first ++ second) = bytes first ++ bytes second := by
  simp only [bytes, String.toUTF8, String.toByteArray_append, ByteArray.data_append,
    Array.toList_append]

/-! ### Requests -/

/-- What a sink was asked to do, and what it answered. -/
inductive Request where
  | write (offered : List UInt8) (answer : Offer)
  | flush (result : Except IoError Unit)

namespace Request

/-- The bytes that the sink took. -/
def taken : Request → List UInt8
  | .write offered (.taken count) => offered.take count
  | _ => []

/-- The bytes that the sink took in several requests. -/
def takenAll (requests : List Request) : List UInt8 := requests.flatMap taken

/-- The error with which a write ends its writer. A write that takes nothing is an error, and an
interruption is none. -/
def failure? : Request → Option IoError
  | .write _ (.taken 0) => some .nothingTaken
  | .write _ (.failed error) => some error
  | _ => none

/-- Whether something is to be written. -/
def isWrite : Request → Bool
  | .write .. => true
  | .flush _ => false

/-- A write after which its writer goes on. -/
structure Smooth (request : Request) : Prop where
  isWrite : request.isWrite = true
  failure?_eq_none : request.failure? = none

theorem takenAll_append (first second : List Request) :
    takenAll (first ++ second) = takenAll first ++ takenAll second := List.flatMap_append

/-- A write that fails took nothing. -/
theorem taken_of_failure {request : Request} {error : IoError}
    (failed : request.failure? = some error) : request.taken = [] := by
  cases request with
  | flush => rfl
  | write offered answer =>
    cases answer with
    | interrupted => rfl
    | failed => rfl
    | taken count =>
      cases count with
      | zero => exact List.take_zero (l := offered)
      | succ count => cases failed

end Request

/-! ### Writers -/

open Request

/-- How the requests of a writer and its result depend on the bytes that were to be written: all of
them were taken in smooth writes, or some were taken and the next write failed. -/
inductive Wrote (bytes : List UInt8) : List Request → Except IoError Unit → Prop where
  | whole (requests : List Request) (smooth : ∀ request ∈ requests, request.Smooth)
      (taken : takenAll requests = bytes) : Wrote bytes requests (.ok ())
  | broken (requests : List Request) (last : Request) (error : IoError) (left : List UInt8)
      (smooth : ∀ request ∈ requests, request.Smooth) (failed : last.failure? = some error)
      (missing : left ≠ []) (taken : takenAll requests ++ left = bytes) :
      Wrote bytes (requests ++ [last]) (.error error)

namespace Wrote

variable {bytes more : List UInt8} {requests others : List Request}
  {result : Except IoError Unit}

/-- There is nothing to write. -/
theorem nothing : Wrote [] [] (.ok ()) :=
  .whole [] (fun _ member => absurd member List.not_mem_nil) rfl

/-- What follows a writer that succeeded continues its requests. -/
theorem append (first : Wrote bytes requests (.ok ())) (second : Wrote more others result) :
    Wrote (bytes ++ more) (requests ++ others) result := by
  cases first with
  | whole _ smooth taken =>
    cases second with
    | whole _ alsoSmooth alsoTaken =>
      refine .whole _ (List.forall_mem_append.mpr ⟨smooth, alsoSmooth⟩) ?_
      rw [takenAll_append, taken, alsoTaken]
    | broken earlier last error left alsoSmooth failed missing alsoTaken =>
      rw [← List.append_assoc]
      refine .broken _ last error left (List.forall_mem_append.mpr ⟨smooth, alsoSmooth⟩) failed
        missing ?_
      rw [takenAll_append, taken, List.append_assoc, alsoTaken]

/-- Nothing follows a writer that failed, so its requests stand for all that was to be written. -/
theorem stop {error : IoError} (first : Wrote bytes requests (.error error))
    (more : List UInt8) : Wrote (bytes ++ more) requests (.error error) := by
  cases first with
  | broken earlier last _ left smooth failed missing taken =>
    refine .broken earlier last error (left ++ more) smooth failed ?_ ?_
    · exact fun empty => missing (List.append_eq_nil_iff.mp empty).1
    · rw [← taken, List.append_assoc]

theorem takenAll_broken {last : Request} {error : IoError} (earlier : List Request)
    (failed : last.failure? = some error) : takenAll (earlier ++ [last]) = takenAll earlier := by
  rw [takenAll_append, takenAll, takenAll, List.flatMap_singleton, taken_of_failure failed,
    List.append_nil]

/-- What was taken is the beginning of what was to be written. -/
theorem taken_isPrefix (wrote : Wrote bytes requests result) : takenAll requests <+: bytes := by
  cases wrote with
  | whole _ _ taken => exact taken ▸ List.prefix_rfl
  | broken earlier last error left _ failed _ taken =>
    rw [takenAll_broken earlier failed, ← taken]
    exact List.prefix_append _ _

/-- A writer succeeds if and only if everything was taken. -/
theorem eq_ok_iff (wrote : Wrote bytes requests result) :
    result = .ok () ↔ takenAll requests = bytes := by
  cases wrote with
  | whole _ _ taken => exact ⟨fun _ => taken, fun _ => rfl⟩
  | broken earlier last error left _ failed missing taken =>
    rw [takenAll_broken earlier failed, ← taken]
    simp only [reduceCtorEq, List.self_eq_append_right, missing]

end Wrote

/-! ### Recorders -/

namespace Sink

variable {Target : Type}

/-- The same sink behind a recorder, which keeps every request with its answer. -/
def recording (sink : Sink Target) : Sink (Target × List Request) where
  supportsColor kept := sink.supportsColor kept.1
  offer kept bytes :=
    (((sink.offer kept.1 bytes).1, kept.2 ++ [.write bytes (sink.offer kept.1 bytes).2]),
      (sink.offer kept.1 bytes).2)
  flush kept :=
    (((sink.flush kept.1).1, kept.2 ++ [.flush (sink.flush kept.1).2]), (sink.flush kept.1).2)
  patience kept := sink.patience kept.1
  offer_supportsColor kept bytes := sink.offer_supportsColor kept.1 bytes
  offer_patience kept bytes := sink.offer_patience kept.1 bytes

/-- One request of a writer with what follows it. -/
theorem writeAll_cons (sink : Sink Target) (target : Target) (first : UInt8) (rest : List UInt8) :
    sink.writeAll target (first :: rest) =
      match sink.offer target (first :: rest) with
      | (after, .taken 0) => (after, .error .nothingTaken)
      | (after, .taken (count + 1)) => sink.writeAll after (rest.drop count)
      | (after, .interrupted) => sink.writeAll after (first :: rest)
      | (after, .failed error) => (after, .error error) := by
  rw [writeAll]
  split <;> rename_i answered <;> simp only [answered]

/-- Behind a recorder, which has recorded other requests before, the outcome of a writer is the
same, and it makes the same requests whatever was recorded. -/
def Recorded (bytes : List UInt8)
    (recorded : List Request → (Target × List Request) × Except IoError Unit)
    (plain : Target × Except IoError Unit) : Prop :=
  ∃ requests, (∀ told, recorded told = ((plain.1, told ++ requests), plain.2)) ∧
    Wrote bytes requests plain.2

/-- A smooth request in front of what is recorded. -/
theorem Recorded.cons {bytes more : List UInt8} {request : Request}
    {recorded : List Request → (Target × List Request) × Except IoError Unit}
    {plain : Target × Except IoError Unit} (smooth : request.Smooth) (taken : request.taken = bytes)
    (others : Recorded more recorded plain) :
    Recorded (bytes ++ more) (fun told => recorded (told ++ [request])) plain := by
  obtain ⟨requests, same, wrote⟩ := others
  have first : Wrote bytes [request] (.ok ()) := by
    refine .whole _ (fun _ member => List.mem_singleton.mp member ▸ smooth) ?_
    rw [takenAll, List.flatMap_singleton, taken]
  refine ⟨[request] ++ requests, fun told => ?_, first.append wrote⟩
  rw [← List.append_assoc]
  exact same (told ++ [request])

/-- A write that fails is the last request. -/
theorem recorded_failed {bytes : List UInt8} {request : Request} {error : IoError} (after : Target)
    (failed : request.failure? = some error) (missing : bytes ≠ []) :
    Recorded bytes (fun told => ((after, told ++ [request]), .error error))
      (after, .error error) :=
  ⟨[request], fun _ => rfl, .broken [] request error bytes
    (fun _ member => absurd member List.not_mem_nil) failed missing rfl⟩

/-- One request of a writer behind a recorder with what follows it. -/
theorem recording_writeAll_cons (sink : Sink Target) (target : Target) (first : UInt8)
    (rest : List UInt8) :
    (fun told => sink.recording.writeAll (target, told) (first :: rest)) =
      match sink.offer target (first :: rest) with
      | (after, .taken 0) => fun told =>
        ((after, told ++ [.write (first :: rest) (.taken 0)]), .error .nothingTaken)
      | (after, .taken (count + 1)) => fun told => sink.recording.writeAll
        (after, told ++ [.write (first :: rest) (.taken (count + 1))]) (rest.drop count)
      | (after, .interrupted) => fun told => sink.recording.writeAll
        (after, told ++ [.write (first :: rest) .interrupted]) (first :: rest)
      | (after, .failed error) => fun told =>
        ((after, told ++ [.write (first :: rest) (.failed error)]), .error error) := by
  funext told
  rw [writeAll_cons]
  cases answered : sink.offer target (first :: rest) with
  | mk after answer =>
    simp only [recording, answered]
    cases answer with
    | taken count => cases count <;> rfl
    | interrupted => rfl
    | failed error => rfl

theorem recorded_writeAll (sink : Sink Target) (target : Target) (bytes : List UInt8) :
    Recorded bytes (fun told => sink.recording.writeAll (target, told) bytes)
      (sink.writeAll target bytes) := by
  -- The recursion is that of the writer: fewer bytes, or as many and less patience.
  induction target, bytes using writeAll.induct sink with
  | case1 target =>
    simp only [writeAll]
    exact ⟨[], fun told => by rw [List.append_nil], .nothing⟩
  | case2 target first rest after answered =>
    rw [recording_writeAll_cons, writeAll_cons, answered]
    exact recorded_failed after rfl (List.cons_ne_nil first rest)
  | case3 target first rest after count answered inductionHypothesis =>
    rw [recording_writeAll_cons, writeAll_cons, answered]
    have bytes_eq : (first :: rest).take (count + 1) ++ rest.drop count = first :: rest :=
      List.take_append_drop (count + 1) (first :: rest)
    have recorded := inductionHypothesis.cons
      (show (Request.write (first :: rest) (.taken (count + 1))).Smooth from ⟨rfl, rfl⟩) rfl
    rwa [Request.taken, bytes_eq] at recorded
  | case4 target first rest after answered _ inductionHypothesis =>
    rw [recording_writeAll_cons, writeAll_cons, answered]
    exact inductionHypothesis.cons
      (show (Request.write (first :: rest) .interrupted).Smooth from ⟨rfl, rfl⟩) rfl
  | case5 target first rest after error answered =>
    rw [recording_writeAll_cons, writeAll_cons, answered]
    exact recorded_failed after rfl (List.cons_ne_nil first rest)

/-- Texts are written as if they were one, whatever they are cut out of. -/
theorem recorded_writeTexts (sink : Sink Target) (target : Target) (texts : List String) :
    Recorded (texts.flatMap Text.bytes) (fun told => sink.recording.writeTexts (target, told) texts)
      (sink.writeTexts target texts) := by
  induction texts generalizing target with
  | nil =>
    simp only [writeTexts]
    exact ⟨[], fun told => by rw [List.append_nil], .nothing⟩
  | cons text rest inductionHypothesis =>
    obtain ⟨requests, same, wrote⟩ := sink.recorded_writeAll target (Text.bytes text)
    simp only [writeTexts, List.flatMap_cons, writeText, Text.bytes] at same wrote ⊢
    simp only [same]
    cases written : sink.writeAll target text.toUTF8.data.toList with
    | mk after result =>
      rw [written] at wrote
      cases result with
      | error error => exact ⟨requests, fun told => rfl, wrote.stop _⟩
      | ok _ =>
        obtain ⟨others, alsoSame, alsoWrote⟩ := inductionHypothesis after
        refine ⟨requests ++ others, fun told => ?_, wrote.append alsoWrote⟩
        rw [← List.append_assoc]
        exact alsoSame (told ++ requests)

/-! ### Texts one after another -/

theorem writeTexts_append (sink : Sink Target) (target : Target) (first second : List String) :
    sink.writeTexts target (first ++ second) =
      match sink.writeTexts target first with
      | (after, .ok ()) => sink.writeTexts after second
      | (after, .error error) => (after, .error error) := by
  induction first generalizing target with
  | nil => rfl
  | cons text rest inductionHypothesis =>
    rw [List.cons_append, writeTexts, writeTexts]
    cases sink.writeText target text with
    | mk after result =>
      cases result with
      | error error => rfl
      | ok _ => exact inductionHypothesis after

/-- What every offer keeps of a target, a writer keeps of it. -/
theorem writeAll_keeps (sink : Sink Target) {Kept : Target → Prop}
    (keeps : ∀ target bytes, Kept target → Kept (sink.offer target bytes).1) (target : Target)
    (bytes : List UInt8) (kept : Kept target) : Kept (sink.writeAll target bytes).1 := by
  induction target, bytes using writeAll.induct sink with
  | case1 target => rwa [writeAll]
  | case2 target first rest after answered =>
    have left := keeps target (first :: rest) kept
    rw [answered] at left
    rwa [writeAll_cons, answered]
  | case3 target first rest after count answered inductionHypothesis =>
    have left := keeps target (first :: rest) kept
    rw [answered] at left
    rw [writeAll_cons, answered]
    exact inductionHypothesis left
  | case4 target first rest after answered _ inductionHypothesis =>
    have left := keeps target (first :: rest) kept
    rw [answered] at left
    rw [writeAll_cons, answered]
    exact inductionHypothesis left
  | case5 target first rest after error answered =>
    have left := keeps target (first :: rest) kept
    rw [answered] at left
    rwa [writeAll_cons, answered]

/-- Writing does not change whether a target supports colors. -/
theorem supportsColor_writeTexts (sink : Sink Target) (target : Target) (texts : List String) :
    sink.supportsColor (sink.writeTexts target texts).1 = sink.supportsColor target := by
  induction texts generalizing target with
  | nil => rfl
  | cons text rest inductionHypothesis =>
    have same : sink.supportsColor (sink.writeText target text).1 = sink.supportsColor target :=
      sink.writeAll_keeps (fun before bytes kept => (sink.offer_supportsColor before bytes).trans kept)
        target (Text.bytes text) rfl
    rw [writeTexts]
    cases written : sink.writeText target text with
    | mk after result =>
      rw [written] at same
      cases result with
      | error error => exact same
      | ok _ => exact (inductionHypothesis after).trans same

/-! ### Sinks that take everything -/

/-- A sink takes everything from its open targets on, perhaps little by little and after
interruptions, and it keeps what it takes. -/
structure Accepting (sink : Sink Target) (IsOpen : Target → Prop)
    (written : Target → List UInt8) : Prop where
  smooth : ∀ {target} first rest, IsOpen target →
    (Request.write (first :: rest) (sink.offer target (first :: rest)).2).Smooth
  offer_isOpen : ∀ {target} first rest, IsOpen target →
    IsOpen (sink.offer target (first :: rest)).1
  offer_written : ∀ {target} first rest, IsOpen target →
    written (sink.offer target (first :: rest)).1 =
      written target ++ (Request.write (first :: rest) (sink.offer target (first :: rest)).2).taken
  flush_isOpen : ∀ {target}, IsOpen target → IsOpen (sink.flush target).1
  flush_written : ∀ {target}, IsOpen target → written (sink.flush target).1 = written target
  flush_ok : ∀ {target}, IsOpen target → (sink.flush target).2 = .ok ()

section Accepting

variable {sink : Sink Target} {IsOpen : Target → Prop} {written : Target → List UInt8}

/-- A writer succeeded, its target is open as before, and it has taken these bytes. -/
def Added (IsOpen : Target → Prop) (written : Target → List UInt8) (target : Target)
    (bytes : List UInt8) (ended : Target × Except IoError Unit) : Prop :=
  ended.2 = .ok () ∧ IsOpen ended.1 ∧ written ended.1 = written target ++ bytes

theorem added_writeAll (accepting : sink.Accepting IsOpen written) {target : Target}
    (isOpen : IsOpen target) (bytes : List UInt8) :
    Added IsOpen written target bytes (sink.writeAll target bytes) := by
  induction target, bytes using writeAll.induct sink with
  | case1 target =>
    rw [writeAll]
    exact ⟨rfl, isOpen, (List.append_nil _).symm⟩
  | case2 target first rest after answered =>
    have smooth := accepting.smooth first rest isOpen
    rw [answered] at smooth
    cases smooth.failure?_eq_none
  | case3 target first rest after count answered inductionHypothesis =>
    have opened := accepting.offer_isOpen first rest isOpen
    have took := accepting.offer_written first rest isOpen
    rw [answered] at opened took
    obtain ⟨succeeded, stillOpen, added⟩ := inductionHypothesis opened
    rw [writeAll_cons, answered]
    refine ⟨succeeded, stillOpen, ?_⟩
    show written (sink.writeAll after (rest.drop count)).1 = _
    rw [added, took, List.append_assoc]
    exact congrArg (written target ++ ·) (List.take_append_drop (count + 1) (first :: rest))
  | case4 target first rest after answered _ inductionHypothesis =>
    have opened := accepting.offer_isOpen first rest isOpen
    have took := accepting.offer_written first rest isOpen
    rw [answered] at opened took
    obtain ⟨succeeded, stillOpen, added⟩ := inductionHypothesis opened
    rw [writeAll_cons, answered]
    refine ⟨succeeded, stillOpen, ?_⟩
    show written (sink.writeAll after (first :: rest)).1 = _
    rw [added, took]
    exact congrArg (· ++ first :: rest) (List.append_nil (written target))
  | case5 target first rest after error answered =>
    have smooth := accepting.smooth first rest isOpen
    rw [answered] at smooth
    cases smooth.failure?_eq_none

theorem added_writeTexts (accepting : sink.Accepting IsOpen written) {target : Target}
    (isOpen : IsOpen target) (texts : List String) :
    Added IsOpen written target (texts.flatMap Text.bytes) (sink.writeTexts target texts) := by
  induction texts generalizing target with
  | nil => exact ⟨rfl, isOpen, (List.append_nil _).symm⟩
  | cons text rest inductionHypothesis =>
    obtain ⟨succeeded, opened, added⟩ := added_writeAll accepting isOpen (Text.bytes text)
    rw [writeTexts, writeText]
    rw [Text.bytes] at succeeded opened added
    cases ended : sink.writeAll target text.toUTF8.data.toList with
    | mk after result =>
      rw [ended] at succeeded opened added
      cases succeeded
      obtain ⟨alsoSucceeded, stillOpen, alsoAdded⟩ := inductionHypothesis opened
      refine ⟨alsoSucceeded, stillOpen, ?_⟩
      show written (sink.writeTexts after rest).1 = _
      rw [alsoAdded, added, List.flatMap_cons, List.append_assoc]
      rfl

end Accepting

end Sink

end TestTree
