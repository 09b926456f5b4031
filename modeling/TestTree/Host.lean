/-
This file says what the signals of a computation lead to.

The host is the process in which suites run, as far as signals can change it. It keeps the routing
of panics, the spans that are entered on the main thread, the panics that reached a noting hook,
and the trace of what was logged on the main thread. Each record of the trace carries the chain of
spans that were entered when it was written.
-/

import TestTree.Signal

namespace TestTree

/-- A panic that reached a noting hook: the name of the hook, the thread and the payload. -/
structure Hearing where
  hook : String
  thread : Thread
  payload : Payload
deriving DecidableEq

/-- An entry of the trace: the creation of a span, or a record with the names of the spans it was
written in, the outermost first. -/
inductive TraceEntry where
  | span (name : String) (depth : Nat)
  | record (record : LogRecord) (within : List String)
deriving DecidableEq

/-- An entry of the trace as whoever collects the log gets it: the level, the kind and the fields of
a span that is created, or those of a record with its message and the spans it was written in. -/
inductive LogLine where
  | span (level : Level) (kind : String) (fields : List (String × FieldValue))
  | record (level : Level) (message : String) (fields : List (String × FieldValue))
    (within : List String)
deriving DecidableEq

/-- What is collected of an entry. -/
def TraceEntry.line : TraceEntry → LogLine
  | .span name depth => .span .debug "group" [("name", .text name), ("depth", .number depth)]
  | .record written within => .record written.level written.message written.fields within

/-- The process in which suites run, as far as signals can change it. -/
structure Host where
  routing : Routing
  /-- The names of the entered spans, the innermost first. -/
  entered : List String
  heard : List Hearing
  trace : List TraceEntry

namespace Host

/-- Nothing has happened yet and the given hook is current. -/
def initial (hook : Hook) : Host := ⟨.initial hook, [], [], []⟩

/-- Write a record to the log of the main thread. -/
def log (host : Host) (record : LogRecord) : Host :=
  { host with trace := host.trace ++ [.record record host.entered.reverse] }

/-- Announce a panic. A noting hook hears it; an absorbed one leaves a record in the log of its
thread, and only the log of the main thread is traced. -/
def panic (host : Host) (thread : Thread) (payload : Payload) : Host :=
  match host.routing.receive thread with
  | .heardBy name => { host with heard := host.heard ++ [⟨name, thread, payload⟩] }
  | .absorbed => if thread = .main then host.log .panicAbsorbed else host

/-- The effect of one signal. Signals take no hook off the process, so nobody but the process has
the layer of the guards. -/
def receive (host : Host) : Signal → Host
  | .logged record => host.log record
  | .spanCreated name depth => { host with trace := host.trace ++ [.span name depth] }
  | .spanEntered name => { host with entered := name :: host.entered }
  | .spanLeft => { host with entered := host.entered.tail }
  | .panicked thread payload => host.panic thread payload
  | .guardInstalled thread => { host with routing := host.routing.install thread }
  | .guardReleased thread unwinding =>
    { host with routing := host.routing.release thread unwinding false }

/-- The effect of signals in the order in which they were sent. -/
def receiveAll (host : Host) (signals : List Signal) : Host :=
  signals.foldl receive host

theorem receiveAll_append (host : Host) (first second : List Signal) :
    host.receiveAll (first ++ second) = (host.receiveAll first).receiveAll second :=
  List.foldl_append

end Host

end TestTree
