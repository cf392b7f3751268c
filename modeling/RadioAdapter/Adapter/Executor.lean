import RadioAdapter.Adapter.Hosted

/-! # The executor

Forwarded requests run on an executor, one after the other, in the order in
which they were spawned or woken. A request starts on the hosted radio when its
turn comes; it then finishes, or waits until it is released and gets another
turn. Shutting the executor down drops every unfinished request, and drops at
once whatever is forwarded later. A dropped request is completed as failed,
because its responder is dropped with it.
-/

namespace RadioAdapter

/-- A request on its way to a hosted radio, with the responder for it. -/
structure Forwarded where
  request : Request
  responder : Responder
  radio : HostedRadio

/-- Where a forwarded request stands when its turn comes. -/
inductive Turn where
  | start
  | resume (conduct : Conduct)
deriving DecidableEq, Repr

structure Task where
  work : Forwarded
  turn : Turn

/-- The executor's queue, the requests that wait, and whether it is running. -/
structure Executor where
  /-- Requests to be run, in the order of their turns. -/
  ready : List Task := []
  /-- Requests that wait to be released, in the order in which they began to. -/
  waiting : List Forwarded := []
  running : Bool := true

namespace Task

/-- What the hosted radio does in this turn. -/
def conduct (task : Task) : Conduct :=
  match task.turn with
  | .start => task.work.radio.onRequest task.work.request
  | .resume conduct => conduct

/-- The start of the hosted call, if this turn is its first. -/
def opening (task : Task) : List Event :=
  match task.turn with
  | .start => [.hosted task.work.request]
  | .resume _ => []

/-- The calls made in this turn: the start, a notice, and the completion if the
call finishes. -/
def events (task : Task) : List Event :=
  task.opening ++
    (task.conduct.notice.toList.map (.unsolicited task.work.responder.host)) ++
    match task.conduct.course with
    | .finish outcome => task.work.responder.settle outcome.settlement
    | .wait => []

/-- The request, if it waits after this turn. -/
def remainder (task : Task) : Option Forwarded :=
  match task.conduct.course with
  | .finish _ => none
  | .wait => some task.work

end Task

namespace Executor

/-- Hand a request over. An executor that has been shut down drops it. -/
def spawn (executor : Executor) (work : Forwarded) : List Event × Executor :=
  if executor.running then
    ([], { executor with ready := executor.ready ++ [⟨work, .start⟩] })
  else (work.responder.settle .drop, executor)

/-- Give every queued request its turn. -/
def run (executor : Executor) : List Event × Executor :=
  (executor.ready.flatMap Task.events,
    { executor with
      ready := []
      waiting := executor.waiting ++ executor.ready.filterMap Task.remainder })

def hasToken (token : Token) (work : Forwarded) : Bool := work.request.token == token

/-- Wake the first waiting request with a token; it goes on in its next turn.
Answers whether there was one. -/
def release (executor : Executor) (token : Token) (how : Request → Conduct) : Bool × Executor :=
  match executor.waiting.find? (hasToken token) with
  | none => (false, executor)
  | some work =>
      (true, { executor with
        ready := executor.ready ++ [⟨work, .resume (how work.request)⟩]
        waiting := executor.waiting.eraseP (hasToken token) })

/-- All unfinished requests: those in the queue, then those that wait. -/
def unfinished (executor : Executor) : List Forwarded :=
  executor.ready.map Task.work ++ executor.waiting

/-- Stop for good and drop every unfinished request. -/
def shutdown (executor : Executor) : List Event × Executor :=
  (executor.unfinished.flatMap fun work => work.responder.settle .drop,
    { ready := [], waiting := [], running := false })

end Executor

end RadioAdapter
