import RadioAdapter.Config.Basic
import RadioAdapter.Radio.Error

/-! # Responders and events

The adapter shows itself to the outside by the calls it makes: to the host it
completes requests and sends notices, to a configurator, an embedded runtime or
a handler it passes on work. Each such call is an event.

A responder is the duty to complete one request. Settling it uses it up: either
it completes the request and is then let go, or it is let go as it is. Letting
go of a responder that has not completed its request completes it as failed.
-/

namespace RadioAdapter

/-- The duty to complete one request towards one host. -/
structure Responder where
  host : String
  token : Token
  code : RequestCode
  completed : Bool := false
deriving DecidableEq, Repr

def Responder.description (responder : Responder) : String :=
  "Responder \x7b token: " ++ responder.token.description ++ ", code: RequestCode(" ++
    toString responder.code.raw.toInt ++ "), completed: " ++ toString responder.completed ++
    ", .. \x7d"

/-- A notice that no request asked for. -/
structure Notice where
  code : Int32
  data : Bytes
deriving DecidableEq, Repr

/-- One call from the adapter to the outside. -/
inductive Event where
  | complete (host : String) (token : Token) (status : Status) (data : Bytes)
  | unsolicited (host : String) (notice : Notice)
  /-- A configurator is to configure the interface of a record. -/
  | configure (record : Record)
  | removeDefaultRoute (ifname : String)
  | clearAddresses (ifname : String)
  | down (ifname : String)
  /-- A configurator tears an interface down in its own way. -/
  | remove (ifname : String)
  | launch (options : LaunchOptions)
  | construct (className : String)
  | init (args : List String)
  | takePendingFault (fault : Option String)
  | destroy
  | hosted (request : Request)
  /-- A hosted radio or a handler is told of a cancelled request. -/
  | cancel (token : Token)
  /-- A handler is given a request and the responder for it. -/
  | handler (request : Request) (responder : Responder)
  /-- A registration inside another one has returned, with this error if it failed. -/
  | nested (failure : Option AdapterError)
deriving DecidableEq

/-- Whether a call goes to an embedded runtime. -/
def Event.concernsRuntime : Event → Bool
  | .launch _ | .construct _ | .init _ | .takePendingFault _ | .destroy => true
  | _ => false

/-- What a call yields, together with the calls that it made. -/
structure Traced (α : Type) where
  events : List Event
  result : α

/-- How a responder ends. -/
inductive Settlement where
  | complete (status : Status) (data : Bytes)
  | fail (error : AdapterError)
  /-- Nobody completed the request, so it counts as failed. -/
  | drop
deriving DecidableEq, Repr

namespace Settlement

def succeed (data : Bytes) : Settlement := .complete .success data

def status : Settlement → Status
  | .complete status _ => status
  | .fail error => error.status
  | .drop => .genericFailure

def response : Settlement → Bytes
  | .complete _ data => data
  | .fail error => error.response
  | .drop => []

end Settlement

namespace Responder

/-- Complete the request. The responder remembers that it has. -/
def complete (responder : Responder) (status : Status) (data : Bytes) : Traced Responder :=
  { events := [.complete responder.host responder.token status data]
    result := { responder with completed := true } }

/-- Let a responder go. A request that it has not completed counts as failed. -/
def drop (responder : Responder) : List Event :=
  if responder.completed then []
  else [.complete responder.host responder.token .genericFailure []]

/-- Complete the request and let the responder go. -/
def finish (responder : Responder) (status : Status) (data : Bytes) : List Event :=
  let made := responder.complete status data
  made.events ++ made.result.drop

/-- Use a responder up: the calls that the host sees. -/
def settle (responder : Responder) : Settlement → List Event
  | .complete status data => responder.finish status data
  | .fail error => responder.finish error.status error.response
  | .drop => responder.drop

/-- A responder that has not completed its request does so exactly once, however
it ends: after a completion nothing is left to be done when it is let go. -/
theorem settle_eq_singleton {responder : Responder} (hopen : responder.completed = false)
    (settlement : Settlement) :
    responder.settle settlement =
      [.complete responder.host responder.token settlement.status settlement.response] := by
  cases settlement with
  | complete status data => rfl
  | fail error => rfl
  | drop =>
      simp only [settle, drop, hopen]
      rfl

/-- Nothing but completions comes of a responder that ends. -/
theorem eq_of_mem_settle {responder : Responder} {settlement : Settlement} {event : Event}
    (hevent : event ∈ responder.settle settlement) :
    ∃ status data, event = .complete responder.host responder.token status data := by
  cases settlement with
  | complete status data => exact ⟨status, data, List.mem_singleton.mp hevent⟩
  | fail error => exact ⟨error.status, error.response, List.mem_singleton.mp hevent⟩
  | drop =>
      simp only [settle, drop] at hevent
      split at hevent
      · contradiction
      · exact ⟨.genericFailure, [], List.mem_singleton.mp hevent⟩

end Responder

end RadioAdapter
