import RadioAdapter.Adapter.Executor

/-! # Handlers

A handler serves the requests of one registration: the direct handler in place,
the bridge through a hosted radio, and a custom handler in its own way.
-/

namespace RadioAdapter

/-- A handler with a conduct of its own: for each request a settlement, or none
if it holds the responder back. -/
structure CustomHandler where
  version : String
  supports : RequestCode → Bool
  onRequest : Request → Option Settlement

/-- What serves the requests of a registration. -/
inductive Handler where
  | direct (configurator : Configurator)
  | bridge (radio : HostedRadio)
  | custom (handler : CustomHandler)

def HostedRadio.bridgeVersion : String := "rilofono v0.1"

namespace Handler

def version : Handler → String
  | .direct _ => Configurator.version
  | .bridge _ => HostedRadio.bridgeVersion
  | .custom handler => handler.version

def supports : Handler → RequestCode → Bool
  | .direct _, code => Configurator.supports code
  | .bridge radio, code => radio.supports code
  | .custom handler, code => handler.supports code

/-- The calls made when a request is cancelled. A cancel is advice: no handler
completes a request because of it. -/
def cancel : Handler → Token → List Event
  | .direct _, _ => []
  | .bridge radio, token => if radio.hearsCancel then [.cancel token] else []
  | .custom _, token => [.cancel token]

/-- The handler with other return codes, if it has a configurator. -/
def withCodes (codes : ReturnCodes) : Handler → Handler
  | .direct configurator => .direct { configurator with codes }
  | handler => handler

end Handler

end RadioAdapter
