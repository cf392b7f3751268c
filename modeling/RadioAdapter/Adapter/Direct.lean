import RadioAdapter.Adapter.Event

/-! # Direct service

The direct handler serves the vendor hook in place: it reads the payload as an
interface record, has the configurator apply it and completes the request, all
before it returns.
-/

namespace RadioAdapter

namespace Configurator

def version : String := "rilofono helper rild library"

/-- The only code that the direct handler serves. -/
def supports (code : RequestCode) : Bool := code == .oemHookRaw

def remove (configurator : Configurator) (ifname : String) : Traced (Except InterfaceError Unit) :=
  match configurator.removal with
  | .stepwise =>
      { events := [.removeDefaultRoute ifname, .clearAddresses ifname, .down ifname]
        result := configurator.codes.teardown ifname }
  | .single => ⟨[.remove ifname], configurator.codes.ownTeardown⟩

/-- What a teardown comes to: zero if it succeeds, and the adapter's error otherwise. -/
def teardownResult : Except InterfaceError Unit → Except AdapterError Int32
  | .ok () => .ok 0
  | .error failure => .error (.ofInterfaceError failure)

/-- Apply a record. The result is the return code of a success. -/
def apply (configurator : Configurator) (record : Record) : Traced (Except AdapterError Int32) :=
  if record.isTeardown then
    let removal := configurator.remove record.ifname
    { events := removal.events, result := teardownResult removal.result }
  else
    let code := configurator.codes.configure
    { events := [.configure record]
      result :=
        if code = 0 then .ok code
        else .error (.configurationFailed record.ifname
          ("configure returned " ++ toString code.toInt) (some code)) }

/-- Read the payload of a vendor hook and apply its record. -/
def handleHook (configurator : Configurator) (payload : Bytes) :
    Traced (Except AdapterError Int32) :=
  match Record.decode payload with
  | .ok record => configurator.apply record
  | .error error => ⟨[], .error (.malformedRecord error)⟩

/-- How the responder of a vendor hook ends: a success carries the return code. -/
def hookSettlement : Except AdapterError Int32 → Settlement
  | .ok code => .succeed (Word.signedBytes code)
  | .error error => .fail error

def serve (configurator : Configurator) (request : Request) (responder : Responder) : List Event :=
  if request.code = .oemHookRaw then
    let handled := configurator.handleHook request.data
    handled.events ++ responder.settle (hookSettlement handled.result)
  else responder.settle (.complete .requestNotSupported [])

end Configurator

end RadioAdapter
