import RadioAdapter.Net.Record

/-! # Interface configuration

A configurator offers four primitives on a named interface, each of which
answers a return code that is zero on success. Tearing an interface down takes
three of them: the default route goes first, then the addresses, then the link.
A configurator may also tear down by a call of its own, which ends with an error
or without one.
-/

namespace RadioAdapter

/-- One primitive of a configurator. -/
inductive InterfaceStep where
  | configure
  | removeDefaultRoute
  | clearAddresses
  | down
deriving DecidableEq, Repr

/-- The words for a primitive in messages. -/
def InterfaceStep.description : InterfaceStep → String
  | .configure => "configure"
  | .removeDefaultRoute => "remove default route"
  | .clearAddresses => "clear addresses"
  | .down => "interface down"

/-- A primitive that failed, with the code that it returned. -/
structure InterfaceError where
  ifname : String
  step : InterfaceStep
  code : Int32
deriving DecidableEq, Repr

def InterfaceError.message (error : InterfaceError) : String :=
  error.step.description ++ " failed on " ++ error.ifname ++ " with code " ++
    toString error.code.toInt

/-- What the calls of a configurator return: a code for each of the primitives,
and the error of a teardown that is a call of its own. -/
structure ReturnCodes where
  configure : Int32 := 0
  removeDefaultRoute : Int32 := 0
  clearAddresses : Int32 := 0
  down : Int32 := 0
  removal : Option InterfaceError := none
deriving DecidableEq, Repr

/-- How a configurator tears an interface down. -/
inductive Removal where
  | stepwise
  | single
deriving DecidableEq, Repr

/-- A configurator: what its calls return, and how it tears down. -/
structure Configurator where
  codes : ReturnCodes := {}
  removal : Removal := .stepwise
deriving DecidableEq, Repr

/-- The outcome of the three teardown primitives on an interface. All three have
run; the first that failed is the error. -/
def ReturnCodes.teardown (codes : ReturnCodes) (ifname : String) : Except InterfaceError Unit :=
  if codes.removeDefaultRoute ≠ 0 then
    .error ⟨ifname, .removeDefaultRoute, codes.removeDefaultRoute⟩
  else if codes.clearAddresses ≠ 0 then .error ⟨ifname, .clearAddresses, codes.clearAddresses⟩
  else if codes.down ≠ 0 then .error ⟨ifname, .down, codes.down⟩
  else .ok ()

/-- The outcome of a teardown by a call of its own. The interface and the step that
its error names are up to the call. -/
def ReturnCodes.ownTeardown (codes : ReturnCodes) : Except InterfaceError Unit :=
  match codes.removal with
  | none => .ok ()
  | some failure => .error failure

end RadioAdapter
