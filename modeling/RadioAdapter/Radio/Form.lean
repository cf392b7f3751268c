import RadioAdapter.Data.Value
import RadioAdapter.Radio.Request

/-! # States and statuses

The radio is in one of a few states, and every request is completed with one of a few
statuses. In a document both are written by name, a request code as its number.
-/

namespace RadioAdapter

/-- The state of the radio. -/
inductive RadioState where
  | off
  | unavailable
  | on
deriving DecidableEq, Repr

def RadioState.raw : RadioState → Int32
  | .off => 0
  | .unavailable => 1
  | .on => 10

def RadioState.name : RadioState → String
  | .off => "Off"
  | .unavailable => "Unavailable"
  | .on => "On"

/-- The status that a request is completed with. -/
inductive Status where
  | success
  | radioNotAvailable
  | genericFailure
  | requestNotSupported
  | requestCancelled
deriving DecidableEq, Repr

namespace Status

def all : List Status :=
  [.success, .radioNotAvailable, .genericFailure, .requestNotSupported, .requestCancelled]

def raw : Status → Int32
  | .success => 0
  | .radioNotAvailable => 1
  | .genericFailure => 2
  | .requestNotSupported => 6
  | .requestCancelled => 7

def name : Status → String
  | .success => "Success"
  | .radioNotAvailable => "RadioNotAvailable"
  | .genericFailure => "GenericFailure"
  | .requestNotSupported => "RequestNotSupported"
  | .requestCancelled => "RequestCancelled"

def ofName? (text : String) : Option Status := all.find? (·.name == text)

def isSuccess (status : Status) : Bool := status == .success

end Status

def RadioState.all : List RadioState := [.off, .unavailable, .on]

def RadioState.ofName? (text : String) : Option RadioState := RadioState.all.find? (·.name == text)

/-! ## Document forms -/

def RequestCode.toValue (code : RequestCode) : Value := .integer code.raw.toInt

def RequestCode.ofValue? (value : Value) : Option RequestCode := value.int32?.map .mk

def RadioState.toValue (state : RadioState) : Value := .text state.name

def RadioState.ofValue? (value : Value) : Option RadioState :=
  value.choice?.bind RadioState.ofName?

def Status.toValue (status : Status) : Value := .text status.name

def Status.ofValue? (value : Value) : Option Status := value.choice?.bind Status.ofName?

end RadioAdapter
