import RadioAdapter.Net.Configurator
import RadioAdapter.Radio.Form

/-! # Errors of the adapter

A failed registration is reported to its caller only. Every other error is
confined to one request, which it completes with a status and a response.
-/

namespace RadioAdapter

/-- A fault of the embedded runtime while it brings up the hosted radio. -/
inductive RuntimeFault where
  | launch (reason : String)
  | classNotFound (className : String)
  | constructorNotFound (className : String)
  | constructionFailed (className : String)
  | methodNotFound (className method : String)
  | exception (context message : String)
deriving DecidableEq, Repr

def RuntimeFault.message : RuntimeFault → String
  | .launch reason => "failed to create runtime: " ++ reason
  | .classNotFound className => "class not found: " ++ className
  | .constructorNotFound className => "no zero-argument constructor on " ++ className
  | .constructionFailed className => "constructing " ++ className ++ " failed"
  | .methodNotFound className method => "method " ++ method ++ " not found on " ++ className
  | .exception context message => "exception in " ++ context ++ ": " ++ message

/-- An error of an adapter operation. -/
inductive AdapterError where
  | alreadyInitialized
  | backendSetupFailed (stage reason : String)
  /-- The payload of a vendor hook is no record. -/
  | malformedRecord (error : Record.Error)
  /-- An interface was not configured; the code is that of the failing call. -/
  | configurationFailed (ifname reason : String) (code : Option Int32)
  | notImplemented (code : RequestCode)
  | hosted (message : String)
  | config (message : String)
deriving DecidableEq, Repr

namespace AdapterError

/-- The error of a setup stage that a runtime fault ended. -/
def ofFault (stage : String) (fault : RuntimeFault) : AdapterError :=
  .backendSetupFailed stage fault.message

/-- The error of a failed interface primitive. -/
def ofInterfaceError (error : InterfaceError) : AdapterError :=
  .configurationFailed error.ifname error.message (some error.code)

def message : AdapterError → String
  | .alreadyInitialized => "adapter already initialized"
  | .backendSetupFailed stage reason =>
      "backend setup failed during " ++ stage ++ ": " ++ reason
  | .malformedRecord error => "malformed OEM hook record: " ++ error.message
  | .configurationFailed ifname reason _ => "configuring " ++ ifname ++ " failed: " ++ reason
  | .notImplemented code => "not implemented: " ++ code.description
  | .hosted text => "hosted radio error: " ++ text
  | .config text => "configuration error: " ++ text

/-- The status of a request that ends with this error. -/
def status : AdapterError → Status
  | .notImplemented _ => .requestNotSupported
  | _ => .genericFailure

/-- The response of a request that ends with this error: the code of a failed
configuration, if it has one, and nothing otherwise. -/
def response : AdapterError → Bytes
  | .configurationFailed _ _ (some code) => Word.signedBytes code
  | _ => []

end AdapterError

end RadioAdapter
