import RadioAdapter.Adapter.Registration

/-! # Sessions

A session is a list of steps that the host, the hosted side and the handlers
take, over any number of adapters and tables. Each step answers a reply and
shows the calls that the adapter made during it. At the end everything that is
still open is let go.
-/

namespace RadioAdapter

/-- One step of a session. -/
inductive Step where
  /-- Register a backend on an adapter. The host is named like the table unless it
  has a name of its own. -/
  | register (adapter table : String) (args : List String) (backend : Backend)
      (host : String := table)
  | initialized (adapter : String)
  | request (table : String) (code : RequestCode) (buffer : Bytes) (declared : Nat) (token : Token)
  | supports (table : String) (codes : List RequestCode)
  | radioState (table : String)
  | info (table : String)
  | cancel (table : String) (token : Token)
  | clone (table name : String)
  | forget (table : String)
  /-- Replace the return codes of a direct table's configurator. -/
  | returnCodes (table : String) (codes : ReturnCodes)
  | run
  /-- Wake a waiting request, which then goes on as given. -/
  | release (token : Token) (how : Request → Conduct)
  | shutdown
  /-- Have a handler settle a responder that it holds back. -/
  | finish (token : Token) (how : Settlement)

/-- What a step answers. -/
inductive Reply where
  | done
  | noTable
  | registered
  | refused (error : AdapterError)
  | flag (value : Bool)
  | flags (values : List Bool)
  | radioState (state : RadioState)
  | info (version : String)
deriving DecidableEq

def describeTable (version : String) : String :=
  "DispatchTable \x7b ril_version: " ++ toString interfaceVersion ++ ", version: " ++
    Text.quoteString version ++ ", .. \x7d"

namespace World

/-- Do something with a table's publication, or answer that there is no such table. -/
def onTable (world : World) (table : String) (act : Publication → Reaction Reply) :
    Reaction Reply :=
  match world.publication? table with
  | none => { result := .noTable, world }
  | some publication => act publication

def silently (change : List Event × World) : Reaction Reply :=
  { result := .done, events := change.1, world := change.2 }

/-- Do something to what a table name stands for, or answer that there is no such table. -/
def onName (world : World) (table : String) (act : Nat → World) : Reaction Reply :=
  match world.position? table with
  | none => { result := .noTable, world }
  | some position => { result := .done, world := act position }

/-- Take one step. The radio is always unavailable, because no handler brings a
real one up. -/
def step (world : World) : Step → Reaction Reply
  | .register adapter table args backend host =>
      let made := world.register { adapter, host, table, args } backend
      { made with result := made.result.elim .registered .refused }
  | .initialized adapter => { result := .flag (world.isInitialized adapter), world }
  | .request table code buffer declared token =>
      world.onTable table fun publication =>
        silently (world.request publication (.ofBuffer code buffer declared token))
  | .supports table codes =>
      world.onTable table fun publication =>
        { result := .flags (codes.map publication.handler.supports), world }
  | .radioState table =>
      world.onTable table fun _ => { result := .radioState .unavailable, world }
  | .info table =>
      world.onTable table fun publication =>
        { result := .info publication.handler.version, world }
  | .cancel table token =>
      world.onTable table fun publication =>
        { result := .done, events := publication.handler.cancel token, world }
  | .clone table name => world.onName table (world.bind name)
  | .forget table => world.onName table fun _ => world.unbind table
  | .returnCodes table codes => world.onName table fun position => world.setCodes position codes
  | .run => silently world.run
  | .release token how =>
      let made := world.release token how
      { made with result := .flag made.result }
  | .shutdown => silently world.shutdown
  | .finish token how =>
      let made := world.finish token how
      { made with result := .flag made.result }

/-- What a step shows: its reply and the calls made during it. -/
abbrev Shown := Reply × List Event

/-- Take the steps of a session one after the other. -/
def runSteps (world : World) : List Step → List Shown × World
  | [] => ([], world)
  | first :: rest =>
      let made := world.step first
      let later := made.world.runSteps rest
      ((made.result, made.events) :: later.1, later.2)

end World

/-- What a whole session shows: each step, and the calls made when everything
that is left is let go. -/
def showSession (steps : List Step) : List World.Shown × List Event :=
  let run := World.runSteps {} steps
  (run.1, run.2.close.1)

end RadioAdapter
