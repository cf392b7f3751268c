import RadioAdapter.Adapter.World

/-! # Registration

Registration is a handshake in three steps: look whether the adapter is
initialised, set the backend up, and publish the handler unless the adapter has
become initialised meanwhile. The last look matters because a setup may itself
register another backend on the same adapter.
-/

namespace RadioAdapter

/-- What can be registered. -/
inductive Backend where
  | direct (configurator : Configurator)
  | bridge (config : BridgeConfig) (launcher : Launcher)
  /-- A bridge to the stub radio, whose runtime knows one class. -/
  | stub (config : BridgeConfig) (className : String)
  | custom (handler : CustomHandler)
  | failing (error : AdapterError)
  /-- A backend whose setup first registers another one on the same adapter. -/
  | nested (inner outer : Backend)

/-- One call of the registration entry point, its backend apart. -/
structure Registration where
  adapter : String
  host : String
  table : String
  args : List String
deriving DecidableEq, Repr

namespace World

/-- Mark an adapter as initialised and publish a handler under a table name,
unless the adapter is initialised already. -/
def publish (world : World) (registration : Registration) (handler : Handler) : Option World :=
  if world.isInitialized registration.adapter then none
  else
    let marked : World := { world with
      initialized := world.initialized ++ [registration.adapter]
      published := world.published ++ [{ host := registration.host, handler }] }
    some (marked.bind registration.table world.published.length)

section

variable {world next : World} {registration : Registration} {handler : Handler}

theorem publish_of_initialized
    (hinitialized : world.isInitialized registration.adapter = true) :
    world.publish registration handler = none :=
  if_pos hinitialized

theorem exists_publish_of_free (hfree : world.isInitialized registration.adapter = false) :
    ∃ next, world.publish registration handler = some next :=
  ⟨_, if_neg (by simp [hfree])⟩

/-- What publishing makes of the world, if the adapter is free. -/
theorem publish_eq_some_iff :
    world.publish registration handler = some next ↔
      world.isInitialized registration.adapter = false ∧
        next = ({ world with
          initialized := world.initialized ++ [registration.adapter]
          published := world.published ++ [{ host := registration.host, handler }] } : World).bind
            registration.table world.published.length := by
  unfold publish
  cases world.isInitialized registration.adapter with
  | true => simp
  | false => simp [eq_comm]

theorem eq_of_publish_eq_some (hnext : world.publish registration handler = some next) :
    world.isInitialized registration.adapter = false ∧
      next.initialized = world.initialized ++ [registration.adapter] ∧
      next.published = world.published ++ [{ host := registration.host, handler }] ∧
      next.held = world.held ∧ next.executor = world.executor := by
  obtain ⟨hfree, rfl⟩ := publish_eq_some_iff.mp hnext
  exact ⟨hfree, rfl, rfl, rfl, rfl⟩

end

/-- Register with a given way to set the backend up. The result is the error, if
the registration fails. -/
def registerWith (world : World) (registration : Registration)
    (setup : World → Reaction (Except AdapterError Handler)) : Reaction (Option AdapterError) :=
  if world.isInitialized registration.adapter then
    { result := some .alreadyInitialized, world }
  else
    let made := setup world
    match made.result with
    | .error error => { made with result := some error }
    | .ok handler =>
        match made.world.publish registration handler with
        | none => { made with result := some .alreadyInitialized }
        | some world => { made with result := none, world }

section

variable {world next : World} {registration : Registration}
variable {setup : World → Reaction (Except AdapterError Handler)}
variable {error : AdapterError} {handler : Handler}

theorem registerWith_of_initialized
    (hinitialized : world.isInitialized registration.adapter = true) :
    world.registerWith registration setup = { result := some .alreadyInitialized, world } := by
  rw [registerWith, if_pos hinitialized]

theorem registerWith_of_error (hfree : world.isInitialized registration.adapter = false)
    (hresult : (setup world).result = .error error) :
    world.registerWith registration setup = { setup world with result := some error } := by
  simp only [registerWith, hfree, hresult, Bool.false_eq_true, ↓reduceIte]

theorem registerWith_of_refused (hfree : world.isInitialized registration.adapter = false)
    (hresult : (setup world).result = .ok handler)
    (hpublish : (setup world).world.publish registration handler = none) :
    world.registerWith registration setup =
      { setup world with result := some .alreadyInitialized } := by
  simp only [registerWith, hfree, hresult, hpublish, Bool.false_eq_true, ↓reduceIte]

theorem registerWith_of_published (hfree : world.isInitialized registration.adapter = false)
    (hresult : (setup world).result = .ok handler)
    (hpublish : (setup world).world.publish registration handler = some next) :
    world.registerWith registration setup =
      { setup world with result := none, world := next } := by
  simp only [registerWith, hfree, hresult, hpublish, Bool.false_eq_true, ↓reduceIte]

/-- A registration on a free adapter makes the calls of its setup. -/
theorem registerWith_events (hfree : world.isInitialized registration.adapter = false) :
    (world.registerWith registration setup).events = (setup world).events := by
  cases hresult : (setup world).result with
  | error error => rw [registerWith_of_error hfree hresult]
  | ok handler =>
      cases hpublish : (setup world).world.publish registration handler with
      | none => rw [registerWith_of_refused hfree hresult hpublish]
      | some next => rw [registerWith_of_published hfree hresult hpublish]

end

end World

/-- The registration that a nested backend makes for its inner one. -/
def Registration.inner (registration : Registration) : Registration :=
  { registration with table := registration.table ++ "/inner" }

/-- Set a backend up. The runtime of a stub is a part of the adapter, so its
calls are not seen outside. -/
def Backend.setup : Backend → Registration → World → Reaction (Except AdapterError Handler)
  | .direct configurator, _, world => { result := .ok (.direct configurator), world }
  | .bridge config launcher, registration, world =>
      let made := launcher.setup config registration.host registration.args
      { result := made.result.map .bridge, events := made.events, world }
  | .stub config className, registration, world =>
      let made := (Launcher.stub className).setup config registration.host registration.args
      { result := made.result.map .bridge, world }
  | .custom handler, _, world => { result := .ok (.custom handler), world }
  | .failing error, _, world => { result := .error error, world }
  | .nested inner outer, registration, world =>
      let first := world.registerWith registration.inner (inner.setup registration.inner)
      let second := outer.setup registration first.world
      { second with events := first.events ++ .nested first.result :: second.events }

def World.register (world : World) (registration : Registration) (backend : Backend) :
    Reaction (Option AdapterError) :=
  world.registerWith registration (backend.setup registration)

end RadioAdapter
