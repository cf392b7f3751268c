import RadioAdapter.Adapter.Handler

/-! # The world of the adapters

Everything that outlives a call: which adapters are initialised, what has been
published, what the names of dispatch tables stand for, which responders are
held back, and what the executor has in hand. Two names of one publication are
clones of each other.
-/

namespace RadioAdapter

/-- What a successful registration publishes. -/
structure Publication where
  host : String
  handler : Handler

/-- The responder that comes to life when a request is taken in. -/
def Publication.responder (publication : Publication) (request : Request) : Responder :=
  { host := publication.host, token := request.token, code := request.code }

/-- The state of the adapters and of everything that they have in hand. -/
structure World where
  initialized : List String := []
  /-- All publications, in the order in which they were made. -/
  published : List Publication := []
  /-- The names of dispatch tables, each with the position of its publication. -/
  tables : List (String × Nat) := []
  held : List Responder := []
  executor : Executor := {}

/-- A change of the world: the result, the calls made meanwhile, and the world
after it. -/
structure Reaction (α : Type) where
  result : α
  events : List Event := []
  world : World

namespace World

/-! ## Adapters and tables -/

/-- Whether an adapter is initialised. An adapter that nobody has named is not. -/
def isInitialized (world : World) (adapter : String) : Bool := world.initialized.contains adapter

/-- Let a name stand for a publication, whatever it stood for before. -/
def bind (world : World) (table : String) (position : Nat) : World :=
  { world with tables := (table, position) :: world.tables.filter (·.1 != table) }

def unbind (world : World) (table : String) : World :=
  { world with tables := world.tables.filter (·.1 != table) }

/-- The position of the publication that a name stands for. -/
def position? (world : World) (table : String) : Option Nat := world.tables.lookup table

/-- A name that is taken out is not found, and all others are found as before. -/
theorem lookup_filter_ne {α : Type} (entries : List (String × α)) (table other : String) :
    (entries.filter (·.1 != table)).lookup other =
      if other = table then none else entries.lookup other := by
  induction entries with
  | nil => simp
  | cons entry rest ih =>
      by_cases hentry : entry.1 = table
      · rw [List.filter_cons_of_neg (by simp [hentry]), ih]
        split
        next => rfl
        next hother =>
          have hkey : (other == entry.1) = false := beq_eq_false_iff_ne.mpr (hentry ▸ hother)
          rw [List.lookup_cons, hkey]
      · rw [List.filter_cons_of_pos (by simp [hentry]), List.lookup_cons, List.lookup_cons, ih]
        by_cases hother : other = table
        · have hkey : (table == entry.1) = false := beq_eq_false_iff_ne.mpr (Ne.symm hentry)
          simp only [hother, hkey, ↓reduceIte]
        · simp only [hother, ↓reduceIte]

theorem position?_bind (world : World) (table : String) (position : Nat) (other : String) :
    (world.bind table position).position? other =
      if other = table then some position else world.position? other := by
  unfold position? bind
  rw [List.lookup_cons, lookup_filter_ne]
  by_cases hother : other = table
  · simp [hother]
  · have hkey : (other == table) = false := beq_eq_false_iff_ne.mpr hother
    simp only [hother, hkey, ↓reduceIte]

theorem position?_unbind (world : World) (table other : String) :
    (world.unbind table).position? other =
      if other = table then none else world.position? other :=
  lookup_filter_ne world.tables table other

/-- The publication that a name stands for. -/
def publication? (world : World) (table : String) : Option Publication :=
  (world.position? table).bind (world.published[·]?)

/-- Replace the return codes of the configurator that a name stands for. -/
def setCodes (world : World) (position : Nat) (codes : ReturnCodes) : World :=
  { world with
    published := world.published.modify position fun publication =>
      { publication with handler := publication.handler.withCodes codes } }

/-! ## Requests -/

/-- Take a supported request in: its responder comes to life and goes to the
handler with it. -/
def accept (world : World) (publication : Publication) (request : Request) :
    List Event × World :=
  let responder := publication.responder request
  match publication.handler with
  | .direct configurator => (configurator.serve request responder, world)
  | .bridge radio =>
      let spawned := world.executor.spawn { request, responder, radio }
      (spawned.1, { world with executor := spawned.2 })
  | .custom handler =>
      match handler.onRequest request with
      | none => ([.handler request responder], { world with held := world.held ++ [responder] })
      | some settlement => (.handler request responder :: responder.settle settlement, world)

section

variable {world : World} {publication : Publication} {request : Request}

theorem accept_direct {configurator : Configurator}
    (hhandler : publication.handler = .direct configurator) :
    world.accept publication request =
      (configurator.serve request (publication.responder request), world) := by
  simp only [accept, hhandler]

theorem accept_bridge {radio : HostedRadio} (hhandler : publication.handler = .bridge radio) :
    world.accept publication request =
      let work : Forwarded := { request, responder := publication.responder request, radio }
      ((world.executor.spawn work).1, { world with executor := (world.executor.spawn work).2 }) := by
  simp only [accept, hhandler]

theorem accept_held {handler : CustomHandler} (hhandler : publication.handler = .custom handler)
    (hheld : handler.onRequest request = none) :
    world.accept publication request =
      ([.handler request (publication.responder request)],
        { world with held := world.held ++ [publication.responder request] }) := by
  simp only [accept, hhandler, hheld]

theorem accept_settled {handler : CustomHandler} {settlement : Settlement}
    (hhandler : publication.handler = .custom handler)
    (hsettled : handler.onRequest request = some settlement) :
    world.accept publication request =
      (.handler request (publication.responder request) ::
        (publication.responder request).settle settlement, world) := by
  simp only [accept, hhandler, hsettled]

end

/-- A request of the host. A code that the handler does not support is ignored. -/
def request (world : World) (publication : Publication) (request : Request) :
    List Event × World :=
  if publication.handler.supports request.code then world.accept publication request
  else ([], world)

theorem request_of_supported {world : World} {publication : Publication} {request : Request}
    (hsupports : publication.handler.supports request.code = true) :
    world.request publication request = world.accept publication request :=
  if_pos hsupports

theorem request_of_unsupported {world : World} {publication : Publication} {request : Request}
    (hsupports : publication.handler.supports request.code = false) :
    world.request publication request = ([], world) :=
  if_neg (by simp [hsupports])

/-- What becomes of a request in whatever world it is made: it is ignored, served on the spot or
handed to the executor, or a custom handler holds it back or settles it. -/
inductive Intake (publication : Publication) (request : Request) : Prop where
  | ignored (hsupports : publication.handler.supports request.code = false)
      (hrequest : ∀ world : World, world.request publication request = ([], world))
  | served (configurator : Configurator) (hhandler : publication.handler = .direct configurator)
      (hrequest : ∀ world : World, world.request publication request =
        (configurator.serve request (publication.responder request), world))
  | forwarded (radio : HostedRadio) (hhandler : publication.handler = .bridge radio)
      (hsupports : radio.supports request.code = true)
      (hrequest : ∀ world : World, world.request publication request =
        let work : Forwarded := { request, responder := publication.responder request, radio }
        ((world.executor.spawn work).1,
          { world with executor := (world.executor.spawn work).2 }))
  | held (handler : CustomHandler) (hhandler : publication.handler = .custom handler)
      (hrequest : ∀ world : World, world.request publication request =
        ([.handler request (publication.responder request)],
          { world with held := world.held ++ [publication.responder request] }))
  | settled (handler : CustomHandler) (hhandler : publication.handler = .custom handler)
      (settlement : Settlement)
      (hrequest : ∀ world : World, world.request publication request =
        (.handler request (publication.responder request) ::
          (publication.responder request).settle settlement, world))

theorem intake (publication : Publication) (request : Request) : Intake publication request := by
  cases hsupports : publication.handler.supports request.code with
  | false => exact .ignored hsupports fun _ => request_of_unsupported hsupports
  | true =>
      have hrequest (world : World) :
          world.request publication request = world.accept publication request :=
        request_of_supported hsupports
      cases hhandler : publication.handler with
      | direct configurator =>
          exact .served configurator hhandler fun world =>
            (hrequest world).trans (accept_direct hhandler)
      | bridge radio =>
          rw [hhandler] at hsupports
          exact .forwarded radio hhandler hsupports fun world =>
            (hrequest world).trans (accept_bridge hhandler)
      | custom handler =>
          cases hsettlement : handler.onRequest request with
          | none =>
              exact .held handler hhandler fun world =>
                (hrequest world).trans (accept_held hhandler hsettlement)
          | some settlement =>
              exact .settled handler hhandler settlement fun world =>
                (hrequest world).trans (accept_settled hhandler hsettlement)

/-- Settle the oldest responder with a token that is held back. Answers whether
there was one. -/
def finish (world : World) (token : Token) (settlement : Settlement) : Reaction Bool :=
  match world.held.find? (·.token == token) with
  | none => { result := false, world }
  | some responder =>
      { result := true
        events := responder.settle settlement
        world := { world with held := world.held.eraseP (·.token == token) } }

/-! ## The executor -/

/-- Give every queued request its turn. -/
def run (world : World) : List Event × World :=
  let ran := world.executor.run
  (ran.1, { world with executor := ran.2 })

def release (world : World) (token : Token) (how : Request → Conduct) : Reaction Bool :=
  let released := world.executor.release token how
  { result := released.1, world := { world with executor := released.2 } }

def shutdown (world : World) : List Event × World :=
  let stopped := world.executor.shutdown
  (stopped.1, { world with executor := stopped.2 })

/-- Let go of everything: the responders held back are dropped and the executor
is shut down. -/
def close (world : World) : List Event × World :=
  let stopped := world.shutdown
  (world.held.flatMap (·.settle .drop) ++ stopped.1, { stopped.2 with held := [] })

end World

end RadioAdapter
