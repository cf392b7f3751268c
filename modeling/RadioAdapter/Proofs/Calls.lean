import RadioAdapter.Proofs.Session

/-! # Which calls a step makes

The calls of a session have few origins. A registration calls an embedded runtime,
passes notices on and marks the registrations inside it. A turn of a forwarded
request starts a hosted call, passes a notice on and completes the request. Every
other step makes only the calls that a handler makes in place, and completions.
-/

namespace RadioAdapter

/-- Whether a call is a completion, or made by a handler when it is called upon. -/
def Event.isService : Event → Bool
  | .complete .. | .configure _ | .removeDefaultRoute _ | .clearAddresses _ | .down _ | .remove _
  | .cancel _ | .handler .. => true
  | _ => false

/-- Whether a call is made in the course of a registration. -/
def Event.isSetup : Event → Bool
  | .launch _ | .construct _ | .init _ | .takePendingFault _ | .destroy | .unsolicited ..
  | .nested _ => true
  | _ => false

/-- The start of a hosted call. -/
def Event.hosted? : Event → Option Request
  | .hosted request => some request
  | _ => none

/-- The hosted calls that are started among some calls, in order. -/
def hostedCalls (events : List Event) : List Request := events.filterMap Event.hosted?

@[simp] theorem hostedCalls_nil : hostedCalls [] = [] := rfl

@[simp] theorem hostedCalls_append (first second : List Event) :
    hostedCalls (first ++ second) = hostedCalls first ++ hostedCalls second :=
  List.filterMap_append

theorem hostedCalls_of_service {events : List Event}
    (hservice : events.all Event.isService = true) : hostedCalls events = [] := by
  refine List.filterMap_eq_nil_iff.mpr ?_
  intro event hevent
  have hone := List.all_eq_true.mp hservice event hevent
  cases event <;> first | rfl | contradiction

theorem hostedCalls_of_setup {events : List Event}
    (hsetup : events.all Event.isSetup = true) : hostedCalls events = [] := by
  refine List.filterMap_eq_nil_iff.mpr ?_
  intro event hevent
  have hone := List.all_eq_true.mp hsetup event hevent
  cases event <;> first | rfl | contradiction

/-! ## Requests -/

theorem Responder.settle_isService (responder : Responder) (settlement : Settlement) :
    (responder.settle settlement).all Event.isService = true := by
  refine List.all_eq_true.mpr ?_
  intro event hevent
  obtain ⟨status, data, rfl⟩ := eq_of_mem_settle hevent
  rfl

namespace Configurator

theorem apply_isService (configurator : Configurator) (record : Record) :
    (configurator.apply record).events.all Event.isService = true := by
  unfold apply
  split
  · show (configurator.remove record.ifname).events.all Event.isService = true
    unfold remove
    cases configurator.removal <;> rfl
  · rfl

theorem serve_isService (configurator : Configurator) (request : Request)
    (responder : Responder) :
    (configurator.serve request responder).all Event.isService = true := by
  unfold serve
  split
  · have hhandled : (configurator.handleHook request.data).events.all Event.isService = true := by
      unfold handleHook
      cases Record.decode request.data with
      | ok record => exact configurator.apply_isService record
      | error error => rfl
    rw [List.all_append, hhandled, responder.settle_isService]
    rfl
  · exact responder.settle_isService _

end Configurator

theorem Executor.spawn_isService (executor : Executor) (work : Forwarded) :
    (executor.spawn work).1.all Event.isService = true := by
  unfold spawn
  split
  · rfl
  · exact work.responder.settle_isService .drop

/-- A turn starts a hosted call, passes a notice on and completes the request; it makes no
other calls. -/
theorem Task.of_mem_events {task : Task} {event : Event} (hevent : event ∈ task.events) :
    event = .hosted task.work.request ∨
      (∃ notice, event = .unsolicited task.work.responder.host notice) ∨
      event.isService = true := by
  rcases List.mem_append.mp hevent with hevent | hcompletion
  · rcases List.mem_append.mp hevent with hopening | hnotice
    · left
      unfold opening at hopening
      cases hturn : task.turn with
      | start =>
          rw [hturn] at hopening
          exact List.mem_singleton.mp hopening
      | resume =>
          rw [hturn] at hopening
          contradiction
    · obtain ⟨notice, -, hnotice⟩ := List.mem_map.mp hnotice
      exact .inr (.inl ⟨notice, hnotice.symm⟩)
  · right; right
    cases hcourse : task.conduct.course with
    | finish outcome =>
        rw [hcourse] at hcompletion
        exact List.all_eq_true.mp
          (task.work.responder.settle_isService outcome.settlement) event hcompletion
    | wait =>
        rw [hcourse] at hcompletion
        contradiction

theorem Handler.cancel_isService (handler : Handler) (token : Token) :
    (handler.cancel token).all Event.isService = true := by
  cases handler with
  | direct => rfl
  | custom => rfl
  | bridge radio =>
      simp only [cancel]
      split <;> rfl

namespace World

theorem request_isService (world : World) (publication : Publication) (request : Request) :
    (world.request publication request).1.all Event.isService = true := by
  cases intake publication request with
  | ignored _ hrequest =>
      rw [hrequest]
      rfl
  | served configurator _ hrequest =>
      rw [hrequest]
      exact configurator.serve_isService _ _
  | forwarded _ _ _ hrequest =>
      rw [hrequest]
      exact world.executor.spawn_isService _
  | held _ _ hrequest =>
      rw [hrequest]
      rfl
  | settled _ _ _ hrequest =>
      rw [hrequest, List.all_cons, Responder.settle_isService]
      rfl

/-- Apart from registrations and turns of forwarded requests, all calls are served in place. -/
theorem step_isService (world : World) {step : Step} (hregisters : step.registers = false)
    (hrun : step ≠ .run) : (world.step step).events.all Event.isService = true := by
  cases step with
  | register => contradiction
  | run => contradiction
  | initialized | release => rfl
  | request table code buffer declared token =>
      simp only [World.step, onTable]
      cases world.publication? table with
      | none => rfl
      | some publication => exact world.request_isService publication _
  | supports table | radioState table | info table =>
      simp only [World.step, onTable]
      cases world.publication? table <;> rfl
  | cancel table token =>
      simp only [World.step, onTable]
      cases world.publication? table with
      | none => rfl
      | some publication => exact publication.handler.cancel_isService token
  | clone table | forget table | returnCodes table =>
      simp only [World.step, onName]
      cases world.position? table <;> rfl
  | shutdown =>
      show (world.executor.unfinished.flatMap fun work => work.responder.settle .drop).all _ = true
      rw [List.all_flatMap]
      exact List.all_eq_true.mpr fun work _ => work.responder.settle_isService .drop
  | finish token how =>
      simp only [World.step, finish]
      cases world.held.find? (·.token == token) with
      | none => rfl
      | some responder => exact responder.settle_isService how

end World

/-! ## Registrations -/

theorem Launcher.setup_isSetup (launcher : Launcher) (config : BridgeConfig) (host : String)
    (args : List String) : (launcher.setup config host args).events.all Event.isSetup = true := by
  refine List.all_eq_true.mpr ?_
  intro event hevent
  rcases of_mem_setup hevent with hruntime | ⟨notice, rfl⟩
  · cases event <;> first | rfl | contradiction
  · rfl

namespace World

theorem registerWith_isSetup {world : World} {registration : Registration}
    {setup : World → Reaction (Except AdapterError Handler)}
    (hsetup : (setup world).events.all Event.isSetup = true) :
    (world.registerWith registration setup).events.all Event.isSetup = true := by
  unfold registerWith
  split
  · rfl
  · dsimp only
    split
    · exact hsetup
    · split <;> exact hsetup

end World

theorem Backend.setup_isSetup (backend : Backend) (registration : Registration) (world : World) :
    (backend.setup registration world).events.all Event.isSetup = true := by
  induction backend generalizing registration world with
  | direct | stub | custom | failing => rfl
  | bridge config launcher => exact launcher.setup_isSetup config _ _
  | nested inner outer ihinner ihouter =>
      have hfirst : (world.registerWith registration.inner
          (inner.setup registration.inner)).events.all Event.isSetup = true :=
        World.registerWith_isSetup (ihinner registration.inner world)
      simp only [setup, List.all_append, List.all_cons, hfirst, ihouter, Event.isSetup,
        Bool.and_self]

theorem World.register_isSetup (world : World) (registration : Registration) (backend : Backend) :
    (world.register registration backend).events.all Event.isSetup = true :=
  registerWith_isSetup (backend.setup_isSetup registration world)

/-- Hosted calls are started in the turns of forwarded requests and nowhere else. -/
theorem World.hostedCalls_step (world : World) {step : Step} (hrun : step ≠ .run) :
    hostedCalls (world.step step).events = [] := by
  cases hregisters : step.registers with
  | false => exact hostedCalls_of_service (world.step_isService hregisters hrun)
  | true =>
      cases step with
      | register adapter table args backend host =>
          exact hostedCalls_of_setup (world.register_isSetup { adapter, host, table, args } backend)
      | _ => contradiction

end RadioAdapter
