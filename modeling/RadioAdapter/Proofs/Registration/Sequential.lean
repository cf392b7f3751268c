import RadioAdapter.Proofs.Registration.Race

/-! # Sessions as races

A session makes its registrations one at a time, and a nested backend makes one
inside the setup of another. Both are races that go in one particular order:
the call of a nested registration arrives while the outer one is setting up,
and returns before the outer one goes on.
-/

namespace RadioAdapter

/-! ## Runs from race to race -/

namespace Race

/-- Some moves lead from one race to another, making these calls on the way. -/
def Reaches (race : Race) (events : List Event) (later : Race) : Prop :=
  ∃ moves, race.run moves = ⟨events, later⟩

theorem Reaches.refl (race : Race) : race.Reaches [] race := ⟨[], rfl⟩

theorem Reaches.trans {first second third : Race} {events more : List Event}
    (hfirst : first.Reaches events second) (hsecond : second.Reaches more third) :
    first.Reaches (events ++ more) third := by
  obtain ⟨moves, hmoves⟩ := hfirst
  obtain ⟨others, hothers⟩ := hsecond
  refine ⟨moves ++ others, ?_⟩
  rw [run_append, hmoves, hothers]

theorem reaches_move (race : Race) (move : Move) :
    race.Reaches (race.move move).events (race.move move).result := by
  refine ⟨[move], ?_⟩
  rw [run_cons, run_nil, List.append_nil]

theorem reaches_arrive (world : World) (calls : List Call) (registration : Registration)
    (setup : Traced (Except AdapterError Handler)) :
    Reaches ⟨world, calls⟩ [] ⟨world, calls ++ [{ registration := registration, setup }]⟩ :=
  reaches_move ⟨world, calls⟩ (.arrive registration setup)

/-- A call among others takes its next step. -/
theorem reaches_advance (world : World) (before : List Call) (call : Call) (after : List Call)
    {made : Reaction Call} (hmade : call.advance world = made) :
    Reaches ⟨world, before ++ call :: after⟩ made.events
      ⟨made.world, before ++ made.result :: after⟩ := by
  have hcall : (before ++ call :: after)[before.length]? = some call := by simp
  have hreaches := reaches_move ⟨world, before ++ call :: after⟩ (.advance before.length)
  rw [move_advance hcall, hmade] at hreaches
  simpa using hreaches

theorem reaches_take (world : World) (calls : List Call) {step : Step}
    (hstep : step.registers = false) :
    Reaches ⟨world, calls⟩ (world.step step).events ⟨(world.step step).world, calls⟩ := by
  have hreaches := reaches_move ⟨world, calls⟩ (.take step)
  rwa [move_take hstep] at hreaches

end Race

/-- The call when it has made some calls of its setup and these are left. -/
def Call.making (call : Call) (events left : List Event) : Call :=
  { call with stage := .settingUp left, made := call.made ++ events }

/-- A call that is setting up can go on, whatever other calls there are. -/
theorem Race.reaches_making (world : World) (before : List Call) (call : Call)
    (after : List Call) {events left : List Event}
    (hstage : call.stage = .settingUp (events ++ left)) :
    Race.Reaches ⟨world, before ++ call :: after⟩ events
      ⟨world, before ++ call.making events left :: after⟩ := by
  induction events generalizing call with
  | nil =>
      have hmaking : call.making [] left = call := by
        simp only [Call.making, List.append_nil]
        rw [← show call.stage = .settingUp left from hstage]
      rw [hmaking]
      exact .refl _
  | cons event rest ih =>
      -- One step makes the first call; the induction is on those that are left.
      have hfirst := reaches_advance world before call after (Call.advance_of_calling hstage)
      have hrest := ih { call with stage := .settingUp (rest ++ left), made := call.made ++ [event] }
        rfl
      simp only [Call.making, List.append_assoc, List.singleton_append] at hrest ⊢
      exact hfirst.trans hrest

/-! ## Setups -/

/-- The calls that a setup makes by itself. A registration nested in it makes its own
calls, and is here no more than the mark that it leaves. -/
def Backend.script : Backend → Registration → World → List Event
  | .nested inner outer, registration, world =>
      let first := world.register registration.inner inner
      .nested first.result :: outer.script registration first.world
  | backend, registration, world => (backend.setup registration world).events

/-- The setup of a backend as a race has it: the calls that it makes by itself, and
how it ends. -/
def Backend.ownSetup (backend : Backend) (registration : Registration) (world : World) :
    Traced (Except AdapterError Handler) :=
  { events := backend.script registration world
    result := (backend.setup registration world).result }

/-- A call has registered a backend and has returned. -/
structure Call.Completes (call : Call) (backend : Backend) (failure : Option AdapterError) :
    Prop where
  setup : ∃ world, call.setup = backend.ownSetup call.registration world
  stage : call.stage = .returned failure

/-- Whatever call has a backend's setup ahead of it, a race can do this setup. Meanwhile
calls of nested registrations may arrive, and return. -/
def Backend.Runs (backend : Backend) : Prop :=
  ∀ (registration : Registration) (world : World) (before : List Call) (call : Call)
    (after : List Call) (left : List Event),
    call.stage = .settingUp (backend.script registration world ++ left) →
    let made := backend.setup registration world
    ∃ nested : List Call,
      Race.Reaches ⟨world, before ++ call :: after⟩ made.events
        ⟨made.world, before ++ call.making (backend.script registration world) left ::
          (after ++ nested)⟩ ∧
      ∀ other ∈ nested, ∃ inner failure, other.Completes inner failure

/-- A setup that registers nothing runs in one go. -/
theorem Backend.runs_of_leaf {backend : Backend}
    (hscript : ∀ registration world,
      backend.script registration world = (backend.setup registration world).events)
    (hworld : ∀ registration world, (backend.setup registration world).world = world) :
    backend.Runs := by
  intro registration world before call after left hstage
  refine ⟨[], ?_, by simp⟩
  have hreaches := Race.reaches_making world before call after hstage
  rw [List.append_nil, hworld]
  rwa [hscript] at hreaches ⊢

/-- After its setup, a call and the registration that it stands for end alike. -/
theorem Call.advance_eq_registerWith {call : Call} {world : World}
    {setup : World → Reaction (Except AdapterError Handler)}
    (hfree : world.isInitialized call.registration.adapter = false)
    (hstage : call.stage = .settingUp []) (hresult : call.setup.result = (setup world).result) :
    let made := world.registerWith call.registration setup
    made.events = (setup world).events ∧
      call.advance (setup world).world =
        { result := call.returning made.result, world := made.world } := by
  cases hsetup : (setup world).result with
  | error error =>
      rw [World.registerWith_of_error hfree hsetup,
        advance_of_failed hstage (hresult.trans hsetup)]
      exact ⟨rfl, rfl⟩
  | ok handler =>
      cases hinitialized : (setup world).world.isInitialized call.registration.adapter with
      | true =>
          rw [World.registerWith_of_refused hfree hsetup
              (World.publish_of_initialized hinitialized),
            advance_of_lost hstage (hresult.trans hsetup) hinitialized]
          exact ⟨rfl, rfl⟩
      | false =>
          have hpublish : ∃ next,
              (setup world).world.publish call.registration handler = some next :=
            World.exists_publish_of_free hinitialized
          obtain ⟨next, hpublish⟩ := hpublish
          rw [World.registerWith_of_published hfree hsetup hpublish,
            advance_of_won hstage (hresult.trans hsetup) hpublish]
          exact ⟨rfl, rfl⟩

/-- A registration is a run of any race: its call arrives, and everything happens at
once that the registration does. -/
theorem Backend.Runs.register {backend : Backend} (hruns : backend.Runs) (world : World)
    (calls : List Call) (registration : Registration) :
    let made := world.register registration backend
    ∃ call nested,
      Race.Reaches ⟨world, calls⟩ made.events ⟨made.world, calls ++ call :: nested⟩ ∧
      call.registration = registration ∧ call.Completes backend made.result ∧
      ∀ other ∈ nested, ∃ inner failure, other.Completes inner failure := by
  let setup := backend.ownSetup registration world
  let call : Call := { registration := registration, setup }
  have harrive := Race.reaches_arrive world calls registration setup
  cases hfree : world.isInitialized registration.adapter with
  | true =>
      have hlook := Race.reaches_advance world calls call [] (Call.advance_of_late rfl hfree)
      rw [World.register, World.registerWith_of_initialized hfree]
      exact ⟨call.returning (some .alreadyInitialized), [], harrive.trans hlook, rfl,
        ⟨⟨world, rfl⟩, rfl⟩, by simp⟩
  | false =>
      let entered : Call := { call with stage := .settingUp setup.events }
      have hlook := Race.reaches_advance world calls call [] (Call.advance_of_early rfl hfree)
      obtain ⟨nested, hsetup, hnested⟩ := hruns registration world calls entered [] []
        (by simp [entered, setup, ownSetup])
      -- With nothing of the setup left, the exchange is next.
      let done := entered.making (backend.script registration world) []
      obtain ⟨hevents, hexchange⟩ :=
        @Call.advance_eq_registerWith done world (backend.setup registration) hfree rfl rfl
      have hreturn := Race.reaches_advance _ calls done nested hexchange
      refine ⟨done.returning (world.register registration backend).result, nested, ?_, rfl,
        ⟨⟨world, rfl⟩, rfl⟩, hnested⟩
      have hreaches := harrive.trans (hlook.trans (hsetup.trans hreturn))
      simp only [List.nil_append, List.append_nil] at hreaches
      rw [← hevents] at hreaches
      exact hreaches

/-- Every setup runs in every race. -/
theorem Backend.runs (backend : Backend) : backend.Runs := by
  induction backend with
  | direct | bridge | stub | custom | failing =>
      exact runs_of_leaf (fun _ _ => rfl) (fun _ _ => rfl)
  | nested inner outer ihinner ihouter =>
      intro registration world before call after left hstage
      let first := world.register registration.inner inner
      -- The inner registration arrives behind all other calls and returns.
      obtain ⟨arrived, nested, hinner, _, harrived, hnested⟩ :=
        ihinner.register world (before ++ call :: after) registration.inner
      rw [List.append_assoc, List.cons_append] at hinner
      let mark : List Event := [.nested first.result]
      let rest := outer.script registration first.world
      -- The outer call records this, and its own setup follows in the world left behind.
      have hmark := Race.reaches_making first.world before call (after ++ arrived :: nested)
        (show call.stage = .settingUp (mark ++ (rest ++ left)) from hstage)
      obtain ⟨others, houter, hothers⟩ := ihouter registration first.world before
        (call.making mark (rest ++ left)) (after ++ arrived :: nested) left rfl
      refine ⟨arrived :: nested ++ others, ?_, ?_⟩
      · have hreaches := hinner.trans (hmark.trans houter)
        simp only [Call.making, List.append_assoc] at hreaches
        exact hreaches
      · intro other hother
        rcases List.mem_append.mp hother with hinner | houter
        · rcases List.mem_cons.mp hinner with rfl | hinner
          · exact ⟨inner, _, harrived⟩
          · exact hnested other hinner
        · exact hothers other houter

/-- Every registration is a run of every race. -/
theorem World.register_reaches (world : World) (calls : List Call) (registration : Registration)
    (backend : Backend) :
    let made := world.register registration backend
    ∃ call nested,
      Race.Reaches ⟨world, calls⟩ made.events ⟨made.world, calls ++ call :: nested⟩ ∧
      call.registration = registration ∧ call.Completes backend made.result ∧
      ∀ other ∈ nested, ∃ inner failure, other.Completes inner failure :=
  backend.runs.register world calls registration

/-- A step of a session is a run of every race. -/
theorem World.step_reaches (world : World) (calls : List Call) (step : Step) :
    ∃ arrived : List Call,
      Race.Reaches ⟨world, calls⟩ (world.step step).events
        ⟨(world.step step).world, calls ++ arrived⟩ ∧
      ∀ call ∈ arrived, ∃ backend failure, call.Completes backend failure := by
  cases hstep : step.registers with
  | false =>
      refine ⟨[], ?_, by simp⟩
      rw [List.append_nil]
      exact Race.reaches_take world calls hstep
  | true =>
      cases step with
      | register adapter table args backend host =>
          obtain ⟨call, nested, hreaches, _, hcall, hnested⟩ :=
            world.register_reaches calls { adapter, host, table, args } backend
          refine ⟨call :: nested, hreaches, ?_⟩
          intro other hother
          rcases List.mem_cons.mp hother with rfl | hother
          · exact ⟨backend, _, hcall⟩
          · exact hnested other hother
      | _ => contradiction

/-- Every session is a run of a race in which all calls come from backends, and return. -/
theorem World.session_reaches (world : World) (calls : List Call) (steps : List Step) :
    ∃ arrived : List Call,
      Race.Reaches ⟨world, calls⟩ ((world.shownBy steps).flatMap Prod.snd)
        ⟨world.after steps, calls ++ arrived⟩ ∧
      ∀ call ∈ arrived, ∃ backend failure, call.Completes backend failure := by
  induction steps generalizing world calls with
  | nil =>
      refine ⟨[], ?_, by simp⟩
      rw [List.append_nil]
      exact .refl _
  | cons step rest ih =>
      obtain ⟨first, hfirst, hreturned⟩ := world.step_reaches calls step
      obtain ⟨second, hsecond, hlater⟩ := ih (world.step step).world (calls ++ first)
      rw [List.append_assoc] at hsecond
      refine ⟨first ++ second, hfirst.trans hsecond, ?_⟩
      intro call hcall
      rcases List.mem_append.mp hcall with hcall | hcall
      · exact hreturned call hcall
      · exact hlater call hcall

end RadioAdapter
