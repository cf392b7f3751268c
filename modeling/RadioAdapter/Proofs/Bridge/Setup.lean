import RadioAdapter.Adapter.Registration

/-! # Setting a bridge up is all or nothing

The setup of a bridge launches a runtime, constructs a radio and initialises it. The first of
these calls that fails ends the setup, and a runtime that has been launched by then is destroyed,
right after its pending fault has been taken. What the outside does in a call is its own affair:
it may depend on all that has happened and change it, and an initialisation may call its host or
have other backends registered before it ends.
-/

namespace RadioAdapter

/-- How the outside of a setup behaves, in whatever state it is: the launcher, the runtimes that
it launches and the radios that these construct. -/
structure Outside (σ ρ η : Type) where
  launch : LaunchOptions → σ → Except RuntimeFault ρ × σ
  construct : ρ → String → σ → Except RuntimeFault η × σ
  /-- Initialise a radio on a host: the calls that the radio makes meanwhile, and the fault that
  ends it early, if one does. -/
  init : η → String → List String → σ → (List Event × Option RuntimeFault) × σ
  takePendingFault : ρ → σ → Option String × σ
  destroy : ρ → σ → σ

/-- A call of a setup to the outside, with what it came to. -/
inductive SetupCall (ρ η : Type) where
  | launch (options : LaunchOptions) (outcome : Except RuntimeFault ρ)
  | construct (runtime : ρ) (className : String) (outcome : Except RuntimeFault η)
  | init (radio : η) (host : String) (args : List String) (emitted : List Event)
      (failure : Option RuntimeFault)
  | takePendingFault (runtime : ρ) (pending : Option String)
  | destroy (runtime : ρ)

/-- What is seen of a call from outside. -/
def SetupCall.events {ρ η : Type} : SetupCall ρ η → List Event
  | .launch options _ => [.launch options]
  | .construct _ className _ => [.construct className]
  | .init _ _ args emitted _ => .init args :: emitted
  | .takePendingFault _ pending => [.takePendingFault pending]
  | .destroy _ => [.destroy]

/-! ## Rules -/

/-- The calls that the setup of a bridge may make, in order, and the result that goes with them. -/
inductive AllOrNothing {ρ η : Type} (config : BridgeConfig) (host : String) (args : List String) :
    List (SetupCall ρ η) → Except AdapterError η → Prop where
  | notLaunched (fault : RuntimeFault) :
      AllOrNothing config host args
        [.launch config.launchOptions (.error fault)]
        (.error (.backendSetupFailed "launch" fault.message))
  | notConstructed (runtime : ρ) (fault : RuntimeFault) (pending : Option String) :
      AllOrNothing config host args
        [.launch config.launchOptions (.ok runtime),
          .construct runtime config.hostedClass (.error fault),
          .takePendingFault runtime pending, .destroy runtime]
        (.error (.backendSetupFailed "construct" fault.message))
  | notInitialized (runtime : ρ) (radio : η) (emitted : List Event) (fault : RuntimeFault)
      (pending : Option String) :
      AllOrNothing config host args
        [.launch config.launchOptions (.ok runtime),
          .construct runtime config.hostedClass (.ok radio),
          .init radio host args emitted (some fault),
          .takePendingFault runtime pending, .destroy runtime]
        (.error (.backendSetupFailed "init" fault.message))
  | started (runtime : ρ) (radio : η) (emitted : List Event) :
      AllOrNothing config host args
        [.launch config.launchOptions (.ok runtime),
          .construct runtime config.hostedClass (.ok radio),
          .init radio host args emitted none]
        (.ok radio)

namespace Outside

variable {σ ρ η : Type}

/-- The outside answers calls one after the other, each in the state in which the one before it
has left it. -/
inductive Answers (outside : Outside σ ρ η) : σ → List (SetupCall ρ η) → σ → Prop where
  | done (state : σ) : Answers outside state [] state
  | launch {options : LaunchOptions} {outcome : Except RuntimeFault ρ} {state next last : σ}
      {calls : List (SetupCall ρ η)} (hcall : outside.launch options state = (outcome, next))
      (hlater : Answers outside next calls last) :
      Answers outside state (.launch options outcome :: calls) last
  | construct {runtime : ρ} {className : String} {outcome : Except RuntimeFault η}
      {state next last : σ} {calls : List (SetupCall ρ η)}
      (hcall : outside.construct runtime className state = (outcome, next))
      (hlater : Answers outside next calls last) :
      Answers outside state (.construct runtime className outcome :: calls) last
  | init {radio : η} {host : String} {args : List String} {emitted : List Event}
      {failure : Option RuntimeFault} {state next last : σ} {calls : List (SetupCall ρ η)}
      (hcall : outside.init radio host args state = ((emitted, failure), next))
      (hlater : Answers outside next calls last) :
      Answers outside state (.init radio host args emitted failure :: calls) last
  | takePendingFault {runtime : ρ} {pending : Option String} {state next last : σ}
      {calls : List (SetupCall ρ η)}
      (hcall : outside.takePendingFault runtime state = (pending, next))
      (hlater : Answers outside next calls last) :
      Answers outside state (.takePendingFault runtime pending :: calls) last
  | destroy {runtime : ρ} {state last : σ} {calls : List (SetupCall ρ η)}
      (hlater : Answers outside (outside.destroy runtime state) calls last) :
      Answers outside state (.destroy runtime :: calls) last

/-! ## The setup -/

/-- A computation that calls the outside and keeps a list of its calls. -/
abbrev Calling (σ ρ η : Type) := StateM (σ × List (SetupCall ρ η))

/-- Make one call, which the outside answers in its state. -/
def call {α : Type} (act : σ → α × σ) (record : α → SetupCall ρ η) : Calling σ ρ η α :=
  fun made => ((act made.1).1, (act made.1).2, made.2 ++ [record (act made.1).1])

theorem run_bind {α β : Type} (act : Calling σ ρ η α) (next : α → Calling σ ρ η β)
    (made : σ × List (SetupCall ρ η)) :
    (act >>= next).run made = (next (act.run made).1).run (act.run made).2 := rfl

theorem run_pure {α : Type} (result : α) (made : σ × List (SetupCall ρ η)) :
    (pure result : Calling σ ρ η α).run made = (result, made) := rfl

theorem run_call {α : Type} (act : σ → α × σ) (record : α → SetupCall ρ η) (state : σ)
    (calls : List (SetupCall ρ η)) :
    (call act record).run (state, calls) =
      ((act state).1, (act state).2, calls ++ [record (act state).1]) := rfl

/-- Construct and initialise the hosted radio of a live runtime. -/
def start (outside : Outside σ ρ η) (runtime : ρ) (className host : String) (args : List String) :
    Calling σ ρ η (Except AdapterError η) := do
  match ← call (outside.construct runtime className) (.construct runtime className) with
  | .error fault => return .error (.ofFault "construct" fault)
  | .ok radio =>
      let made ← call (outside.init radio host args)
        fun made => .init radio host args made.1 made.2
      match made.2 with
      | some fault => return .error (.ofFault "init" fault)
      | none => return .ok radio

/-- Launch a runtime and start its hosted radio, or leave nothing behind. -/
def setup (outside : Outside σ ρ η) (config : BridgeConfig) (host : String) (args : List String) :
    Calling σ ρ η (Except AdapterError η) := do
  match ← call (outside.launch config.launchOptions) (.launch config.launchOptions) with
  | .error fault => return .error (.ofFault "launch" fault)
  | .ok runtime =>
      match ← outside.start runtime config.hostedClass host args with
      | .ok radio => return .ok radio
      | .error error =>
          let _ ← call (outside.takePendingFault runtime) (.takePendingFault runtime)
          call (fun state => ((), outside.destroy runtime state)) fun _ => .destroy runtime
          return .error error

section

variable {outside : Outside σ ρ η} {config : BridgeConfig} {host : String} {args : List String}
variable {state launched constructed initialized taken : σ} {runtime : ρ} {radio : η}
variable {fault : RuntimeFault} {pending : Option String} {emitted : List Event}

theorem setup_of_notLaunched
    (hlaunch : outside.launch config.launchOptions state = (.error fault, launched)) :
    (outside.setup config host args).run (state, []) =
      (.error (.ofFault "launch" fault), launched,
        [.launch config.launchOptions (.error fault)]) := by
  simp only [setup, run_bind, run_pure, run_call, hlaunch, List.nil_append]

theorem setup_of_notConstructed
    (hlaunch : outside.launch config.launchOptions state = (.ok runtime, launched))
    (hconstruct : outside.construct runtime config.hostedClass launched =
      (.error fault, constructed))
    (hpending : outside.takePendingFault runtime constructed = (pending, taken)) :
    (outside.setup config host args).run (state, []) =
      (.error (.ofFault "construct" fault), outside.destroy runtime taken,
        [.launch config.launchOptions (.ok runtime),
          .construct runtime config.hostedClass (.error fault),
          .takePendingFault runtime pending, .destroy runtime]) := by
  simp only [setup, start, run_bind, run_pure, run_call, hlaunch, hconstruct, hpending,
    List.nil_append, List.cons_append]

theorem setup_of_notInitialized
    (hlaunch : outside.launch config.launchOptions state = (.ok runtime, launched))
    (hconstruct : outside.construct runtime config.hostedClass launched = (.ok radio, constructed))
    (hinit : outside.init radio host args constructed = ((emitted, some fault), initialized))
    (hpending : outside.takePendingFault runtime initialized = (pending, taken)) :
    (outside.setup config host args).run (state, []) =
      (.error (.ofFault "init" fault), outside.destroy runtime taken,
        [.launch config.launchOptions (.ok runtime),
          .construct runtime config.hostedClass (.ok radio),
          .init radio host args emitted (some fault),
          .takePendingFault runtime pending, .destroy runtime]) := by
  simp only [setup, start, run_bind, run_pure, run_call, hlaunch, hconstruct, hinit, hpending,
    List.nil_append, List.cons_append]

theorem setup_of_started
    (hlaunch : outside.launch config.launchOptions state = (.ok runtime, launched))
    (hconstruct : outside.construct runtime config.hostedClass launched = (.ok radio, constructed))
    (hinit : outside.init radio host args constructed = ((emitted, none), initialized)) :
    (outside.setup config host args).run (state, []) =
      (.ok radio, initialized,
        [.launch config.launchOptions (.ok runtime),
          .construct runtime config.hostedClass (.ok radio),
          .init radio host args emitted none]) := by
  simp only [setup, start, run_bind, run_pure, run_call, hlaunch, hconstruct, hinit,
    List.nil_append, List.cons_append]

end

variable (outside : Outside σ ρ η) (config : BridgeConfig) (host : String) (args : List String)

/-- A setup makes the calls that the rules allow, and the outside has answered them. -/
theorem allOrNothing_setup (state : σ) :
    let made := (outside.setup config host args).run (state, [])
    outside.Answers state made.2.2 made.2.1 ∧ AllOrNothing config host args made.2.2 made.1 := by
  intro made
  rcases hlaunch : outside.launch config.launchOptions state with ⟨fault | runtime, launched⟩
  · simp only [made, setup_of_notLaunched hlaunch]
    exact ⟨.launch hlaunch (.done _), .notLaunched fault⟩
  rcases hconstruct : outside.construct runtime config.hostedClass launched with
    ⟨fault | radio, constructed⟩
  · rcases hpending : outside.takePendingFault runtime constructed with ⟨pending, taken⟩
    simp only [made, setup_of_notConstructed hlaunch hconstruct hpending]
    exact ⟨.launch hlaunch (.construct hconstruct (.takePendingFault hpending
      (.destroy (.done _)))), .notConstructed runtime fault pending⟩
  rcases hinit : outside.init radio host args constructed with
    ⟨⟨emitted, _ | fault⟩, initialized⟩
  · simp only [made, setup_of_started hlaunch hconstruct hinit]
    exact ⟨.launch hlaunch (.construct hconstruct (.init hinit (.done _))),
      .started runtime radio emitted⟩
  · rcases hpending : outside.takePendingFault runtime initialized with ⟨pending, taken⟩
    simp only [made, setup_of_notInitialized hlaunch hconstruct hinit hpending]
    exact ⟨.launch hlaunch (.construct hconstruct (.init hinit (.takePendingFault hpending
      (.destroy (.done _))))), .notInitialized runtime radio emitted fault pending⟩

variable {outside config host args}

/-- The rules leave no choice: what the outside answers decides which of them applies. -/
theorem setup_of_allOrNothing {state last : σ} {calls : List (SetupCall ρ η)}
    {result : Except AdapterError η} (hanswers : outside.Answers state calls last)
    (hcalls : AllOrNothing config host args calls result) :
    (outside.setup config host args).run (state, []) = (result, last, calls) := by
  cases hcalls with
  | notLaunched fault =>
      cases hanswers with
      | launch hlaunch hlater =>
          cases hlater
          exact setup_of_notLaunched hlaunch
  | notConstructed runtime fault pending =>
      cases hanswers with
      | launch hlaunch hlater =>
      cases hlater with
      | construct hconstruct hlater =>
      cases hlater with
      | takePendingFault hpending hlater =>
      cases hlater with
      | destroy hlater =>
          cases hlater
          exact setup_of_notConstructed hlaunch hconstruct hpending
  | notInitialized runtime radio emitted fault pending =>
      cases hanswers with
      | launch hlaunch hlater =>
      cases hlater with
      | construct hconstruct hlater =>
      cases hlater with
      | init hinit hlater =>
      cases hlater with
      | takePendingFault hpending hlater =>
      cases hlater with
      | destroy hlater =>
          cases hlater
          exact setup_of_notInitialized hlaunch hconstruct hinit hpending
  | started runtime radio emitted =>
      cases hanswers with
      | launch hlaunch hlater =>
      cases hlater with
      | construct hconstruct hlater =>
      cases hlater with
      | init hinit hlater =>
          cases hlater
          exact setup_of_started hlaunch hconstruct hinit

theorem setup_eq_iff {state last : σ} {calls : List (SetupCall ρ η)}
    {result : Except AdapterError η} :
    (outside.setup config host args).run (state, []) = (result, last, calls) ↔
      outside.Answers state calls last ∧ AllOrNothing config host args calls result := by
  constructor
  · intro hsetup
    have hmade := outside.allOrNothing_setup config host args state
    rw [hsetup] at hmade
    exact hmade
  · rintro ⟨hanswers, hcalls⟩
    exact setup_of_allOrNothing hanswers hcalls

end Outside

/-! ## Launchers -/

/-- A launcher as the outside of a setup: it leaves the adapters alone, and the only calls that
an initialisation makes are its notices to the host. -/
def Launcher.outside (launcher : Launcher) : Outside World EmbeddedRuntime HostedRadio where
  launch options world := (launcher options, world)
  construct runtime className world := (runtime.construct className, world)
  init radio host args world :=
    (((radio.init args).notices.map (.unsolicited host), (radio.init args).failure), world)
  takePendingFault runtime world := (runtime.pendingFault, world)
  destroy _ world := world

/-- What the setup of a bridge backend does is the setup with its launcher outside. -/
theorem Backend.setup_bridge (config : BridgeConfig) (launcher : Launcher)
    (registration : Registration) (world : World) :
    let made := (launcher.outside.setup config registration.host registration.args).run (world, [])
    (Backend.bridge config launcher).setup registration world =
      { result := made.1.map .bridge
        events := made.2.2.flatMap SetupCall.events
        world := made.2.1 } := by
  intro made
  cases hlaunch : launcher config.launchOptions with
  | error fault =>
      have hmade : made = _ := Outside.setup_of_notLaunched (congrArg (·, world) hlaunch)
      simp only [setup, Launcher.setup_of_fault hlaunch, hmade]
      rfl
  | ok embedded =>
      cases hconstruct : embedded.construct config.hostedClass with
      | error fault =>
          have hmade : made = _ := Outside.setup_of_notConstructed (congrArg (·, world) hlaunch)
            (congrArg (·, world) hconstruct) rfl
          simp only [setup, Launcher.setup, hlaunch, EmbeddedRuntime.start, hconstruct, hmade]
          rfl
      | ok radio =>
          cases hfailure : (radio.init registration.args).failure with
          | some fault =>
              have hmade : made = _ := Outside.setup_of_notInitialized
                (congrArg (·, world) hlaunch) (congrArg (·, world) hconstruct)
                (congrArg (fun failure => ((_, failure), world)) hfailure) rfl
              simp only [setup, Launcher.setup, hlaunch, EmbeddedRuntime.start, hconstruct,
                hfailure, hmade]
              simp [SetupCall.events, Except.map, Launcher.outside]
          | none =>
              have hmade : made = _ := Outside.setup_of_started
                (congrArg (·, world) hlaunch) (congrArg (·, world) hconstruct)
                (congrArg (fun failure => ((_, failure), world)) hfailure)
              simp only [setup, Launcher.setup, hlaunch, EmbeddedRuntime.start, hconstruct,
                hfailure, hmade]
              simp [SetupCall.events, Except.map]

/-- Setting a bridge up is all or nothing, whatever the outside does and in whatever state it is:
the setup makes certain calls and ends with a certain result exactly if the outside answers these
calls in this way and the rules allow them with this result. The setup of a bridge backend is such
a setup, with its launcher outside. -/
theorem bridge_setup_is_all_or_nothing (config : BridgeConfig) (host : String)
    (args : List String) :
    (∀ (σ ρ η : Type) (outside : Outside σ ρ η) (state last : σ) (calls : List (SetupCall ρ η))
        (result : Except AdapterError η),
        (outside.setup config host args).run (state, []) = (result, last, calls) ↔
          outside.Answers state calls last ∧ AllOrNothing config host args calls result) ∧
      ∀ (launcher : Launcher) (adapter table : String) (world : World),
        let made := (launcher.outside.setup config host args).run (world, [])
        (Backend.bridge config launcher).setup { adapter, host, table, args } world =
          { result := made.1.map .bridge
            events := made.2.2.flatMap SetupCall.events
            world := made.2.1 } :=
  ⟨fun _ _ _ _ _ _ _ _ => Outside.setup_eq_iff,
    fun launcher adapter table world =>
      Backend.setup_bridge config launcher { adapter, host, table, args } world⟩

/-- A radio that sends a notice, registers another backend on the adapter that is being set up,
and then fails to initialise: the runtime is destroyed all the same. -/
theorem bridge_setup_is_all_or_nothing_of_nested :
    let outside : Outside World Unit Unit :=
      { launch := fun _ world => (.ok (), world)
        construct := fun _ _ world => (.ok (), world)
        init := fun _ host _ world =>
          let inner := world.register { adapter := "modem", host, table := "inner", args := [] }
            (.direct {})
          (([.unsolicited host ⟨1, [7]⟩, .nested inner.result], some (.exception "init" "no bus")),
            inner.world)
        takePendingFault := fun _ world => (none, world)
        destroy := fun _ world => world }
    let config : BridgeConfig := { hostedClass := "Ril" }
    ∃ calls last, (outside.setup config "radio" ["-d"]).run ({}, []) =
        (.error (.backendSetupFailed "init" "exception in init: no bus"), last, calls) ∧
      calls.flatMap SetupCall.events =
        [.launch config.launchOptions, .construct "Ril", .init ["-d"], .unsolicited "radio" ⟨1, [7]⟩,
          .nested none, .takePendingFault none, .destroy] ∧
      last.isInitialized "modem" = true := by
  intro outside config
  have hsetup := (bridge_setup_is_all_or_nothing config "radio" ["-d"]).1 World Unit Unit outside {}
  exact ⟨_, _, (hsetup _ _ _).mpr ⟨.launch rfl (.construct rfl (.init rfl (.takePendingFault rfl
    (.destroy (.done _))))), .notInitialized () () _ (.exception "init" "no bus") none⟩, rfl, rfl⟩

end RadioAdapter
