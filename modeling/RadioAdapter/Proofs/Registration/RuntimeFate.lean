import RadioAdapter.Proofs.Calls
import RadioAdapter.Proofs.Registration.Once

/-! # What becomes of an embedded runtime

A registration call that sets a bridge up launches a runtime. When the call has
returned, either the runtime's radio is in service, or the setup has failed and
the runtime is destroyed, or the call has come too late for the exchange and
leaves the runtime behind.
-/

namespace RadioAdapter

/-! ## Calls to runtimes -/

/-- No call among these goes to an embedded runtime. -/
def LeavesRuntimes (events : List Event) : Prop :=
  ∀ event ∈ events, event.concernsRuntime = false

theorem Event.concernsRuntime_of_isService {event : Event} (hservice : event.isService = true) :
    event.concernsRuntime = false := by
  cases event <;> first | rfl | contradiction

theorem Task.leavesRuntimes_events (task : Task) : LeavesRuntimes task.events := by
  intro event hevent
  rcases of_mem_events hevent with rfl | ⟨notice, rfl⟩ | hservice
  · rfl
  · rfl
  · exact Event.concernsRuntime_of_isService hservice

/-- Only registrations make calls to embedded runtimes. -/
theorem World.leavesRuntimes_step (world : World) {step : Step} (hstep : step.registers = false) :
    LeavesRuntimes (world.step step).events := by
  by_cases hrun : step = .run
  · subst hrun
    intro event hevent
    obtain ⟨task, -, hevent⟩ := List.mem_flatMap.mp hevent
    exact task.leavesRuntimes_events event hevent
  · intro event hevent
    have hservice := world.step_isService hstep hrun
    exact Event.concernsRuntime_of_isService (List.all_eq_true.mp hservice event hevent)

/-! ## Every call to a runtime is some registration call's -/

/-- A call's own step makes the calls that it adds to those it has made. -/
theorem Call.Advances.made_eq {call : Call} {world : World} {made : Reaction Call}
    (hadvances : call.Advances world made) : made.result.made = call.made ++ made.events := by
  cases hadvances with
  | calling => rfl
  | late | early | failed | lost | won | returned => exact (List.append_nil _).symm

/-- Replacing one element changes how often a call is made by what the two make. -/
theorem count_flatMap_set_add {α : Type} {list : List α} {position : Nat} {old : α}
    (hold : list[position]? = some old) (calls : α → List Event) (new : α) (event : Event) :
    ((list.set position new).flatMap calls).count event + (calls old).count event =
      (list.flatMap calls).count event + (calls new).count event := by
  induction list generalizing position with
  | nil => contradiction
  | cons head rest ih =>
      cases position with
      | zero =>
          cases Option.some.inj hold
          simp only [List.set_cons_zero, List.flatMap_cons, List.count_append]
          omega
      | succ position =>
          have hrest := ih hold
          simp only [List.set_cons_succ, List.flatMap_cons, List.count_append]
          omega

namespace Race

/-- How often the calls of a race have made a certain call. -/
def madeCount (race : Race) (event : Event) : Nat :=
  (race.calls.flatMap Call.made).count event

theorem count_move (race : Race) (move : Move) {event : Event}
    (hruntime : event.concernsRuntime = true) :
    (race.move move).result.madeCount event =
      race.madeCount event + (race.move move).events.count event := by
  have hmoves := race.move_moves move
  generalize race.move move = next at hmoves ⊢
  cases hmoves with
  | arrive registration setup => simp [madeCount]
  | idle => rfl
  | take step hstep =>
      have hcount : (race.world.step step).events.count event = 0 := by
        refine List.count_eq_zero.mpr ?_
        intro hevent
        rw [race.world.leavesRuntimes_step hstep event hevent] at hruntime
        contradiction
      rw [hcount]
      rfl
  | advance position call made hcall hadvances =>
      have hcount := count_flatMap_set_add hcall Call.made made.result event
      rw [hadvances.made_eq, List.count_append] at hcount
      simp only [madeCount]
      omega

/-- The calls to runtimes in a run are those that its registration calls have made. -/
theorem count_run (race : Race) (moves : List Move) {event : Event}
    (hruntime : event.concernsRuntime = true) :
    (race.run moves).result.madeCount event =
      race.madeCount event + (race.run moves).events.count event := by
  induction moves generalizing race with
  | nil => rfl
  | cons move rest ih =>
      rw [run_cons, ih, count_move race move hruntime, List.count_append]
      omega

end Race

/-! ## The setup of a bridge -/

/-- Whether a call is the caller's own, and not the mark of a registration inside it. -/
def Event.isOwn : Event → Bool
  | .nested _ => false
  | _ => true

section

variable {launcher : Launcher} {config : BridgeConfig} {host : String} {args : List String}
variable {embedded : EmbeddedRuntime}

theorem EmbeddedRuntime.count_start (embedded : EmbeddedRuntime) (className host : String)
    (args : List String) :
    (embedded.start className host args).events.count .destroy = 0 ∧
      ∀ options, (embedded.start className host args).events.count (.launch options) = 0 := by
  constructor
  · refine List.count_eq_zero.mpr ?_
    intro hevent
    rcases eq_of_mem_start hevent with hevent | hevent | ⟨notice, hevent⟩ <;> contradiction
  · intro options
    refine List.count_eq_zero.mpr ?_
    intro hevent
    rcases eq_of_mem_start hevent with hevent | hevent | ⟨notice, hevent⟩ <;> contradiction

/-- The setup of a bridge launches one runtime. It ends as the start does, and the
runtime is destroyed if the start fails. -/
theorem Launcher.setup_of_launched (hlaunch : launcher config.launchOptions = .ok embedded) :
    (launcher.setup config host args).result =
        (embedded.start config.hostedClass host args).result ∧
      (launcher.setup config host args).events.count (.launch config.launchOptions) = 1 ∧
      (launcher.setup config host args).events.count .destroy =
        if (embedded.start config.hostedClass host args).result.isOk then 0 else 1 := by
  obtain ⟨hdestroy, hlaunches⟩ := embedded.count_start config.hostedClass host args
  cases hstart : (embedded.start config.hostedClass host args).result with
  | ok radio =>
      rw [setup_of_started hlaunch hstart]
      refine ⟨rfl, ?_, ?_⟩
      · rw [List.count_cons_self, hlaunches]
      · rw [List.count_cons_of_ne (by simp), hdestroy]
        rfl
  | error error =>
      rw [setup_of_failed hlaunch hstart]
      refine ⟨rfl, ?_, ?_⟩
      · rw [List.count_append, List.count_cons_self, hlaunches]
        rfl
      · rw [List.count_append, List.count_cons_of_ne (by simp), hdestroy]
        rfl

theorem Launcher.isOwn_setup (launcher : Launcher) (config : BridgeConfig) (host : String)
    (args : List String) :
    ∀ event ∈ (launcher.setup config host args).events, event.isOwn = true := by
  intro event hevent
  rcases of_mem_setup hevent with hruntime | ⟨notice, rfl⟩
  · cases event <;> first | rfl | contradiction
  · rfl

end

/-- A call sets a bridge up. Registrations inside its setup may leave their marks
between the calls of the bridge's own setup. -/
structure Call.SetsBridgeUp (call : Call) (config : BridgeConfig) (launcher : Launcher) :
    Prop where
  events : call.setup.events.filter Event.isOwn =
    (launcher.setup config call.registration.host call.registration.args).events
  result : call.setup.result =
    (launcher.setup config call.registration.host call.registration.args).result.map .bridge

/-- The backend that is left to be set up when everything nested in a backend has been
registered. -/
def Backend.core : Backend → Backend
  | .nested _ outer => outer.core
  | backend => backend

/-- A backend that comes down to a bridge sets that bridge up. -/
theorem Backend.ownSetup_of_bridge {backend : Backend} {config : BridgeConfig}
    {launcher : Launcher} (hcore : backend.core = .bridge config launcher)
    (registration : Registration) (world : World) :
    let made := launcher.setup config registration.host registration.args
    (backend.ownSetup registration world).events.filter Event.isOwn = made.events ∧
      (backend.ownSetup registration world).result = made.result.map .bridge := by
  induction backend generalizing world with
  | direct | stub | custom | failing => contradiction
  | bridge config' launcher' =>
      cases hcore
      refine ⟨List.filter_eq_self.mpr ?_, rfl⟩
      exact launcher.isOwn_setup config registration.host registration.args
  | nested inner outer ihinner ihouter =>
      exact ihouter hcore (world.register registration.inner inner).world

theorem Call.Completes.setsBridgeUp {call : Call} {backend : Backend}
    {failure : Option AdapterError} (hcompletes : call.Completes backend failure)
    {config : BridgeConfig} {launcher : Launcher} (hcore : backend.core = .bridge config launcher) :
    call.SetsBridgeUp config launcher := by
  obtain ⟨world, hsetup⟩ := hcompletes.setup
  obtain ⟨hevents, hresult⟩ := Backend.ownSetup_of_bridge hcore call.registration world
  constructor
  · rw [hsetup, hevents]
  · rw [hsetup, hresult]

/-! ## The fate of a runtime -/

/-- A bridge's setup that has been made in full has launched one runtime, and has
destroyed it if it has failed. -/
theorem Call.SetsBridgeUp.of_made {call : Call} {config : BridgeConfig} {launcher : Launcher}
    (hbridge : call.SetsBridgeUp config launcher) {embedded : EmbeddedRuntime}
    (hlaunch : launcher config.launchOptions = .ok embedded)
    (hmade : call.made = call.setup.events) :
    let started := (embedded.start config.hostedClass call.registration.host
      call.registration.args).result
    call.setup.result = started.map .bridge ∧
      call.made.count (.launch config.launchOptions) = 1 ∧
      call.made.count .destroy = if started.isOk then 0 else 1 := by
  have hcount (event : Event) (hown : event.isOwn = true) :
      call.made.count event = (launcher.setup config call.registration.host
        call.registration.args).events.count event := by
    rw [hmade, ← hbridge.events, List.count_filter hown]
  obtain ⟨hresult, hlaunches, hdestroy⟩ := Launcher.setup_of_launched hlaunch
  refine ⟨?_, ?_, ?_⟩
  · rw [hbridge.result, hresult]
  · rw [hcount _ rfl, hlaunches]
  · rw [hcount _ rfl, hdestroy]

/-- A call that finds its adapter initialised, after whatever it has done, has been
overtaken by another one. -/
theorem Race.Single.exists_rival {race : Race} (hsingle : race.Single) {position : Nat}
    {call : Call} (hcall : race.calls[position]? = some call) {error : AdapterError}
    (hstage : call.stage = .returned (some error))
    (hinitialized : race.world.isInitialized call.registration.adapter = true) :
    ∃ rival other, rival ≠ position ∧ race.calls[rival]? = some other ∧
      other.hasWon call.registration.adapter = true := by
  have hwinners := hsingle call.registration.adapter
  rw [hinitialized] at hwinners
  have hpos : 0 < race.calls.countP (Call.hasWon call.registration.adapter) := by
    show 0 < race.winners call.registration.adapter
    rw [hwinners]
    decide
  obtain ⟨other, hmem, hwon⟩ := List.countP_pos_iff.mp hpos
  obtain ⟨rival, hrival⟩ := List.mem_iff_getElem?.mp hmem
  refine ⟨rival, other, ?_, hrival, hwon⟩
  -- A call that has returned an error has won nothing.
  intro heq
  rw [heq] at hrival
  cases hcall.symm.trans hrival
  simp [Call.hasWon, hstage] at hwon

/-- What has become of the runtime of a call at a position that has returned. -/
inductive Race.Fate (race : Race) (position : Nat) (call : Call)
    (started : Except AdapterError HostedRadio) : Option AdapterError → Prop where
  /-- Its radio serves the host that it was registered for. -/
  | inService (radio : HostedRadio) (hstarted : started = .ok radio)
      (hkept : call.made.count .destroy = 0)
      (hserves : race.world.Serves call.registration.host (.bridge radio)) :
      Fate race position call started none
  /-- It could not be started, and is destroyed. -/
  | destroyed (error : AdapterError) (hstarted : started = .error error)
      (herror : error ≠ .alreadyInitialized) (hdestroyed : call.made.count .destroy = 1) :
      Fate race position call started (some error)
  /-- It was started, but another call had won by then. It is not destroyed. -/
  | leftBehind (radio : HostedRadio) (rival : Nat) (other : Call) (hstarted : started = .ok radio)
      (hkept : call.made.count .destroy = 0) (hne : rival ≠ position)
      (hrival : race.calls[rival]? = some other)
      (hwon : other.hasWon call.registration.adapter = true) :
      Fate race position call started (some .alreadyInitialized)

namespace Race

variable {race : Race} {position : Nat} {call : Call} {config : BridgeConfig}
variable {launcher : Launcher} {embedded : EmbeddedRuntime} {failure : Option AdapterError}

theorem exists_radio_of_map {started : Except AdapterError HostedRadio} {handler : Handler}
    (hmap : started.map Handler.bridge = .ok handler) :
    ∃ radio, started = .ok radio ∧ handler = .bridge radio := by
  cases started with
  | error error => contradiction
  | ok radio => exact ⟨radio, rfl, (Except.ok.inj hmap).symm⟩

theorem fate_of_returned (hsingle : race.Single) (hrace : race.Stands)
    (hcall : race.calls[position]? = some call) (hbridge : call.SetsBridgeUp config launcher)
    (hlaunch : launcher config.launchOptions = .ok embedded)
    (hlaunched : .launch config.launchOptions ∈ call.made)
    (hreturned : call.stage = .returned failure) :
    call.made.count (.launch config.launchOptions) = 1 ∧
      race.Fate position call (embedded.start config.hostedClass call.registration.host
        call.registration.args).result failure := by
  cases hrace call (List.mem_of_getElem? hcall) with
  | arrived hstage | settingUp _ hstage =>
      rw [hreturned] at hstage
      contradiction
  | late _ hmade =>
      -- A call that is late has launched nothing.
      rw [hmade] at hlaunched
      contradiction
  | failed error hstage hmade hresult =>
      cases hreturned.symm.trans hstage
      obtain ⟨hsetup, hlaunches, hdestroy⟩ := hbridge.of_made hlaunch hmade
      cases hstarted : (embedded.start config.hostedClass call.registration.host
          call.registration.args).result with
      | ok radio =>
          rw [hresult, hstarted] at hsetup
          contradiction
      | error fault =>
          rw [hresult, hstarted] at hsetup
          cases Except.error.inj hsetup
          -- No fault is reported as an adapter that is initialised already.
          rw [hstarted] at hdestroy
          obtain ⟨step, fault, rfl⟩ := EmbeddedRuntime.exists_fault_of_start hstarted
          exact ⟨hlaunches, .destroyed _ rfl (by simp [AdapterError.ofFault]) hdestroy⟩
  | lost handler hstage hmade hresult hinitialized =>
      cases hreturned.symm.trans hstage
      obtain ⟨hsetup, hlaunches, hdestroy⟩ := hbridge.of_made hlaunch hmade
      obtain ⟨radio, hstarted, _⟩ := exists_radio_of_map (hsetup.symm.trans hresult)
      -- The adapter has one winner, and this call is not it.
      obtain ⟨rival, other, hne, hrival, hwon⟩ := hsingle.exists_rival hcall hstage hinitialized
      rw [hstarted] at hdestroy ⊢
      exact ⟨hlaunches, .leftBehind radio rival other rfl hdestroy hne hrival hwon⟩
  | won handler hstage hmade hresult hinitialized hserves =>
      cases hreturned.symm.trans hstage
      obtain ⟨hsetup, hlaunches, hdestroy⟩ := hbridge.of_made hlaunch hmade
      obtain ⟨radio, hstarted, hhandler⟩ := exists_radio_of_map (hsetup.symm.trans hresult)
      rw [hhandler] at hserves
      rw [hstarted] at hdestroy ⊢
      exact ⟨hlaunches, .inService radio rfl hdestroy hserves⟩

/-- A runtime is in the hands of a published bridge or destroyed once, unless its call
was overtaken. -/
theorem Fate.released_iff {started : Except AdapterError HostedRadio}
    (hfate : race.Fate position call started failure) :
    (failure = none ∧ call.made.count .destroy = 0 ∨
        failure ≠ none ∧ call.made.count .destroy = 1) ↔
      failure ≠ some .alreadyInitialized := by
  cases hfate with
  | inService radio hstarted hkept => simp [hkept]
  | destroyed error hstarted herror hdestroyed => simp [hdestroyed, herror]
  | leftBehind radio rival other hstarted hkept => simp [hkept]

end Race

/-- When a call that has launched a runtime has returned, the runtime is in the hands of
the published bridge or has been destroyed exactly once, unless the call returns that
its adapter is initialised. In that case, and in no other, the runtime is left behind:
it was started, another call had won by then, and nobody destroys it. Runtimes are
called by registration calls only, and every registration of a backend that comes
down to a bridge is a call of this kind. -/
theorem runtime_fate {moves : List Move} {position : Nat} {call : Call} {config : BridgeConfig}
    {launcher : Launcher} {embedded : EmbeddedRuntime} {failure : Option AdapterError}
    (hcall : (Race.run {} moves).result.calls[position]? = some call)
    (hbridge : call.SetsBridgeUp config launcher)
    (hlaunch : launcher config.launchOptions = .ok embedded)
    (hlaunched : .launch config.launchOptions ∈ call.made)
    (hreturned : call.stage = .returned failure) :
    let race := (Race.run {} moves).result
    let started := embedded.start config.hostedClass call.registration.host call.registration.args
    call.made.count (.launch config.launchOptions) = 1 ∧
      race.Fate position call started.result failure ∧
      ((failure = none ∧ call.made.count .destroy = 0 ∨
          failure ≠ none ∧ call.made.count .destroy = 1) ↔
        failure ≠ some .alreadyInitialized) ∧
      (∀ event : Event, event.concernsRuntime = true →
        (Race.run {} moves).events.count event = race.madeCount event) ∧
      ∀ (registration : Registration) (backend : Backend) (config : BridgeConfig)
        (launcher : Launcher), backend.core = .bridge config launcher →
        let made := race.world.register registration backend
        ∃ call nested,
          race.Reaches made.events ⟨made.world, race.calls ++ call :: nested⟩ ∧
          call.registration = registration ∧ call.SetsBridgeUp config launcher ∧
          call.stage = .returned made.result ∧
          ∀ inner ∈ nested, ∃ backend failure, inner.Completes backend failure := by
  intro race started
  obtain ⟨hlaunches, hfate⟩ := Race.fate_of_returned (Race.single_run Race.empty_single moves)
    (Race.stands_run Race.empty_stands moves) hcall hbridge hlaunch hlaunched hreturned
  refine ⟨hlaunches, hfate, hfate.released_iff, ?_, ?_⟩
  · intro event hruntime
    have hcount := Race.count_run {} moves hruntime
    rw [hcount]
    exact (Nat.zero_add _).symm
  · intro registration backend config launcher hcore made
    obtain ⟨call, nested, hreaches, hregistration, hcompletes, hnested⟩ :=
      race.world.register_reaches race.calls registration backend
    exact ⟨call, nested, hreaches, hregistration, hcompletes.setsBridgeUp hcore,
      hcompletes.stage, hnested⟩

/-- A registration inside the setup of a bridge, on the same adapter: the call of the
bridge launches a runtime, is overtaken, and leaves the runtime behind. -/
theorem runtime_fate_of_overtaken :
    let registration : Registration :=
      { adapter := "slot", host := "host", table := "radio", args := [] }
    let config : BridgeConfig := {}
    let launcher := Launcher.stub config.hostedClass
    let setup := (Backend.bridge config launcher).ownSetup registration {}
    let race := (Race.run {} [.arrive registration setup, .advance 0,
      .arrive registration.inner ⟨[], .ok (.direct {})⟩, .advance 1, .advance 1,
      .advance 0, .advance 0, .advance 0, .advance 0]).result
    ∃ call, race.calls[0]? = some call ∧ call.SetsBridgeUp config launcher ∧
      (launcher config.launchOptions).isOk = true ∧
      .launch config.launchOptions ∈ call.made ∧
      call.stage = .returned (some .alreadyInitialized) ∧
      ¬ (call.made.count .destroy = 1) := by
  intro registration config launcher setup race
  let call : Call :=
    { registration
      setup
      stage := .returned (some .alreadyInitialized)
      made := setup.events }
  have hcall : race.calls[0]? = some call := by cbv
  have hbridge : call.SetsBridgeUp config launcher := ⟨rfl, rfl⟩
  have hlaunch : launcher config.launchOptions = .ok (.stub config.hostedClass) := rfl
  have hlaunched : .launch config.launchOptions ∈ call.made := List.mem_cons_self
  obtain ⟨_, _, hreleased, _⟩ := runtime_fate hcall hbridge hlaunch hlaunched rfl
  refine ⟨call, hcall, hbridge, rfl, hlaunched, rfl, ?_⟩
  intro hdestroyed
  exact hreleased.mp (Or.inr ⟨by simp, hdestroyed⟩) rfl

/-- The same within a session: the registration of the bridge fails, and what it launched
is not destroyed. -/
theorem register_leaves_runtime_behind :
    let registration : Registration :=
      { adapter := "slot", host := "host", table := "radio", args := [] }
    let config : BridgeConfig := {}
    let launcher := Launcher.stub config.hostedClass
    let made := World.register {} registration (.nested (.direct {}) (.bridge config launcher))
    (launcher config.launchOptions).isOk = true ∧
      made.result = some .alreadyInitialized ∧
      made.events = [.nested none, .launch config.launchOptions,
        .construct config.hostedClass, .init []] ∧
      made.events.count .destroy = 0 :=
  ⟨rfl, rfl, rfl, rfl⟩

end RadioAdapter
