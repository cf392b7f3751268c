import RadioAdapter.Adapter.Direct

/-! # Hosted radios

A hosted radio lives inside an embedded runtime. A launcher starts the runtime,
the runtime constructs the radio from a class name, and the radio is then
initialised once. Setting a bridge up is all or nothing: when construction or
initialisation fails, the pending fault is taken and the runtime is destroyed
before the error is reported.
-/

namespace RadioAdapter

/-- How a hosted call ends. -/
inductive HostedOutcome where
  | returned (data : Bytes)
  | raised (error : AdapterError)
  | panicked
deriving DecidableEq, Repr

/-- The settlement that a hosted call's end brings to its request. An abandoned
call drops the responder. -/
def HostedOutcome.settlement : HostedOutcome → Settlement
  | .returned data => .succeed data
  | .raised error => .fail error
  | .panicked => .drop

/-- How a hosted call goes on from where it is. -/
inductive Course where
  | finish (outcome : HostedOutcome)
  | wait
deriving DecidableEq, Repr

/-- What a hosted call does next: first a notice to the host, if any. -/
structure Conduct where
  notice : Option Notice := none
  course : Course
deriving DecidableEq, Repr

/-- What the initialisation of a hosted radio comes to. -/
structure Initialization where
  notices : List Notice := []
  /-- The fault that ended it early, if one did. -/
  failure : Option RuntimeFault := none
deriving DecidableEq

/-- A radio inside an embedded runtime. What it does for a request depends on
that request only. -/
structure HostedRadio where
  init : List String → Initialization
  supports : RequestCode → Bool
  onRequest : Request → Conduct
  /-- Whether the radio wants to hear of cancelled requests. -/
  hearsCancel : Bool

/-- A live embedded runtime. -/
structure EmbeddedRuntime where
  construct : String → Except RuntimeFault HostedRadio
  pendingFault : Option String := none

/-- A way to start embedded runtimes. -/
abbrev Launcher := LaunchOptions → Except RuntimeFault EmbeddedRuntime

/-! ## Setup -/

/-- Construct and initialise the hosted radio of a live runtime. -/
def EmbeddedRuntime.start (embedded : EmbeddedRuntime) (className host : String)
    (args : List String) : Traced (Except AdapterError HostedRadio) :=
  match embedded.construct className with
  | .error fault => ⟨[.construct className], .error (.ofFault "construct" fault)⟩
  | .ok radio =>
      let made := radio.init args
      { events := .construct className :: .init args :: made.notices.map (.unsolicited host)
        result := match made.failure with
          | none => .ok radio
          | some fault => .error (.ofFault "init" fault) }

/-- Launch a runtime and start its hosted radio, or leave nothing behind. -/
def Launcher.setup (launcher : Launcher) (config : BridgeConfig) (host : String)
    (args : List String) : Traced (Except AdapterError HostedRadio) :=
  match launcher config.launchOptions with
  | .error fault => ⟨[.launch config.launchOptions], .error (.ofFault "launch" fault)⟩
  | .ok embedded =>
      let start := embedded.start config.hostedClass host args
      match start.result with
      | .ok radio => ⟨.launch config.launchOptions :: start.events, .ok radio⟩
      | .error error =>
          { events := .launch config.launchOptions :: start.events ++
              [.takePendingFault embedded.pendingFault, .destroy]
            result := .error error }

/-- A start constructs, initialises and passes notices on; it makes no other calls. -/
theorem EmbeddedRuntime.eq_of_mem_start {embedded : EmbeddedRuntime} {className host : String}
    {args : List String} {event : Event}
    (hevent : event ∈ (embedded.start className host args).events) :
    event = .construct className ∨ event = .init args ∨
      ∃ notice, event = .unsolicited host notice := by
  unfold start at hevent
  split at hevent
  next => exact Or.inl (List.mem_singleton.mp hevent)
  next radio hconstruct =>
    rcases List.mem_cons.mp hevent with hevent | hevent
    · exact Or.inl hevent
    · rcases List.mem_cons.mp hevent with hevent | hevent
      · exact Or.inr (Or.inl hevent)
      · obtain ⟨notice, _, hnotice⟩ := List.mem_map.mp hevent
        exact Or.inr (Or.inr ⟨notice, hnotice.symm⟩)

/-- A start fails with the error of the step that failed. -/
theorem EmbeddedRuntime.exists_fault_of_start {embedded : EmbeddedRuntime}
    {className host : String} {args : List String} {error : AdapterError}
    (herror : (embedded.start className host args).result = .error error) :
    ∃ step fault, error = .ofFault step fault := by
  unfold start at herror
  split at herror
  next fault _ => exact ⟨"construct", fault, (Except.error.inj herror).symm⟩
  next radio _ =>
    cases hfailure : (radio.init args).failure with
    | none =>
        simp only [hfailure] at herror
        contradiction
    | some fault =>
        simp only [hfailure] at herror
        exact ⟨"init", fault, (Except.error.inj herror).symm⟩

section

variable {launcher : Launcher} {config : BridgeConfig} {host : String} {args : List String}
variable {embedded : EmbeddedRuntime} {radio : HostedRadio} {error : AdapterError}

theorem Launcher.setup_of_fault {fault : RuntimeFault}
    (hlaunch : launcher config.launchOptions = .error fault) :
    launcher.setup config host args =
      ⟨[.launch config.launchOptions], .error (.ofFault "launch" fault)⟩ := by
  simp only [setup, hlaunch]

theorem Launcher.setup_of_started (hlaunch : launcher config.launchOptions = .ok embedded)
    (hstart : (embedded.start config.hostedClass host args).result = .ok radio) :
    launcher.setup config host args =
      { events := .launch config.launchOptions ::
          (embedded.start config.hostedClass host args).events
        result := .ok radio } := by
  simp only [setup, hlaunch, hstart]

theorem Launcher.setup_of_failed (hlaunch : launcher config.launchOptions = .ok embedded)
    (hstart : (embedded.start config.hostedClass host args).result = .error error) :
    launcher.setup config host args =
      { events := .launch config.launchOptions ::
          (embedded.start config.hostedClass host args).events ++
            [.takePendingFault embedded.pendingFault, .destroy]
        result := .error error } := by
  simp only [setup, hlaunch, hstart]

/-- The setup of a bridge calls the runtime and passes notices on. -/
theorem Launcher.of_mem_setup {event : Event}
    (hevent : event ∈ (launcher.setup config host args).events) :
    event.concernsRuntime = true ∨ ∃ notice, event = .unsolicited host notice := by
  have hstart {embedded : EmbeddedRuntime}
      (hmem : event ∈ (embedded.start config.hostedClass host args).events) :
      event.concernsRuntime = true ∨ ∃ notice, event = .unsolicited host notice := by
    rcases EmbeddedRuntime.eq_of_mem_start hmem with rfl | rfl | hnotice
    · exact Or.inl rfl
    · exact Or.inl rfl
    · exact Or.inr hnotice
  cases hlaunch : launcher config.launchOptions with
  | error fault =>
      rw [setup_of_fault hlaunch] at hevent
      rw [List.mem_singleton.mp hevent]
      exact Or.inl rfl
  | ok embedded =>
      cases hstarted : (embedded.start config.hostedClass host args).result with
      | ok radio =>
          rw [setup_of_started hlaunch hstarted] at hevent
          rcases List.mem_cons.mp hevent with rfl | hevent
          · exact Or.inl rfl
          · exact hstart hevent
      | error error =>
          rw [setup_of_failed hlaunch hstarted] at hevent
          simp only [List.cons_append, List.mem_cons, List.mem_append, List.not_mem_nil,
            or_false] at hevent
          -- Only the clean-up after a failed start adds calls of its own.
          rcases hevent with rfl | hevent | rfl | rfl
          · exact Or.inl rfl
          · exact hstart hevent
          · exact Or.inl rfl
          · exact Or.inl rfl

end

/-! ## The stub -/

/-- A radio that supports no code and answers every request as not implemented. -/
def HostedRadio.stub : HostedRadio :=
  { init := fun _ => {}
    supports := fun _ => false
    onRequest := fun request => { course := .finish (.raised (.notImplemented request.code)) }
    hearsCancel := false }

/-- A runtime whose only class is that of the stub radio. -/
def EmbeddedRuntime.stub (className : String) : EmbeddedRuntime :=
  { construct := fun wanted =>
      if wanted = className then .ok .stub else .error (.classNotFound wanted) }

def Launcher.stub (className : String) : Launcher := fun _ => .ok (.stub className)

end RadioAdapter
