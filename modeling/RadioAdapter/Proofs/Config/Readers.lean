import RadioAdapter.Command.Run
import RadioAdapter.Proofs.Json.Forms
import RadioAdapter.Proofs.Session

/-! # All readers of a configuration agree

A configuration file is read by whoever asks for a configuration, by whoever would take
the default one, by the command that checks it, and at last by the launch of a bridge.
They give one file one meaning: they fail together, and what the check prints is what
the launch is given.
-/

namespace RadioAdapter

section

variable {α ε δ : Type} {result : Except ε α} {change : ε → δ}

theorem mapError_eq_ok_iff {value : α} :
    result.mapError change = .ok value ↔ result = .ok value := by
  cases result <;> simp [Except.mapError]

theorem mapError_eq_error_iff {failure : δ} :
    result.mapError change = .error failure ↔
      ∃ error, result = .error error ∧ failure = change error := by
  cases result <;> simp [Except.mapError, eq_comm]

end

/-! ## Reading files -/

namespace BridgeConfig

variable {file : FileContent} {config : BridgeConfig}

/-- A file has a configuration if it holds the bytes of a text that has it. -/
theorem ofFile_eq_ok_iff :
    ofFile file = .ok config ↔
      ∃ text, file = .bytes (Text.utf8 text) ∧ ofToml text = .ok config := by
  constructor
  · intro hfile
    cases file with
    | missing | directory => contradiction
    | bytes data =>
        have hbytes : ofBytes data = .ok config := mapError_eq_ok_iff.mp hfile
        cases htext : Text.ofUtf8? data with
        | none =>
            rw [ofBytes, htext] at hbytes
            contradiction
        | some text =>
            rw [ofBytes, htext] at hbytes
            exact ⟨text, by rw [Text.ofUtf8?_eq_some_iff.mp htext], hbytes⟩
  · rintro ⟨text, rfl, htoml⟩
    refine mapError_eq_ok_iff.mpr ?_
    rw [ofBytes, Text.ofUtf8?_utf8]
    exact htoml

/-- What is there and unusable is an error that names the path, never the default. -/
theorem load_of_present {path : String} (hpresent : file ≠ .missing) :
    load path file =
      (ofFile file).mapError fun failure => .config (path ++ ": " ++ failure.message) := by
  cases file with
  | missing => contradiction
  | directory | bytes => rfl

end BridgeConfig

/-! ## What a runtime is given -/

/-- The options of a launch. -/
def Event.launched? : Event → Option LaunchOptions
  | .launch options => some options
  | _ => none

/-- The class that a runtime constructs. -/
def Event.constructed? : Event → Option String
  | .construct className => some className
  | _ => none

section

variable {launcher : Launcher} {embedded : EmbeddedRuntime} {config : BridgeConfig}
variable {className host : String} {args : List String}

/-- A start launches nothing, and constructs the one class that it is asked for. -/
theorem EmbeddedRuntime.filterMap_start (embedded : EmbeddedRuntime) (className host : String)
    (args : List String) :
    let events := (embedded.start className host args).events
    events.filterMap Event.launched? = [] ∧
      events.filterMap Event.constructed? = [className] := by
  intro events
  have hnotices (notices : List Notice) {α : Type} (which : Event → Option α)
      (hnone : ∀ notice, which (.unsolicited host notice) = none) :
      (notices.map (.unsolicited host)).filterMap which = [] := by
    rw [List.filterMap_eq_nil_iff]
    intro event hevent
    obtain ⟨notice, -, rfl⟩ := List.mem_map.mp hevent
    exact hnone notice
  simp only [events, start]
  cases embedded.construct className with
  | error fault => exact ⟨rfl, rfl⟩
  | ok radio =>
      constructor
      · exact hnotices _ Event.launched? fun _ => rfl
      · exact congrArg (className :: ·) (hnotices _ Event.constructed? fun _ => rfl)

/-- The setup of a bridge launches once and, if that succeeds, constructs once. -/
theorem Launcher.filterMap_setup (hlaunch : launcher config.launchOptions = .ok embedded) :
    let events := (launcher.setup config host args).events
    events.filterMap Event.launched? = [config.launchOptions] ∧
      events.filterMap Event.constructed? = [config.hostedClass] := by
  intro events
  obtain ⟨hlaunched, hconstructed⟩ := embedded.filterMap_start config.hostedClass host args
  cases hstart : (embedded.start config.hostedClass host args).result with
  | ok radio =>
      simp only [events, setup_of_started hlaunch hstart]
      exact ⟨congrArg (config.launchOptions :: ·) hlaunched, hconstructed⟩
  | error error =>
      simp only [events, setup_of_failed hlaunch hstart, List.cons_append, List.filterMap_cons,
        List.filterMap_append, Event.launched?, Event.constructed?, hlaunched, hconstructed]
      exact ⟨rfl, rfl⟩

end

/-! ## What a check prints -/

namespace Command

theorem plain_configReport (config : BridgeConfig) : Json.Plain (configReport config) := by
  refine .table fun entry hentry => ?_
  simp only [List.mem_cons, List.not_mem_nil, or_false] at hentry
  rcases hentry with rfl | rfl | rfl | rfl
  · exact config.launchOptions.environment.plain_toValue
  · exact .text _
  · exact .bool _
  · exact plain_texts _

/-- A text says, as JSON, with which options a runtime is launched and which class it is to
construct. Each is said once. -/
def Says (text : String) (options : LaunchOptions) (className : String) : Prop :=
  ∃ entries, Json.read text.toList = some (.table entries) ∧
    Value.allAt "hosted_class" entries = [.text className] ∧
    Value.allAt "options" entries = [.array (options.options.map .text)] ∧
    Value.allAt "env" entries =
      [.table (options.environment.entries.map fun entry => (entry.1, .text entry.2))] ∧
    Value.allAt "ignore_unrecognized" entries = [.bool options.ignoreUnrecognized]

theorem says_configReport (config : BridgeConfig) :
    Says (Json.prettyText (configReport config) ++ "\n") config.launchOptions
      config.hostedClass := by
  have hline : Json.AreBlanks "\n".toList := List.forall_mem_singleton.mpr rfl
  have hread := (plain_configReport config).read_prettyText_append hline
  rw [← String.toList_append] at hread
  exact ⟨_, hread, rfl, rfl, rfl, rfl⟩

section

variable {files : String → FileContent} {arguments : List String} {path : String}

theorem run_of_parse {invocation : Invocation}
    (hparse : Invocation.parse arguments = .ok invocation) :
    run files arguments = (perform files invocation).map (· ++ "\n") := by
  rw [run, hparse]
  show (perform files invocation).bind (fun text => .ok (text ++ "\n")) = _
  cases perform files invocation <;> rfl

/-- The check of a file prints the report on its configuration, with the end of a line. -/
theorem run_of_ok {config : BridgeConfig}
    (hparse : Invocation.parse arguments = .ok (.checkConfig path))
    (hfile : BridgeConfig.ofFile (files path) = .ok config) :
    run files arguments = .ok (Json.prettyText (configReport config) ++ "\n") := by
  rw [run_of_parse hparse, perform, checkConfigText, hfile]
  rfl

theorem run_of_error {error : FileError}
    (hparse : Invocation.parse arguments = .ok (.checkConfig path))
    (hfile : BridgeConfig.ofFile (files path) = .error error) :
    run files arguments = .error (.file error) := by
  rw [run_of_parse hparse, perform, checkConfigText, hfile]
  rfl

end

end Command

/-- All readers of a configuration file agree. It is read as a configuration exactly when it
holds the UTF-8 bytes of a text that is one. Whoever would take the default gets it exactly when
nothing is there, and otherwise what the file is read as, or an error that names the path. The
check fails with the file, and otherwise prints a JSON text that says what a bridge with that
configuration launches and constructs when it is registered on an adapter that is free. -/
theorem config_readers_agree (files : String → FileContent) {arguments : List String}
    {path : String} (hparse : Command.Invocation.parse arguments = .ok (.checkConfig path)) :
    let file := files path
    (∀ config, BridgeConfig.ofFile file = .ok config ↔
        ∃ text, file = .bytes (Text.utf8 text) ∧ BridgeConfig.ofToml text = .ok config) ∧
      (file = .missing → BridgeConfig.load path file = .ok {}) ∧
      (file ≠ .missing →
        (∀ config, BridgeConfig.load path file = .ok config ↔
          BridgeConfig.ofFile file = .ok config) ∧
        ∀ error, BridgeConfig.load path file = .error error ↔
          ∃ failure, BridgeConfig.ofFile file = .error failure ∧
            error = .config (path ++ ": " ++ failure.message)) ∧
      (∀ error, BridgeConfig.load path file = .error error →
        error.status = .genericFailure ∧ error.response = []) ∧
      (∀ failure, BridgeConfig.ofFile file = .error failure →
        Command.run files arguments = .error (.file failure)) ∧
      ∀ config, BridgeConfig.ofFile file = .ok config →
        ∃ output, Command.run files arguments = .ok output ∧
          ∀ (world : World) (adapter table : String) (args : List String) (host : String)
            (launcher : Launcher) (embedded : EmbeddedRuntime),
            world.isInitialized adapter = false →
            launcher config.launchOptions = .ok embedded →
              let step : Step := .register adapter table args (.bridge config launcher) host
              let events := (world.step step).events
              ∃ options className,
                events.filterMap Event.launched? = [options] ∧
                  events.filterMap Event.constructed? = [className] ∧
                  Command.Says output options className ∧
                  options.options = "-classpath" :: config.classpath :: config.runtimeOptions := by
  intro file
  refine ⟨fun config => BridgeConfig.ofFile_eq_ok_iff, ?_, ?_, ?_, ?_, ?_⟩
  · intro hmissing
    rw [hmissing]
    rfl
  · intro hpresent
    rw [BridgeConfig.load_of_present hpresent]
    exact ⟨fun config => mapError_eq_ok_iff, fun error => mapError_eq_error_iff⟩
  · intro error herror
    by_cases hmissing : file = .missing
    · rw [hmissing] at herror
      contradiction
    · rw [BridgeConfig.load_of_present hmissing] at herror
      obtain ⟨failure, -, rfl⟩ := mapError_eq_error_iff.mp herror
      exact ⟨rfl, rfl⟩
  · intro failure hfile
    exact Command.run_of_error hparse hfile
  · intro config hfile
    refine ⟨_, Command.run_of_ok hparse hfile, ?_⟩
    intro world adapter table args host launcher embedded hfree hlaunch step events
    have hevents : events = (launcher.setup config host args).events :=
      World.registerWith_events hfree
    obtain ⟨hlaunched, hconstructed⟩ := Launcher.filterMap_setup hlaunch
    rw [hevents]
    exact ⟨config.launchOptions, config.hostedClass, hlaunched, hconstructed,
      Command.says_configReport config, rfl⟩

/-- A file with quotes in the class, a line end in an option and a control character in the
environment. -/
theorem config_readers_agree_of_escapes :
    let text := "hosted_class = \"my/\\\"Ril\\\"\"\nruntime_options = [\"-Xa\\n\"]\n" ++
      "[env]\nB = \"2\"\nA = \"\\u0001\"\n"
    let files : String → FileContent := fun _ => .bytes (Text.utf8 text)
    let config : BridgeConfig :=
      { hostedClass := "my/\"Ril\"", runtimeOptions := ["-Xa\n"]
        environment := { entries := [("A", "\x01"), ("B", "2")], ascending := by decide } }
    let arguments := ["check-config", "bridge.toml"]
    let step : Step := .register "modem" "radio" [] (.bridge config (.ofRadio .echoing))
    Command.Invocation.parse arguments = .ok (.checkConfig "bridge.toml") ∧
      BridgeConfig.ofToml text = .ok config ∧
      BridgeConfig.load "bridge.toml" (files "bridge.toml") = .ok config ∧
      (World.step {} step).events.filterMap Event.launched? = [config.launchOptions] ∧
      ∃ output, Command.run files arguments = .ok output ∧
        Command.Says output config.launchOptions "my/\"Ril\"" := by
  intro text files config arguments step
  have hparse : Command.Invocation.parse arguments = .ok (.checkConfig "bridge.toml") := rfl
  have htoml : BridgeConfig.ofToml text = .ok config := by
    subst text config
    decide +kernel
  obtain ⟨hfile, -, hload, -, -, hcheck⟩ := config_readers_agree files hparse
  have hread : BridgeConfig.ofFile (files "bridge.toml") = .ok config :=
    (hfile config).mpr ⟨text, rfl, htoml⟩
  have hloaded := ((hload nofun).1 config).mpr hread
  obtain ⟨output, hrun, hlaunch⟩ := hcheck config hread
  obtain ⟨options, className, hlaunched, hconstructed, hsays, -⟩ :=
    hlaunch {} "modem" "radio" [] "radio" (.ofRadio .echoing) _ rfl rfl
  have hoptions : [config.launchOptions] = [options] := hlaunched
  have hclass : ["my/\"Ril\""] = [className] := hconstructed
  cases hoptions
  cases hclass
  exact ⟨hparse, htoml, hloaded, hlaunched, output, hrun, hsays⟩

end RadioAdapter
