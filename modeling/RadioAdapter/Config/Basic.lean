import RadioAdapter.Config.Environment

/-! # Bridge configuration

What the bridge needs to know to launch an embedded runtime, the defaults, and
the launch options that a configuration yields.
-/

namespace RadioAdapter

/-- The options of one launch. The environment is that of the launched runtime
only. -/
structure LaunchOptions where
  options : List String
  environment : Environment
  ignoreUnrecognized : Bool
deriving DecidableEq

/-- The configuration of the bridge. -/
structure BridgeConfig where
  classpath : String := "/system/framework/rilofono.jar"
  hostedClass : String := "rilofono/Ril"
  runtimeOptions : List String := []
  ignoreUnrecognized : Bool := false
  environment : Environment := .single "ANDROID_DATA" "/data/misc/radio"
deriving DecidableEq

namespace BridgeConfig

/-- Where the configuration is looked for. -/
def defaultPath : String := "/system/etc/rilofono/bridge.toml"

/-- The launch options of a configuration: the classpath leads. -/
def launchOptions (config : BridgeConfig) : LaunchOptions :=
  { options := "-classpath" :: config.classpath :: config.runtimeOptions
    environment := config.environment
    ignoreUnrecognized := config.ignoreUnrecognized }

end BridgeConfig

end RadioAdapter
