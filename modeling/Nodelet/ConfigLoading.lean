import Nodelet.Config
import Mathlib.Data.List.Sort

/-! How `nodeletd` finds its configuration: from the command line, then from a file or from the
files of a directory, then from the defaults. -/
namespace Nodelet
open Go (Viper)
open Go.Viper (Contents Raw Floats settled)

section Loading
variable (floats : Floats) (environ : String → Option String)

def Config.toStringMap (c : Config) (name : String) : Option String :=
  (Key.all.find? fun key => key.tag ≠ "" ∧ key.tag = name).map fun key =>
    key.kind.sprint floats (c.get key)

def setDefaults (v : Viper) : Viper :=
  { v with defaults := fun name => (defaultConfig.toStringMap floats name).or (v.defaults name) }

/-- A field without a setting is left as it is. -/
def unmarshalField (v : Viper) (cfg : Config) (key : Key) : Except Go.Error key.Value :=
  match v.find environ key.name with
  | none => .ok (cfg.get key)
  | some raw => key.kind.decode floats key.name raw

/-- `viper.Unmarshal` tries every field, and reports all that it could not decode. -/
def unmarshal (v : Viper) (cfg : Config) : Except Go.Error Config :=
  match Key.all.filterMap fun key => Go.errorOf (unmarshalField floats environ v cfg key) with
  | [] => .ok (.ofFields fun key =>
    (unmarshalField floats environ v cfg key).toOption.getD key.kind.zero)
  | errors => .error (toString errors.length ++ " error(s) decoding:\n\n" ++
      "\n".intercalate ((errors.map ("* " ++ ·)).mergeSort (· ≤ ·)))

def getDefaultConfig (v : Viper) : Config :=
    (unmarshal floats environ (setDefaults floats v) {}).toOption.getD {}

/-- `GetConfigFromFile`, where `file` is what opening and parsing the file yields. -/
def getConfigFromFile (v : Viper) (file : Except Go.Error Contents) :
    Except Go.Error (Config × Viper) := do
  let contents ← file
  let v := (setDefaults floats v).mergeConfig contents
  let cfg ← unmarshal floats environ v {}
  return (cfg, v)

abbrev Listing := List (String × Except Go.Error Contents)

def isConfigFile (name : String) : Bool :=
    ".yaml".toList <:+ name.toList ∨ ".yml".toList <:+ name.toList

/-- The files that are loaded, in the order of their names. -/
def Listing.configFiles (files : Listing) : Listing :=
  (List.insertionSort (fun a b => a.1 ≤ b.1) files).filter fun file => isConfigFile file.1

def getConfigFromDir (v : Viper) (listing : Except Go.Error Listing) : Except Go.Error Config := do
  let cfg := getDefaultConfig floats environ v
  let files ← listing
  let v ← files.configFiles.foldlM (fun v file =>
    Prod.snd <$> getConfigFromFile floats environ v file.2) (setDefaults floats v)
  if files.configFiles = [] then throw "no config files could be loaded"
  unmarshal floats environ (v.bindEnv "DEBUG") cfg

/-- What a path leads to. -/
inductive Node
  | file (contents : Except Go.Error Contents)
  | dir (listing : Except Go.Error Listing)

structure Disk where
  environ : String → Option String
  stat : String → Except Go.Error Node

/-- The part of `Complete` that reads the file or directory. -/
def Disk.load (disk : Disk) (path : String) : Except Go.Error Config := do
  let node ← (disk.stat path).mapError ("failed to find " ++ path ++ " file or directory: " ++ ·)
  let loaded :=
    match node with
    | .dir listing => getConfigFromDir floats disk.environ {} listing
    | .file contents => Prod.fst <$> getConfigFromFile floats disk.environ {} contents
  loaded.mapError ("failed to load config file(s) from '" ++ path ++ "': " ++ ·)

end Loading

section Flags

/-- A flag that is given, with its value. -/
inductive Flag
  | debug (value : Bool)
  | config (value : String)
  | scripts (value : String)
  | extfile (value : String)
  | kubeEnv (value : String)
  | loopInterval (value : Int)
  | host (value : String)
  | cluster (value : String)
  | role (value : String)
  | kubeServiceState (value : String)
  | disableLoop (value : Bool)
  | disableSunpike (value : Bool)
  | disableExtfile (value : Bool)
  | disableScripts (value : Bool)
  | disableConfigupdate (value : Bool)
  | kubeSunpikeEnv (value : String)
  | configSunpike (value : String)

/-- The variable a flag is bound to. -/
def RootOptions.set (o : RootOptions) : Flag → RootOptions
  | .debug value => { o with debug := value }
  | .config value => { o with configFileOrDirPath := value }
  | .loopInterval value => { o with loopInterval := value }
  | .scripts value => { o with nodeletConfig.phaseScriptsDir := value }
  | .extfile value => { o with nodeletConfig.extensionOutputFile := value }
  | .kubeEnv value => { o with nodeletConfig.kubeEnvPath := value }
  | .host value => { o with nodeletConfig.hostID := value }
  | .cluster value => { o with nodeletConfig.clusterID := value }
  | .role value => { o with nodeletConfig.clusterRole := value }
  | .kubeServiceState value => { o with nodeletConfig.kubeServiceState := value }
  | .disableLoop value => { o with nodeletConfig.disableLoop := value }
  | .disableSunpike value => { o with nodeletConfig.disableSunpike := value }
  | .disableExtfile value => { o with nodeletConfig.disableExtFile := value }
  | .disableScripts value => { o with nodeletConfig.disableScripts := value }
  | .disableConfigupdate value => { o with nodeletConfig.disableConfigUpdate := value }
  | .kubeSunpikeEnv value => { o with nodeletConfig.sunpikeKubeEnvPath := value }
  | .configSunpike value => { o with nodeletConfig.sunpikeConfigPath := value }

/-- The key of the configuration that a flag is for. -/
def Flag.key : Flag → Option Key
  | .config _ => none
  | .debug _ => some .debug
  | .loopInterval _ => some .loopInterval
  | .scripts _ => some .phaseScriptsDir
  | .extfile _ => some .extensionOutputFile
  | .kubeEnv _ => some .kubeEnvPath
  | .host _ => some .hostID
  | .cluster _ => some .clusterID
  | .role _ => some .clusterRole
  | .kubeServiceState _ => some .kubeServiceState
  | .disableLoop _ => some .disableLoop
  | .disableSunpike _ => some .disableSunpike
  | .disableExtfile _ => some .disableExtFile
  | .disableScripts _ => some .disableScripts
  | .disableConfigupdate _ => some .disableConfigUpdate
  | .kubeSunpikeEnv _ => some .sunpikeKubeEnvPath
  | .configSunpike _ => some .sunpikeConfigPath

/-- The options of `NewCmdRoot`, after the command line has been parsed. -/
def RootOptions.parse (flags : List Flag) : RootOptions :=
  flags.foldl RootOptions.set
    { debug := false, configFileOrDirPath := "/etc/pf9/nodelet/", nodeletConfig := {},
      loopInterval := 0 }

end Flags
end Nodelet
