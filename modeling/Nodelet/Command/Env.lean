import Nodelet.Go.Exec
import Nodelet.Go.Map

/-! The environment of the commands. The loop over the map sets the environment anew for each pair,
so that the child has only the pair that is visited last. -/
namespace Nodelet.Command
open Go.Exec (Cmd Environment environ dedupEnv lookup)
open Go.Map (Visits)

/-- What a call is given apart from the environment, and whether `os.Stat` finds the directory. -/
structure Call where
  timeout : Int
  cwd : String
  found : Bool
  path : String
  args : List String
  deriving DecidableEq, Repr

section Source
variable (parent : Environment) (order : List (String × String)) (call : Call)

/-- The loop over the map, in the order in which it is visited. -/
def setEnv : Option (List String) :=
  order.foldl (fun _ pair => some (environ parent.entries ++ [pair.1 ++ "=" ++ pair.2])) none

def newCmd (useCwd : Bool) : Cmd where
  path := call.path
  args := call.args
  env := setEnv parent order
  dir := if useCwd then call.cwd else ""
  timeout := if call.timeout > 0 then some call.timeout else none

def runCommand : Cmd := newCmd parent order call call.found

def runCommandWithStdOut : Cmd := newCmd parent order call (call.found && call.cwd ≠ "")

def runCommandWithStdErr : Cmd := newCmd parent order call call.found

def runCommandWithStdOutStdErr : Cmd := newCmd parent order call call.found

end Source

/-- The methods of `CLI`. -/
inductive Method where
  | runCommand
  | runCommandWithStdOut
  | runCommandWithStdErr
  | runCommandWithStdOutStdErr
  deriving DecidableEq, Repr

def Method.cmd : Method → Environment → List (String × String) → Call → Cmd
  | .runCommand => Command.runCommand
  | .runCommandWithStdOut => Command.runCommandWithStdOut
  | .runCommandWithStdErr => Command.runCommandWithStdErr
  | .runCommandWithStdOutStdErr => Command.runCommandWithStdOutStdErr

/-- The child sees every pair of the map and every other variable of the parent. -/
structure Inherits (parent : Environment) (env : Go.Map String String) (child : List String) :
    Prop where
  pairs : ∀ k v, env.lookup k = some v → lookup child k = some v
  others : ∀ k v, k ∉ env → lookup parent.entries k = some v → lookup child k = some v

/-- A child is started for this pair, if it is visited last. -/
def Startable (k v : String) : Prop := '\x00' ∉ k.toList ∧ '\x00' ∉ v.toList

/-- With any pair that can be given to a child, the parent has all the others. -/
def OthersInherited (parent : Environment) (env : Go.Map String String) : Prop :=
  ∀ k v, env.lookup k = some v → Startable k v →
    '=' ∉ k.toList ∧ ∀ k' v', env.lookup k' = some v' → k' ≠ k → lookup parent.entries k' = some v'

section Start
variable {parent : Environment} {order : List (String × String)} {call : Call} {method : Method}
  {child : List String}
  {k v : String}

theorem Method.cmd_eq (method : Method) (parent : Environment) (order : List (String × String))
    (call : Call) : ∃ useCwd, method.cmd parent order call = newCmd parent order call useCwd := by
  cases method
  all_goals exact ⟨_, rfl⟩

theorem setEnv_concat (parent : Environment) (before : List (String × String)) (k v : String) :
    setEnv parent (before ++ [(k, v)]) = some (environ parent.entries ++ [k ++ "=" ++ v]) := by
  simp [setEnv]

variable {name value : String}

theorem envv_concat (before : List (String × String))
    (parts : Go.Exec.cut (k ++ "=" ++ v) = some (name, value)) (useCwd : Bool) :
    (newCmd parent (before ++ [(k, v)]) call useCwd).envv parent =
      Go.Keyed.put Go.Exec.nameOf (k ++ "=" ++ v) (environ parent.entries) := by
  rw [Cmd.envv, newCmd, setEnv_concat, Option.getD_some,
    Go.Exec.dedupEnv_concat (Go.Exec.nameOf_of_cut parts)]

theorem startable_iff : '\x00' ∉ (k ++ "=" ++ v).toList ↔ Startable k v := by
  simp [Startable]

theorem startable_of_start (before : List (String × String))
    (started : (method.cmd parent (before ++ [(k, v)]) call).start parent = some child) :
    Startable k v := by
  obtain ⟨useCwd, same⟩ := method.cmd_eq parent (before ++ [(k, v)]) call
  obtain ⟨name, value, parts⟩ := Go.Exec.exists_cut k v
  obtain ⟨-, clean⟩ := Cmd.start_eq_some.mp (same ▸ started)
  apply startable_iff.mp
  apply clean
  rw [envv_concat before parts]
  simp [Go.Keyed.mem_put]

theorem lookup_of_start {before : List (String × String)}
    (parts : Go.Exec.cut (k ++ "=" ++ v) = some (name, value))
    (started : (method.cmd parent (before ++ [(k, v)]) call).start parent = some child)
    (other : String) :
    lookup child other = if name = other then some value else lookup parent.entries other := by
  obtain ⟨useCwd, same⟩ := method.cmd_eq parent (before ++ [(k, v)]) call
  obtain ⟨rfl, -⟩ := Cmd.start_eq_some.mp (same ▸ started)
  rw [envv_concat before parts, Go.Exec.lookup_put parts, Go.Exec.lookup_environ]

def shell : Call := ⟨0, "", false, "sh", []⟩

theorem exists_start (method : Method) (parent : Environment) (before : List (String × String))
    (startable : Startable k v) :
    ∃ child, (method.cmd parent (before ++ [(k, v)]) shell).start parent = some child := by
  obtain ⟨name, value, parts⟩ := Go.Exec.exists_cut k v
  obtain ⟨useCwd, same⟩ := method.cmd_eq parent (before ++ [(k, v)]) shell
  refine ⟨_, Cmd.start_eq_some.mpr ⟨rfl, ?_⟩⟩
  intro text member
  rw [same, envv_concat before parts] at member
  have dir : (if useCwd then "" else "") = "" := ite_self _
  simp only [newCmd, shell, dir, List.nil_append, List.mem_cons, Go.Keyed.mem_put] at member
  obtain rfl | rfl | rfl | ⟨inherited, -⟩ := member
  · decide
  · decide
  · exact startable_iff.mpr startable
  · exact parent.clean_environ inherited

end Start

/-- Every child that is started inherits its environment, in whatever order the map is visited,
exactly where each pair that can be given to one leaves nothing out. -/
theorem child_inherits_iff (method : Method) (parent : Environment) (env : Go.Map String String) :
    (∀ order call child, Visits env order →
      (method.cmd parent order call).start parent = some child →
      Inherits parent env child) ↔ OthersInherited parent env := by
  constructor
  · intro inherits k v found startable
    obtain ⟨before, visits⟩ := Go.Map.exists_visits_concat found
    obtain ⟨child, started⟩ := exists_start method parent before startable
    obtain ⟨pairs, -⟩ := inherits _ _ child visits started
    have free := Go.Exec.free_of_lookup (pairs k v found)
    refine ⟨free, fun k' v' found' other => ?_⟩
    have seen := pairs k' v' found'
    rwa [lookup_of_start (Go.Exec.cut_eq_some free) started, if_neg (Ne.symm other)] at seen
  · intro kept order call child visits started
    obtain rfl | ⟨before, ⟨k, v⟩, rfl⟩ := order.eq_nil_or_concat'
    · obtain ⟨useCwd, same⟩ := method.cmd_eq parent [] call
      obtain ⟨rfl, -⟩ := Cmd.start_eq_some.mp (same ▸ started)
      have inherited : (newCmd parent [] call useCwd).envv parent = environ parent.entries :=
        Go.Exec.dedupEnv_environ parent.entries
      constructor
      · intro k v found
        exact absurd (visits.mem_iff.mpr found) List.not_mem_nil
      · intro k v _ seen
        rwa [inherited, Go.Exec.lookup_environ]
    · have found : env.lookup k = some v := visits.mem_iff.mp (List.mem_append_right _ List.mem_cons_self)
      obtain ⟨free, others⟩ := kept k v found (startable_of_start before started)
      have seen := lookup_of_start (Go.Exec.cut_eq_some free) started
      constructor
      · intro k' v' found'
        rw [seen]
        split_ifs with same
        · subst same
          exact found.symm.trans found'
        · exact others k' v' found' (Ne.symm same)
      · intro k' v' unset inherited
        have other : k ≠ k' := by
          rintro rfl
          exact unset (Finmap.mem_of_lookup_eq_some found)
        rwa [seen, if_neg other]

def bare : Environment := ⟨["PATH=/bin"], by decide⟩

def proxies : Go.Map String String :=
    Finmap.insert "no_proxy" "::1" (Finmap.singleton "http_proxy" "p:80")

/-- The variable that is visited first is not in the environment of the child. -/
theorem first_pair_lost :
    Visits proxies [("http_proxy", "p:80"), ("no_proxy", "::1")] ∧ ∀ method : Method,
    ∃ child, (method.cmd bare [("http_proxy", "p:80"), ("no_proxy", "::1")] shell).start bare =
      some child ∧
      proxies.lookup "http_proxy" = some "p:80" ∧ lookup child "http_proxy" = none := by
  refine ⟨⟨by decide, ?_⟩, fun method => ?_⟩
  · intro k v
    by_cases last : k = "no_proxy"
    · subst last
      simp [proxies, Finmap.lookup_insert, eq_comm]
    · rw [proxies, Finmap.lookup_insert_of_ne _ last, ← Option.mem_def, Finmap.mem_lookup_iff]
      simp [Finmap.singleton, last]
  · have startable : Startable "no_proxy" "::1" := ⟨by decide, by decide⟩
    obtain ⟨child, started⟩ := exists_start method bare [("http_proxy", "p:80")] startable
    have seen := lookup_of_start (Go.Exec.cut_eq_some (by decide)) started "http_proxy"
    refine ⟨child, started, by decide, ?_⟩
    rw [seen, if_neg (by decide)]
    decide

end Nodelet.Command
