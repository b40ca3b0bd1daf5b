import Nodelet.Phases

/-! Phases that are scripts: each operation runs a command, judges its exit code and
keeps the last lines of its output. The number of lines comes unchecked from the
configuration. -/
namespace Nodelet
open Constants

inductive PhaseOp where
  | status
  | start
  | stop
  deriving DecidableEq, Repr

def PhaseOp.text : PhaseOp → String
  | .status => "status"
  | .start => "start"
  | .stop => "stop"

/-- What an operation returns, and what it leaves in the host phase. -/
structure PhaseReply where
  err : Option Go.Error
  status : String
  message : String
  deriving DecidableEq, Repr

def Config.isDebug (cfg : Config) : Bool := (Go.parseBool cfg.debug).getD false

/-- The command line of an operation; only status checks run inside the cgroup. -/
def commandLine (cfg : Config) (filename : String) (op : PhaseOp) : List String :=
  (if op = .status ∧ cfg.useCgroups then baseCgroupCommand
    else baseCommand) ++ [filename, op.text] ++ if cfg.isDebug then ["--debug"] else []

/-- `getBackOff`: how often a failed command is run again; at least once. -/
def getBackOff (retry : Int) : Nat := if retry ≤ 0 then 1 else retry.toNat

/-- `fmt.Sprintf("%v", lines)`. -/
def formatLines (lines : List String) : String := "[" ++ " ".intercalate lines ++ "]"

def pruneAndLogCmdOutput (output : List String) (maxLines : Int) : Except Go.Halt String := do
  let prunedOutput ←
    if (output.length : Int) > maxLines then Go.sliceFrom output (output.length - maxLines)
    else pure output
  return formatLines prunedOutput

/-- The end of every operation: its exit code decides the error and the status. -/
def judge (cfg : Config) (succeeded failed complaint name : String) (reply : Int × List String) :
    Except Go.Halt PhaseReply :=
  if reply.1 = 0 then .ok ⟨none, succeeded, ""⟩
  else do
    let message ← pruneAndLogCmdOutput reply.2 cfg.numCmdOutputLinesToLog
    return ⟨some (complaint ++ name ++ " with exit code: " ++ toString reply.1), failed, message⟩

section Operations
variable {W : Type} (commands : Commands W) (cfg : Config) (name filename : String) (retry : Int)

def runCommand (op : PhaseOp) (w : W) : (Int × List String) × W :=
  commands.runCommandWithStdOut (commandLine cfg filename op) w

/-- `backoff.Retry`, with this many retries left. -/
def retryCommand (op : PhaseOp) : Nat → W → (Int × List String) × W
  | 0, w => runCommand commands cfg filename op w
  | retries + 1, w =>
    let (reply, w) := runCommand commands cfg filename op w
    if reply.1 = 0 ∨ commands.expired w then (reply, w) else retryCommand op retries w

namespace BashPhase

def status (w : W) : Except Go.Halt (PhaseReply × W) := do
  let (reply, w) := retryCommand commands cfg filename .status (getBackOff (retry - 1)) w
  return (← judge cfg runningState failedState "status check failed for phase: " name reply, w)

def start (w : W) : Except Go.Halt (PhaseReply × W) := do
  let (reply, w) := runCommand commands cfg filename .start w
  return (← judge cfg runningState failedState "failed to start phase: " name reply, w)

def stop (w : W) : Except Go.Halt (PhaseReply × W) := do
  let (reply, w) := retryCommand commands cfg filename .stop (getBackOff (retry - 1)) w
  return (← judge cfg stoppedState stoppedState "failed to stop phase: " name reply, w)

def operate : PhaseOp → W → Except Go.Halt (PhaseReply × W)
  | .status => status commands cfg name filename retry
  | .start => start commands cfg name filename
  | .stop => stop commands cfg name filename retry

end BashPhase
end Operations

section Pruning
variable (output : List String)

theorem pruneAndLogCmdOutput_eq (maxLines : Nat) :
    pruneAndLogCmdOutput output maxLines =
      .ok (formatLines (output.drop (output.length - maxLines))) := by
  unfold pruneAndLogCmdOutput
  by_cases longer : maxLines < output.length
  · have low : ((output.length : Int) - maxLines).toNat = output.length - maxLines := by omega
    have inside : 0 ≤ (output.length : Int) - maxLines ∧ (output.length : Int) - maxLines ≤ output.length := by
      constructor <;> omega
    rw [if_pos (by omega), Go.sliceFrom, if_pos inside, low]
    rfl
  · have all : output.length - maxLines = 0 := by omega
    rw [if_neg (by omega), all, List.drop_zero]
    rfl

end Pruning

section Judging
variable {cfg : Config} {succeeded failed complaint name : String} {reply : Int × List String}

theorem judge_returns (lines : 0 ≤ cfg.numCmdOutputLinesToLog) (reply : Int × List String) :
    ∃ judged, judge cfg succeeded failed complaint name reply = .ok judged := by
  obtain ⟨maxLines, same⟩ := Int.eq_ofNat_of_zero_le lines
  unfold judge
  split
  · exact ⟨_, rfl⟩
  · rw [same, pruneAndLogCmdOutput_eq]
    exact ⟨_, rfl⟩

end Judging

section Operations
variable {W : Type} (commands : Commands W) {cfg : Config} (name filename : String) (retry : Int)

theorem BashPhase.operate_returns (lines : 0 ≤ cfg.numCmdOutputLinesToLog) (op : PhaseOp) (w : W) :
    ∃ reply, operate commands cfg name filename retry op w = .ok reply := by
  have judged {succeeded failed complaint : String} (reply : Int × List String) (w : W) : ∃ result,
      (do return (← judge cfg succeeded failed complaint name reply, w) :
        Except Go.Halt (PhaseReply × W)) = .ok result := by
    obtain ⟨judged, returned⟩ := judge_returns lines reply
    exact ⟨(judged, w), by rw [returned]; rfl⟩
  cases op with
  | status => exact judged _ _
  | start => exact judged _ _
  | stop => exact judged _ _

end Operations
end Nodelet
