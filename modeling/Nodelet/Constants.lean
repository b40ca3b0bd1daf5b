import Mathlib.Tactic.Common

/-! Constants of the node agent, with the values of its constants package. -/
namespace Nodelet.Constants

def errorState := "failed"
def okState := "ok"
def convergingState := "converging"
def retryingState := "retrying"

/-- Number of times service start will be retried before the host is put in error state. -/
def numRetriesForErrorState : Int := 10

/-- Number of seconds for which a failed status check will be persisted. -/
def failedStatusCheckReapInterval : Int := 600

def notStartedState := "not-started"
def runningState := "running"
def stoppedState := "stopped"
def failedState := errorState
def executingState := "executing"

def roleMaster := "master"
def roleWorker := "worker"
def roleNone := "none"

def serviceStateTrue := "true"
def serviceStateFalse := "false"
def serviceStateIgnore := "ignore"

def generatedFileHeader := "Generated by Nodelet — DO NOT EDIT."

def defaultLoopInterval : Int := 60

def cgroupName := "pf9-kube-status"

/-- The text of the quota parameter up to its value. -/
def cgroupQuotaParam := "cpu.cfs_quota_us="

def baseCommand : List String := ["sudo", "/opt/pf9/pf9-kube/setup_env_and_run_script.sh"]

def baseCgroupCommand : List String :=
  ["cgexec", "-g", "cpu:pf9-kube-status", "sudo", "/opt/pf9/pf9-kube/setup_env_and_run_script.sh"]

def cgroupCreateCmd : List String :=
  ["sudo", "/usr/bin/cgcreate", "-a", "pf9:pf9group", "-t", "pf9:pf9group", "-g",
    "cpu:pf9-kube-status"]

def cgroupPeriodCmd : List String :=
    ["sudo", "/usr/bin/cgset", "-r", "cpu.cfs_period_us=1000000", cgroupName]

def cgroupQuotaCmd : List String := ["sudo", "/usr/bin/cgset", "-r"]

/-- The default directory for archives of user images. -/
def userImagesDir := "/var/opt/pf9/images"

/-- The base directory in which all bash-based phase scripts are located. -/
def phaseBaseDir := "/opt/pf9/pf9-kube/phases"

def noRolePhaseOrder : Int := 10
def genCertsPhaseOrder : Int := 20
def kubeconfigPhaseOrder : Int := 30
def configureRuntimePhaseOrder : Int := 40
def startRuntimePhaseOrder : Int := 45
def loadImagePhaseOrder : Int := 48
def configureEtcdPhaseOrder : Int := 50
def startEtcdPhaseOrder : Int := 55
def configureNetworkPhaseOrder : Int := 60
def configureCNIPhaseOrder : Int := 65
def authWebHookPhaseOrder : Int := 70
def miscPhaseOrder : Int := 75
def configureKubeletPhaseOrder : Int := 80
def kubeProxyPhaseOrder : Int := 90
def waitForK8sSvcPhaseOrder : Int := 100
def labelTaintNodePhaseOrder : Int := 110
def dynamicKubeletConfigPhaseOrder : Int := 120
def uncordonNodePhaseOrder : Int := 130
def deployAppCatalogPhaseOrder : Int := 160
def configureStartKeepalivedPhaseOrder : Int := 180
def pf9CoreDNSPhaseOrder : Int := 206
def drainPodsPhaseOrder : Int := 210

def isActiveOp := "is-active"
def startOp := "start"
def stopOp := "stop"
def trueString := "true"
def runtimeContainerd := "containerd"
def containerdBinPath := "/usr/local/bin/containerd"
def containerdSocket := "/run/containerd/containerd.sock"
def containerdConfigFile := "/etc/containerd/config.toml"
def cgroupSystemd := "SystemdCgroup"
def containerdCgroup := "systemd"
def nerdctlDir := "/var/lib/nerdctl"
def k8sNamespace := "k8s.io"
def mobyNamespace := "moby"
def pf9User := "pf9"
def pf9Group := "pf9group"
def cloudConfigFile := "/etc/pf9/kube.d/cloud-config"
def activeState := "active"

end Nodelet.Constants
