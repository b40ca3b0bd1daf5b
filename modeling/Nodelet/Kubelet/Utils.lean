import Nodelet.Go.Faulty
import Nodelet.Kubelet.Env

/-! Starting and stopping the kubelet. Each function runs commands, and takes the first line of what
they printed for its log. -/
namespace Nodelet
open Go (Error Faulty Failure)

namespace Constants

def kubeletDataDir := "/var/lib/kubelet"
def kubeletKubeconfig := "/etc/pf9/kube.d/kubeconfigs/kubelet.yaml"
def kubeletLogDirPath := "/var/log/pf9/kubelet/"
def cniConfigDir := "/etc/cni/net.d"
def cniBinDir := "/opt/cni/bin"
def kubeletConfigDir := "/var/opt/pf9/kube/kubelet-config"
def kubeletDynamicConfigDir := kubeletConfigDir ++ "/dynamic-config"
def kubeletBootstrapConfig := kubeletConfigDir ++ "/bootstrap-config.yaml"
def kubeEnvPath := "/etc/pf9/kube.env"
def awsMetadataIp := "169.254.169.254"
def awsInstanceIdLoc := "/var/lib/cloud/data/instance-id"
def awsAvailabilityZoneURL :=
    "http://" ++ awsMetadataIp ++ "/latest/meta-data/placement/availability-zone"
def kubeletBin := "/opt/pf9/pf9-kube/bin/kubelet"
def pf9KubeletSystemdUnitTemplate := "/opt/pf9/pf9-kube/pf9-kubelet.service.template"
def systemdRuntimeUnitDir := "/run/systemd/system"
def dnsDomain := "cluster.local"
def kubeletEnvPath := "/etc/pf9/kubelet.env"
def kubeletStaticPodPath := "/etc/pf9/kube.d/master.yaml"
def kubeletClientCaFile := "/etc/pf9/kube.d/certs/kubelet/server/ca.crt"
def kubeletTlsCertFile := "/etc/pf9/kube.d/certs/kubelet/server/request.crt"
def kubeletTlsPrivateKeyFile := "/etc/pf9/kube.d/certs/kubelet/server/request.key"
def kubeletTlsCipherSuites :=
    "[TLS_ECDHE_ECDSA_WITH_AES_256_GCM_SHA384,TLS_ECDHE_RSA_WITH_AES_256_GCM_SHA384," ++
  "TLS_ECDHE_RSA_WITH_AES_128_GCM_SHA256]"

end Constants

namespace Kubelet
open Constants

/-- What a command printed and how it ended. -/
structure Output where
  exitCode : Int
  stdOut : List String
  stdErr : List String
  err : Option Error
  deriving DecidableEq, Repr

inductive Request where
  /-- Does not read what the command prints to its standard output. -/
  | runCommandWithStdErr (command : List String)
  | runCommandWithStdOutStdErr (command : List String)
  | mkdirAll (path : String)
  | readFile (path : String)
  | writeFile (path contents : String)
  | httpGet (url : String)
  | addrConv (hostCIDR : String) (pos : Int)
  | getNodeIdentifier (cfg : Config)
  | getNodeIP (v6Enabled : Bool)

def Request.Answer : Request → Type
  | .runCommandWithStdErr _ | .runCommandWithStdOutStdErr _ => Output
  | .mkdirAll _ | .writeFile _ _ => Option Error
  | .readFile _ | .httpGet _ | .addrConv _ _ | .getNodeIdentifier _ | .getNodeIP _ =>
    Except Error String

abbrev Operation := Faulty Request Request.Answer
abbrev Event := Go.Resumption.Event Request.Answer

/-- A command whose error is returned, after the first line of its errors was taken for the log. -/
def failing (output : Output) : Operation Unit :=
  match output.err with
  | none => pure ()
  | some err => do
    let _ ← Faulty.first output.stdErr
    throw (.error err)

def runCommandWithStdErr (command : List String) : Operation Output :=
  Faulty.perform (Request.runCommandWithStdErr command)

def runCommandWithStdOutStdErr (command : List String) : Operation Output :=
  Faulty.perform (Request.runCommandWithStdOutStdErr command)

def runWithStdErr (command : List String) : Operation Unit :=
    runCommandWithStdErr command >>= failing

def runWithStdOutStdErr (command : List String) : Operation Unit :=
    runCommandWithStdOutStdErr command >>= failing

/-- A request that only succeeds or fails. -/
def acknowledged (request : Request) (answers : request.Answer = Option Error) : Operation Unit :=
    do
  let err ← Faulty.perform request
  Faulty.orFail (answers ▸ err)

/-- A request for a text. -/
def obtained (request : Request) (answers : request.Answer = Except Error String) :
    Operation String := do
  let result ← Faulty.perform request
  Faulty.ofExcept (answers ▸ result)

def mkdirAll (path : String) : Operation Unit := acknowledged (.mkdirAll path) rfl

def writeFile (path contents : String) : Operation Unit :=
    acknowledged (.writeFile path contents) rfl

def readFile (path : String) : Operation String := obtained (.readFile path) rfl

def httpGet (url : String) : Operation String := obtained (.httpGet url) rfl

def addrConv (hostCIDR : String) (pos : Int) : Operation String :=
    obtained (.addrConv hostCIDR pos) rfl

def getNodeIdentifier (cfg : Config) : Operation String := obtained (.getNodeIdentifier cfg) rfl

def getNodeIP (v6Enabled : Bool) : Operation String := obtained (.getNodeIP v6Enabled) rfl

def isActiveCommand : List String := ["sudo", "systemctl", "is-active", "pf9-kubelet"]

def startCommand : List String := ["sudo", "systemctl", "start", "pf9-kubelet"]

def isKubeletRunning : Operation Bool := do
  let output ← runCommandWithStdOutStdErr isActiveCommand
  let state ← Faulty.first output.stdOut
  if state = "inactive" then
    let _ ← Faulty.first output.stdErr
    return false
  else return true

def kubeletStart : Operation Unit := runWithStdErr startCommand

def kubeletStop : Operation Unit := runWithStdErr ["sudo", "systemctl", "stop", "pf9-kubelet"]

def ensureKubeletStopped : Operation Unit := do
  if ← isKubeletRunning then kubeletStop

def userGroup : String := pf9User ++ ":" ++ pf9Group

def ensureDirReadableByPf9 (dir : String) : Operation Unit :=
  runWithStdOutStdErr ["sudo", "chown", "-R", userGroup, dir]

def kubeletService : String := systemdRuntimeUnitDir ++ "/pf9-kubelet.service"

def generateKubeletSystemdUnit (kubeletArgs : String) : Operation Unit := do
  let kubeEnv ← readFile kubeEnvPath
  writeFile kubeletEnvPath (KubeEnvMap.kubeletEnv kubeEnv)
  let template ← readFile pf9KubeletSystemdUnitTemplate
  let pf9KubeletService := template.replace "__KUBELET_BIN__" kubeletBin
  let pf9KubeletService := pf9KubeletService.replace "__KUBELET_ARGS__" kubeletArgs
  runWithStdErr ["sudo", "touch", kubeletService]
  runWithStdOutStdErr ["sudo", "chown", userGroup, kubeletService]
  runWithStdOutStdErr ["sudo", "chmod", "770", kubeletService]
  writeFile kubeletService pf9KubeletService

def kubeletSetup (kubeletArgs : String) : Operation Unit := do
  generateKubeletSystemdUnit kubeletArgs
  runWithStdErr ["sudo", "systemctl", "daemon-reload"]

def fetchAwsInstanceId : Operation String := readFile awsInstanceIdLoc

def fetchAwsAz : Operation String := httpGet awsAvailabilityZoneURL

def trimSans (str : String) : String :=
    String.ofList (Go.deleteAll [' '] (Go.deleteAll ['\n'] str.toList))

def bootstrapConfig (cfg : Config) (dnsIp : String) : String :=
  "apiVersion: kubelet.config.k8s.io/v1beta1\n" ++
  "kind: KubeletConfiguration\n" ++
  "address: 0.0.0.0\n" ++
  "authentication:\n" ++
  "  anonymous:\n" ++
  "    enabled: false\n" ++
  "  webhook:\n" ++
  "    enabled: true\n" ++
  "  x509:\n" ++
  "    clientCAFile: " ++ kubeletClientCaFile ++ "\n" ++
  "authorization:\n" ++
  "  mode: AlwaysAllow\n" ++
  "clusterDNS:\n" ++
  "- " ++ dnsIp ++ "\n" ++
  "clusterDomain: " ++ dnsDomain ++ "\n" ++
  "cpuManagerPolicy: " ++ cfg.cpuManagerPolicy ++ "\n" ++
  "topologyManagerPolicy: " ++ cfg.topologyManagerPolicy ++ "\n" ++
  "reservedSystemCPUs: " ++ cfg.reservedCPUs ++ "\n" ++
  "featureGates:\n" ++
  "  DynamicKubeletConfig: true\n" ++
  "maxPods: 200\n" ++
  "readOnlyPort: 0\n" ++
  "tlsCertFile: " ++ kubeletTlsCertFile ++ "\n" ++
  "tlsPrivateKeyFile: " ++ kubeletTlsPrivateKeyFile ++ "\n" ++
  "tlsCipherSuites: " ++ kubeletTlsCipherSuites ++ "\n" ++
  (if cfg.containerdCgroup = "systemd" then "cgroupDriver: systemd\n"
    else "cgroupDriver: cgroupfs\n") ++
  (if cfg.clusterRole = "master" then "staticPodPath: " ++ kubeletStaticPodPath ++ "\n" else "") ++
  (if cfg.allowSwap then "failSwapOn: false\n" else "")

def prepareKubeletBootstrapConfig (cfg : Config) : Operation Unit := do
  mkdirAll kubeletConfigDir
  ensureDirReadableByPf9 kubeletConfigDir
  let dnsIp ← addrConv cfg.servicesCIDR 10
  writeFile kubeletBootstrapConfig (bootstrapConfig cfg dnsIp)

section Running
-- `fmt.Sprintf` of a text without operands, which is the text where there is no percent sign in it
variable (sprintf : String → String) (cfg : Config)

/-- The arguments up to the name of the node. -/
def commonArgs : String :=
  sprintf (" --kubeconfig=" ++ kubeletKubeconfig ++
    " --enable-server" ++
    " --network-plugin=cni" ++
    " --cni-conf-dir=" ++ cniConfigDir ++
    " --cni-bin-dir=" ++ cniBinDir ++
    " --log-dir=" ++ kubeletLogDirPath ++
    " --logtostderr=false" ++
    " --config=" ++ kubeletBootstrapConfig ++
    " --register-schedulable=false" ++
    " --pod-infra-container-image=" ++ cfg.k8sPrivateRegistry ++ "/pause:3.6" ++
    " --dynamic-config-dir=" ++ kubeletDynamicConfigDir ++
    " --cgroup-driver=" ++ Constants.containerdCgroup) ++
  if cfg.runtime = "containerd" then
    sprintf (" --container-runtime=remote" ++
      " --runtime-request-timeout=15m" ++
      " --container-runtime-endpoint=unix://" ++ containerdSocket ++
      " --container-log-max-files=" ++ cfg.containerLogMaxFiles ++
      " --container-log-max-size=" ++ cfg.containerLogMaxSize)
  else ""

def hostnameArgs (nodeName : String) : String :=
  if cfg.cloudProviderType ≠ "local" ∨ cfg.cloudProviderType = "local" ∧
    cfg.useHostname ≠ trueString then " --hostname-override=" ++ nodeName
  else ""

def nodeIpArgs (nodeIP : String) : String :=
  if cfg.cloudProviderType = "local" ∧ cfg.useHostname ≠ "true" then " --node-ip=" ++ nodeIP else ""

def awsArgs : Operation String := do
  if cfg.cloudProviderType = "aws" then
    if cfg.enableCAS = true then
      let instanceId ← fetchAwsInstanceId
      let availabilityZone ← fetchAwsAz
      return " --cloud-provider=aws --provider-id=aws:///" ++ trimSans availabilityZone ++ "/" ++ trimSans instanceId
    else return " --cloud-provider=aws"
  else return ""

def cloudArgs : String :=
  (if cfg.cloudProviderType = "openstack" then
    " --cloudProvider=openstack" ++ " --cloud-config=" ++ cloudConfigFile else "") ++
  (if cfg.cloudProviderType = "azure" then
    " --cloudProvider=azure" ++ " --cloudConfig=" ++ cloudConfigFile else "") ++
  if cfg.debug = "true" then " --v=8" else " --v=2"

/-- `EnsureKubeletRunning` of a kubelet that does not run. -/
def bringUp : Operation Unit := do
  prepareKubeletBootstrapConfig cfg
  runWithStdErr ["sudo", "/bin/mkdir", "-p", kubeletDataDir]
  let nodeName ← getNodeIdentifier cfg
  let nodeIP ← getNodeIP false
  let aws ← awsArgs cfg
  kubeletSetup (commonArgs sprintf cfg ++ hostnameArgs cfg nodeName ++ nodeIpArgs cfg nodeIP ++ aws ++ cloudArgs cfg)
  kubeletStart

def ensureKubeletRunning : Operation Unit := do
  if ← isKubeletRunning then return
  else bringUp sprintf cfg

end Running
end Kubelet
end Nodelet
