import Nodelet.Go.Program
import Nodelet.Go.Slice
import Nodelet.Go.Time
import Nodelet.Go.Strconv
import Nodelet.Constants
import Nodelet.Config
import Nodelet.ExtensionData
import Nodelet.Environment
import Nodelet.Reconcile
import Nodelet.Reconcile.Persist
import Nodelet.Reconcile.Serve
import Nodelet.StopState
import Nodelet.ErrorState
import Nodelet.GenCerts
import Nodelet.Completed
import Nodelet.Bounds
import Nodelet.Toleration
import Nodelet.Sunpike.Agreement
import Nodelet.ConfigOrder
import Nodelet.ConfigFiles
import Nodelet.Panics
import Nodelet.Cordon.Release
import Nodelet.Ctl.Deletion
import Nodelet.Ctl.Membership
import Nodelet.Ctl.Blocked
import Nodelet.Ctl.Swallowed
import Nodelet.Ctl.StaleHealth
import Nodelet.Ctl.SavedConfig
import Nodelet.Ctl.RootCA
import Nodelet.Bouncer.Expiry
import Nodelet.Bouncer.Unauthorized
import Nodelet.Bouncer.Groups
import Nodelet.HostRoundTrip
import Nodelet.SourcedKubeEnv
import Nodelet.ConfigKept
import Nodelet.PhaseStatus
import Nodelet.Bouncer.Truncated
import Nodelet.Bouncer.Freshness
import Nodelet.Bouncer.Makecred
import Nodelet.Ctl.Comparison
import Nodelet.Ctl.HostsFile
import Nodelet.Kubeutils.Taints
import Nodelet.Fileio
import Nodelet.Kubeutils.CloudConfig
import Nodelet.Kubelet.Panics
import Nodelet.Kubelet.Start
import Nodelet.Command.Pipes
import Nodelet.LazyClient.Careful
import Nodelet.ContainerRuntime.Destroyed
import Nodelet.ConfigRoundTrip
import Nodelet.Kubeutils.TaintMemory
import Nodelet.Command.Env
import Nodelet.Go.JsonStruct
import Nodelet.Extension.Loading
import Nodelet.Extension.Refines
import Nodelet.Go.Net
import Nodelet.Kubeutils.Dns
import Nodelet.Ctl.PeerUrls
import Nodelet.Order
import Nodelet.Settling
import Nodelet.PhaseCommands.Launched
import Nodelet.Extension.Torn
import Nodelet.Kubeutils.NodeUpdates
import Nodelet.Ctl.CertStore.Killed
import Nodelet.ContainerRuntime.Fresh
import Nodelet.LoadImages.Loaded
