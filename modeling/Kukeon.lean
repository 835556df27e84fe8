import Kukeon.Apply.Equivalence
import Kukeon.Apply.NestedParity
import Kukeon.Apply.PhantomDrift
import Kukeon.Cli.PerCellVolumes
import Kukeon.Cni.Subnet
import Kukeon.Controller.BundleOrder
import Kukeon.Controller.DeleteDocuments
import Kukeon.Controller.EnsureVolumes
import Kukeon.Controller.Lifecycle
import Kukeon.Controller.Lineage
import Kukeon.Controller.TeamPrune
import Kukeon.Controller.VolumeRetention
import Kukeon.Ctr.ImagePrune
import Kukeon.Ctr.SecretIsolation
import Kukeon.Ctr.TaskCache
import Kukeon.Daemon.Shutdown
import Kukeon.Fs.MetadataLock
import Kukeon.KukeonV1.Errmap
import Kukeon.Netpolicy.AllOrNothing
import Kukeon.Netpolicy.FailClosed
import Kukeon.Netpolicy.RuleLine
import Kukeon.Runner.Backoff
import Kukeon.Runner.CellLock
import Kukeon.Runner.ContainerNetwork
import Kukeon.Runner.HashDomain
import Kukeon.Runner.OperatorKill
import Kukeon.Runner.ReclaimExact
import Kukeon.Runner.RefreshFrame
import Kukeon.Runner.RestartCount
import Kukeon.Runner.Resurrection
import Kukeon.Runner.RootCrash
import Kukeon.Runner.RuntimeEnv
import Kukeon.Runner.StageGate
import Kukeon.Runner.StartAtomicity
import Kukeon.Runner.WalkExact
