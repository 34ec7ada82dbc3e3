import PowerStoreCsi.Go
import PowerStoreCsi.Gopowerstore
import PowerStoreCsi.Prog
import PowerStoreCsi.Pool
import PowerStoreCsi.ArrayModel
import PowerStoreCsi.Array.Registry
import PowerStoreCsi.Array.Proofs.Registry
import PowerStoreCsi.Array.Reload
import PowerStoreCsi.Array.Proofs.Reload
import PowerStoreCsi.Array.VolumeID
import PowerStoreCsi.Array.Proofs.VolumeID
import PowerStoreCsi.Node.Base
import PowerStoreCsi.Node.FileSystem
import PowerStoreCsi.Node.Proofs.Base
import PowerStoreCsi.Node.Proofs.Options
import PowerStoreCsi.Controller.Service
import PowerStoreCsi.Controller.Connectivity
import PowerStoreCsi.Controller.Replication
import PowerStoreCsi.Controller.ProtectionGroup
import PowerStoreCsi.Controller.VolumeGroupSnapshot
import PowerStoreCsi.Controller.Proofs.Replication
import PowerStoreCsi.Controller.Proofs.Teardown
import PowerStoreCsi.Controller.Proofs.Connectivity
import PowerStoreCsi.Controller.Proofs.ProtectionGroup
import PowerStoreCsi.Controller.Proofs.VolumeGroupSnapshot
import PowerStoreCsi.Controller.Proofs.Dereference
import PowerStoreCsi.Controller.Proofs.RemoteVolume
import PowerStoreCsi.Controller.Proofs.Footprint
import PowerStoreCsi.Controller.Proofs.Server
