import Drtm.Foundation.Rings
import Drtm.Foundation.Text
import Drtm.Backend
import Drtm.SampleBackend
import Drtm.Properties.Header
import Drtm.RunTimeData
import Drtm.Frontend
import Drtm.Foundation.Runs
import Drtm.Properties.Records
import Drtm.Properties.Walk
import Drtm.Properties.Update
import Drtm.Properties.Stack
import Drtm.Session
import Drtm.Properties.Queries
import Drtm.Properties.Session
import Drtm.Properties.Lookup
import Drtm.Properties.Registers
import Drtm.Properties.Fetch
import Drtm.Properties.FrameCache
import Drtm.Properties.Failures
import Drtm.Properties.Identity
import Drtm.Properties.Names
import Drtm.Properties.Twins
import Drtm.Properties.FetchOnce
import Drtm.Properties.Latch
import Drtm.Properties.Description
import Drtm.Properties.Buffers
import Drtm.Foundation.PartialRings
import Drtm.Properties.Provenance
import Drtm.Properties.Fields
import Drtm.Foundation.Spans
import Drtm.Properties.FrameBounds
import Drtm.Foundation.Readings
import Drtm.Properties.NameCopy
import Drtm.Foundation.HighWater
import Drtm.Properties.Pool
import Drtm.Commands
import Drtm.Host.Frontend
import Drtm.Host.Rules
import Drtm.Properties.HostThreads
import Drtm.Host.CApi
import Drtm.Properties.HostFrontend
import Drtm.Properties.Lifecycle
import Drtm.Foundation.Locality
import Drtm.Properties.Replay
import Drtm.Properties.HeaderImage
import Drtm.Properties.Views
import Drtm.Client
import Drtm.Properties.Client
import Drtm.Foundation.Amortized
import Drtm.Properties.Traffic
import Drtm.Foundation.Format
import Drtm.Messages
import Drtm.Properties.Messages
