import NdisRebind.Net.Buffer
import NdisRebind.Net.Headers
import NdisRebind.Net.Checksum
import NdisRebind.Process.Lookup
import NdisRebind.Driver.Adapters
import NdisRebind.Router.Filters
import NdisRebind.Router.Rewrite
import NdisRebind.Router.Checksums
import NdisRebind.Router.Verdicts
import NdisRebind.Router.Symmetry
import NdisRebind.Router.Configuration
import NdisRebind.Router.Session
import NdisRebind.Main
import NdisRebind.Router.Interleaving
import NdisRebind.Router.Faults
import NdisRebind.Router.Attribution
