import SieveTube.Library.KeyedMap
import SieveTube.Library.Text
import SieveTube.Library.Run
import SieveTube.Library.Fallible
import SieveTube.Library.Tasks
import SieveTube.Library.Semaphore
import SieveTube.Library.ExpiringSet
import SieveTube.Library.Meter
import SieveTube.Library.Inet
import SieveTube.Hostname
import SieveTube.Wildcards
import SieveTube.Registry
import SieveTube.Reconnect
import SieveTube.Presence
import SieveTube.Tunnel
import SieveTube.Mesh.Protocol
import SieveTube.Admission
import SieveTube.Edge
import SieveTube.Mesh.Forward
import SieveTube.Router
import SieveTube.Mesh.Datagram
import SieveTube.Mesh.DatagramMove
import SieveTube.Mesh.Attempts
import SieveTube.Mesh.Replies
import SieveTube.Mesh.Isolation
import SieveTube.Mesh.Routes
import SieveTube.Mesh.Exchange
import SieveTube.Mesh.Tenant
import SieveTube.Mesh.Acceptance
import SieveTube.Mesh.Advertiser
import SieveTube.Mesh.Advertisement
import SieveTube.Mesh.AdvertiserMove
import SieveTube.Mesh.Publication
import SieveTube.Mesh.Advertised
import SieveTube.Mesh.Shutdown
import SieveTube.Mesh.Pool
import SieveTube.Mesh.Permits
import SieveTube.Mesh.Budgets
import SieveTube.Mesh.Abandoned
import SieveTube.Policy.Bucket
import SieveTube.Policy.Headroom
import SieveTube.Policy.Traffic
import SieveTube.Policy.Concurrent
import SieveTube.Policy.Http
import SieveTube.Policy.HttpRate
import SieveTube.Policy.Eviction
import SieveTube.Policy.Plugins
import SieveTube.Policy.Reload
import SieveTube.Library.Program
import SieveTube.Library.Issued
import SieveTube.Library.InetText
import SieveTube.Library.InetAddr
import SieveTube.Library.Header
import SieveTube.Policy.ClientIp
import SieveTube.Policy.Tcp
import SieveTube.Policy.Slots
import SieveTube.Proxy.Backend
import SieveTube.Proxy.Hygiene
import SieveTube.Library.Keyspace
import SieveTube.Dns.Record
import SieveTube.Dns.Plan
import SieveTube.Dns.Reconciler
import SieveTube.Dns.Contract
import SieveTube.Dns.World
import SieveTube.Dns.Ownership
import SieveTube.Dns.Writer
import SieveTube.Dns.Agreement
import SieveTube.Dns.Recovery
import SieveTube.Dns.Progress
import SieveTube.Dns.Convergence
import SieveTube.Dns.DryRun
import SieveTube.Dns.Value
import SieveTube.Dns.Cloudflare
import SieveTube.Dns.Cloudflare.Calls
import SieveTube.Dns.Cloudflare.Rejection
import SieveTube.Dns.Cloudflare.Stage
import SieveTube.Dns.Cloudflare.Interruption
import SieveTube.Dns.Txt
import SieveTube.Dns.Challenge
import SieveTube.Dns.Coexistence
import SieveTube.Dns.Cloudflare.Account
import SieveTube.Dns.Cloudflare.Sharing
import SieveTube.Dns.ChallengeSafety
import SieveTube.Dns.Requests
import SieveTube.Dns.Cloudflare.Passes
import SieveTube.Dns.Cloudflare.Proxying
import SieveTube.Dns.Compile
import SieveTube.Dns.Confinement
import SieveTube.Valkey.Scripts
import SieveTube.Valkey.Ownership
import SieveTube.Valkey.Lease
import SieveTube.Valkey.Outage
import SieveTube.Valkey.Holding
import SieveTube.Valkey.RouteStore
import SieveTube.Valkey.RouteBoard
import SieveTube.Certificate.Store
import SieveTube.Certificate.Outcome
import SieveTube.Certificate.CrashSafety
import SieveTube.Certificate.Acme
import SieveTube.Certificate.Validation
import SieveTube.Certificate.Resolver
import SieveTube.Certificate.Serving
import SieveTube.Certificate.Renewal
import SieveTube.Certificate.Orders
import SieveTube.Certificate.Http01
import SieveTube.Certificate.Distribution
import SieveTube.Certificate.Cleanup
import SieveTube.WildcardAgreement
import SieveTube.Ingress
import SieveTube.Policy.Compile
import SieveTube.Policy.Panic
import SieveTube.Policy.RetryAfter
import SieveTube.Wire.Datagrams
