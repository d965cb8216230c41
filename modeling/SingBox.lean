import SingBox.Common.Srs.RoundTrip
import SingBox.Common.TrafficControl
import SingBox.Rule.RemoteRuleSet
import SingBox.Rule.Theorems
import SingBox.Rule.MatchSource
import SingBox.Route.Order
import SingBox.Route.Agreement
import SingBox.Route.NetworkUpdate
import SingBox.Dns.References
import SingBox.Cachefile.PlainMap
import SingBox.Dns.Client.Histories
import SingBox.Dns.Transport.PoolAccounting
import SingBox.Dns.Transport.SameConn
import SingBox.Provider.Dependencies
import SingBox.Ebpf.PolicyRetry
import SingBox.Ebpf.SharedUdpTable
import SingBox.Ebpf.ReplyPool
import SingBox.Ebpf.UdpNatRelease
import SingBox.Ebpf.UdpNatSessions
import SingBox.Common.Convertor.AdguardRules
import SingBox.FakeIP.FailedReset
import SingBox.FakeIP.Addresses
import SingBox.Cachefile.Pending
import SingBox.Cachefile.SavedBinary
import SingBox.Common.Srs.IpRanges
import SingBox.Dns.Client.Subnet
import SingBox.Group.Balance
import SingBox.Group.UpdateCheck
import SingBox.Group.Alive
import SingBox.Group.Selector
import SingBox.HttpClient.Fallback
import SingBox.HttpClient.SharedRef
import SingBox.Ebpf.ReplyAliases
import SingBox.FakeIP.Metadata
import SingBox.Group.Shutdown
import SingBox.Common.Convertor.AdguardScan
import SingBox.Masque.Lookup
import SingBox.Ssmapi.Users
import SingBox.Realm.Expiry
import SingBox.Badversion.Version
import SingBox.Sip003.Args
