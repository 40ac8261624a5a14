import DarwinNet.Proxy.RoundRobin
import DarwinNet.Proxy.DropWarn
import DarwinNet.Proxy.Alias
import DarwinNet.Proxy.RepairedPorts
import DarwinNet.Proxy.PolicyScope
import DarwinNet.Proxy.UdpReader
import DarwinNet.Proxy.RelayRetire
import DarwinNet.Proxy.Dial
import DarwinNet.Proxy.Listeners
import DarwinNet.Proxy.Relists
import DarwinNet.Proxy.Egress
import DarwinNet.Podnet.AliasLoss
import DarwinNet.Podnet.Carve
import DarwinNet.Podnet.ShimScope
import DarwinNet.Netd.HelperMode
import DarwinNet.Netd.MeshKey
import DarwinNet.Netd.Bridge
import DarwinNet.Netd.AliasCap
import DarwinNet.Netd.Interconnect
import DarwinNet.Netd.HelperPlan
import DarwinNet.Netd.Boundary
import DarwinNet.Netd.BindPort
import DarwinNet.Netd.LocalPods
import DarwinNet.Netd.Restart
import DarwinNet.Netd.CodeSign
import DarwinNet.Netd.Release
import DarwinNet.Mesh.Routes
import DarwinNet.Mesh.Refuser
import DarwinNet.Mesh.Handshake
import DarwinNet.Mesh.Probe
import DarwinNet.Mesh.Watch
import DarwinNet.Dns.Merge
import DarwinNet.Dns.PodName
import DarwinNet.Dns.FailClosed
import DarwinNet.Dns.Exclusive
import DarwinNet.Ingress.Watch
import DarwinNet.Linkwatch.Stream
