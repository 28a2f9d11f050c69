import AbstractumVpn.AllowedRanges
import AbstractumVpn.DnsTraffic
import AbstractumVpn.WireguardKillSwitch
import AbstractumVpn.ExclusionRoutes
import AbstractumVpn.TunnelRoutes
import AbstractumVpn.FailedActivation
import AbstractumVpn.ShellCommand
import AbstractumVpn.RetrySeries
import AbstractumVpn.PendingRetry
import AbstractumVpn.RetryProtection
import AbstractumVpn.PrivilegedProcess
import AbstractumVpn.ServersPersistence
import AbstractumVpn.NetworkEvents
import AbstractumVpn.DnsUtilsLinux
import AbstractumVpn.WindowsFirewall
import AbstractumVpn.SiteDecision
import AbstractumVpn.InstallController
import AbstractumVpn.VlessExport
import AbstractumVpn.XrayScan
import AbstractumVpn.ScriptVars
import AbstractumVpn.XrayProtocol
import AbstractumVpn.BlackHoles
import AbstractumVpn.FewestSubnets
import AbstractumVpn.WindowsExclusionRoutes
import AbstractumVpn.PrefixFidelity
import AbstractumVpn.WireguardTexts
import AbstractumVpn.IpSplitTunneling
import AbstractumVpn.ServiceRoutes
import AbstractumVpn.ClientsTable
import AbstractumVpn.AwgInstaller
import AbstractumVpn.ContainerUpdate
import AbstractumVpn.NativeAllowedIps
import AbstractumVpn.PingHelper
import AbstractumVpn.RouteContainer
import AbstractumVpn.SocketFraming
import AbstractumVpn.WgShow
import AbstractumVpn.WireguardRevocation
import AbstractumVpn.ImportedContainers
import AbstractumVpn.UpdateController
import AbstractumVpn.ScriptLines
import AbstractumVpn.ServerNames
import AbstractumVpn.TrafficCounters
import AbstractumVpn.RoutingMessages
import AbstractumVpn.TunnelLogger
import AbstractumVpn.PeerStatuses
