import ZeroVpn.Verify.GroupMembership
import ZeroVpn.Verify.LaunchGate
import ZeroVpn.Verify.SelfCapture
import ZeroVpn.Verify.V6Parity
import ZeroVpn.Verify.RootTeardown
import ZeroVpn.Verify.NoResurrection
import ZeroVpn.Verify.ArchiveExtraction
import ZeroVpn.Verify.ShadowsocksLink
import ZeroVpn.Verify.MalformedMember
import ZeroVpn.Verify.OutboundTags
import ZeroVpn.Verify.GroupBalance
import ZeroVpn.Verify.ChainMembers
import ZeroVpn.Verify.TunnelRoutes
import ZeroVpn.Verify.TunnelChoice
import ZeroVpn.Verify.ConnectionState
import ZeroVpn.Verify.StoreRaces
import ZeroVpn.Verify.DesktopLink
import ZeroVpn.Verify.SideData
import ZeroVpn.Verify.OrphanCleanup
import ZeroVpn.Verify.SelectionKept
import ZeroVpn.Verify.DuplicateRemoval
import ZeroVpn.Verify.DragReorder
import ZeroVpn.Verify.LegacyMigrated
import ZeroVpn.Verify.RunningVpn
import ZeroVpn.Verify.DnsSegments
import ZeroVpn.Verify.CustomConfig
import ZeroVpn.Verify.IdleSocket
import ZeroVpn.Verify.ConnectionTests
import ZeroVpn.Verify.BulkTests
import ZeroVpn.Verify.QueryParams
import ZeroVpn.Verify.Remarks
import ZeroVpn.Verify.Credentials
import ZeroVpn.Verify.VmessLink
import ZeroVpn.Verify.LinkEnvelope
import ZeroVpn.Verify.Base64Spellings
import ZeroVpn.Verify.ShareItems
import ZeroVpn.Verify.CustomArray
import ZeroVpn.Verify.IpLiterals
import ZeroVpn.Verify.CleartextUrls
import ZeroVpn.Ui.PreloadOrder
import ZeroVpn.Desktop.ZeroStatsTracker
import ZeroVpn.Desktop.SysProxy
