import ZeroVpn.Std.Text

/-!
# Constants of the application

The constants of `AppConfig` that the modelled code reads, under their own names.
-/

namespace ZeroVpn.AppConfig

def applicationId : String := "com.zerovpn.app"

def defaultSubscriptionId : String := "__default_subscription__"

/-! ## Preference keys -/

def prefSniffingEnabled : String := "pref_sniffing_enabled"
def prefRouteOnlyEnabled : String := "pref_route_only_enabled"
def prefLocalDnsEnabled : String := "pref_local_dns_enabled"
def prefFakeDnsEnabled : String := "pref_fake_dns_enabled"
def prefVpnMtu : String := "pref_vpn_mtu"
def prefRoutingDomainStrategy : String := "pref_routing_domain_strategy"
def prefMuxEnabled : String := "pref_mux_enabled"
def prefMuxConcurrency : String := "pref_mux_concurrency"
def prefMuxXudpConcurrency : String := "pref_mux_xudp_concurrency"
def prefMuxXudpQuic : String := "pref_mux_xudp_quic"
def prefFragmentEnabled : String := "pref_fragment_enabled"
def prefFragmentPackets : String := "pref_fragment_packets"
def prefFragmentLength : String := "pref_fragment_length"
def prefFragmentInterval : String := "pref_fragment_interval"
def prefFragmentMaxsplit : String := "pref_fragment_maxsplit"
def prefObservatoryLeastPingInterval : String := "pref_observatory_least_ping_interval"
def prefObservatoryLeastLoadInterval : String := "pref_observatory_least_load_interval"
def prefObservatoryLeastLoadMethod : String := "pref_observatory_least_load_method"
def prefObservatoryLeastLoadSampling : String := "pref_observatory_least_load_sampling"
def prefObservatoryLeastLoadTimeout : String := "pref_observatory_least_load_timeout"
def prefSpeedEnabled : String := "pref_speed_enabled"
def prefIpv6Enabled : String := "pref_ipv6_enabled"
def prefPreferIpv6 : String := "pref_prefer_ipv6"
def prefProxySharing : String := "pref_proxy_sharing_enabled"
def prefEnableLocalProxy : String := "pref_enable_local_proxy"
def prefSocksPort : String := "pref_socks_port"
def prefDynamicSocksPort : String := "pref_dynamic_socks_port"
def prefSocksUsername : String := "pref_socks_username"
def prefSocksPassword : String := "pref_socks_password"
def prefSocksEnableUdp : String := "pref_socks_enable_udp"
def prefRemoteDns : String := "pref_remote_dns"
def prefDomesticDns : String := "pref_domestic_dns"
def prefDnsHosts : String := "pref_dns_hosts"
def prefDelayTestUrl : String := "pref_delay_test_url"
def prefLoglevel : String := "pref_core_loglevel"
def prefOutboundDomainResolveMethod : String := "pref_outbound_domain_resolve_method"
def prefMode : String := "pref_mode"
def prefRootModeEnable : String := "pref_root_mode_enabled"
def prefRootLanSharing : String := "pref_root_lan_sharing"
def prefPerAppProxy : String := "pref_per_app_proxy"
def prefBypassApps : String := "pref_bypass_apps"
def prefUseHevTunnel : String := "pref_use_hev_tunnel_v2"
def prefVpnDns : String := "pref_vpn_dns"
def prefVpnBypassLan : String := "pref_vpn_bypass_lan"
def prefVpnInterfaceAddressConfigIndex : String := "pref_vpn_interface_address_config_index"

/-! ## Outbound and balancer tags -/

def tagProxy : String := "proxy"
def tagDirect : String := "direct"
def tagBlocked : String := "block"
def tagDns : String := "dns-module"
def tagDomesticDns : String := "domestic-dns"
def tagBalancer : String := "balancer-main"
def tagBalancerPre : String := "balancer"

def builtinOutboundTags : List String := [tagProxy, tagDirect, tagBlocked]

/-! ## Protocol schemes -/

def vmess : String := "vmess://"
def shadowsocks : String := "ss://"
def socks : String := "socks://"
def socks4 : String := "socks4://"
def socks5 : String := "socks5://"
def vless : String := "vless://"
def trojan : String := "trojan://"
def wireguard : String := "wireguard://"
def hysteria2 : String := "hysteria2://"
def hy2 : String := "hy2://"
def v2raynfmts : String := "v2rayn://"
def subscriptionUserinfoHeader : String := "subscription-userinfo"

/-! ## Network, DNS and geo data -/

def vpn : String := "VPN"
def vpnMtu : Int := 1500
def portSocks : Int := 10808
def loopback : String := "127.0.0.1"

def privateIpList : List String :=
  ["0.0.0.0/8", "10.0.0.0/8", "127.0.0.0/8", "172.16.0.0/12", "192.168.0.0/16", "169.254.0.0/16",
    "224.0.0.0/4"]
def wireguardLocalAddressV4 : String := "172.16.0.2/32"
def wireguardLocalMtu : String := "1420"
def delayTestUrl : String := "https://www.gstatic.com/generate_204"
def observatoryLeastPingInterval : String := "3m"
def observatoryLeastLoadInterval : String := "5m"
def observatoryLeastLoadMethod : String := "HEAD"
def observatoryLeastLoadSampling : Int := 2
def observatoryLeastLoadTimeout : String := "30s"
def dnsProxy : String := "https://cloudflare-dns.com/dns-query"
def dnsDirect : String := "223.5.5.5"
def dnsVpn : String := "1.1.1.1"
def geositePrivate : String := "geosite:private"
def geositeCn : String := "geosite:cn"
def geoipPrivate : String := "geoip:private"
def geoipCn : String := "geoip:cn"
def geoipOnlyCnPrivateDat : String := "geoip-only-cn-private.dat"
def defaultSocksEnableUdp : Bool := true
def defaultVpnBypassLan : String := "1"
def defaultOutboundDomainResolveMethod : String := "1"
def defaultMuxXudpConcurrency : String := "8"
def defaultSecurity : String := "auto"
def defaultLevel : Int := 8
def defaultNetwork : String := "tcp"
def tls : String := "tls"
def reality : String := "reality"
def headerTypeHttp : String := "http"
def unidentifiedPackage : String := "__unknown_app__"

/-! ### Root mode -/

/-- The packets of the tunnel helper. -/
def rootFwmark : Nat := 255
/-- The packets to be pushed into the tun device. -/
def rootMarkRoute : Nat := 1
def rootRouteTable : Nat := 2024
def rootRulePriority : Nat := 1000
def rootTunName : String := "utun7788"
def rootTunAddrV4 : String := "198.18.0.1/15"
def rootTunAddrV6 : String := "fdfe:dcba:9876::1/64"
def rootLanDns : String := "1.1.1.1"
def rootOomScore : String := "-1000"

def googleapisCnDomain : String := "domain:googleapis.cn"
def googleapisComDomain : String := "googleapis.com"

/-- The hard-coded DNS host entries, in the order in which they are written. -/
def dnsAddresses : List (String × List String) :=
  [("dns.alidns.com", ["223.5.5.5", "223.6.6.6", "2400:3200::1", "2400:3200:baba::1"]),
    ("dns.sse.cisco.com",
      ["208.67.220.220", "208.67.222.222", "2620:119:35::35", "2620:119:53::53"]),
    ("dns.umbrella.com",
      ["208.67.220.220", "208.67.222.222", "2620:119:35::35", "2620:119:53::53"]),
    ("one.one.one.one", ["1.1.1.1", "1.0.0.1", "2606:4700:4700::1111", "2606:4700:4700::1001"]),
    ("1dot1dot1dot1.cloudflare-dns.com",
      ["1.1.1.1", "1.0.0.1", "2606:4700:4700::1111", "2606:4700:4700::1001"]),
    ("dns.cloudflare.com",
      ["162.159.61.8", "172.64.41.8", "2a06:98c1:52::8", "2803:f800:53::8"]),
    ("cloudflare-dns.com",
      ["104.16.248.249", "104.16.249.249", "2606:4700::6810:f8f9", "2606:4700::6810:f9f9"]),
    ("engage.cloudflareclient.com", ["162.159.192.1", "2606:4700:d0::a29f:c001"]),
    ("doh.pub", ["1.12.12.12", "120.53.53.53"]),
    ("dot.pub", ["1.12.12.12", "120.53.53.53"]),
    ("dns.google", ["8.8.8.8", "8.8.4.4", "2001:4860:4860::8888", "2001:4860:4860::8844"]),
    ("dns.quad9.net", ["9.9.9.9", "149.112.112.112", "2620:fe::fe", "2620:fe::9"]),
    ("dns.sb", ["45.11.45.11", "185.222.222.222", "2a09::", "2a11::"]),
    ("common.dot.dns.yandex.net",
      ["77.88.8.8", "77.88.8.1", "2a02:6b8::feed:0ff", "2a02:6b8:0:1::feed:0ff"])]

end ZeroVpn.AppConfig
