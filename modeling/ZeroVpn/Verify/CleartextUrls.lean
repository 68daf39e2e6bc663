import ZeroVpn.Util.SubUrl
import ZeroVpn.Util.IpSpec
import ZeroVpn.Handler.AngConfigManager

/-!
# Cleartext subscriptions

An `http` URL is accepted for a private address, and for the text of the loopback address anywhere
in it.
-/

namespace ZeroVpn.Utils

open List Text

section
variable {ip : String} {a b c d : Nat}

end

section
variable {fold : Char → Char} {url : String}

end

end ZeroVpn.Utils
