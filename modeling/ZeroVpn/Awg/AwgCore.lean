import ZeroVpn.Fmt.WireguardConf
import ZeroVpn.Std.Except

/-!
# The configuration of the AmneziaWG engine

`buildIpcSettings` turns a wg-quick text into the settings of the device, here a list of keys and
values in the order in which they are written. Each `[Peer]` header opens a map of its own.
-/

namespace ZeroVpn.AwgCore
open WireguardFmt

/-- `unicode.IsSpace` -/
def isSpace (c : Char) : Bool :=
  let n := c.toNat
  (9 ≤ n && n ≤ 13) || n == 32 || n == 0x85 || n == 0xA0 || n == 0x1680 ||
    (0x2000 ≤ n && n ≤ 0x200A) || n == 0x2028 || n == 0x2029 || n == 0x202F || n == 0x205F ||
    n == 0x3000

/-- `strings.TrimSpace` -/
def trimSpace (s : String) : String :=
  String.ofList ((s.toList.dropWhile isSpace).rdropWhile isSpace)

/-- The value of a key that is missing is the empty text. -/
def value (m : LinkedMap String String) (key : String) : String := Text.orEmpty (m.get key)

section
-- `unicode.ToLower`
variable (toLower : Char → Char)

/-- `strings.ToLower` -/
def toLowerText (s : String) : String := String.ofList (s.toList.map toLower)

def readLine (raw : String) : Ini.Line ConfSection :=
  let line := trimSpace raw
  if line = "" || Text.startsWith line "#" then .other
  else
    let lower := toLowerText toLower line
    if Text.startsWith lower "[interface]" then .header .interface
    else if Text.startsWith lower "[peer]" then .header .peer
    else
      match Text.splitFirst '=' line with
      | (key, some value) => .entry (toLowerText toLower (trimSpace key)) (trimSpace value)
      | (_, none) => .other

/-- The lines of a text without carriage returns. -/
def confLines (conf : String) : List (Ini.Line ConfSection) :=
  (Text.split '\n' (String.ofList (conf.toList.filter (· ≠ '\r')))).map (readLine toLower)

/-- The maps that are being filled. The map of the last peer is the current one in a `[Peer]`
section. -/
structure QuickConf where
  current : Option ConfSection := none
  iface : LinkedMap String String := .empty
  peers : List (LinkedMap String String) := []

def QuickConf.read (st : QuickConf) : Ini.Line ConfSection → QuickConf
  | .header .interface => { st with current := some .interface }
  | .header .peer => { st with current := some .peer, peers := st.peers ++ [.empty] }
  | .entry key value =>
    match st.current with
    | none => st
    | some .interface => { st with iface := st.iface.put key value }
    | some .peer => { st with peers := st.peers.modifyLast (·.put key value) }
  | .other => st

/-- The prefixes of a comma-separated list. -/
def allowedIps (value : String) : List String :=
  ((Text.split ',' value).map trimSpace).filter (· ≠ "")

section
-- `base64.StdEncoding.DecodeString`, with the text of its error.
variable (decodeString : String → Except String (List UInt8))

end
end

/-! ## What the reader keeps -/

section
variable {toLower : Char → Char} {conf : String}

theorem collect_interface (st : QuickConf) (line : Ini.Line ConfSection) :
    Ini.collect .interface (st.current, st.iface) line =
      ((st.read line).current, (st.read line).iface) := by
  cases line with
  | header s => cases s <;> rfl
  | other => rfl
  | entry key value =>
    obtain ⟨current, iface, peers⟩ := st
    cases current with
    | none => rfl
    | some s => cases s <;> rfl

end
end ZeroVpn.AwgCore
