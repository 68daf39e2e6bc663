import ZeroVpn.Std.Ini
import ZeroVpn.Dto.Entities
import ZeroVpn.Util.Utils

/-!
# WireGuard configuration texts

The readers of `WireguardFmt` for `[Interface]`/`[Peer]` texts. All sections of one name are
collected into one map, so that of several peers the last value of a key is kept.
-/

namespace ZeroVpn

open Text

/-- The settings of the tunnel interface. -/
structure WgTunnelSettings where
  addresses : List String
  dnsServers : List String
  allowedIps : List String
  mtu : Option Int
  deriving DecidableEq

namespace WireguardFmt

inductive ConfSection where
  | interface
  | peer
  deriving DecidableEq

/-- Without byte order marks. -/
def removeBom (s : String) : String := String.ofList (s.toList.filter (· ≠ '﻿'))

/-- The maps that are being filled, and the one that gets the next entry. -/
structure Sections where
  current : Option ConfSection := none
  iface : LinkedMap String String := .empty
  peer : LinkedMap String String := .empty

def Sections.read (st : Sections) : Ini.Line ConfSection → Sections
  | .header s => { st with current := some s }
  | .entry key value =>
    match st.current with
    | none => st
    | some .interface => { st with iface := st.iface.put key value }
    | some .peer => { st with peer := st.peer.put key value }
  | .other => st

/-- The items of a comma-separated value. -/
def items (value : Option String) : List String :=
  (((value.map (split ',')).getD []).map trim).filter (· ≠ "")

section
-- Java's per-character case folding, and `String.lowercase`.
variable (fold : Char → Char) (lowercase : String → String)

def readLine (line : String) : Ini.Line ConfSection :=
  let trimmed := trim line
  if trimmed = "" || startsWith trimmed "#" then .other
  else if startsWithIgnoreCase fold trimmed "[Interface]" then .header .interface
  else if startsWithIgnoreCase fold trimmed "[Peer]" then .header .peer
  else
    match splitFirst '=' trimmed with
    | (key, some value) => .entry (lowercase (trim key)) (trim value)
    | (_, none) => .other

/-- The lines of a text without byte order marks. -/
def confLines (conf : String) : List (Ini.Line ConfSection) :=
  (lines conf).map (readLine fold lowercase)

def readSections (conf : String) : Sections := (confLines fold lowercase conf).foldl Sections.read {}

def extractTunnelSettings (conf : String) : Option WgTunnelSettings :=
  let st := readSections fold lowercase (removeBom conf)
  if st.iface.entries = [] then none
  else
    some { addresses := items (st.iface.get "address")
           dnsServers := items (st.iface.get "dns")
           allowedIps := items (st.peer.get "allowedips")
           mtu := (st.iface.get "mtu").bind toIntOrNull }

/-- The host and the port of an endpoint, `host:port` or `[address]:port`. -/
def splitEndpoint (endpoint : String) : String × String :=
  match endpoint.toList with
  | '[' :: rest =>
    match rest.dropWhile (· != ']') with
    | ']' :: ':' :: port => (String.ofList (rest.takeWhile (· != ']')), String.ofList port)
    | _ => (endpoint, "")
  | _ =>
    match splitFirst ':' endpoint with
    | (host, some port) => (host, port)
    | (_, none) => (endpoint, "")

/-- `currentTimeMillis` is the clock as a text. -/
def parseWireguardConfFile (currentTimeMillis str : String) : ProfileItem :=
  let normalized := trim (removeBom str)
  let st := readSections fold lowercase normalized
  let endpoint := splitEndpoint (orEmpty (st.peer.get "endpoint"))
  { configType := .wireguard
    rawConf := some normalized
    secretKey := some (orEmpty (st.iface.get "privatekey"))
    remarks := currentTimeMillis
    localAddress := some ((st.iface.get "address").getD AppConfig.wireguardLocalAddressV4)
    mtu := some (Utils.parseInt ((st.iface.get "mtu").getD AppConfig.wireguardLocalMtu) 0)
    publicKey := some (orEmpty (st.peer.get "publickey"))
    preSharedKey := nullIfBlank (st.peer.get "presharedkey")
    server := some endpoint.1
    serverPort := some endpoint.2
    reserved := some ((st.peer.get "reserved").getD "0,0,0") }

end

/-! ## What the readers keep -/

section
variable {fold : Char → Char} {lowercase : String → String} {conf : String}

theorem collect_interface (st : Sections) (line : Ini.Line ConfSection) :
    Ini.collect .interface (st.current, st.iface) line =
      ((st.read line).current, (st.read line).iface) := by
  cases line with
  | header => rfl
  | other => rfl
  | entry key value =>
    obtain ⟨current, iface, peer⟩ := st
    cases current with
    | none => rfl
    | some s => cases s <;> rfl

theorem collect_peer (st : Sections) (line : Ini.Line ConfSection) :
    Ini.collect .peer (st.current, st.peer) line =
      ((st.read line).current, (st.read line).peer) := by
  cases line with
  | header => rfl
  | other => rfl
  | entry key value =>
    obtain ⟨current, iface, peer⟩ := st
    cases current with
    | none => rfl
    | some s => cases s <;> rfl

/-- The maps hold the entries of their sections. -/
theorem foldl_read (lines : List (Ini.Line ConfSection)) :
    (lines.foldl Sections.read {}).iface = .ofEntries (Ini.entriesOf .interface lines) ∧
      (lines.foldl Sections.read {}).peer = .ofEntries (Ini.entriesOf .peer lines) := by
  have hiface := @List.foldl_hom _ _ _ (fun st : Sections => (st.current, st.iface)) _ _ lines {}
    collect_interface
  have hpeer := @List.foldl_hom _ _ _ (fun st : Sections => (st.current, st.peer)) _ _ lines {}
    collect_peer
  exact ⟨(congrArg Prod.snd hiface).symm.trans (Ini.foldl_collect .interface lines none .empty),
    (congrArg Prod.snd hpeer).symm.trans (Ini.foldl_collect .peer lines none .empty)⟩

theorem entries_ofEntries_eq_nil {entries : List (String × String)} :
    (LinkedMap.ofEntries entries).entries = [] ↔ entries = [] := by
  constructor
  · intro hnil
    cases entries with
    | nil => rfl
    | cons e entries =>
      have hkey : e.1 ∈ (e :: entries).map Prod.fst := List.mem_cons_self
      obtain ⟨v, hget, -⟩ := LinkedMap.get_putAll_of_mem hkey
      have hmem := LinkedMap.get_eq_some_iff.mp hget
      change (e.1, v) ∈ (LinkedMap.ofEntries (e :: entries)).entries at hmem
      rw [hnil] at hmem
      cases hmem
  · rintro rfl
    rfl

/-- A text has settings if an entry stands in an `[Interface]` section. -/
theorem extractTunnelSettings_isSome_iff :
    (extractTunnelSettings fold lowercase conf).isSome = true ↔
      Ini.entriesOf .interface (confLines fold lowercase (removeBom conf)) ≠ [] := by
  have hnil : (readSections fold lowercase (removeBom conf)).iface.entries = [] ↔
      Ini.entriesOf .interface (confLines fold lowercase (removeBom conf)) = [] := by
    rw [readSections, (foldl_read _).1, entries_ofEntries_eq_nil]
  unfold extractTunnelSettings
  dsimp only
  split
  · next h => exact iff_of_false Bool.false_ne_true (not_not.mpr (hnil.mp h))
  · next h => exact iff_of_true rfl (mt hnil.mpr h)

end
end WireguardFmt
end ZeroVpn
