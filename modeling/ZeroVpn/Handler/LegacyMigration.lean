import ZeroVpn.Handler.StoreSpec
import ZeroVpn.Util.ListExt

/-!
# The migration of the legacy server list

`SettingsManager.migrateServerListToSubscriptions` splits the one list of older versions
(`KEY_ANG_CONFIGS`) by the subscriptions of its servers. `LegacyStore` adds this list and the mark of
a finished migration to the profile store.
-/

namespace ZeroVpn
open MmkvManager

structure LegacyStore where
  store : Store
  /-- `KEY_ANG_CONFIGS`. -/
  angConfigs : Option (Stored (List String))
  /-- The setting `server_list_to_subscriptions_migrated`. -/
  migrated : Bool := false

namespace SettingsManager

/-- `uuid` is passed on to `encodeSubscription`, which has no use for it here. -/
def ensureDefaultSubscription (uuid : String) : StoreM Unit := do
  let defaultSub ← decodeSubscription AppConfig.defaultSubscriptionId
  match defaultSub with
  | some _ => pure ()
  | none => do
    encodeSubscription AppConfig.defaultSubscriptionId uuid { remarks := "Default" }
    let subsList ← decodeSubsList
    match moveItem subsList (subsList.length - 1) 0 with
    | some subsList => encodeSubsList subsList
    | none => pure ()

/-- The loop over the legacy list; `subscriptionServerMap` is the map so far. -/
def groupServers (subscriptionServerMap : LinkedMap String (List String)) :
    List String → StoreM (LinkedMap String (List String))
  | [] => pure subscriptionServerMap
  | guid :: guids => do
    let config ← decodeServerConfig guid
    match config with
    | none => groupServers subscriptionServerMap guids
    | some config =>
      let subId := Text.ifEmpty config.subscriptionId AppConfig.defaultSubscriptionId
      groupServers (subscriptionServerMap.put subId
        ((subscriptionServerMap.get subId).getD [] ++ [guid])) guids

/-- The part of the migration after the default subscription is there. -/
def splitServerList (guids : List String) : StoreM Unit := do
  let subscriptionServerMap ← groupServers .empty guids
  subscriptionServerMap.entries.forM fun e => encodeServerList e.2 e.1

def migrateServerListToSubscriptions (uuid : String) (l : LegacyStore) : LegacyStore :=
  if l.migrated then l
  else
    let store := (ensureDefaultSubscription uuid).exec l.store
    match l.angConfigs.bind Stored.decode with
    | none => { l with store, migrated := true }
    | some guids => { l with store := (splitServerList guids).exec store, migrated := true }

end SettingsManager
end ZeroVpn
