import ZeroVpn.Handler.SettingsManager

/-!
# Profiles without a server of their own

The profiles that the group editor and the chain editor save. `none` is a form that the editor
refuses. `edited` is the stored profile that the editor was opened for; without one it starts from a
fresh profile.
-/

namespace ZeroVpn

open Text

/-- The group a saved profile goes to, if it has none. -/
def ProfileItem.withSubscription (config : ProfileItem) (subscriptionId : Option String) :
    ProfileItem :=
  if config.subscriptionId = "" && !isNullOrEmpty subscriptionId then
    { config with subscriptionId := orEmpty subscriptionId }
  else config

namespace ServerGroupActivity

/-- The fields of the screen. -/
structure Form where
  remarks : String
  filter : String
  typeIdx : Nat
  subIdx : Nat
  testOutbounds : Bool
  fallbackTag : String

/-- The choices that the screen offers. -/
structure Choices where
  subIds : List String
  subDisplay : List String
  policyGroupType : List String

def saveServer (choices : Choices) (subscriptionId : Option String) (edited : Option ProfileItem)
    (form : Form) : Option ProfileItem :=
  if isBlank form.remarks then none
  else
    let config := edited.getD { configType := .policygroup }
    let policyGroupFilter := trim form.filter
    let config := { config with
      remarks := trim form.remarks
      policyGroupFilter := some policyGroupFilter
      policyGroupType := some (toString form.typeIdx)
      policyGroupSubscriptionId := choices.subIds[form.subIdx]?
      policyGroupTestOutbounds := some form.testOutbounds
      policyGroupFallbackTag := some (trim form.fallbackTag) |>.filter (· ≠ "") }
    let config := config.withSubscription subscriptionId
    some { config with
      description := some (orEmpty choices.policyGroupType[form.typeIdx]? ++ " - " ++
        orEmpty choices.subDisplay[form.subIdx]? ++ " - " ++ policyGroupFilter) }

end ServerGroupActivity

namespace ServerProxyChainActivity

/-- The member is a stored profile of a simple type. -/
def isValidMember (env : AppEnv) (member : String) : Bool :=
  match env.getServerViaRemarks member with
  | none => false
  | some profile => !profile.configType.isComplexType

def saveServer (env : AppEnv) (subscriptionId : Option String) (edited : Option ProfileItem)
    (remarks : String) (members : List String) : Option ProfileItem :=
  if isBlank remarks then none
  else
    let chainMembers := (members.map trim).filter (· ≠ "")
    if chainMembers.length ≠ members.length then none
    else if chainMembers.length < 2 then none
    else if !chainMembers.all (isValidMember env) then none
    else
      let config := edited.getD { configType := .proxychain }
      let config := { config with
        remarks := trim remarks
        proxyChainProfiles := some (",".intercalate chainMembers)
        description := some (" -> ".intercalate chainMembers) }
      some (config.withSubscription subscriptionId)

end ServerProxyChainActivity

end ZeroVpn
