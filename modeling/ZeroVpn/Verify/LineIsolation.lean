import ZeroVpn.Verify.DeletedSubscription

/-!
# One bad line in a batch

A batch import reads the whole text first as Base64, then line by line, then as a configuration
file. Where it reads line by line, a line that gives no profile of its own takes nothing from the
others. A v2rayN item that can be read but has an unknown type is not covered: the items are
converted together, under the handler of the batch.
-/

namespace ZeroVpn

open MmkvManager AngConfigManager List Text

section
variable (env : ImportEnv)

/-- A v2rayN item that can be read and has an unknown `ConfigType`. -/
def UnsupportedItem (line : String) : Prop :=
  isV2raynLine env line = true ∧ ∃ item e,
    V2rayNFmt.parseShareItem (fun s => env.decode (some s)) env.shareItem line = some item ∧
      item.eConfigType = .error e

/-- The Base64 decoding of the text has no profile, and the text is read as a configuration file
only if its lines have none and then gives none either. -/
def ReadByLine (text subid : String) (subItem : Option SubscriptionItem) : Prop :=
  linkProfiles env (env.decode (some text)) subid subItem = [] ∧
    (linkProfiles env text subid subItem ≠ [] ∨ customProfiles env text subid = [])

/-- The profile of a line that is no v2rayN item. -/
def lineConfig (subid : String) (subItem : Option SubscriptionItem) (line : String) :
    Option ProfileItem :=
  if !isV2raynLine env line then parseConfig env line subid subItem else none

/-- The v2rayN item of a line. -/
def lineItem (line : String) : Option V2rayNShareItem :=
  if isV2raynLine env line then
    V2rayNFmt.parseShareItem (fun s => env.decode (some s)) env.shareItem line
  else none

variable {env} {subid : String} {subItem : Option SubscriptionItem}

theorem importedProfiles_of_readByLine {text : String} (h : ReadByLine env text subid subItem) :
    importedProfiles env (some text) subid subItem = linkProfiles env text subid subItem := by
  obtain ⟨hdecoded, hcustom⟩ := h
  unfold importedProfiles
  rw [hdecoded]
  dsimp only
  cases hlinks : linkProfiles env text subid subItem with
  | cons => rfl
  | nil => exact hcustom.resolve_left fun hne => hne hlinks

theorem batchLines_of_isLine {line : String} (h : Text.IsLine line) : batchLines line = [line] := by
  have hlines : lines (unlines [line]) = [line] :=
    lines_unlines (cons_ne_nil _ _) (forall_mem_singleton.mpr h)
  have hone : unlines [line] = line := by
    unfold unlines
    simp
  rw [hone] at hlines
  unfold batchLines
  rw [hlines]
  rfl

end

end ZeroVpn
