import ZeroVpn.Std.JsonTree
import ZeroVpn.Std.Text

/-!
# JSON utilities

Gson reads the numbers of an untyped value as doubles. `toJsonPretty` has a serializer for them that
prints `toInt` of the number, and Gson prints no member that is null. The texts and the nearest
double of a number are parameters.
-/

namespace ZeroVpn

structure Gson where
  /-- The value of a JSON text. -/
  read : String → Option (JsonTree Rat)
  /-- The double that a number is read as. -/
  double : Rat → Rat
  /-- `toJson` of an untyped value, which throws on numbers that are not finite. -/
  print : JsonTree Rat → Except String String
  /-- The pretty printer, for integers. -/
  printPretty : JsonTree Int → String

namespace JsonUtil

/-- `Double.toInt`: the fraction is dropped, and the bounds of the type are not exceeded. -/
def toInt (x : Rat) : Int := max (-2147483648) (min 2147483647 (x.num.tdiv x.den))

section
variable (gson : Gson)

/-- `fromJson` for an array of untyped values. -/
def fromJsonArray (src : String) : Except String (List (JsonTree Rat)) :=
  match gson.read src with
  | some (.arr elems) => .ok (elems.map (·.mapNum gson.double))
  | some .null => .ok []
  | _ => .error "JsonSyntaxException"

def toJsonPretty (src : JsonTree Rat) : Option String :=
  match src with
  | .null => none
  | src => some (gson.printPretty (src.shown toInt))

/-- The elements of an array of custom configurations, in both prints. -/
def printElements (src : String) : Except String (List (String × String)) := do
  let serverList ← fromJsonArray gson src
  serverList.mapM fun srv => do
    let json ← gson.print srv
    return (json, Text.orEmpty (toJsonPretty gson srv))

end

/-! ## What a number is printed as -/

/-- An integer of 32 bits. -/
def IsInt32 (x : Rat) : Prop := ∃ n : Int, x = n ∧ -2147483648 ≤ n ∧ n ≤ 2147483647

theorem toInt_intCast {n : Int} (hlo : -2147483648 ≤ n) (hhi : n ≤ 2147483647) :
    toInt (n : Rat) = n := by
  have htrunc : (n : Rat).num.tdiv (n : Rat).den = n := by
    exact Int.tdiv_one n
  rw [toInt]
  omega

/-- Only integers of 32 bits are printed as they are. -/
theorem toInt_double_eq_iff {double : Rat → Rat} (h : ∀ n : Int, IsInt32 n → double n = n)
    {x : Rat} : (toInt (double x) : Rat) = x ↔ IsInt32 x := by
  constructor
  · intro heq
    refine ⟨toInt (double x), heq.symm, ?_, ?_⟩
    · exact Int.le_max_left _ _
    · rw [toInt]
      omega
  · rintro ⟨n, rfl, hlo, hhi⟩
    rw [h n ⟨n, rfl, hlo, hhi⟩, toInt_intCast hlo hhi]

end JsonUtil
end ZeroVpn
