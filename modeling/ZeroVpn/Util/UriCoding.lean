import ZeroVpn.Util.Utils
import ZeroVpn.Std.Base64
import ZeroVpn.Std.Uri

/-!
# The text codecs of `Utils`

`URLEncoder` and `URLDecoder` write and read forms, where a blank is a plus sign;
`encodeURIComponent` and `decodeURIComponent` keep plus signs as they are.
-/

namespace ZeroVpn

open List

namespace Text

/-- `replace` of one character. -/
def replaceChar (old : Char) (new s : String) : String :=
  String.ofList (s.toList.flatMap fun c => if c = old then new.toList else [c])

theorem replaceChar_append (old : Char) (new s t : String) :
    replaceChar old new (s ++ t) = replaceChar old new s ++ replaceChar old new t := by
  rw [replaceChar, String.toList_append, flatMap_append, String.ofList_append]
  rfl

theorem mem_replaceChar {new s : String} (hc : c ∈ s.toList) (hne : c ≠ old) :
    c ∈ (replaceChar old new s).toList := by
  rw [replaceChar, String.toList_ofList]
  refine mem_flatMap.mpr ⟨c, hc, ?_⟩
  rw [if_neg hne]
  exact mem_cons_self

theorem replaceChar_of_notMem {new s : String} (h : old ∉ s.toList) :
    replaceChar old new s = s := by
  have hsame : s.toList.flatMap (fun c => if c = old then new.toList else [c]) =
      s.toList.flatMap fun c => [c] := by
    refine flatMap_congr fun c hc => ?_
    rw [if_neg]
    rintro rfl
    exact h hc
  rw [replaceChar, hsame, flatMap_singleton', String.ofList_toList]

end Text

namespace URLEncoder

def isSafe (c : Char) : Bool := c.isAlphanum || c == '.' || c == '-' || c == '*' || c == '_'

def encode (s : String) : String :=
  String.ofList (s.toList.flatMap fun c =>
    if isSafe c then [c]
    else if c = ' ' then ['+']
    else (String.utf8EncodeChar c).flatMap Percent.escape)

end URLEncoder

/-- `URLDecoder.decode`; `none` where it throws. -/
def URLDecoder.decode (s : String) : Option String :=
  (Percent.decode true s.toList).map String.ofList

namespace Utils

def encodeURIComponent (url : String) : String :=
  Text.replaceChar '+' "%20" (URLEncoder.encode url)

def decodeURIComponent (url : String) : String :=
  (URLDecoder.decode (Text.replaceChar '+' "%2B" url)).getD url

def fixIllegalUrl (str : String) : String :=
  Text.replaceChar '|' "%7C" (Text.replaceChar ' ' "%20" str)

/-- Base64 with the standard alphabet. -/
def encode (text : String) (removePadding : Bool) : String :=
  let encoded := Base64.encode false (utf8 text.toList)
  String.ofList (if removePadding then encoded.rdropWhile (· == '=') else encoded)

theorem encode_toList (credentials : String) :
    (Utils.encode credentials true).toList = Base64.body false (utf8 credentials.toList) := by
  have hpad {body : List Char} (h : '=' ∉ body) (n : Nat) :
      (body ++ replicate n '=').rdropWhile (· == '=') = body := by
    induction n with
    | zero =>
      rw [replicate_zero, append_nil, rdropWhile_eq_self_iff]
      intro hne heq
      exact h (beq_iff_eq.mp heq ▸ getLast_mem hne)
    | succ n ih =>
      rw [replicate_succ', ← append_assoc, rdropWhile_concat_pos _ _ _ rfl, ih]
  rw [Utils.encode, if_pos rfl, String.toList_ofList, Base64.encode, hpad (Base64.notMem_body _)]

/-- A blank is the one character that the form encoding and the escapes write differently. -/
theorem encodeURIComponent_toList (s : String) :
    (encodeURIComponent s).toList = Percent.encode URLEncoder.isSafe s.toList := by
  have hform : (URLEncoder.encode s).toList = s.toList.flatMap fun c =>
      if URLEncoder.isSafe c then [c]
      else if c = ' ' then ['+']
      else (String.utf8EncodeChar c).flatMap Percent.escape := String.toList_ofList
  rw [encodeURIComponent, Text.replaceChar, hform, String.toList_ofList, flatMap_assoc,
    Percent.encode]
  refine flatMap_congr fun c _ => ?_
  split
  · next hsafe =>
    rw [flatMap_singleton, if_neg]
    rintro rfl
    cases hsafe
  · split
    · next hblank =>
      subst hblank
      decide
    · -- escapes have no plus sign
      have hsame : ∀ d ∈ (String.utf8EncodeChar c).flatMap Percent.escape,
          (if d = '+' then "%20".toList else [d]) = [d] := by
        intro d hd
        obtain ⟨b, -, hb⟩ := mem_flatMap.mp hd
        rw [if_neg]
        rintro rfl
        rcases Percent.mem_escape hb with h | h
        · cases h
        · revert h
          decide
      rw [flatMap_congr hsame, flatMap_singleton']

/-- The characters of an encoded component. -/
def isComponentChar (c : Char) : Bool := URLEncoder.isSafe c || c == '%'

theorem isComponentChar_of_mem (h : c ∈ (encodeURIComponent s).toList) :
    isComponentChar c = true := by
  rw [encodeURIComponent_toList] at h
  have hhex : Percent.hexDigits.all isComponentChar = true := by decide
  rcases Percent.mem_encode h with h | rfl | h
  · rw [isComponentChar, h, Bool.true_or]
  · rfl
  · exact all_eq_true.mp hhex c h

theorem notMem_encodeURIComponent (h : isComponentChar c = false) :
    c ∉ (encodeURIComponent s).toList := by
  intro hmem
  rw [isComponentChar_of_mem hmem] at h
  cases h

theorem URLDecoder_encodeURIComponent (s : String) :
    URLDecoder.decode (encodeURIComponent s) = some s := by
  rw [URLDecoder.decode, encodeURIComponent_toList, Percent.decode_encode rfl fun _ => rfl,
    Option.map_some, String.ofList_toList]

theorem decodeURIComponent_encodeURIComponent (s : String) :
    decodeURIComponent (encodeURIComponent s) = s := by
  rw [decodeURIComponent, Text.replaceChar_of_notMem (notMem_encodeURIComponent rfl),
    URLDecoder_encodeURIComponent, Option.getD_some]

theorem uriDecode_encodeURIComponent (s : String) : Uri.decode (encodeURIComponent s) = s := by
  have hplus : false = true → URLEncoder.isSafe '+' = false := nofun
  rw [Uri.decode, encodeURIComponent_toList, Percent.decode_encode rfl hplus]
  exact String.ofList_toList

end Utils
end ZeroVpn
