import Mathlib.Data.List.Find
import ZeroVpn.Fmt.FmtBase

/-!
# Query parameters

`getQueryParam` splits every piece of a query at all its equals signs and takes the first two parts. A
piece without an equals sign makes it throw, and a value ends at its first equals sign. By the
convention a value is everything after the first equals sign of the last piece for a key, and other
pieces do not count.
-/

namespace ZeroVpn

namespace Utils

/-- `URLDecoder.decode` with plus signs kept. -/
def decodeComponent? (url : String) : Option String :=
  URLDecoder.decode (Text.replaceChar '+' "%2B" url)

theorem decodeComponent?_append_equals (v rest : String) :
    decodeComponent? (v ++ "=" ++ rest) =
      (decodeComponent? v).bind fun a => (decodeComponent? rest).map fun b => a ++ "=" ++ b := by
  have hequals : Text.replaceChar '+' "%2B" "=" = "=" := by decide
  have hlist (x y : String) : (x ++ "=" ++ y).toList = x.toList ++ '=' :: y.toList := by
    rw [String.toList_append, String.toList_append, List.append_assoc]
    rfl
  unfold decodeComponent? URLDecoder.decode
  rw [Text.replaceChar_append, Text.replaceChar_append, hequals, hlist, Percent.decode,
    Percent.decodeAux_append_plain (by decide) (by decide) (fun _ => by decide)]
  unfold Percent.decode
  cases Percent.decodeAux true [] (Text.replaceChar '+' "%2B" v).toList with
  | none => rfl
  | some a =>
    cases Percent.decodeAux true [] (Text.replaceChar '+' "%2B" rest).toList with
    | none => rfl
    | some b =>
      refine congrArg some (String.toList_inj.mp ?_)
      rw [hlist, String.toList_ofList, String.toList_ofList, String.toList_ofList]

/-- The escape of a plus sign is read as one character again. -/
theorem length_replacePlus (v : String) :
    (Text.replaceChar '+' "%2B" v).toList.length ≤
      v.toList.length + 2 * (Text.replaceChar '+' "%2B" v).toList.count '%' := by
  rw [Text.replaceChar, String.toList_ofList]
  induction v.toList with
  | nil => exact Nat.zero_le _
  | cons c cs ih =>
    rw [List.flatMap_cons, List.length_append, List.count_append, List.length_cons]
    split
    · have hlength : "%2B".toList.length = 3 := by decide
      have hcount : "%2B".toList.count '%' = 1 := by decide
      omega
    · rw [List.length_singleton]
      omega

theorem length_decodeComponent?_le {v a : String} (h : decodeComponent? v = some a) :
    a.toList.length ≤ v.toList.length := by
  obtain ⟨cs, hcs, rfl⟩ := Option.map_eq_some_iff.mp h
  have hdecoded := Percent.length_decodeAux_le hcs
  have hplus := length_replacePlus v
  rw [String.toList_ofList]
  rw [List.length_nil] at hdecoded
  omega

/-- What follows an equals sign is not lost by the decoding. -/
theorem decodeURIComponent_append_equals_ne (v rest : String) :
    decodeURIComponent (v ++ "=" ++ rest) ≠ decodeURIComponent v := by
  have hlength (x y : String) : (x ++ "=" ++ y).toList.length = x.toList.length + 1 +
      y.toList.length := by
    rw [String.toList_append, String.toList_append, List.length_append, List.length_append]
    rfl
  have hdecode (s : String) : decodeURIComponent s = (decodeComponent? s).getD s := rfl
  intro heq
  replace heq := congrArg (fun s : String => s.toList.length) heq
  simp only [hdecode, decodeComponent?_append_equals] at heq
  cases hv : decodeComponent? v with
  | none =>
    rw [hv, Option.bind_none, Option.getD_none, Option.getD_none, hlength] at heq
    omega
  | some a =>
    have hle := length_decodeComponent?_le hv
    rw [hv, Option.bind_some, Option.getD_some] at heq
    cases hrest : decodeComponent? rest with
    | none =>
      rw [hrest, Option.map_none, Option.getD_none, hlength] at heq
      omega
    | some b =>
      rw [hrest, Option.map_some, Option.getD_some, hlength] at heq
      omega

end Utils

namespace FmtBase
open Utils Text

/-! ## The convention -/

/-- The last piece that starts with the key and an equals sign. -/
def conventionalPiece (rawQuery key : String) : Option String :=
  (split '&' rawQuery).reverse.find? fun piece => startsWith piece (key ++ "=")

/-- Everything after the first equals sign. -/
def afterEquals (piece : String) : String := orEmpty (splitFirst '=' piece).2

/-- The value of a key by the convention. -/
def conventionalParam (rawQuery key : String) : Option String :=
  (conventionalPiece rawQuery key).map fun piece => decodeURIComponent (afterEquals piece)

/-! ## What is read -/

section
variable {piece key rawQuery : String}

theorem exists_append_equals (h : '=' ∈ piece.toList) :
    ∃ k v, piece = k ++ "=" ++ v ∧ '=' ∉ k.toList :=
  exists_append_of_mem (by decide) h

/-- The entry that is read from a piece with an equals sign. -/
def readEntry (piece : String) : String × String :=
  ((splitFirst '=' piece).1,
    decodeURIComponent (splitFirst '=' (afterEquals piece)).1)

theorem readParam_of_equals (h : '=' ∈ piece.toList) :
    readParam piece = .ok (readEntry piece) := by
  obtain ⟨k, v, rfl, hnot⟩ := exists_append_equals h
  obtain ⟨rest, hsplit⟩ := exists_split_eq '=' v
  rw [readParam, split_append (by decide) hnot, hsplit, readEntry, afterEquals,
    splitFirst_append (by decide) hnot]
  rfl

theorem readParam_of_notMem (h : '=' ∉ piece.toList) :
    readParam piece = .error "IndexOutOfBoundsException" := by
  rw [readParam, split_of_notMem h]

/-- The reader returns if and only if every piece has an equals sign. -/
theorem getQueryParam_eq_ok_iff {queryParam : List (String × String)} :
    getQueryParam rawQuery = .ok queryParam ↔
      (∀ piece ∈ split '&' rawQuery, '=' ∈ piece.toList) ∧
        queryParam = (split '&' rawQuery).map readEntry := by
  unfold getQueryParam
  generalize split '&' rawQuery = pieces
  induction pieces generalizing queryParam with
  | nil => exact ⟨fun h => ⟨List.forall_mem_nil _, (Except.ok.inj h).symm⟩,
      fun h => congrArg Except.ok h.2.symm⟩
  | cons piece pieces ih =>
    rw [List.mapM_cons, List.forall_mem_cons]
    by_cases hpiece : '=' ∈ piece.toList
    · rw [readParam_of_equals hpiece]
      cases hrest : pieces.mapM readParam with
      | error e =>
        constructor
        · intro h
          cases h
        · intro h
          have hok := ih.mpr ⟨h.1.2, rfl⟩
          rw [hrest] at hok
          cases hok
      | ok entries =>
        obtain ⟨hall, rfl⟩ := ih.mp hrest
        exact ⟨fun h => ⟨⟨hpiece, hall⟩, (Except.ok.inj h).symm⟩,
          fun h => congrArg Except.ok h.2.symm⟩
    · rw [readParam_of_notMem hpiece]
      constructor
      · intro h
        cases h
      · intro h
        exact absurd h.1.1 hpiece

theorem startsWith_key (hpiece : '=' ∈ piece.toList) (hkey : '=' ∉ key.toList) :
    startsWith piece (key ++ "=") = (key == (readEntry piece).1) := by
  obtain ⟨k, v, rfl, hnot⟩ := exists_append_equals hpiece
  rw [Bool.eq_iff_iff, startsWith_iff, beq_iff_eq, readEntry,
    splitFirst_append (by decide) hnot]
  constructor
  · rintro ⟨t, heq⟩
    have hfirst := congrArg (fun s => (splitFirst '=' s).1) heq
    simp only [splitFirst_append (show "=".toList = ['='] by decide) hnot,
      splitFirst_append (show "=".toList = ['='] by decide) hkey] at hfirst
    exact hfirst.symm
  · rintro rfl
    exact ⟨v, rfl⟩

/-- What is read for a key: the value of its last piece, up to the next equals sign. -/
theorem param_readEntry (hall : ∀ piece ∈ split '&' rawQuery, '=' ∈ piece.toList)
    (hkey : '=' ∉ key.toList) :
    param ((split '&' rawQuery).map readEntry) key =
      (conventionalPiece rawQuery key).map fun piece => (readEntry piece).2 := by
  rw [param, ← List.map_reverse, lookup_map]
  refine congrArg (Option.map _) (List.find?_congr fun piece hpiece => ?_)
  exact (startsWith_key (hall piece (List.mem_reverse.mp hpiece)) hkey).symm

/-- The next equals sign does not matter if and only if there is none. -/
theorem readEntry_snd_eq_iff :
    (readEntry piece).2 = decodeURIComponent (afterEquals piece) ↔
      '=' ∉ (afterEquals piece).toList := by
  unfold readEntry
  dsimp only
  constructor
  · intro heq hmem
    obtain ⟨a, b, hvalue, hnot⟩ := exists_append_equals hmem
    rw [hvalue, splitFirst_append (by decide) hnot] at heq
    exact decodeURIComponent_append_equals_ne a b heq.symm
  · intro hnot
    rw [splitFirst_of_notMem hnot]

end

/-- A query is read by the convention if and only if every piece has an equals sign, and the last
piece of every key has only one. -/
theorem query_convention_iff (rawQuery : String) :
    (∃ queryParam, getQueryParam rawQuery = .ok queryParam ∧
      ∀ key : String, '=' ∉ key.toList →
        param queryParam key = conventionalParam rawQuery key) ↔
    (∀ piece ∈ split '&' rawQuery, '=' ∈ piece.toList) ∧
      ∀ key : String, '=' ∉ key.toList → ∀ piece ∈ conventionalPiece rawQuery key,
        '=' ∉ (afterEquals piece).toList := by
  constructor
  · rintro ⟨queryParam, hread, hparam⟩
    obtain ⟨hall, rfl⟩ := getQueryParam_eq_ok_iff.mp hread
    refine ⟨hall, fun key hkey piece hpiece => readEntry_snd_eq_iff.mp ?_⟩
    have hvalue := hparam key hkey
    rw [param_readEntry hall hkey, conventionalParam, hpiece] at hvalue
    exact Option.some.inj hvalue
  · rintro ⟨hall, hsingle⟩
    refine ⟨_, getQueryParam_eq_ok_iff.mpr ⟨hall, rfl⟩, fun key hkey => ?_⟩
    rw [param_readEntry hall hkey]
    exact Option.map_congr fun piece hpiece =>
      readEntry_snd_eq_iff.mpr (hsingle key hkey piece hpiece)

/-- A link with a key that has no value. -/
def flagLink : String := "vless://u@example.com:443?encryption=none&security=tls&ed#a"

/-- A link with an unescaped Base64 key. -/
def paddedLink : String := "wireguard://k@example.com:51820?publickey=YQ==#a"

/-- A key without a value makes the reader throw, and the padding of an unescaped key is lost. -/
theorem flag_and_padding_unread :
    ((Uri.parse true flagLink).bind (·.rawQuery) = some "encryption=none&security=tls&ed" ∧
      getQueryParam "encryption=none&security=tls&ed" = .error "IndexOutOfBoundsException") ∧
    ((Uri.parse true paddedLink).bind (·.rawQuery) = some "publickey=YQ==" ∧
      getQueryParam "publickey=YQ==" = .ok [("publickey", "YQ")] ∧
      conventionalParam "publickey=YQ==" "publickey" = some "YQ==") := by
  refine ⟨⟨by decide, by decide⟩, by decide, by decide, by decide⟩

end FmtBase
end ZeroVpn
