import ZeroVpn.Std.Assoc
import ZeroVpn.Std.Percent

/-!
# JSON texts of flat objects

An object whose members are all texts, as Gson prints it: without blanks, with the characters that
matter in HTML escaped. The reader takes just such texts.
-/

namespace ZeroVpn.JsonText

open List

/-! ## Strings -/

def hexDigit (n : Fin 16) : Char := "0123456789abcdef".toList.get (n.cast (by decide))

/-- The escape of a UTF-16 code unit. -/
def unicodeEscape (n : Nat) : List Char :=
  ['\\', 'u', hexDigit (.ofNat 16 (n / 4096)), hexDigit (.ofNat 16 (n / 256)),
    hexDigit (.ofNat 16 (n / 16)), hexDigit (.ofNat 16 n)]

/-- The characters with an escape of their own, and the letter of the escape. -/
def shortEscapes : List (Char × Char) :=
  [('"', '"'), ('\\', '\\'), ('\t', 't'), ('\x08', 'b'), ('\n', 'n'), ('\r', 'r'), ('\x0c', 'f')]

/-- Control characters, those that matter in HTML, and two line terminators of JavaScript. -/
def isUnicodeEscaped (c : Char) : Bool :=
  c.toNat < 32 || "<>&='".toList.contains c || c.toNat == 0x2028 || c.toNat == 0x2029

def escapeChar (c : Char) : List Char :=
  match shortEscapes.lookup c with
  | some letter => ['\\', letter]
  | none => if isUnicodeEscaped c then unicodeEscape c.toNat else [c]

def quote (s : String) : List Char := '"' :: (s.toList.flatMap escapeChar ++ ['"'])

/-- Where the reader of a string is: between characters, after a backslash, or in the digits of a
code unit. -/
inductive Mode
  | plain | escape
  | unicode (left value : Nat)

/-- The character that an escape letter stands for. -/
def unescape (letter : Char) : Option Char :=
  (shortEscapes.map Prod.swap).lookup letter

/-- The characters of a string, and the text after its closing quotation mark. -/
def readText : Mode → List Char → Option (List Char × List Char)
  | _, [] => none
  | .plain, c :: cs =>
    if c = '"' then some ([], cs)
    else if c = '\\' then readText .escape cs
    else (readText .plain cs).map fun (text, rest) => (c :: text, rest)
  | .escape, c :: cs =>
    if c = 'u' then readText (.unicode 3 0) cs
    else do
      let d ← unescape c
      let (text, rest) ← readText .plain cs
      return (d :: text, rest)
  | .unicode left value, c :: cs => do
    let value := value * 16 + (← Percent.hexValue? c)
    match left with
    | 0 => (readText .plain cs).map fun (text, rest) => (Char.ofNat value :: text, rest)
    | left + 1 => readText (.unicode left value) cs

theorem hexValue?_hexDigit (n : Fin 16) : Percent.hexValue? (hexDigit n) = some n.val := by
  revert n
  decide

theorem readText_unicodeEscape {n : Nat} (hn : n < 65536) (rest : List Char) :
    readText .plain (unicodeEscape n ++ rest) =
      (readText .plain rest).map fun (text, rest) => (Char.ofNat n :: text, rest) := by
  have hvalue : (((0 * 16 + n / 4096 % 16) * 16 + n / 256 % 16) * 16 + n / 16 % 16) * 16 + n % 16 =
      n := by omega
  simp only [unicodeEscape, cons_append, nil_append, readText, hexValue?_hexDigit,
    Fin.val_ofNat, Option.bind_eq_bind, Option.bind_some, if_false, if_true,
    Char.reduceEq, hvalue]

theorem readText_shortEscape {c letter : Char} (h : shortEscapes.lookup c = some letter)
    (rest : List Char) :
    readText .plain ('\\' :: letter :: rest) =
      (readText .plain rest).map fun (text, rest) => (c :: text, rest) := by
  have hnodup : (shortEscapes.map Prod.fst).Nodup := by decide
  have hall : ∀ e ∈ shortEscapes, e.2 ≠ 'u' ∧ unescape e.2 = some e.1 := by decide
  obtain ⟨hu, hletter⟩ := hall (c, letter) ((lookup_eq_some_iff_mem hnodup).mp h)
  rw [readText, if_pos rfl, readText, if_neg hu, hletter]
  cases readText .plain rest with
  | none => rfl
  | some found => rfl

/-- One character of a string is read back, whatever follows it. -/
theorem readText_escapeChar (c : Char) (rest : List Char) :
    readText .plain (escapeChar c ++ rest) =
      (readText .plain rest).map fun (text, rest) => (c :: text, rest) := by
  rw [escapeChar]
  cases hshort : shortEscapes.lookup c with
  | some letter => exact readText_shortEscape hshort rest
  | none =>
    dsimp only
    split
    · next hescaped =>
      have hsmall : c.toNat < 65536 := by
        have hhtml : ∀ d ∈ "<>&='".toList, d.toNat < 65536 := by simp
        simp only [isUnicodeEscaped, Bool.or_eq_true, decide_eq_true_eq, beq_iff_eq,
          contains_iff_mem] at hescaped
        rcases hescaped with ((h | h) | h) | h
        · omega
        · exact hhtml c h
        · omega
        · omega
      rw [readText_unicodeEscape hsmall, Char.ofNat_toNat]
    · -- neither the quotation mark nor the backslash stands for itself
      have hnot : ∀ d ∈ ['"', '\\'], c ≠ d := by
        rintro d hd rfl
        revert hshort
        rcases mem_pair.mp hd with rfl | rfl <;> decide
      rw [singleton_append, readText, if_neg (hnot '"' (by decide)),
        if_neg (hnot '\\' (by decide))]

theorem readText_quote (s : String) (rest : List Char) :
    readText .plain (s.toList.flatMap escapeChar ++ '"' :: rest) = some (s.toList, rest) := by
  induction s.toList with
  | nil => rw [flatMap_nil, nil_append, readText, if_pos rfl]
  | cons c cs ih =>
    rw [flatMap_cons, append_assoc, readText_escapeChar, ih]
    rfl

/-! ## Objects -/

def printMember (member : String × String) : List Char := quote member.1 ++ ':' :: quote member.2

def printObject (members : List (String × String)) : String :=
  String.ofList ('\x7b' :: ([','].intercalate (members.map printMember) ++ ['\x7d']))

def readMember : List Char → Option ((String × String) × List Char)
  | '"' :: cs => do
    let (key, cs) ← readText .plain cs
    match cs with
    | ':' :: '"' :: cs => do
      let (value, cs) ← readText .plain cs
      return ((String.ofList key, String.ofList value), cs)
    | _ => none
  | _ => none

/-- The members up to the closing brace; `fuel` bounds their number. -/
def readMembers : Nat → List Char → Option (List (String × String))
  | 0, _ => none
  | fuel + 1, cs => do
    let (member, cs) ← readMember cs
    match cs with
    | ',' :: cs => (readMembers fuel cs).map (member :: ·)
    | ['\x7d'] => return [member]
    | _ => none

def readObject (text : String) : Option (List (String × String)) :=
  match text.toList with
  | '\x7b' :: cs => if cs = ['\x7d'] then some [] else readMembers cs.length cs
  | _ => none

theorem readMember_printMember (member : String × String) (rest : List Char) :
    readMember (printMember member ++ rest) = some (member, rest) := by
  have htext : printMember member ++ rest =
      '"' :: (member.1.toList.flatMap escapeChar ++ '"' :: ':' :: '"' ::
        (member.2.toList.flatMap escapeChar ++ '"' :: rest)) := by
    simp only [printMember, quote, cons_append, append_assoc, nil_append]
  rw [htext, readMember]
  simp only [Option.bind_eq_bind, Option.bind_some, readText_quote, String.ofList_toList]
  rfl

theorem readMembers_print {members : List (String × String)} (hne : members ≠ []) {fuel : Nat}
    (hfuel : members.length ≤ fuel) :
    readMembers fuel ([','].intercalate (members.map printMember) ++ ['\x7d']) = some members := by
  induction members generalizing fuel with
  | nil => exact absurd rfl hne
  | cons member members ih =>
    cases fuel with
    | zero => cases hfuel
    | succ fuel =>
      cases members with
      | nil =>
        rw [map_cons, map_nil, intercalate_singleton, readMembers,
          readMember_printMember]
        rfl
      | cons next members =>
        have hrest := ih (cons_ne_nil _ _) (Nat.le_of_succ_le_succ hfuel)
        rw [map_cons, map_cons, intercalate_cons_cons, append_assoc,
          append_assoc, readMembers, readMember_printMember, ← map_cons]
        simp only [Option.bind_eq_bind, Option.bind_some, singleton_append, hrest,
          Option.map_some]

theorem length_le_print (members : List (String × String)) :
    members.length ≤ ([','].intercalate (members.map printMember)).length := by
  have hone (member : String × String) : 1 ≤ (printMember member).length := by
    rw [printMember, length_append, length_cons]
    omega
  induction members with
  | nil => exact Nat.zero_le _
  | cons member members ih =>
    have := hone member
    cases members with
    | nil =>
      rw [map_cons, map_nil, intercalate_singleton]
      exact this
    | cons next members =>
      rw [map_cons, map_cons, intercalate_cons_cons, ← map_cons,
        length_append, length_append, length_cons]
      omega

/-- What was printed is read back. -/
theorem readObject_printObject (members : List (String × String)) :
    readObject (printObject members) = some members := by
  have hlength := length_le_print members
  rw [readObject, printObject, String.toList_ofList]
  change (if _ = ['\x7d'] then some [] else readMembers _ _) = some members
  by_cases hne : members = []
  · rw [hne]
    rfl
  · have hpos := length_pos_iff.mpr hne
    rw [if_neg, readMembers_print hne]
    · rw [length_append]
      exact Nat.le_add_right_of_le hlength
    · intro hempty
      have := congrArg length hempty
      rw [length_append] at this
      omega

end ZeroVpn.JsonText
