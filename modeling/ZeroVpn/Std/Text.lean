import ZeroVpn.Std.List
import Mathlib.Data.List.DropRight

/-!
# Text operations of the Kotlin standard library

Each operation works on the list of code points of a `String` and follows the documented
behaviour of the Kotlin function it is named after. Everything computes on literals.
-/

namespace ZeroVpn.Text

open List

/-- `Char.isWhitespace`: Java white space or a Unicode space separator. -/
def isWhitespace (c : Char) : Bool :=
  let n := c.toNat
  (9 ≤ n && n ≤ 13) || (28 ≤ n && n ≤ 32) || n == 0xA0 || n == 0x1680 ||
    (0x2000 ≤ n && n ≤ 0x200A) || n == 0x2028 || n == 0x2029 || n == 0x202F || n == 0x205F ||
    n == 0x3000

def isBlank (s : String) : Bool := s.toList.all isWhitespace

def isNullOrBlank (s : Option String) : Bool := s.all isBlank

def isNullOrEmpty (s : Option String) : Bool := s.all (· == "")

/-- `nullIfBlank` of the string extensions. -/
def nullIfBlank (s : Option String) : Option String := s.filter (!isBlank ·)

def orEmpty (s : Option String) : String := s.getD ""

def ifEmpty (s default : String) : String := if s = "" then default else s

def trim (s : String) : String :=
  String.ofList ((s.toList.dropWhile isWhitespace).rdropWhile isWhitespace)

def trimStart (s : String) : String := String.ofList (s.toList.dropWhile isWhitespace)

/-- `split` at one character; empty parts are kept. -/
def split (sep : Char) (s : String) : List String :=
  (s.toList.splitOn sep).map String.ofList

/-- The text before the first occurrence of `sep`, and the text after it if there is one:
`split(sep, limit = 2)`. -/
def splitFirst (sep : Char) (s : String) : String × Option String :=
  let rest := s.toList.dropWhile (· != sep)
  (String.ofList (s.toList.takeWhile (· != sep)), rest.tail?.map String.ofList)

def startsWith (s pre : String) : Bool := pre.toList.isPrefixOf s.toList

def endsWith (s suf : String) : Bool := suf.toList.isSuffixOf s.toList

def containsChar (s : String) (c : Char) : Bool := s.toList.contains c

def contains (s sub : String) : Bool := s.toList.tails.any (sub.toList.isPrefixOf ·)

section
-- Java's per-character case folding `toLowerCase(toUpperCase(c))`.
variable (fold : Char → Char)

/-- `startsWith(ignoreCase = true)`. -/
def startsWithIgnoreCase (s pre : String) : Bool :=
  (pre.toList.map fold).isPrefixOf (s.toList.map fold)

/-- `contains(ignoreCase = true)`. -/
def containsIgnoreCase (s sub : String) : Bool :=
  s.toList.tails.any fun t => (sub.toList.map fold).isPrefixOf (t.map fold)

/-- `equals(ignoreCase = true)`. -/
def equalsIgnoreCase (s t : String) : Bool := s.toList.map fold == t.toList.map fold

end

/-- `substringBeforeLast`: the whole text when the separator does not occur. -/
def substringBeforeLast (sep : Char) (s : String) : String :=
  if s.toList.contains sep then
    String.ofList (s.toList.rdropWhile (· != sep)).dropLast
  else s

/-- `substringAfterLast`: the whole text when the separator does not occur. -/
def substringAfterLast (sep : Char) (s : String) : String :=
  String.ofList (s.toList.rtakeWhile (· != sep))

/-- `lines`: the parts between `\n`, `\r\n` and `\r`. -/
def linesAux (cur : List Char) : List Char → List (List Char)
  | [] => [cur.reverse]
  | '\r' :: '\n' :: cs => cur.reverse :: linesAux [] cs
  | '\r' :: cs => cur.reverse :: linesAux [] cs
  | '\n' :: cs => cur.reverse :: linesAux [] cs
  | c :: cs => linesAux (c :: cur) cs

def lines (s : String) : List String := (linesAux [] s.toList).map String.ofList

/-- A text without line breaks. -/
def IsLine (s : String) : Prop := ∀ c ∈ s.toList, c ≠ '\n' ∧ c ≠ '\r'

instance (s : String) : Decidable (IsLine s) :=
  List.decidableBAll (fun c => c ≠ '\n' ∧ c ≠ '\r') s.toList

/-- `joinToString("\n")`. -/
def unlines (lines : List String) : String := "\n".intercalate lines

variable {cs : List Char} {c : Char} {n lo hi : Int}

/-- The characters of a line are collected up to its end. -/
theorem linesAux_append (h : ∀ c ∈ cs, c ≠ '\n' ∧ c ≠ '\r') (cur rest : List Char) :
    linesAux cur (cs ++ rest) = linesAux (cs.reverse ++ cur) rest := by
  induction cs generalizing cur with
  | nil => rfl
  | cons c cs ih =>
    obtain ⟨hn, hr⟩ := h c mem_cons_self
    have hstep : linesAux cur (c :: (cs ++ rest)) = linesAux (c :: cur) (cs ++ rest) := by
      rw [linesAux]
      · exact fun _ hc _ => hr hc
      · exact hr
      · exact hn
    rw [cons_append, hstep, ih fun c hc => h c (mem_cons_of_mem _ hc)]
    simp

theorem isLine_of_mem_lines (h : line ∈ lines s) : IsLine line := by
  -- the characters collected so far are those of a line
  suffices ∀ cs cur : List Char, (∀ c ∈ cur, c ≠ '\n' ∧ c ≠ '\r') → ∀ l ∈ linesAux cur cs,
      ∀ c ∈ l, c ≠ '\n' ∧ c ≠ '\r' by
    obtain ⟨l, hl, rfl⟩ := mem_map.mp h
    unfold IsLine
    rw [String.toList_ofList]
    exact this s.toList [] (forall_mem_nil _) l hl
  have hend {cur : List Char} (hcur : ∀ c ∈ cur, c ≠ '\n' ∧ c ≠ '\r') {rest : List (List Char)}
      (hrest : ∀ l ∈ rest, ∀ c ∈ l, c ≠ '\n' ∧ c ≠ '\r') :
      ∀ l ∈ cur.reverse :: rest, ∀ c ∈ l, c ≠ '\n' ∧ c ≠ '\r' :=
    forall_mem_cons.mpr ⟨fun c hc => hcur c (mem_reverse.mp hc), hrest⟩
  intro cs cur
  induction cur, cs using linesAux.induct with
  | case1 cur => exact fun hcur => hend hcur (forall_mem_nil _)
  | case2 cur cs ih | case3 cur cs _ ih | case4 cur cs ih =>
    intro hcur
    rw [linesAux]
    · exact hend hcur (ih (forall_mem_nil _))
    all_goals assumption
  | case5 cur c cs hcrlf hr hn ih =>
    intro hcur
    rw [linesAux]
    · exact ih (forall_mem_cons.mpr ⟨⟨hn, hr⟩, hcur⟩)
    all_goals assumption

theorem lines_unlines {lines : List String} (hne : lines ≠ []) (h : ∀ line ∈ lines, IsLine line) :
    Text.lines (unlines lines) = lines := by
  unfold Text.lines unlines
  rw [String.toList_intercalate]
  induction lines with
  | nil => exact absurd rfl hne
  | cons line lines ih =>
    have hline := h line mem_cons_self
    cases lines with
    | nil =>
      have happ := linesAux_append hline [] []
      rw [append_nil] at happ
      simp only [map_cons, map_nil, intercalate_singleton, happ]
      simp [linesAux]
    | cons next lines =>
      have ih := ih (cons_ne_nil _ _) fun line hin => h line (mem_cons_of_mem _ hin)
      have hbreak (rest : List Char) : linesAux line.toList.reverse ('\n' :: rest) =
          line.toList :: linesAux [] rest := by
        rw [linesAux, reverse_reverse]
      have hsep : "\n".toList = ['\n'] := by decide
      rw [map_cons, map_cons, intercalate_cons_cons, hsep, append_assoc,
        linesAux_append hline, append_nil, singleton_append, hbreak, map_cons,
        String.ofList_toList, ← hsep, ← map_cons, ih]

/-- Code points of the digit zero of the decimal systems in the basic multilingual plane. -/
def decimalZeros : List Nat :=
  [0x0030, 0x0660, 0x06F0, 0x07C0, 0x0966, 0x09E6, 0x0A66, 0x0AE6, 0x0B66, 0x0BE6, 0x0C66, 0x0CE6,
    0x0D66, 0x0DE6, 0x0E50, 0x0ED0, 0x0F20, 0x1040, 0x1090, 0x17E0, 0x1810, 0x1946, 0x19D0, 0x1A80,
    0x1A90, 0x1B50, 0x1BB0, 0x1C40, 0x1C50, 0xA620, 0xA8D0, 0xA900, 0xA9D0, 0xA9F0, 0xAA50, 0xABF0,
    0xFF10]

/-- `Character.digit(c, 10)`. -/
def digitOf (c : Char) : Option Nat :=
  (decimalZeros.find? fun z => z ≤ c.toNat && c.toNat ≤ z + 9).map (c.toNat - ·)

def digitsToNat : List Char → Option Nat
  | [] => none
  | cs => cs.foldl (fun acc c => do return 10 * (← acc) + (← digitOf c)) (some 0)

/-- A signed decimal numeral within `lo .. hi`. -/
def toBounded (lo hi : Int) (s : String) : Option Int :=
  let n := match s.toList with
    | '-' :: cs => (digitsToNat cs).map fun n : Nat => -(n : Int)
    | '+' :: cs => (digitsToNat cs).map fun n : Nat => (n : Int)
    | cs => (digitsToNat cs).map fun n : Nat => (n : Int)
  n.filter fun n => decide (lo ≤ n ∧ n ≤ hi)

def toIntOrNull (s : String) : Option Int := toBounded (-2147483648) 2147483647 s

def toLongOrNull (s : String) : Option Int :=
  toBounded (-9223372036854775808) 9223372036854775807 s

def lowercaseAscii (s : String) : String := String.ofList (s.toList.map Char.toLower)

/-- `equals(ignoreCase = true)` where one side is ASCII text. -/
def equalsIgnoreAsciiCase (s t : String) : Bool := lowercaseAscii s == lowercaseAscii t

theorem notMem_of_mem_split {s part : String} (h : part ∈ split sep s) :
    sep ∉ part.toList := by
  obtain ⟨l, hl, rfl⟩ := mem_map.mp h
  rw [String.toList_ofList]
  exact notMem_of_mem_splitOn hl

theorem startsWith_iff :
    startsWith s pre = true ↔ ∃ t, s = pre ++ t := by
  simp only [startsWith, isPrefixOf_iff_prefix]
  constructor
  · rintro ⟨t, h⟩
    exact ⟨String.ofList t, by rw [← String.toList_inj, String.toList_append, String.toList_ofList, h]⟩
  · rintro ⟨t, rfl⟩
    exact ⟨t.toList, by rw [String.toList_append]⟩

/-- A text with another start. -/
theorem startsWith_append_eq_false {a b : String}
    (h : (a.toList.isPrefixOf b.toList || b.toList.isPrefixOf a.toList) = false) (t : String) :
    startsWith (a ++ t) b = false := by
  rw [Bool.or_eq_false_iff] at h
  by_contra hstart
  have hb : b.toList <+: (a ++ t).toList :=
    List.isPrefixOf_iff_prefix.mp (Bool.not_eq_false _ ▸ hstart)
  have ha : a.toList <+: (a ++ t).toList := by
    rw [String.toList_append]
    exact prefix_append ..
  rcases prefix_or_prefix_of_prefix ha hb with hab | hba
  · rw [List.isPrefixOf_iff_prefix.mpr hab] at h
    cases h.1
  · rw [List.isPrefixOf_iff_prefix.mpr hba] at h
    cases h.2

/-! ## White space and numerals -/

theorem ne_empty_of_nullIfBlank (h : nullIfBlank s = some t) :
    t ≠ "" ∧ isBlank t = false := by
  have hblank : (!isBlank t) = true := (Option.filter_eq_some_iff.mp h).2
  rw [Bool.not_eq_true'] at hblank
  refine ⟨?_, hblank⟩
  rintro rfl
  cases hblank

section nullable
variable {s : Option String}

theorem nullIfBlank_of_isNullOrBlank (h : isNullOrBlank s = true) : nullIfBlank s = none := by
  cases s with
  | none => rfl
  | some t =>
    have hblank : isBlank t = true := h
    rw [nullIfBlank, Option.filter_some, hblank]
    rfl

theorem nullIfBlank_of_not_isNullOrBlank (h : isNullOrBlank s = false) : nullIfBlank s = s := by
  cases s with
  | none => rfl
  | some t =>
    have hblank : isBlank t = false := h
    rw [nullIfBlank, Option.filter_some, hblank]
    rfl

theorem isNullOrBlank_nullIfBlank : isNullOrBlank (nullIfBlank s) = isNullOrBlank s := by
  cases h : isNullOrBlank s with
  | true =>
    rw [nullIfBlank_of_isNullOrBlank h]
    rfl
  | false => rw [nullIfBlank_of_not_isNullOrBlank h, h]

theorem nullIfBlank_nullIfBlank : nullIfBlank (nullIfBlank s) = nullIfBlank s := by
  cases h : isNullOrBlank s with
  | true =>
    rw [nullIfBlank_of_isNullOrBlank h]
    rfl
  | false => rw [nullIfBlank_of_not_isNullOrBlank h, nullIfBlank_of_not_isNullOrBlank h]

/-- An absent text and an empty one are both blank. -/
theorem nullIfBlank_orEmpty : nullIfBlank (some (orEmpty s)) = nullIfBlank s := by
  cases s with
  | none => rfl
  | some t => rfl

theorem isNullOrEmpty_orEmpty : isNullOrEmpty (some (orEmpty s)) = isNullOrEmpty s := by
  cases s with
  | none => rfl
  | some t => rfl

theorem nullIfBlank_orEmpty_nullIfBlank :
    nullIfBlank (some (orEmpty (nullIfBlank s))) = nullIfBlank s := by
  rw [nullIfBlank_orEmpty, nullIfBlank_nullIfBlank]

end nullable

theorem isNullOrEmpty_nullIfBlank :
    isNullOrEmpty (nullIfBlank s) = true ↔ nullIfBlank s = none := by
  cases hs : nullIfBlank s with
  | none => exact iff_of_true rfl rfl
  | some t =>
    refine iff_of_false (fun hempty => ?_) nofun
    exact (ne_empty_of_nullIfBlank hs).1 (eq_of_beq hempty)

theorem trim_eq_empty_iff : trim s = "" ↔ isBlank s = true := by
  rw [trim, ← String.toList_inj, String.toList_ofList, String.toList_empty,
    rdropWhile_eq_nil_iff, isBlank, all_eq_true]
  constructor
  · intro h c hc
    rw [← takeWhile_append_dropWhile (l := s.toList)] at hc
    rcases mem_append.mp hc with hc | hc
    · exact mem_takeWhile_imp hc
    · exact h c hc
  · exact fun h c hc => h c ((dropWhile_suffix isWhitespace).subset hc)

/-- The ranges of code points that are white space. -/
def whitespaceRanges : List (Nat × Nat) :=
  [(9, 13), (28, 32), (0xA0, 0xA0), (0x1680, 0x1680), (0x2000, 0x200A), (0x2028, 0x2028),
    (0x2029, 0x2029), (0x202F, 0x202F), (0x205F, 0x205F), (0x3000, 0x3000)]

theorem mem_whitespaceRanges (h : isWhitespace c = true) :
    ∃ r ∈ whitespaceRanges, r.1 ≤ c.toNat ∧ c.toNat ≤ r.2 := by
  simp only [isWhitespace, Bool.or_eq_true, Bool.and_eq_true, decide_eq_true_eq, beq_iff_eq] at h
  simp only [whitespaceRanges, mem_cons, not_mem_nil, or_false, exists_eq_or_imp,
    exists_eq_left]
  omega

/-- No digit is white space. -/
theorem isWhitespace_of_digitOf (h : digitOf c = some d) : isWhitespace c = false := by
  by_contra hws
  obtain ⟨r, hr, hlo, hhi⟩ := mem_whitespaceRanges (Bool.not_eq_false _ ▸ hws)
  obtain ⟨z, hz, -⟩ := Option.map_eq_some_iff.mp h
  have hdigit := find?_some hz
  have hmem := mem_of_find?_eq_some hz
  have hapart : ∀ z ∈ decimalZeros, ∀ r ∈ whitespaceRanges, z + 9 < r.1 ∨ r.2 < z := by decide
  simp only [Bool.and_eq_true, decide_eq_true_eq] at hdigit
  have := hapart z hmem r hr
  omega

theorem digitOf_isSome_of_foldl {acc : Option Nat} {n : Nat}
    (h : cs.foldl (fun acc c => do return 10 * (← acc) + (← digitOf c)) acc = some n) :
    acc.isSome = true ∧ ∀ c ∈ cs, (digitOf c).isSome = true := by
  induction cs generalizing acc with
  | nil => exact ⟨Option.isSome_of_eq_some h, forall_mem_nil _⟩
  | cons c cs ih =>
    obtain ⟨hacc, hcs⟩ := ih h
    cases acc with
    | none => cases hacc
    | some m =>
      cases hc : digitOf c with
      | none => simp [hc] at hacc
      | some d => exact ⟨rfl, forall_mem_cons.mpr ⟨by rw [hc]; rfl, hcs⟩⟩

theorem digitOf_of_digitsToNat {n : Nat} (h : digitsToNat cs = some n) :
    ∀ c ∈ cs, (digitOf c).isSome = true := by
  cases cs with
  | nil => cases h
  | cons c cs => exact (digitOf_isSome_of_foldl h).2

/-- A numeral has signs and digits only. -/
theorem mem_of_toBounded {s : String} (h : toBounded lo hi s = some n) :
    ∀ c ∈ s.toList, c = '-' ∨ c = '+' ∨ (digitOf c).isSome = true := by
  obtain ⟨hn, -⟩ := Option.filter_eq_some_iff.mp h
  split at hn
  · next cs heq =>
    obtain ⟨m, hm, -⟩ := Option.map_eq_some_iff.mp hn
    rw [heq]
    exact forall_mem_cons.mpr
      ⟨.inl rfl, fun c hc => .inr (.inr (digitOf_of_digitsToNat hm c hc))⟩
  · next cs heq =>
    obtain ⟨m, hm, -⟩ := Option.map_eq_some_iff.mp hn
    rw [heq]
    exact forall_mem_cons.mpr
      ⟨.inr (.inl rfl), fun c hc => .inr (.inr (digitOf_of_digitsToNat hm c hc))⟩
  · obtain ⟨m, hm, -⟩ := Option.map_eq_some_iff.mp hn
    exact fun c hc => .inr (.inr (digitOf_of_digitsToNat hm c hc))

theorem isWhitespace_of_toBounded {s : String} (h : toBounded lo hi s = some n) :
    ∀ c ∈ s.toList, isWhitespace c = false := by
  intro c hc
  rcases mem_of_toBounded h c hc with rfl | rfl | hdigit
  · decide
  · decide
  · obtain ⟨d, hd⟩ := Option.isSome_iff_exists.mp hdigit
    exact isWhitespace_of_digitOf hd

theorem trim_of_no_whitespace {s : String} (h : ∀ c ∈ s.toList, isWhitespace c = false) :
    trim s = s := by
  have hdrop : s.toList.dropWhile isWhitespace = s.toList :=
    dropWhile_eq_self_iff.mpr fun hl => by
      rw [h _ (getElem_mem hl)]
      exact Bool.false_ne_true
  have hrdrop : s.toList.rdropWhile isWhitespace = s.toList :=
    rdropWhile_eq_self_iff.mpr fun hl => by
      rw [h _ (getLast_mem hl)]
      exact Bool.false_ne_true
  rw [trim, hdrop, hrdrop, String.ofList_toList]

/-- A numeral has no white space around it. -/
theorem trim_of_toIntOrNull (h : toIntOrNull s = some n) : trim s = s :=
  trim_of_no_whitespace (isWhitespace_of_toBounded h)

/-- A number is determined by its decimal text. -/
theorem toString_inj {m n : Nat} (h : toString m = toString n) : m = n := by
  have hdigits : Nat.toDigits 10 m = Nat.toDigits 10 n := by
    rw [← Nat.toList_repr, ← Nat.toList_repr]
    exact congrArg String.toList h
  rw [← Nat.ofDigitChars_ten_toDigits (n := m), hdigits, Nat.ofDigitChars_ten_toDigits]

theorem digitOf_of_isDigit (h : c.isDigit = true) : digitOf c = some (c.toNat - '0'.toNat) := by
  have hlo : 48 ≤ c.toNat ∧ c.toNat ≤ 57 := by
    simpa [Char.isDigit, UInt32.le_iff_toNat_le] using h
  have hfind : decimalZeros.find? (fun z => z ≤ c.toNat && c.toNat ≤ z + 9) = some 0x0030 := by
    rw [decimalZeros]
    simpa using hlo
  rw [digitOf, hfind]
  rfl

/-- A text of ASCII digits is the number they spell. -/
theorem digitsToNat_of_isDigit (hne : cs ≠ []) (h : ∀ c ∈ cs, c.isDigit = true) :
    digitsToNat cs = some (Nat.ofDigitChars 10 cs 0) := by
  have hfold (n : Nat) : cs.foldl (fun acc c => do return 10 * (← acc) + (← digitOf c)) (some n) =
      some (Nat.ofDigitChars 10 cs n) := by
    clear hne
    induction cs generalizing n with
    | nil => rfl
    | cons c cs ih =>
      rw [foldl_cons, digitOf_of_isDigit (h c mem_cons_self)]
      exact ih (fun d hd => h d (mem_cons_of_mem _ hd)) _
  cases cs with
  | nil => exact absurd rfl hne
  | cons c cs => exact hfold 0

theorem digitsToNat_repr (n : Nat) : digitsToNat n.repr.toList = some n := by
  rw [Nat.toList_repr, digitsToNat_of_isDigit Nat.toDigits_ne_nil, Nat.ofDigitChars_ten_toDigits]
  exact fun c hc => Nat.isDigit_of_mem_toDigits (by decide) (by decide) hc

/-- A text that starts with a digit has no sign. -/
theorem toBounded_of_isDigit {s : String} (hne : s.toList ≠ [])
    (h : ∀ c ∈ s.toList, c.isDigit = true) :
    toBounded lo hi s =
      ((digitsToNat s.toList).map fun n : Nat => (n : Int)).filter
        fun n => decide (lo ≤ n ∧ n ≤ hi) := by
  unfold toBounded
  cases hs : s.toList with
  | nil => exact absurd hs hne
  | cons c cs =>
    have hc : c.isDigit = true := h c (hs ▸ mem_cons_self)
    split
    · next heq =>
      rw [(List.cons.inj heq).1] at hc
      cases hc
    · next heq =>
      rw [(List.cons.inj heq).1] at hc
      cases hc
    · rfl

/-- A number in the range is read back from its decimal text. -/
theorem toBounded_toString (h : lo ≤ n ∧ n ≤ hi) : toBounded lo hi (toString n) = some n := by
  cases n with
  | ofNat n =>
    have htext : toString (Int.ofNat n) = n.repr := rfl
    rw [htext, toBounded_of_isDigit, digitsToNat_repr, Option.map_some]
    · exact if_pos (decide_eq_true h)
    · rw [Nat.toList_repr]
      exact Nat.toDigits_ne_nil
    · rw [Nat.toList_repr]
      exact fun c hc => Nat.isDigit_of_mem_toDigits (by decide) (by decide) hc
  | negSucc n =>
    have htext : (toString (Int.negSucc n)).toList = '-' :: (n + 1).repr.toList := by
      have : toString (Int.negSucc n) = "-" ++ (n + 1).repr := rfl
      rw [this, String.toList_append]
      rfl
    have hread : (digitsToNat (n + 1).repr.toList).map (fun m : Nat => -(m : Int)) =
        some (Int.negSucc n) := by
      rw [digitsToNat_repr]
      rfl
    unfold toBounded
    rw [htext]
    refine (congrArg (Option.filter _) hread).trans ?_
    exact if_pos (decide_eq_true h)

theorem toIntOrNull_toString (h : -2147483648 ≤ n ∧ n ≤ 2147483647) :
    toIntOrNull (toString n) = some n :=
  toBounded_toString h

/-- A readable text of digits spells a number that is not negative. -/
theorem digitsToNat_of_toIntOrNull {s : String} (hdigits : s.toList.all Char.isDigit = true)
    (h : toIntOrNull s = some n) :
    ∃ m : Nat, digitsToNat s.toList = some m ∧ n = m ∧ m ≤ 2147483647 := by
  have hne : s.toList ≠ [] := by
    intro hnil
    rw [String.toList_eq_nil_iff.mp hnil] at h
    cases h
  rw [toIntOrNull, toBounded_of_isDigit hne (all_eq_true.mp hdigits),
    Option.filter_eq_some_iff] at h
  obtain ⟨hm, hrange⟩ := h
  obtain ⟨m, hdig, rfl⟩ := Option.map_eq_some_iff.mp hm
  have := of_decide_eq_true hrange
  exact ⟨m, hdig, rfl, by omega⟩

/-! ## Cutting a text -/

section cut
variable {sep : Char} {a mid b s : String}

theorem ne_of_notMem (h : sep ∉ s.toList) : ∀ c ∈ s.toList, (c != sep) = true := by
  intro c hc
  rw [bne_iff_ne]
  rintro rfl
  exact h hc

theorem splitFirst_append (hmid : mid.toList = [sep]) (h : sep ∉ a.toList) :
    splitFirst sep (a ++ mid ++ b) = (a, some b) := by
  have hlist : (a ++ mid ++ b).toList = a.toList ++ sep :: b.toList := by
    rw [String.toList_append, String.toList_append, hmid, append_assoc, singleton_append]
  rw [splitFirst, hlist, takeWhile_append_of_pos (ne_of_notMem h),
    dropWhile_append_of_pos (ne_of_notMem h)]
  simp

theorem splitFirst_of_notMem (h : sep ∉ s.toList) : splitFirst sep s = (s, none) := by
  have hdrop : s.toList.dropWhile (· != sep) = [] :=
    dropWhile_eq_nil_iff.mpr (ne_of_notMem h)
  have htake : s.toList.takeWhile (· != sep) = s.toList :=
    takeWhile_eq_self_iff.mpr (ne_of_notMem h)
  rw [splitFirst, hdrop, htake, String.ofList_toList]
  rfl

/-- Joined parts are split again. -/
theorem split_intercalate (hmid : mid.toList = [sep]) (hne : parts ≠ [])
    (h : ∀ part ∈ parts, sep ∉ part.toList) : split sep (mid.intercalate parts) = parts := by
  have hsplit : splitOn sep ([sep].intercalate (parts.map String.toList)) =
      parts.map String.toList := by
    refine splitOn_intercalate sep ?_ (by simpa using hne)
    intro part hpart
    obtain ⟨s, hs, rfl⟩ := mem_map.mp hpart
    exact h s hs
  rw [split, String.toList_intercalate, hmid, hsplit, map_map]
  exact (map_congr_left fun s _ => String.ofList_toList).trans (map_id _)

theorem split_of_notMem (h : sep ∉ s.toList) : split sep s = [s] := by
  have hone : splitOn sep ([sep].intercalate [s.toList]) = [s.toList] :=
    splitOn_intercalate sep (by simpa using h) (by simp)
  rw [intercalate_singleton] at hone
  rw [split, hone, map_singleton, String.ofList_toList]

theorem split_append (hmid : mid.toList = [sep]) (h : sep ∉ a.toList) :
    split sep (a ++ mid ++ b) = a :: split sep b := by
  rw [split, String.toList_append, String.toList_append, hmid, append_assoc,
    singleton_append, splitOn_append_cons_self_of_not_mem h, map_cons,
    String.ofList_toList, split]

theorem exists_append_of_mem (hmid : mid.toList = [sep]) (h : sep ∈ s.toList) :
    ∃ a b, s = a ++ mid ++ b ∧ sep ∉ a.toList := by
  obtain ⟨xs, ys, hs, hnot⟩ := eq_append_cons_of_mem h
  refine ⟨String.ofList xs, String.ofList ys, String.toList_inj.mp ?_, ?_⟩
  · rw [hs, String.toList_append, String.toList_append, String.toList_ofList,
      String.toList_ofList, hmid, append_assoc, singleton_append]
  · rwa [String.toList_ofList]

/-- The first part of a text that is split everywhere. -/
theorem exists_split_eq (sep : Char) (s : String) :
    ∃ rest, split sep s = (splitFirst sep s).1 :: rest := by
  by_cases h : sep ∈ s.toList
  · have hmid : (String.ofList [sep]).toList = [sep] := String.toList_ofList
    obtain ⟨a, b, rfl, hnot⟩ := exists_append_of_mem hmid h
    exact ⟨split sep b, by rw [split_append hmid hnot, splitFirst_append hmid hnot]⟩
  · exact ⟨[], by rw [split_of_notMem h, splitFirst_of_notMem h]⟩

theorem substringBeforeLast_append (hmid : mid.toList = [sep]) (h : sep ∉ b.toList) :
    substringBeforeLast sep (a ++ mid ++ b) = a := by
  have hlist : (a ++ mid ++ b).toList = (a.toList ++ [sep]) ++ b.toList := by
    rw [String.toList_append, String.toList_append, hmid]
  have hdrop : ((a.toList ++ [sep]) ++ b.toList).rdropWhile (· != sep) = a.toList ++ [sep] := by
    rw [rdropWhile, reverse_append,
      dropWhile_append_of_pos fun c hc => ne_of_notMem h c (mem_reverse.mp hc)]
    simp
  rw [substringBeforeLast, hlist, if_pos (by simp), hdrop, dropLast_concat,
    String.ofList_toList]

theorem substringAfterLast_append (hmid : mid.toList = [sep]) (h : sep ∉ b.toList) :
    substringAfterLast sep (a ++ mid ++ b) = b := by
  have hlist : (a ++ mid ++ b).toList = (a.toList ++ [sep]) ++ b.toList := by
    rw [String.toList_append, String.toList_append, hmid]
  have htake : ((a.toList ++ [sep]) ++ b.toList).rtakeWhile (· != sep) = b.toList := by
    rw [rtakeWhile, reverse_append,
      takeWhile_append_of_pos fun c hc => ne_of_notMem h c (mem_reverse.mp hc)]
    simp
  rw [substringAfterLast, hlist, htake, String.ofList_toList]

end cut

end ZeroVpn.Text
