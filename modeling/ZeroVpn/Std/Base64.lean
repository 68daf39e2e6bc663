import ZeroVpn.Std.List

/-!
# Base64

The standard and the URL-safe alphabet differ in their last two characters only. Encoding pads;
decoding takes a text with or without its padding and nothing else. The lenient decoder skips the
characters that are outside the alphabet.
-/

namespace ZeroVpn.Base64

open List

/-- The bytes in groups of six bits, the last group filled up with zeros. -/
def sextets : List UInt8 → List (Fin 64)
  | [] => []
  | [a] => [⟨a.toNat / 4, by have := a.toNat_lt; omega⟩, ⟨a.toNat % 4 * 16, by omega⟩]
  | [a, b] =>
    [⟨a.toNat / 4, by have := a.toNat_lt; omega⟩,
      ⟨a.toNat % 4 * 16 + b.toNat / 16, by have := b.toNat_lt; omega⟩,
      ⟨b.toNat % 16 * 4, by omega⟩]
  | a :: b :: c :: bs =>
    ⟨a.toNat / 4, by have := a.toNat_lt; omega⟩ ::
      ⟨a.toNat % 4 * 16 + b.toNat / 16, by have := b.toNat_lt; omega⟩ ::
      ⟨b.toNat % 16 * 4 + c.toNat / 64, by have := c.toNat_lt; omega⟩ ::
      ⟨c.toNat % 64, by omega⟩ :: sextets bs

/-- The whole bytes in a list of sextets. -/
def bytes : List (Fin 64) → List UInt8
  | a :: b :: c :: d :: ss =>
    UInt8.ofNat (a * 4 + b / 16) :: UInt8.ofNat (b % 16 * 16 + c / 4) ::
      UInt8.ofNat (c % 4 * 64 + d) :: bytes ss
  | [a, b, c] => [UInt8.ofNat (a.val * 4 + b.val / 16), UInt8.ofNat (b.val % 16 * 16 + c.val / 4)]
  | [a, b] => [UInt8.ofNat (a.val * 4 + b.val / 16)]
  | _ => []

def alphabet (url : Bool) : List Char :=
  "ABCDEFGHIJKLMNOPQRSTUVWXYZabcdefghijklmnopqrstuvwxyz0123456789".toList ++
    if url then ['-', '_'] else ['+', '/']

theorem alphabet_length (url : Bool) : (alphabet url).length = 64 := by
  cases url <;> decide

def char (url : Bool) (n : Fin 64) : Char :=
  (alphabet url).get ⟨n, by rw [alphabet_length]; exact n.isLt⟩

def value? (url : Bool) (c : Char) : Option (Fin 64) :=
  (List.finRange 64).find? fun n => char url n == c

/-- The number of padding characters after `n` others. -/
def padding (n : Nat) : Nat := (4 - n % 4) % 4

/-- The text of a byte string without padding. -/
def body (url : Bool) (bs : List UInt8) : List Char := (sextets bs).map (char url)

def encode (url : Bool) (bs : List UInt8) : List Char :=
  body url bs ++ List.replicate (padding (body url bs).length) '='

/-- The bytes of a text; none if it has other characters, a single character too many, or a padding
that is not complete. -/
def decode (url : Bool) (cs : List Char) : Option (List UInt8) :=
  let body := cs.takeWhile (· ≠ '=')
  let pad := cs.dropWhile (· ≠ '=')
  if body.length % 4 = 1 then none
  else if pad ≠ [] ∧ pad ≠ List.replicate (padding body.length) '=' then none
  else (body.mapM (value? url)).map bytes

/-- The characters that a lenient decoder looks at. -/
def isToken (url : Bool) (c : Char) : Bool := c == '=' || (value? url c).isSome

def decodeLenient (url : Bool) (cs : List Char) : Option (List UInt8) :=
  decode url (cs.filter (isToken url))

section
variable {url : Bool}

theorem value?_char (url : Bool) (n : Fin 64) : value? url (char url n) = some n := by
  revert n
  cases url <;> decide +kernel

/-- The characters both alphabets share. -/
theorem char_eq_char {n : Fin 64} (h : n.val < 62) :
    char true n = char false n := by
  revert n
  decide +kernel

/-- The last two characters of the standard alphabet are its only ones that are no letters or
digits. -/
theorem isAlphanum_char {n : Fin 64} : (char false n).isAlphanum = true ↔ n.val < 62 := by
  revert n
  decide +kernel

theorem char_ne_pad (url : Bool) (n : Fin 64) : char url n ≠ '=' := by
  revert n
  cases url <;> decide +kernel

variable (bs : List UInt8)

theorem bytes_sextets : bytes (sextets bs) = bs := by
  induction bs using sextets.induct with
  | case1 => rfl
  | case2 a =>
    have ha := a.toNat_lt
    rw [sextets, bytes]
    have h₁ : a.toNat / 4 * 4 + a.toNat % 4 * 16 / 16 = a.toNat := by omega
    simp only [h₁, UInt8.ofNat_toNat]
  | case3 a b =>
    have ha := a.toNat_lt
    have hb := b.toNat_lt
    rw [sextets, bytes]
    have h₁ : a.toNat / 4 * 4 + (a.toNat % 4 * 16 + b.toNat / 16) / 16 = a.toNat := by omega
    have h₂ : (a.toNat % 4 * 16 + b.toNat / 16) % 16 * 16 + b.toNat % 16 * 4 / 4 = b.toNat := by
      omega
    simp only [h₁, h₂, UInt8.ofNat_toNat]
  | case4 a b c bs ih =>
    have ha := a.toNat_lt
    have hb := b.toNat_lt
    have hc := c.toNat_lt
    rw [sextets, bytes, ih]
    have h₁ : a.toNat / 4 * 4 + (a.toNat % 4 * 16 + b.toNat / 16) / 16 = a.toNat := by omega
    have h₂ : (a.toNat % 4 * 16 + b.toNat / 16) % 16 * 16 +
        (b.toNat % 16 * 4 + c.toNat / 64) / 4 = b.toNat := by omega
    have h₃ : (b.toNat % 16 * 4 + c.toNat / 64) % 4 * 64 + c.toNat % 64 = c.toNat := by omega
    simp only [h₁, h₂, h₃, UInt8.ofNat_toNat]

theorem length_sextets : (sextets bs).length % 4 ≠ 1 := by
  induction bs using sextets.induct with
  | case1 => decide
  | case2 a => simp [sextets]
  | case3 a b => simp [sextets]
  | case4 a b c bs ih =>
    rw [sextets]
    simp only [length_cons]
    omega

theorem mapM_value?_map (ns : List (Fin 64)) :
    (ns.map (char url)).mapM (value? url) = some ns := by
  rw [mapM_map]
  induction ns with
  | nil => rfl
  | cons n ns ih => simp [mapM_cons, value?_char, ih]

theorem notMem_map_char {ns : List (Fin 64)} : '=' ∉ ns.map (char url) := by
  intro h
  obtain ⟨n, -, hn⟩ := mem_map.mp h
  exact char_ne_pad url n hn

theorem notMem_body : '=' ∉ body url bs := notMem_map_char

section pad
variable {text : List Char} (h : '=' ∉ text)
include h

theorem ne_pad_of_mem : ∀ c ∈ text, decide (c ≠ '=') = true := by
  intro c hc
  refine decide_eq_true ?_
  rintro rfl
  exact h hc

theorem takeWhile_pad (n : Nat) :
    (text ++ replicate n '=').takeWhile (· ≠ '=') = text := by
  rw [takeWhile_append_of_pos (ne_pad_of_mem h)]
  cases n <;> simp [replicate_succ]

theorem dropWhile_pad (n : Nat) :
    (text ++ replicate n '=').dropWhile (· ≠ '=') = replicate n '=' := by
  rw [dropWhile_append_of_pos (ne_pad_of_mem h)]
  cases n <;> simp [replicate_succ]

/-- A text with a character outside the alphabet cannot be read, padded or not. -/
theorem decode_eq_none (hc : c ∈ text) (hvalue : value? url c = none) (n : Nat) :
    decode url (text ++ replicate n '=') = none := by
  have hnone : text.mapM (value? url) = none := mapM_eq_none.mpr ⟨c, hc, hvalue⟩
  unfold decode
  dsimp only
  rw [takeWhile_pad h, dropWhile_pad h, hnone]
  split
  · rfl
  · split <;> rfl

end pad

/-- Characters of the alphabet are read with a complete padding and with none. -/
theorem decode_map {ns : List (Fin 64)} (hlen : ns.length % 4 ≠ 1)
    (hpad : n = 0 ∨ n = padding ns.length) :
    decode url (ns.map (char url) ++ replicate n '=') = some (bytes ns) := by
  have hfits : ¬(replicate n '=' ≠ [] ∧ replicate n '=' ≠ replicate (padding ns.length) '=') := by
    rintro ⟨hne, hother⟩
    rcases hpad with rfl | rfl
    · exact hne rfl
    · exact hother rfl
  unfold decode
  dsimp only
  rw [takeWhile_pad notMem_map_char, dropWhile_pad notMem_map_char, length_map, if_neg hlen,
    if_neg hfits, mapM_value?_map, Option.map_some]

theorem decode_encode : decode url (encode url bs) = some bs := by
  rw [encode, body, length_map, decode_map (length_sextets bs) (.inr rfl), bytes_sextets]

theorem decode_body : decode url (body url bs) = some bs := by
  have hread := @decode_map url 0 _ (length_sextets bs) (.inl rfl)
  rwa [replicate_zero, append_nil, bytes_sextets] at hread

theorem decodeLenient_body : decodeLenient url (body url bs) = some bs := by
  have hkept : (body url bs).filter (isToken url) = body url bs := by
    rw [filter_eq_self]
    intro c hc
    obtain ⟨n, -, rfl⟩ := mem_map.mp hc
    rw [isToken, value?_char, Option.isSome_some, Bool.or_true]
  rw [decodeLenient, hkept, decode_body]

theorem decodeLenient_encode : decodeLenient url (encode url bs) = some bs := by
  have hkept : (encode url bs).filter (isToken url) = encode url bs := by
    rw [filter_eq_self]
    intro c hc
    rw [encode, mem_append] at hc
    rcases hc with hc | hc
    · obtain ⟨n, -, rfl⟩ := mem_map.mp hc
      rw [isToken, value?_char, Option.isSome_some, Bool.or_true]
    · rw [eq_of_mem_replicate hc]
      rfl
  rw [decodeLenient, hkept, decode_encode]

/-- A text of letters and digits is the same in both alphabets. -/
theorem body_eq_body {bs : List UInt8} (h : ∀ n ∈ sextets bs, n.val < 62) :
    body true bs = body false bs :=
  map_congr_left fun n hn => char_eq_char (h n hn)

/-! ## A URL-safe text in the standard alphabet -/

/-- The number of characters that only one of the alphabets has. -/
def special (bs : List UInt8) : Nat := (sextets bs).countP fun n => 62 ≤ n.val

/-- The other characters end in the middle of a group, or do not fit the padding. -/
def Misfits (padded : Bool) (bs : List UInt8) : Prop :=
  ((sextets bs).length - special bs) % 4 = 1 ∨
    padded = true ∧ (sextets bs).length % 4 ≠ 0 ∧ special bs % 4 ≠ 0

instance (padded : Bool) (bs : List UInt8) : Decidable (Misfits padded bs) :=
  inferInstanceAs (Decidable (_ ∨ _))

theorem isToken_char_true (n : Fin 64) : isToken false (char true n) = decide (n.val < 62) := by
  revert n
  decide +kernel

/-- The sextets whose characters both alphabets have. -/
def shared : List (Fin 64) := (sextets bs).filter fun n => n.val < 62

theorem length_shared : (shared bs).length + special bs = (sextets bs).length := by
  have hsplit := length_eq_countP_add_countP (fun n : Fin 64 => decide (62 ≤ n.val))
    (l := sextets bs)
  have hother : (sextets bs).countP (fun n => decide (n.val < 62)) =
      (sextets bs).countP (fun n => decide ¬decide (62 ≤ n.val) = true) := by
    refine countP_congr fun n _ => ?_
    simp
  rw [shared, ← countP_eq_length_filter, hother, special]
  omega

/-- The decoder of the standard alphabet skips the special characters. -/
theorem filter_body :
    (body true bs).filter (isToken false) = (shared bs).map (char false) := by
  have hsame : (shared bs).map (char false) = (shared bs).map (char true) :=
    map_congr_left fun n hn => (char_eq_char (of_decide_eq_true (mem_filter.mp hn).2)).symm
  rw [body, filter_map, hsame]
  refine congrArg (map (char true)) (filter_congr fun n _ => ?_)
  exact isToken_char_true n

theorem decode_of_misfit {text : List Char} (hpad : '=' ∉ text) {n : Nat}
    (h : text.length % 4 = 1 ∨ n ≠ 0 ∧ n ≠ padding text.length) :
    decode url (text ++ replicate n '=') = none := by
  unfold decode
  dsimp only
  rw [takeWhile_pad hpad, dropWhile_pad hpad]
  rcases h with h | ⟨hne, hother⟩
  · rw [if_pos h]
  · have hlist : replicate n '=' ≠ [] ∧
        replicate n '=' ≠ replicate (padding text.length) '=' := by
      refine ⟨by simpa using hne, fun heq => hother ?_⟩
      simpa using congrArg length heq
    rw [if_pos hlist, ite_self]

theorem decodeLenient_eq_decode (padded : Bool) :
    decodeLenient false (if padded then encode true bs else body true bs) =
      decode false ((shared bs).map (char false) ++
        replicate (if padded then padding (sextets bs).length else 0) '=') := by
  have hkept (n : Nat) : (replicate n '=').filter (isToken false) = replicate n '=' := by
    rw [filter_eq_self]
    intro c hc
    rw [eq_of_mem_replicate hc]
    rfl
  cases padded with
  | false => simp [decodeLenient, filter_body]
  | true =>
    rw [if_pos rfl, if_pos rfl, decodeLenient, encode, filter_append, filter_body, hkept, body,
      length_map]

/-- The standard decoder reads a URL-safe text without its special characters, or fails if the
others misfit. -/
theorem decodeLenient_urlSafe (padded : Bool) :
    decodeLenient false (if padded then encode true bs else body true bs) =
      if Misfits padded bs then none else some (bytes (shared bs)) := by
  have hlength := length_shared bs
  have hnot := length_sextets bs
  rw [decodeLenient_eq_decode]
  by_cases h : Misfits padded bs
  · rw [if_pos h]
    refine decode_of_misfit notMem_map_char ?_
    rw [length_map]
    cases padded with
    | false =>
      have hmod := h.resolve_right fun h => Bool.false_ne_true h.1
      exact .inl (by omega)
    | true =>
      rw [Misfits] at h
      rw [if_pos rfl, padding, padding]
      omega
  · rw [if_neg h]
    rw [Misfits] at h
    refine decode_map (by omega) ?_
    cases padded with
    | false => exact .inl rfl
    | true =>
      have hfits : (sextets bs).length % 4 = 0 ∨ special bs % 4 = 0 := by
        by_contra hnone
        exact h (.inr ⟨rfl, not_or.mp hnone⟩)
      rw [if_pos rfl, padding, padding]
      omega

theorem length_bytes (ns : List (Fin 64)) : (bytes ns).length = ns.length * 3 / 4 := by
  induction ns using bytes.induct with
  | case1 a b c d ns ih =>
    rw [bytes]
    simp only [length_cons]
    omega
  | case2 a b c => simp [bytes]
  | case3 a b => simp [bytes]
  | case4 ns h₁ h₂ h₃ =>
    match ns with
    | [] => simp [bytes]
    | [a] => simp [bytes]
    | [a, b] => exact absurd rfl (h₃ a b)
    | [a, b, c] => exact absurd rfl (h₂ a b c)
    | a :: b :: c :: d :: ns => exact absurd rfl (h₁ a b c d ns)

/-- A byte is lost with the special characters. -/
theorem bytes_shared_ne {bs : List UInt8} (h : special bs ≠ 0) (hlen : (shared bs).length % 4 ≠ 1) :
    bytes (shared bs) ≠ bs := by
  intro heq
  have hshort := length_bytes (shared bs)
  have hall := length_bytes (sextets bs)
  have hlength := length_shared bs
  have hnot := length_sextets bs
  rw [heq] at hshort
  rw [bytes_sextets] at hall
  -- groups of two, three and four characters give one, two and three bytes
  have hmod : (sextets bs).length % 4 = 0 ∨ (sextets bs).length % 4 = 2 ∨
      (sextets bs).length % 4 = 3 := by omega
  rcases hmod with hmod | hmod | hmod <;> omega

end
end ZeroVpn.Base64
