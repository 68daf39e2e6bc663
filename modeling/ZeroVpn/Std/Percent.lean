import Mathlib.Data.List.Basic

/-!
# UTF-8 and percent coding

`utf8` and `ofUtf8` are the two directions of the encoding; a malformed byte reads as the replacement
character. `Percent.encode` writes the characters that are not safe as escapes of their bytes, and
`Percent.decode` reads every run of escapes as one piece of UTF-8.
-/

namespace ZeroVpn

open List

def utf8 (cs : List Char) : List UInt8 := cs.flatMap String.utf8EncodeChar

/-- The character of a code point, if it needs an encoding of this length. -/
def scalar? (least v : Nat) : Option Char :=
  if least ≤ v ∧ v.isValidChar then some (Char.ofNat v) else none

/-- The six bits of a continuation byte. -/
def continuation? (b : UInt8) : Option Nat :=
  if 128 ≤ b.toNat ∧ b.toNat < 192 then some (b.toNat - 128) else none

/-- The first character, and the bytes after it. -/
def decodeFirst : List UInt8 → Option (Char × List UInt8)
  | [] => none
  | b :: bs =>
    if b.toNat < 128 then some (Char.ofNat b.toNat, bs)
    else if b.toNat < 192 then none
    else if b.toNat < 224 then
      match bs with
      | b₁ :: bs => do
        let v₁ ← continuation? b₁
        return (← scalar? 128 ((b.toNat - 192) * 64 + v₁), bs)
      | _ => none
    else if b.toNat < 240 then
      match bs with
      | b₁ :: b₂ :: bs => do
        let v₁ ← continuation? b₁
        let v₂ ← continuation? b₂
        return (← scalar? 2048 ((b.toNat - 224) * 4096 + v₁ * 64 + v₂), bs)
      | _ => none
    else
      match bs with
      | b₁ :: b₂ :: b₃ :: bs => do
        let v₁ ← continuation? b₁
        let v₂ ← continuation? b₂
        let v₃ ← continuation? b₃
        return (← scalar? 65536 ((b.toNat - 240) * 262144 + v₁ * 4096 + v₂ * 64 + v₃), bs)
      | _ => none

/-- At most `n` characters of a byte string. -/
def decodeUpTo : Nat → List UInt8 → List Char
  | 0, _ => []
  | _ + 1, [] => []
  | n + 1, b :: bs =>
    match decodeFirst (b :: bs) with
    | some (c, rest) => c :: decodeUpTo n rest
    | none => '�' :: decodeUpTo n bs

def ofUtf8 (bs : List UInt8) : List Char := decodeUpTo bs.length bs

variable {n : Nat} {c : Char} {cs : List Char}

theorem toNat_byte (h : n < 256) : (UInt8.ofNat n).toNat = n :=
  UInt8.toNat_ofNat_of_lt' h

theorem continuation?_ofNat (h : v < 64) :
    continuation? (UInt8.ofNat (v + 128)) = some v := by
  have hv : (UInt8.ofNat (v + 128)).toNat = v + 128 := toNat_byte (by omega)
  rw [continuation?, hv, if_pos (by omega), Nat.add_sub_cancel]

theorem scalar?_toNat (h : least ≤ c.toNat) : scalar? least c.toNat = some c := by
  rw [scalar?, if_pos ⟨h, c.valid⟩, Char.ofNat_toNat]

section
variable {b b₁ b₂ b₃ : UInt8} {v₁ v₂ v₃ : Nat} (rest : List UInt8)

theorem decodeFirst_two (hlow : 192 ≤ b.toNat) (hhigh : b.toNat < 224)
    (h₁ : continuation? b₁ = some v₁) :
    decodeFirst (b :: b₁ :: rest) =
      (scalar? 128 ((b.toNat - 192) * 64 + v₁)).map (·, rest) := by
  simp only [decodeFirst]
  rw [if_neg (by omega), if_neg (by omega), if_pos hhigh, h₁]
  exact Option.map_eq_bind.symm

theorem decodeFirst_three (hlow : 224 ≤ b.toNat) (hhigh : b.toNat < 240)
    (h₁ : continuation? b₁ = some v₁) (h₂ : continuation? b₂ = some v₂) :
    decodeFirst (b :: b₁ :: b₂ :: rest) =
      (scalar? 2048 ((b.toNat - 224) * 4096 + v₁ * 64 + v₂)).map (·, rest) := by
  simp only [decodeFirst]
  rw [if_neg (by omega), if_neg (by omega), if_neg (by omega), if_pos hhigh, h₁, h₂]
  exact Option.map_eq_bind.symm

/-- The end of a reading whose continuation bytes are known. With variables for the reader and the
first byte, the kernel does not evaluate the product. -/
theorem read_continuations (read : Nat → Option Char) (high : Nat) :
    (do
      let v₁ ← some v₁
      let v₂ ← some v₂
      let v₃ ← some v₃
      return (← read (high * 262144 + v₁ * 4096 + v₂ * 64 + v₃), rest)) =
        (read (high * 262144 + v₁ * 4096 + v₂ * 64 + v₃)).map (·, rest) :=
  Option.map_eq_bind.symm

theorem decodeFirst_four (hlow : 240 ≤ b.toNat) (h₁ : continuation? b₁ = some v₁)
    (h₂ : continuation? b₂ = some v₂) (h₃ : continuation? b₃ = some v₃) :
    decodeFirst (b :: b₁ :: b₂ :: b₃ :: rest) =
      (scalar? 65536 ((b.toNat - 240) * 262144 + v₁ * 4096 + v₂ * 64 + v₃)).map (·, rest) := by
  simp only [decodeFirst]
  rw [if_neg (by omega), if_neg (by omega), if_neg (by omega), if_neg (by omega), h₁, h₂, h₃]
  exact read_continuations rest _ _

end

theorem decodeFirst_encode (c : Char) (rest : List UInt8) :
    decodeFirst (String.utf8EncodeChar c ++ rest) = some (c, rest) := by
  have hmax : c.toNat < 1114112 := by
    rcases c.valid with h | h
    · exact Nat.lt_trans h (by decide)
    · exact h.2
  have hval : c.val.toNat = c.toNat := rfl
  unfold String.utf8EncodeChar
  simp only [hval]
  split
  · next h =>
    have hb : (UInt8.ofNat c.toNat).toNat = c.toNat := toNat_byte (by omega)
    simp only [cons_append, nil_append, decodeFirst, hb]
    rw [if_pos (by omega), Char.ofNat_toNat]
  · next h =>
    split
    · next h' =>
      have hb : (UInt8.ofNat (c.toNat / 64 % 32 + 192)).toNat = c.toNat / 64 + 192 := by
        rw [toNat_byte (by omega)]
        omega
      have hsum : (c.toNat / 64 + 192 - 192) * 64 + c.toNat % 64 = c.toNat := by omega
      refine (decodeFirst_two rest (by omega) (by omega)
        (continuation?_ofNat (v := c.toNat % 64) (by omega))).trans ?_
      rw [hb, hsum, scalar?_toNat (by omega), Option.map_some]
    · next h' =>
      split
      · next h'' =>
        have hb : (UInt8.ofNat (c.toNat / 4096 % 16 + 224)).toNat = c.toNat / 4096 + 224 := by
          rw [toNat_byte (by omega)]
          omega
        have hsum : (c.toNat / 4096 + 224 - 224) * 4096 + c.toNat / 64 % 64 * 64 + c.toNat % 64 =
            c.toNat := by omega
        refine (decodeFirst_three rest (by omega) (by omega)
          (continuation?_ofNat (v := c.toNat / 64 % 64) (by omega))
          (continuation?_ofNat (v := c.toNat % 64) (by omega))).trans ?_
        rw [hb, hsum, scalar?_toNat (by omega), Option.map_some]
      · next h'' =>
        have hb : (UInt8.ofNat (c.toNat / 262144 % 8 + 240)).toNat = c.toNat / 262144 + 240 := by
          rw [toNat_byte (by omega)]
          omega
        have hsum : (c.toNat / 262144 + 240 - 240) * 262144 + c.toNat / 4096 % 64 * 4096 +
            c.toNat / 64 % 64 * 64 + c.toNat % 64 = c.toNat := by omega
        refine (decodeFirst_four rest (by omega)
          (continuation?_ofNat (v := c.toNat / 4096 % 64) (by omega))
          (continuation?_ofNat (v := c.toNat / 64 % 64) (by omega))
          (continuation?_ofNat (v := c.toNat % 64) (by omega))).trans ?_
        rw [hb, hsum, scalar?_toNat (by omega), Option.map_some]

theorem utf8EncodeChar_ne_nil (c : Char) : String.utf8EncodeChar c ≠ [] := by
  unfold String.utf8EncodeChar
  dsimp only
  split
  · exact cons_ne_nil _ _
  · split
    · exact cons_ne_nil _ _
    · split <;> exact cons_ne_nil _ _

theorem decodeUpTo_utf8 (h : cs.length ≤ n) : decodeUpTo n (utf8 cs) = cs := by
  induction cs generalizing n with
  | nil => cases n <;> rfl
  | cons c cs ih =>
    obtain ⟨n, rfl⟩ : ∃ m, n = m + 1 := ⟨n - 1, by rw [length_cons] at h; omega⟩
    have hfirst := decodeFirst_encode c (utf8 cs)
    have hutf8 : utf8 (c :: cs) = String.utf8EncodeChar c ++ utf8 cs := rfl
    rw [hutf8]
    obtain ⟨b, bs, hb⟩ := exists_cons_of_ne_nil (utf8EncodeChar_ne_nil c)
    rw [hb, cons_append] at hfirst ⊢
    rw [decodeUpTo, hfirst]
    exact congrArg (c :: ·) (ih (Nat.le_of_succ_le_succ h))

theorem length_le_utf8 (cs : List Char) : cs.length ≤ (utf8 cs).length := by
  induction cs with
  | nil => exact Nat.zero_le _
  | cons c cs ih =>
    have hpos := length_pos_of_ne_nil (utf8EncodeChar_ne_nil c)
    have hutf8 : utf8 (c :: cs) = String.utf8EncodeChar c ++ utf8 cs := rfl
    rw [hutf8, length_append, length_cons]
    omega

@[simp] theorem ofUtf8_utf8 (cs : List Char) : ofUtf8 (utf8 cs) = cs :=
  decodeUpTo_utf8 (length_le_utf8 cs)

theorem length_decodeUpTo_le (n : Nat) (bs : List UInt8) : (decodeUpTo n bs).length ≤ n := by
  induction n generalizing bs with
  | zero => exact Nat.zero_le _
  | succ n ih =>
    cases bs with
    | nil => exact Nat.zero_le _
    | cons b bs =>
      rw [decodeUpTo]
      split
      · exact Nat.succ_le_succ (ih _)
      · exact Nat.succ_le_succ (ih _)

theorem utf8_append (cs ds : List Char) : utf8 (cs ++ ds) = utf8 cs ++ utf8 ds :=
  flatMap_append

namespace Percent

/-- The hexadecimal digits, in the case that encoders write. -/
def hexDigits : List Char := "0123456789ABCDEF".toList

def hexDigit (n : Fin 16) : Char := hexDigits.get ⟨n, n.isLt⟩

def hexValue? (c : Char) : Option Nat :=
  if c.isDigit then some (c.toNat - '0'.toNat)
  else if 'A' ≤ c ∧ c ≤ 'F' then some (c.toNat - 'A'.toNat + 10)
  else if 'a' ≤ c ∧ c ≤ 'f' then some (c.toNat - 'a'.toNat + 10)
  else none

/-- The escape of a byte. -/
def escape (b : UInt8) : List Char :=
  ['%', hexDigit ⟨b.toNat / 16, by have := b.toNat_lt; omega⟩,
    hexDigit ⟨b.toNat % 16, Nat.mod_lt _ (by decide)⟩]

def encode (safe : Char → Bool) (cs : List Char) : List Char :=
  cs.flatMap fun c => if safe c then [c] else (String.utf8EncodeChar c).flatMap escape

/-- Read escapes; `pending` holds the bytes of the current run of them. With `plus` a plus sign is
a blank. A percent sign that starts no escape makes the text unreadable. -/
def decodeAux (plus : Bool) : List UInt8 → List Char → Option (List Char)
  | pending, [] => some (ofUtf8 pending)
  | pending, '%' :: h :: l :: cs => do
    let high ← hexValue? h
    let low ← hexValue? l
    decodeAux plus (pending ++ [UInt8.ofNat (high * 16 + low)]) cs
  | pending, c :: cs =>
    if c = '%' then none
    else do
      let rest ← decodeAux plus [] cs
      return ofUtf8 pending ++ (if plus && c == '+' then ' ' else c) :: rest

def decode (plus : Bool) (cs : List Char) : Option (List Char) := decodeAux plus [] cs

section

theorem hexValue?_hexDigit (n : Fin 16) : hexValue? (hexDigit n) = some n.val := by
  revert n
  decide

theorem decodeAux_escape (plus : Bool) (pending : List UInt8) (b : UInt8) (cs : List Char) :
    decodeAux plus pending (escape b ++ cs) = decodeAux plus (pending ++ [b]) cs := by
  have hb : UInt8.ofNat (b.toNat / 16 * 16 + b.toNat % 16) = b := by
    rw [Nat.div_add_mod', UInt8.ofNat_toNat]
  rw [escape, cons_append, cons_append, cons_append, nil_append, decodeAux,
    hexValue?_hexDigit, hexValue?_hexDigit, Option.bind_eq_bind, Option.bind_some,
    Option.bind_some, hb]

theorem decodeAux_escapes (plus : Bool) (bs : List UInt8) (pending : List UInt8) (cs : List Char) :
    decodeAux plus pending (bs.flatMap escape ++ cs) = decodeAux plus (pending ++ bs) cs := by
  induction bs generalizing pending with
  | nil => rw [append_nil]; rfl
  | cons b bs ih =>
    rw [flatMap_cons, append_assoc, decodeAux_escape, ih, append_assoc]
    rfl

/-- A character that starts no escape ends the run of escapes before it. -/
theorem decodeAux_cons (hc : c ≠ '%') (pending : List UInt8) (cs : List Char) :
    decodeAux plus pending (c :: cs) =
      (decodeAux plus [] cs).map fun rest =>
        ofUtf8 pending ++ (if plus && c == '+' then ' ' else c) :: rest := by
  rw [decodeAux, if_neg hc]
  · cases decodeAux plus [] cs <;> rfl
  · intro h l rest heq
    exact absurd heq hc

theorem decodeAux_plain (hc : c ≠ '%') (hplus : plus = true → c ≠ '+') (pending : List UInt8)
    (cs : List Char) :
    decodeAux plus pending (c :: cs) =
      (decodeAux plus [] cs).map fun rest => ofUtf8 pending ++ c :: rest := by
  have hread : (if plus && c == '+' then ' ' else c) = c := by
    rw [if_neg]
    rw [Bool.and_eq_true, beq_iff_eq]
    exact fun h => hplus h.1 h.2
  rw [decodeAux_cons hc, hread]

variable {safe : Char → Bool} {plus : Bool}

/-- A character that is not part of escapes cuts the text in two. -/
theorem decodeAux_append_plain (hc : hexValue? c = none) (hpercent : c ≠ '%')
    (hplus : plus = true → c ≠ '+') (pending : List UInt8) (xs ys : List Char) :
    decodeAux plus pending (xs ++ c :: ys) =
      (decodeAux plus pending xs).bind fun a => (decodeAux plus [] ys).map fun b => a ++ c :: b := by
  fun_induction decodeAux plus pending xs with
  | case1 pending =>
    rw [nil_append, decodeAux_plain hpercent hplus, Option.bind_some]
  | case2 pending h l xs ih =>
    rw [cons_append, cons_append, cons_append, decodeAux]
    cases hexValue? h with
    | none => rfl
    | some high =>
      cases hexValue? l with
      | none => rfl
      | some low => exact ih high low
  | case3 pending xs hescape =>
    -- an escape that the text before the character leaves unfinished
    cases xs with
    | nil =>
      cases ys with
      | nil => rfl
      | cons y ys =>
        rw [singleton_append, decodeAux, hc]
        rfl
    | cons h xs =>
      cases xs with
      | nil =>
        rw [cons_append, cons_append, nil_append, decodeAux, hc]
        cases hexValue? h <;> rfl
      | cons l xs => exact absurd rfl (hescape h l xs rfl)
  | case4 pending d xs hescape hd ih =>
    rw [cons_append, decodeAux_cons hd, ih]
    cases decodeAux plus [] xs with
    | none => rfl
    | some a =>
      cases decodeAux plus [] ys with
      | none => rfl
      | some b =>
        exact congrArg some (append_assoc _ (_ :: a) (c :: b)).symm

theorem hexValue?_ne_percent (h : hexValue? c = some n) : c ≠ '%' := by
  rintro rfl
  cases h

/-- An escape of three characters is one byte. -/
theorem length_decodeAux_le {pending : List UInt8} {a : List Char}
    (h : decodeAux plus pending cs = some a) :
    a.length + 2 * cs.count '%' ≤ pending.length + cs.length := by
  fun_induction decodeAux plus pending cs generalizing a with
  | case1 pending =>
    cases h
    exact length_decodeUpTo_le _ _
  | case2 pending h' l xs ih =>
    obtain ⟨high, hhigh, h⟩ := Option.bind_eq_some_iff.mp h
    obtain ⟨low, hlow, h⟩ := Option.bind_eq_some_iff.mp h
    have hle := ih high low h
    rw [count_cons_self, count_cons_of_ne (hexValue?_ne_percent hhigh),
      count_cons_of_ne (hexValue?_ne_percent hlow)]
    simp only [length_append, length_cons, length_nil] at hle ⊢
    omega
  | case3 pending xs hescape => cases h
  | case4 pending d xs hescape hd ih =>
    obtain ⟨rest, hrest, h⟩ := Option.bind_eq_some_iff.mp h
    have hle := ih hrest
    have hpending := length_decodeUpTo_le pending.length pending
    cases h
    rw [count_cons_of_ne hd]
    simp only [length_append, length_cons, ofUtf8] at hle ⊢
    simp only [length_nil] at hle
    omega

theorem decodeAux_encode (hpercent : safe '%' = false) (hplus : plus = true → safe '+' = false)
    (pre cs : List Char) :
    decodeAux plus (utf8 pre) (encode safe cs) = some (pre ++ cs) := by
  induction cs generalizing pre with
  | nil => rw [append_nil]; exact congrArg some (ofUtf8_utf8 pre)
  | cons c cs ih =>
    rw [encode, flatMap_cons]
    by_cases hc : safe c = true
    · have hne : c ≠ '%' := by
        rintro rfl
        rw [hc] at hpercent
        cases hpercent
      have hplus' : plus = true → c ≠ '+' := by
        rintro hp rfl
        rw [hplus hp] at hc
        cases hc
      have hrest : decodeAux plus [] (encode safe cs) = some cs := ih []
      rw [if_pos hc, singleton_append, decodeAux_plain hne hplus']
      rw [encode] at hrest
      rw [hrest, Option.map_some, ofUtf8_utf8]
    · have hstep := ih (pre ++ [c])
      have hsingle : utf8 [c] = String.utf8EncodeChar c := flatMap_singleton ..
      rw [utf8_append, hsingle, append_assoc, singleton_append] at hstep
      rw [if_neg hc, decodeAux_escapes]
      exact hstep

/-- What is written is read back. -/
theorem decode_encode (hpercent : safe '%' = false) (hplus : plus = true → safe '+' = false)
    (cs : List Char) : decode plus (encode safe cs) = some cs :=
  decodeAux_encode hpercent hplus [] cs

theorem mem_escape (h : c ∈ escape b) : c = '%' ∨ c ∈ hexDigits := by
  simp only [escape, mem_cons, not_mem_nil, or_false] at h
  rcases h with h | h | h
  · exact .inl h
  · exact .inr (h ▸ get_mem ..)
  · exact .inr (h ▸ get_mem ..)

/-- An encoded text has safe characters, percent signs and hexadecimal digits only. -/
theorem mem_encode (h : c ∈ encode safe cs) : safe c = true ∨ c = '%' ∨ c ∈ hexDigits := by
  obtain ⟨d, -, hd⟩ := mem_flatMap.mp h
  split at hd
  · next hsafe => exact .inl (mem_singleton.mp hd ▸ hsafe)
  · obtain ⟨b, -, hb⟩ := mem_flatMap.mp hd
    exact .inr (mem_escape hb)

theorem encode_of_safe (h : ∀ c ∈ cs, safe c = true) : encode safe cs = cs := by
  have hsame : ∀ c ∈ cs,
      (if safe c then [c] else (String.utf8EncodeChar c).flatMap escape) = [c] := by
    intro c hc
    rw [if_pos (h c hc)]
  rw [encode, flatMap_congr hsame, flatMap_singleton']

/-- A character that is not safe leaves an escape. -/
theorem percent_mem_encode (hc : c ∈ cs) (h : safe c = false) : '%' ∈ encode safe cs := by
  refine mem_flatMap.mpr ⟨c, hc, ?_⟩
  rw [h, if_neg Bool.false_ne_true]
  obtain ⟨b, hb⟩ := exists_mem_of_ne_nil _ (utf8EncodeChar_ne_nil c)
  exact mem_flatMap.mpr ⟨b, hb, mem_cons_self⟩

theorem encode_eq_nil : encode safe cs = [] ↔ cs = [] := by
  constructor
  · intro h
    cases cs with
    | nil => rfl
    | cons c cs =>
      rw [encode, flatMap_cons, append_eq_nil_iff] at h
      have hnil := h.1
      split at hnil
      · cases hnil
      · obtain ⟨b, bs, hb⟩ := exists_cons_of_ne_nil (utf8EncodeChar_ne_nil c)
        rw [hb] at hnil
        cases hnil
  · rintro rfl
    rfl

end
end Percent
end ZeroVpn
