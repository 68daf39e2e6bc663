import ZeroVpn.Fmt.ShareFormats

/-!
# Base64 spellings

`Utils.decode` tries the standard alphabet first, whose decoder skips the two characters that only
the URL-safe one has. So a URL-safe text is read in the wrong alphabet, unless it has neither of
them or what is left of it does not fit (`decode_spelling`).
-/

namespace ZeroVpn.Utils

/-- The Base64 text of the UTF-8 bytes of a text, in one of the alphabets. -/
def spelling (url padded : Bool) (text : String) : String :=
  String.ofList (if padded then Base64.encode url (utf8 text.toList)
    else Base64.body url (utf8 text.toList))

section
variable {text : String} (h : text ≠ "") {url padded : Bool}

theorem decodeLenient_spelling :
    Base64.decodeLenient url (spelling url padded text).toList = some (utf8 text.toList) := by
  rw [spelling, String.toList_ofList]
  cases padded with
  | true => exact Base64.decodeLenient_encode _
  | false => exact Base64.decodeLenient_body _

/-- Without special characters the alphabets do not differ. -/
theorem spelling_true_eq (hspecial : Base64.special (utf8 text.toList) = 0) :
    spelling true padded text = spelling false padded text := by
  have hplain : ∀ n ∈ Base64.sextets (utf8 text.toList), n.val < 62 := by
    intro n hn
    have hnot := List.countP_eq_zero.mp hspecial n hn
    rw [decide_eq_true_eq] at hnot
    omega
  rw [spelling, spelling, Base64.encode, Base64.encode, Base64.body_eq_body hplain]

include h

theorem spelling_ne_empty : spelling url padded text ≠ "" := by
  intro hempty
  have hdecode := @decodeLenient_spelling text url padded
  rw [hempty] at hdecode
  have hbytes : utf8 text.toList = [] := (Option.some.inj hdecode).symm
  have hchars := ofUtf8_utf8 text.toList
  rw [hbytes] at hchars
  exact h (String.toList_inj.mp hchars.symm)

/-- The bytes of a text, read in the standard alphabet or else in the URL-safe one. -/
def readBytes (text : String) : Option (List UInt8) :=
  (Base64.decodeLenient false text.toList).or (Base64.decodeLenient true text.toList)

theorem decode_of_readBytes
    (hread : readBytes (spelling url padded text) = some (utf8 text.toList)) :
    decode (some (spelling url padded text)) = text := by
  rw [readBytes] at hread
  have htry : tryDecodeBase64 (some (spelling url padded text)) = some text := by
    rw [tryDecodeBase64, if_neg (spelling_ne_empty h), hread, Option.map_some, ofUtf8_utf8,
      String.ofList_toList]
  rw [decode, htry]

omit h in
theorem readBytes_spelling_iff :
    readBytes (spelling url padded text) = some (utf8 text.toList) ↔
      (url = true → Base64.special (utf8 text.toList) = 0 ∨
        Base64.Misfits padded (utf8 text.toList)) := by
  have hstandard : readBytes (spelling false padded text) = some (utf8 text.toList) := by
    rw [readBytes, decodeLenient_spelling, Option.some_or]
  cases url with
  | false => exact iff_of_true hstandard fun hfalse => absurd hfalse Bool.false_ne_true
  | true =>
    rw [imp_iff_right rfl]
    by_cases hspecial : Base64.special (utf8 text.toList) = 0
    · rw [spelling_true_eq hspecial]
      exact iff_of_true hstandard (.inl hspecial)
    · have hread := Base64.decodeLenient_urlSafe (utf8 text.toList) padded
      rw [← String.toList_ofList (l := ite _ _ _), ← spelling] at hread
      rw [or_iff_right hspecial, readBytes, hread, decodeLenient_spelling]
      split
      · next hmisfits => exact iff_of_true rfl hmisfits
      · next hfits =>
        refine iff_of_false (fun heq => ?_) hfits
        refine Base64.bytes_shared_ne hspecial (fun hlen => hfits (.inl ?_)) (Option.some.inj heq)
        have := Base64.length_shared (utf8 text.toList)
        omega

/-- The bytes of a text are read from its standard spelling, and from its URL-safe one exactly if
that has no special characters or the standard decoder fails on the others. Then the text is read. -/
theorem decode_spelling :
    (readBytes (spelling url padded text) = some (utf8 text.toList) ↔
      (url = true → Base64.special (utf8 text.toList) = 0 ∨
        Base64.Misfits padded (utf8 text.toList))) ∧
    (readBytes (spelling url padded text) = some (utf8 text.toList) →
      decode (some (spelling url padded text)) = text) :=
  ⟨readBytes_spelling_iff, decode_of_readBytes h⟩

end

/-- Without the special character the padding does not fit. -/
theorem padded_urlSafe_read : spelling true true "~~~a" = "fn5-YQ==" ∧
    decode (some (spelling true true "~~~a")) = "~~~a" :=
  have hread := @decode_spelling "~~~a" (by decide) true true
  ⟨by decide, hread.2 (hread.1.mpr fun _ => .inr (by decide))⟩

/-- The last character is skipped, and the three others are read as two bytes. -/
theorem urlSafe_misread : spelling true false "~~~" = "fn5-" ∧ decode (some "fn5-") = "~~" := by
  decide

end ZeroVpn.Utils
