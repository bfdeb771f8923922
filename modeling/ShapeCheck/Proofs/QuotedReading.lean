import ShapeCheck.Proofs.Quoted
import ShapeCheck.Proofs.Utf8
import ShapeCheck.Reading.Document

/-!
# Quoted text is read back

What a character is written as is read as that character, so quoted text is a JSON
document and the document is the text.
-/

namespace ShapeCheck

namespace Utf8

theorem encodeList_cons (c : Char) (cs : List Char) :
    encodeList (c :: cs) = encodeChar c ++ encodeList cs := rfl

theorem encodeList_append (cs ds : List Char) :
    encodeList (cs ++ ds) = encodeList cs ++ encodeList ds := by
  simp [encodeList]

theorem encode_append (s t : String) : encode (s ++ t) = encode s ++ encode t := by
  rw [encode, String.toList_append, encodeList_append]
  rfl

end Utf8

namespace Reading

open Quoted (hexDigit shortForms)

/-!
## One character
-/

section Characters

variable {c : Char} {rest left final : Bytes} {cs : List Char}

theorem chars_escaped (hc : escaped rest = .ok (c, left)) (h : chars left = .ok (cs, final)) :
    chars (0x5C :: rest) = .ok (c :: cs, final) := by
  rw [chars, if_neg (by decide), if_pos rfl]
  split
  · rename_i e he
    rw [hc] at he
    cases he
  · rename_i c' left' he
    rw [hc] at he
    cases he
    rw [h]

theorem chars_plain (hquote : c ≠ '"') (hbackslash : c ≠ '\\') (hle : 32 ≤ c.toNat)
    (h : chars rest = .ok (cs, final)) :
    chars (Utf8.encodeChar c ++ rest) = .ok (c :: cs, final) := by
  have hdecode := Utf8.decode?_encodeChar_append c rest
  rcases Utf8.encodeChar_eq_cons c with ⟨b, more, hbytes, hlow, hhigh⟩
  rw [hbytes, List.cons_append] at hdecode ⊢
  -- The first byte is that of an ordinary character, or at least 128.
  have hne : ∀ d : Char, d.toNat < 128 → c ≠ d → b.toNat ≠ d.toNat := by
    intro d hd hcd hb
    by_cases hsmall : c.toNat < 0x80
    · rw [(hlow hsmall).1] at hb
      exact hcd (Char.toNat_inj.mp hb)
    · have := hhigh (by omega)
      omega
  have hb : 32 ≤ b.toNat := by
    by_cases hsmall : c.toNat < 0x80
    · rwa [(hlow hsmall).1]
    · have := hhigh (by omega)
      omega
  have hbquote : b ≠ 0x22 := fun hb => hne '"' (by decide) hquote (by rw [hb]; rfl)
  have hbbackslash : b ≠ 0x5C := fun hb => hne '\\' (by decide) hbackslash (by rw [hb]; rfl)
  have hbcontrol : ¬ b < 0x20 := by
    intro hlt
    have hlt' : b.toNat < 32 := hlt
    omega
  rw [chars, if_neg hbquote, if_neg hbbackslash, if_neg hbcontrol]
  split
  · rename_i c' left' he
    rw [hdecode] at he
    cases he
    rw [h]
  · rename_i he
    rw [hdecode] at he
    cases he

theorem escaped_short {letter : Char} (h : (c, letter) ∈ shortForms) (rest : Bytes) :
    escaped (Utf8.encodeChar letter ++ rest) = .ok (c, rest) := by
  have hall : ∀ p ∈ shortForms, Utf8.encodeChar p.2 = [UInt8.ofNat p.2.toNat] ∧
      shortEscape? (UInt8.ofNat p.2.toNat) = some p.1 := by
    decide
  rcases hall (c, letter) h with ⟨hbytes, hvalue⟩
  rw [hbytes, List.cons_append, List.nil_append, escaped, hvalue]

theorem encodeChar_hexDigit {n : Nat} (h : n < 16) :
    Utf8.encodeChar (hexDigit n) = [UInt8.ofNat (hexDigit n).toNat] ∧
      hexValue? (UInt8.ofNat (hexDigit n).toNat) = some n := by
  have hall : ∀ n < 16, Utf8.encodeChar (hexDigit n) = [UInt8.ofNat (hexDigit n).toNat] ∧
      hexValue? (UInt8.ofNat (hexDigit n).toNat) = some n := by
    decide
  exact hall n h

/-- Below 32 a number has two digits, and no half of a character lies there. -/
theorem escaped_hex (h : c.toNat < 32) (rest : Bytes) :
    escaped (Utf8.encodeList
      ['u', '0', '0', hexDigit (c.toNat / 16), hexDigit (c.toNat % 16)] ++ rest) =
        .ok (c, rest) := by
  have hu : Utf8.encodeChar 'u' = [0x75] := by decide
  have hzero : Utf8.encodeChar '0' = [0x30] := by decide
  rcases encodeChar_hexDigit (n := c.toNat / 16) (by omega) with ⟨hhigh, hhighValue⟩
  rcases encodeChar_hexDigit (n := c.toNat % 16) (by omega) with ⟨hlow, hlowValue⟩
  have hnumber : ((0 * 16 + 0) * 16 + c.toNat / 16) * 16 + c.toNat % 16 = c.toNat := by omega
  have hquad : hexQuad (0x30 :: 0x30 :: UInt8.ofNat (hexDigit (c.toNat / 16)).toNat ::
      UInt8.ofNat (hexDigit (c.toNat % 16)).toNat :: rest) = .ok (c.toNat, rest) := by
    have hzeroValue : hexValue? 0x30 = some 0 := by decide
    simp only [hexQuad, hzeroValue, hhighValue, hlowValue, hnumber]
  have hletter : shortEscape? 0x75 = none := by decide
  have hbytes : Utf8.encodeList
      ['u', '0', '0', hexDigit (c.toNat / 16), hexDigit (c.toNat % 16)] ++ rest =
        0x75 :: 0x30 :: 0x30 :: UInt8.ofNat (hexDigit (c.toNat / 16)).toNat ::
          UInt8.ofNat (hexDigit (c.toNat % 16)).toNat :: rest := by
    simp only [Utf8.encodeList_cons, hu, hzero, hhigh, hlow]
    rfl
  rw [hbytes, escaped, hletter]
  simp only [if_pos, hexEscape, hquad]
  rw [if_neg (by omega), if_neg (by omega), Char.ofNat_toNat]

theorem chars_escape (c : Char) (h : chars rest = .ok (cs, final)) :
    chars (Utf8.encodeList (Quoted.escape c) ++ rest) = .ok (c :: cs, final) := by
  have hbackslash : Utf8.encodeChar '\\' = [0x5C] := by decide
  rcases Quoted.escape_cases c with ⟨letter, hc, hce⟩ | ⟨_, hlt, hce⟩ | ⟨hc, hce⟩
  · rw [hce, Utf8.encodeList_cons, hbackslash]
    refine chars_escaped ?_ h
    simpa [Utf8.encodeList] using escaped_short (Quoted.mem_shortForms hc) rest
  · rw [hce, Utf8.encodeList_cons, hbackslash]
    exact chars_escaped (escaped_hex hlt rest) h
  · have hplain : c ≠ '"' ∧ c ≠ '\\' := by
      constructor <;> rintro rfl <;> cases hc
    have hle : 32 ≤ c.toNat := Quoted.le_of_escape_eq_self hce
    rw [hce]
    simpa [Utf8.encodeList] using chars_plain hplain.1 hplain.2 hle h

end Characters

/-!
## Texts
-/

theorem chars_body (cs : List Char) (rest : Bytes) :
    chars (Utf8.encodeList (Quoted.body cs) ++ 0x22 :: rest) = .ok (cs, rest) := by
  induction cs with
  | nil =>
      show chars (0x22 :: rest) = .ok ([], rest)
      rw [chars, if_pos rfl]
  | cons c cs ih =>
      rw [Quoted.body_cons, Utf8.encodeList_append, List.append_assoc]
      exact chars_escape c ih

theorem encode_quote (text : String) :
    Utf8.encode (quote text) =
      0x22 :: (Utf8.encodeList (Quoted.body text.toList) ++ [0x22]) := by
  have hquote : Utf8.encodeChar '"' = [0x22] := by decide
  rw [Utf8.encode, toList_quote, Utf8.encodeList_cons, Utf8.encodeList_append, hquote]
  rfl

theorem start_quote (rest : Bytes) : start (0x22 :: rest) = textScalar rest := by
  have hblank : skipBlank (0x22 :: rest) = 0x22 :: rest := by
    rw [skipBlank, if_neg (by decide)]
  have hdigit : ¬ (digit? 0x22).isSome = true := by decide
  rw [start, hblank]
  show startWith 0x22 rest = textScalar rest
  rw [startWith, if_neg (by decide), if_neg (by decide), if_neg (by decide),
    if_neg (by decide), if_neg hdigit, if_pos rfl]

theorem run_value_of_scalar {depth : Nat} {s rest : Bytes} {j : Json}
    (h : start s = .ok (.scalar j, rest)) : (value depth).run s = .ok (j, rest) := by
  cases depth with
  | zero => simp [value, document, h]
  | succ depth => simp [value, document, h]

end Reading

theorem ofText_quote (text : String) : Json.ofText (quote text) = .ok (.text text) := by
  have hstart : Reading.start (Utf8.encode (quote text)) = .ok (.scalar (.text text), []) := by
    rw [Reading.encode_quote, Reading.start_quote, Reading.textScalar, Reading.text,
      Reading.chars_body]
    simp
  have hwhole : Reading.whole (Utf8.encode (quote text)) = .ok (.text text) := by
    rw [Reading.whole, Reading.run_value_of_scalar hstart]
    rfl
  simp only [Json.ofText, hwhole]
  rfl

end ShapeCheck
