import ShapeCheck.Text.Utf8

/-!
# Characters read back from their bytes

A character is written as one to four bytes: a lead byte, which tells how many there
are, and continuation bytes of six bits each.  Reading puts the bits together again.
-/

namespace ShapeCheck
namespace Utf8

theorem toNat_byte {n : Nat} (h : n < 256) : (UInt8.ofNat n).toNat = n := by
  rw [UInt8.toNat_ofNat']
  exact Nat.mod_eq_of_lt h

theorem continuation?_ofNat {n : Nat} (h : n < 64) :
    continuation? (UInt8.ofNat (0x80 + n)) = some n := by
  have hbyte : (UInt8.ofNat (0x80 + n)).toNat = 0x80 + n := toNat_byte (by omega)
  rw [continuation?, hbyte, if_pos (by omega), Nat.add_sub_cancel_left]

theorem character?_toNat {least : Nat} {c : Char} (h : least ≤ c.toNat) (rest : Bytes) :
    character? least c.toNat rest = some (c, rest) := by
  rw [character?, if_pos ⟨h, c.valid⟩, Char.ofNat_toNat]

theorem toNat_lt (c : Char) : c.toNat < 0x110000 := by
  rcases c.valid with h | h
  · exact Nat.lt_trans h (by decide)
  · exact h.2

theorem decode?_encodeChar_append (c : Char) (rest : Bytes) :
    decode? (encodeChar c ++ rest) = some (c, rest) := by
  have hlt := toNat_lt c
  have hmod : c.toNat % 64 < 64 := Nat.mod_lt _ (by decide)
  have hmod' : c.toNat / 64 % 64 < 64 := Nat.mod_lt _ (by decide)
  have hmod'' : c.toNat / 4096 % 64 < 64 := Nat.mod_lt _ (by decide)
  rw [encodeChar]
  by_cases h1 : c.toNat < 0x80
  · have hlead : (UInt8.ofNat c.toNat).toNat = c.toNat := toNat_byte (by omega)
    simp only [if_pos h1, List.cons_append, List.nil_append, decode?, hlead, Char.ofNat_toNat]
  rw [if_neg h1]
  by_cases h2 : c.toNat < 0x800
  · have hlead : (UInt8.ofNat (0xC0 + c.toNat / 64)).toNat = 0xC0 + c.toNat / 64 :=
      toNat_byte (by omega)
    have hbits : (0xC0 + c.toNat / 64 - 0xC0) * 64 + c.toNat % 64 = c.toNat := by omega
    simp only [if_pos h2, List.cons_append, List.nil_append, decode?, hlead]
    rw [if_neg (by omega), if_neg (by omega), if_pos (by omega), continuation?_ofNat hmod]
    simp only [hbits]
    exact character?_toNat (by omega) rest
  rw [if_neg h2]
  by_cases h3 : c.toNat < 0x10000
  · have hlead : (UInt8.ofNat (0xE0 + c.toNat / 4096)).toNat = 0xE0 + c.toNat / 4096 :=
      toNat_byte (by omega)
    have hbits : (0xE0 + c.toNat / 4096 - 0xE0) * 4096 + c.toNat / 64 % 64 * 64 +
        c.toNat % 64 = c.toNat := by omega
    simp only [if_pos h3, List.cons_append, List.nil_append, decode?, hlead]
    rw [if_neg (by omega), if_neg (by omega), if_neg (by omega), if_pos (by omega),
      continuation?_ofNat hmod, continuation?_ofNat hmod']
    simp only [hbits]
    exact character?_toNat (by omega) rest
  · have hlead : (UInt8.ofNat (0xF0 + c.toNat / 262144)).toNat = 0xF0 + c.toNat / 262144 :=
      toNat_byte (by omega)
    have hbits : (0xF0 + c.toNat / 262144 - 0xF0) * 262144 + c.toNat / 4096 % 64 * 4096 +
        c.toNat / 64 % 64 * 64 + c.toNat % 64 = c.toNat := by omega
    simp only [if_neg h3, List.cons_append, List.nil_append, decode?, hlead]
    rw [if_neg (by omega), if_neg (by omega), if_neg (by omega), if_neg (by omega),
      if_pos (by omega), continuation?_ofNat hmod, continuation?_ofNat hmod',
      continuation?_ofNat hmod'']
    simp only [hbits]
    exact character?_toNat (by omega) rest

/-- The first byte of a character from the blank on is no control character, and it is
a quote or a backslash only for these characters. -/
theorem encodeChar_eq_cons (c : Char) :
    ∃ b more, encodeChar c = b :: more ∧
      (c.toNat < 0x80 → b.toNat = c.toNat ∧ more = []) ∧ (0x80 ≤ c.toNat → 0x80 ≤ b.toNat) := by
  have hlt := toNat_lt c
  rw [encodeChar]
  by_cases h1 : c.toNat < 0x80
  · rw [if_pos h1]
    exact ⟨_, _, rfl, fun _ => ⟨toNat_byte (by omega), rfl⟩, fun h => absurd h1 (by omega)⟩
  rw [if_neg h1]
  by_cases h2 : c.toNat < 0x800
  · rw [if_pos h2]
    refine ⟨_, _, rfl, fun h => absurd h h1, fun _ => ?_⟩
    rw [toNat_byte (by omega)]
    omega
  rw [if_neg h2]
  by_cases h3 : c.toNat < 0x10000
  · rw [if_pos h3]
    refine ⟨_, _, rfl, fun h => absurd h h1, fun _ => ?_⟩
    rw [toNat_byte (by omega)]
    omega
  · rw [if_neg h3]
    refine ⟨_, _, rfl, fun h => absurd h h1, fun _ => ?_⟩
    rw [toNat_byte (by omega)]
    omega

end Utf8
end ShapeCheck
