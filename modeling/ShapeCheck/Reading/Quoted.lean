import ShapeCheck.Reading.Failure

/-!
# Reading quoted text

The part of a string after its opening quote.  Text can be read, or skipped
without a look at what its escapes and bytes stand for.
-/

namespace ShapeCheck
namespace Reading

def hexValue? (b : UInt8) : Option Nat :=
  let n := b.toNat
  if 0x30 ≤ n ∧ n ≤ 0x39 then some (n - 0x30)
  else if 0x61 ≤ n ∧ n ≤ 0x66 then some (n - 0x61 + 10)
  else if 0x41 ≤ n ∧ n ≤ 0x46 then some (n - 0x41 + 10)
  else none

def hexQuad : Bytes → Except Failure (Nat × Bytes)
  | a :: b :: c :: d :: rest =>
      match hexValue? a, hexValue? b, hexValue? c, hexValue? d with
      | some w, some x, some y, some z =>
          .ok (((w * 16 + x) * 16 + y) * 16 + z, rest)
      | _, _, _, _ => .error (.broken .invalidEscape rest)
  | _ => .error (.broken .endOfString [])

/-- The second half of a character that is spelled by two escapes. -/
def lowSurrogate (high : Nat) : Bytes → Except Failure (Char × Bytes)
  | [] => .error (.broken .endOfString [])
  | b :: rest =>
      if b = 0x5C then
        match rest with
        | [] => .error (.broken .endOfString [])
        | letter :: more =>
            if letter = 0x75 then
              match hexQuad more with
              | .error e => .error e
              | .ok (low, left) =>
                  if 0xDC00 ≤ low ∧ low ≤ 0xDFFF then
                    .ok (Char.ofNat (0x10000 + (high - 0xD800) * 1024 + (low - 0xDC00)), left)
                  else .error (.broken .loneSurrogate left)
            else .error (.broken .endOfHexEscape more)
      else .error (.broken .endOfHexEscape rest)

def hexEscape (s : Bytes) : Except Failure (Char × Bytes) :=
  match hexQuad s with
  | .error e => .error e
  | .ok (n, rest) =>
      if 0xDC00 ≤ n ∧ n ≤ 0xDFFF then .error (.broken .loneSurrogate rest)
      else if 0xD800 ≤ n ∧ n ≤ 0xDBFF then lowSurrogate n rest
      else .ok (Char.ofNat n, rest)

def shortEscape? (letter : UInt8) : Option Char :=
  if letter = 0x22 then some '"'
  else if letter = 0x5C then some '\\'
  else if letter = 0x2F then some '/'
  else if letter = 0x62 then some '\x08'
  else if letter = 0x66 then some '\x0c'
  else if letter = 0x6E then some '\n'
  else if letter = 0x72 then some '\r'
  else if letter = 0x74 then some '\t'
  else none

def escaped : Bytes → Except Failure (Char × Bytes)
  | [] => .error (.broken .endOfString [])
  | letter :: rest =>
      match shortEscape? letter with
      | some c => .ok (c, rest)
      | none =>
          if letter = 0x75 then hexEscape rest
          else .error (.broken .invalidEscape rest)

/-- Skip what follows a backslash; halves of characters may stand alone. -/
def skipEscape : Bytes → Except Failure Bytes
  | [] => .error (.broken .endOfString [])
  | letter :: rest =>
      match shortEscape? letter with
      | some _ => .ok rest
      | none =>
          if letter = 0x75 then (hexQuad rest).map Prod.snd
          else .error (.broken .invalidEscape rest)

/-! ## What is left is shorter -/

theorem length_hexQuad_le {s rest : Bytes} {n : Nat}
    (h : hexQuad s = .ok (n, rest)) : rest.length ≤ s.length := by
  unfold hexQuad at h
  split at h
  · split at h
    · simp only [Except.ok.injEq, Prod.mk.injEq] at h
      obtain ⟨_, rfl⟩ := h
      simp only [List.length_cons]
      omega
    · cases h
  · cases h

theorem length_lowSurrogate_le {high : Nat} {s rest : Bytes} {c : Char}
    (h : lowSurrogate high s = .ok (c, rest)) : rest.length ≤ s.length := by
  unfold lowSurrogate at h
  repeat' split at h
  all_goals simp only [reduceCtorEq, Except.ok.injEq, Prod.mk.injEq] at h
  rename_i hq _
  have := length_hexQuad_le hq
  obtain ⟨_, rfl⟩ := h
  simp only [List.length_cons]
  omega

theorem length_hexEscape_le {s rest : Bytes} {c : Char}
    (h : hexEscape s = .ok (c, rest)) : rest.length ≤ s.length := by
  unfold hexEscape at h
  split at h
  · cases h
  · rename_i hq
    have := length_hexQuad_le hq
    repeat' split at h
    · cases h
    · exact Nat.le_trans (length_lowSurrogate_le h) this
    · simp only [Except.ok.injEq, Prod.mk.injEq] at h
      obtain ⟨_, rfl⟩ := h
      exact this

theorem length_escaped_lt {s rest : Bytes} {c : Char}
    (h : escaped s = .ok (c, rest)) : rest.length < s.length := by
  cases s with
  | nil => cases h
  | cons letter tail =>
      rw [escaped] at h
      repeat' split at h
      · cases h
        exact Nat.lt_succ_self _
      · exact Nat.lt_succ_of_le (length_hexEscape_le h)
      · cases h

theorem length_skipEscape_lt {s rest : Bytes}
    (h : skipEscape s = .ok rest) : rest.length < s.length := by
  cases s with
  | nil => cases h
  | cons letter tail =>
      rw [skipEscape] at h
      repeat' split at h
      · cases h
        exact Nat.lt_succ_self _
      · cases hq : hexQuad tail with
        | error e =>
            rw [hq] at h
            cases h
        | ok found =>
            obtain ⟨n, left⟩ := found
            rw [hq] at h
            cases h
            exact Nat.lt_succ_of_le (length_hexQuad_le hq)
      · cases h

/-! ## Strings -/

/-- How many bytes are spelled up to the closing quote, each escape being proper,
and what follows the quote. -/
def closes (s : Bytes) : Except Failure (Nat × Bytes) :=
  match s with
  | [] => .error (.broken .endOfString [])
  | b :: rest =>
      if b = 0x22 then .ok (0, rest)
      else if b = 0x5C then
        match h : escaped rest with
        | .error e => .error e
        | .ok (c, left) =>
            have := length_escaped_lt h
            match closes left with
            | .error e => .error e
            | .ok (n, final) => .ok ((Utf8.encodeChar c).length + n, final)
      else if b < 0x20 then .error (.broken .controlCharacter rest)
      else
        match closes rest with
        | .error e => .error e
        | .ok (n, final) => .ok (n + 1, final)
termination_by s.length
decreasing_by all_goals (simp only [List.length_cons]; omega)

/-- The characters up to the closing quote.  Bytes that are no character are
reported only if the string is closed, at the place that is as far before the
closing quote as the spelled text is long from there on. -/
def chars (s : Bytes) : Except Failure (List Char × Bytes) :=
  match s with
  | [] => .error (.broken .endOfString [])
  | b :: rest =>
      if b = 0x22 then .ok ([], rest)
      else if b = 0x5C then
        match h : escaped rest with
        | .error e => .error e
        | .ok (c, left) =>
            have := length_escaped_lt h
            match chars left with
            | .error e => .error e
            | .ok (cs, final) => .ok (c :: cs, final)
      else if b < 0x20 then .error (.broken .controlCharacter rest)
      else
        match h : Utf8.decode? (b :: rest) with
        | some (c, left) =>
            have := Utf8.length_lt_of_decode? h
            match chars left with
            | .error e => .error e
            | .ok (cs, final) => .ok (c :: cs, final)
        | none =>
            match closes rest with
            | .error e => .error e
            | .ok (n, final) =>
                .error (.broken .invalidCodePoint
                  (rest.drop (rest.length - (n + 1 + final.length))))
termination_by s.length
decreasing_by all_goals (simp only [List.length_cons] at *; omega)

def skipChars (s : Bytes) : Except Failure Bytes :=
  match s with
  | [] => .error (.broken .endOfString [])
  | b :: rest =>
      if b = 0x22 then .ok rest
      else if b = 0x5C then
        match h : skipEscape rest with
        | .error e => .error e
        | .ok left =>
            have := length_skipEscape_lt h
            skipChars left
      else if b < 0x20 then .error (.broken .controlCharacter (b :: rest))
      else skipChars rest
termination_by s.length
decreasing_by all_goals (simp only [List.length_cons]; omega)

theorem length_chars_lt {s rest : Bytes} {cs : List Char}
    (h : chars s = .ok (cs, rest)) : rest.length < s.length := by
  fun_induction chars s generalizing cs with
  | case1 => cases h
  | case2 tail =>
      cases h
      exact Nat.lt_succ_self _
  | case3 => cases h
  | case4 => cases h
  | case5 tail c left he hlt ds final hrec hne ih =>
      cases h
      have := ih hrec
      simp only [List.length_cons]
      omega
  | case6 => cases h
  | case7 => cases h
  | case8 b tail _ _ _ c left he hlt ds final hrec ih =>
      cases h
      have := ih hrec
      omega
  | case9 => cases h
  | case10 => cases h

theorem length_skipChars_lt {s rest : Bytes} (h : skipChars s = .ok rest) :
    rest.length < s.length := by
  fun_induction skipChars s with
  | case1 => cases h
  | case2 tail =>
      cases h
      exact Nat.lt_succ_self _
  | case3 => cases h
  | case4 tail left he hlt hne ih =>
      have := ih h
      simp only [List.length_cons]
      omega
  | case5 => cases h
  | case6 b tail _ _ _ ih => exact Nat.lt_succ_of_lt (ih h)

def text (s : Bytes) : Except Failure (String × Bytes) :=
  match chars s with
  | .error e => .error e
  | .ok (cs, rest) => .ok (String.ofList cs, rest)

theorem length_text_lt {s rest : Bytes} {t : String} (h : text s = .ok (t, rest)) :
    rest.length < s.length := by
  unfold text at h
  split at h
  · cases h
  · rename_i hc
    cases h
    exact length_chars_lt hc

end Reading
end ShapeCheck
