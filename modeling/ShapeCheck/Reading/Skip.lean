import ShapeCheck.Reading.Token

/-!
# Skipping documents

The content of a field that nobody asks for is passed over.  It has to be JSON in
its outer form, but numbers may be of any size, escapes may spell halves of
characters, and nesting may be of any depth: the open brackets are kept on a
stack.
-/

namespace ShapeCheck
namespace Reading

inductive Bracket where
  | list
  | object
deriving DecidableEq

namespace Bracket

def closing : Bracket → UInt8
  | .list => 0x5D
  | .object => 0x7D

def unclosed : Bracket → Flaw
  | .list => .endOfList
  | .object => .endOfObject

def unseparated : Bracket → Flaw
  | .list => .expectedListEnd
  | .object => .expectedObjectEnd

end Bracket

/-- A skipped number that breaks off is an invalid one. -/
def asInvalidNumber (e : Failure) : Failure :=
  match e.reason with
  | .flaw .endOfValue => { e with reason := .flaw .invalidNumber }
  | _ => e

def skipNumber (s : Bytes) : Except Failure Bytes :=
  match wholePart s with
  | .error e => .error (asInvalidNumber e)
  | .ok (_, s1) =>
      match fractionPart s1 with
      | .error e => .error (asInvalidNumber e)
      | .ok (_, s2) =>
          match exponentPart true s2 with
          | .error e => .error (asInvalidNumber e)
          | .ok (_, s3) => .ok s3

inductive SkipStart where
  /-- all of a scalar -/
  | scalar
  | opened (bracket : Bracket)

def skippedScalar : Except Failure Bytes → Except Failure (SkipStart × Bytes)
  | .error e => .error e
  | .ok rest => .ok (.scalar, rest)

def skipStartWith (b : UInt8) (rest : Bytes) : Except Failure (SkipStart × Bytes) :=
  if b = 0x6E then skippedScalar (word [0x75, 0x6C, 0x6C] rest)
  else if b = 0x74 then skippedScalar (word [0x72, 0x75, 0x65] rest)
  else if b = 0x66 then skippedScalar (word [0x61, 0x6C, 0x73, 0x65] rest)
  else if b = 0x2D then skippedScalar (skipNumber rest)
  else if (digit? b).isSome then skippedScalar (skipNumber (b :: rest))
  else if b = 0x22 then skippedScalar (skipChars rest)
  else if b = 0x5B then .ok (.opened .list, rest)
  else if b = 0x7B then .ok (.opened .object, rest)
  else .error (.broken .expectedValue rest)

def skipKey (s : Bytes) : Except Failure Bytes :=
  match skipBlank s with
  | [] => .error (.broken .endOfObject [])
  | b :: rest =>
      if b = 0x22 then
        match skipChars rest with
        | .error e => .error e
        | .ok left => colon left
      else .error (.broken .keyNotString rest)

/-- Skip to the content of an item: in an object a key comes before it. -/
def skipToContent (bracket : Bracket) (s : Bytes) : Except Failure Bytes :=
  match bracket with
  | .list => .ok s
  | .object => skipKey s

/-! ## What is left is shorter -/

theorem length_skipNumber_lt {s rest : Bytes} (h : skipNumber s = .ok rest) :
    rest.length < s.length := by
  unfold skipNumber at h
  split at h
  · cases h
  · rename_i hw
    split at h
    · cases h
    · rename_i hf
      split at h
      · cases h
      · rename_i he
        have h1 := length_wholePart_lt hw
        have h2 := length_fractionPart_le hf
        have h3 := length_exponentPart_le he
        cases h
        omega

theorem length_skippedScalar {r : Except Failure Bytes} {a : SkipStart} {rest : Bytes}
    (h : skippedScalar r = .ok (a, rest)) : r = .ok rest := by
  unfold skippedScalar at h
  split at h
  · cases h
  · cases h
    rfl

theorem length_skipStartWith_le {b : UInt8} {s rest : Bytes} {a : SkipStart}
    (h : skipStartWith b s = .ok (a, rest)) : rest.length ≤ s.length := by
  unfold skipStartWith at h
  repeat' split at h
  · exact length_word_le (length_skippedScalar h)
  · exact length_word_le (length_skippedScalar h)
  · exact length_word_le (length_skippedScalar h)
  · exact Nat.le_of_lt (length_skipNumber_lt (length_skippedScalar h))
  · exact Nat.le_of_lt_succ (length_skipNumber_lt (length_skippedScalar h))
  · exact Nat.le_of_lt (length_skipChars_lt (length_skippedScalar h))
  · cases h
    exact Nat.le_refl _
  · cases h
    exact Nat.le_refl _
  · cases h

theorem length_skipKey_lt {s rest : Bytes} (h : skipKey s = .ok rest) :
    rest.length < s.length := by
  unfold skipKey at h
  split at h
  · cases h
  · rename_i hs
    have := length_lt_of_skipBlank hs
    split at h
    · split at h
      · cases h
      · rename_i hc
        have := length_skipChars_lt hc
        have := length_colon_lt h
        omega
    · cases h

theorem length_skipToContent_le {bracket : Bracket} {s rest : Bytes}
    (h : skipToContent bracket s = .ok rest) : rest.length ≤ s.length := by
  cases bracket with
  | list =>
      cases h
      exact Nat.le_refl _
  | object => exact Nat.le_of_lt (length_skipKey_lt h)

/-! ## Documents -/

mutual
/-- Skip a document inside the brackets of a stack, and all up to the end of the
outermost. -/
def skipInside (stack : List Bracket) (s : Bytes) : Except Failure Bytes :=
  match hs : skipBlank s with
  | [] => .error (.broken .endOfValue [])
  | b :: rest =>
      have := length_lt_of_skipBlank hs
      match h : skipStartWith b rest with
      | .error e => .error e
      | .ok (.scalar, left) =>
          have := length_skipStartWith_le h
          skipAfter stack left
      | .ok (.opened bracket, left) =>
          have := length_skipStartWith_le h
          skipOpened bracket stack left
termination_by 2 * s.length
decreasing_by all_goals omega

def skipOpened (bracket : Bracket) (stack : List Bracket) (s : Bytes) :
    Except Failure Bytes :=
  match hs : skipBlank s with
  | [] => .error (.broken bracket.unclosed [])
  | b :: rest =>
      have := length_lt_of_skipBlank hs
      if b = bracket.closing then skipAfter stack rest
      else
        match h : skipToContent bracket (b :: rest) with
        | .error e => .error e
        | .ok left =>
            have : left.length ≤ rest.length + 1 := length_skipToContent_le h
            skipInside (bracket :: stack) left
termination_by 2 * s.length + 1
decreasing_by all_goals omega

def skipAfter (stack : List Bracket) (s : Bytes) : Except Failure Bytes :=
  match stack with
  | [] => .ok s
  | bracket :: outer =>
      match hs : skipBlank s with
      | [] => .error (.broken bracket.unclosed [])
      | b :: rest =>
          have := length_lt_of_skipBlank hs
          if b = 0x2C then
            match h : skipToContent bracket rest with
            | .error e => .error e
            | .ok left =>
                have := length_skipToContent_le h
                skipInside (bracket :: outer) left
          else if b = bracket.closing then skipAfter outer rest
          else .error (.broken bracket.unseparated rest)
termination_by 2 * s.length + 1
decreasing_by all_goals omega
end

def skip (s : Bytes) : Except Failure Bytes := skipInside [] s

mutual
theorem length_skipInside_lt {stack : List Bracket} {s rest : Bytes}
    (h : skipInside stack s = .ok rest) : rest.length < s.length := by
  rw [skipInside] at h
  split at h
  · cases h
  · rename_i b tail hs
    have := length_lt_of_skipBlank hs
    simp only at h
    split at h
    · cases h
    · rename_i left hstart
      have := length_skipStartWith_le hstart
      have := length_skipAfter_le h
      omega
    · rename_i bracket left hstart
      have := length_skipStartWith_le hstart
      have := length_skipOpened_le h
      omega
termination_by 2 * s.length
decreasing_by all_goals omega

theorem length_skipOpened_le {bracket : Bracket} {stack : List Bracket}
    {s rest : Bytes} (h : skipOpened bracket stack s = .ok rest) :
    rest.length ≤ s.length := by
  rw [skipOpened] at h
  split at h
  · cases h
  · rename_i b tail hs
    have := length_lt_of_skipBlank hs
    simp only at h
    split at h
    · have := length_skipAfter_le h
      omega
    · split at h
      · cases h
      · rename_i left hcontent
        have : left.length ≤ tail.length + 1 := length_skipToContent_le hcontent
        have := length_skipInside_lt h
        omega
termination_by 2 * s.length + 1
decreasing_by all_goals omega

theorem length_skipAfter_le {stack : List Bracket} {s rest : Bytes}
    (h : skipAfter stack s = .ok rest) : rest.length ≤ s.length := by
  cases stack with
  | nil =>
      rw [skipAfter] at h
      cases h
      exact Nat.le_refl _
  | cons bracket outer =>
      rw [skipAfter] at h
      split at h
      · cases h
      · rename_i b tail hs
        have := length_lt_of_skipBlank hs
        simp only at h
        split at h
        · split at h
          · cases h
          · rename_i left hcontent
            have := length_skipToContent_le hcontent
            have := length_skipInside_lt h
            omega
        · split at h
          · have := length_skipAfter_le h
            omega
          · cases h
termination_by 2 * s.length + 1
decreasing_by all_goals omega
end

theorem length_skip_lt {s rest : Bytes} (h : skip s = .ok rest) :
    rest.length < s.length :=
  length_skipInside_lt h

end Reading
end ShapeCheck
