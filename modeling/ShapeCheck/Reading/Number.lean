import ShapeCheck.Reading.Failure

/-!
# Reading numbers

A number has a whole part without needless zeros, and may have a fraction and an
exponent.  Without them it is kept as a whole number if it fits into 64 bits.  All
others become doubles: a significand of 64 bits is scaled by a power of ten, which may miss
the nearest double.
-/

namespace ShapeCheck
namespace Reading

def digit? (b : UInt8) : Option Nat :=
  if 0x30 ≤ b.toNat ∧ b.toNat ≤ 0x39 then some (b.toNat - 0x30) else none

def takeDigits : Bytes → List Nat × Bytes
  | [] => ([], [])
  | b :: rest =>
      match digit? b with
      | some d => (d :: (takeDigits rest).1, (takeDigits rest).2)
      | none => ([], b :: rest)

/-- Append digits to a significand until it would leave 64 bits, and tell how many digits
are left over. -/
def keepDigits (significand : Nat) : List Nat → Nat × Nat
  | [] => (significand, 0)
  | d :: rest =>
      if 10 * significand + d < Nat.pow 2 64 then keepDigits (10 * significand + d) rest
      else (significand, rest.length + 1)

/-- The digits before a fraction or exponent.  A zero stands alone. -/
def wholePart : Bytes → Except Failure (List Nat × Bytes)
  | [] => .error (.broken .endOfValue [])
  | b :: rest =>
      match digit? b with
      | none => .error (.broken .invalidNumber rest)
      | some d =>
          if d = 0 then
            match rest with
            | next :: more =>
                if (digit? next).isSome then .error (.broken .invalidNumber more)
                else .ok ([0], rest)
            | [] => .ok ([0], [])
          else .ok (d :: (takeDigits rest).1, (takeDigits rest).2)

def fractionPart : Bytes → Except Failure (Option (List Nat) × Bytes)
  | [] => .ok (none, [])
  | b :: rest =>
      if b = 0x2E then
        match takeDigits rest with
        | ([], []) => .error (.broken .endOfValue [])
        | ([], _ :: more) => .error (.broken .invalidNumber more)
        | (digits, more) => .ok (some digits, more)
      else .ok (none, b :: rest)

/-- The greatest exponent that is told apart from greater ones. -/
def maxExponent : Nat := 2147483647

/-- The digits of an exponent after those that spell `exponent`.  An exponent
beyond the greatest is refused where `fatal` and cut otherwise. -/
def exponentDigits (fatal : Bool) (exponent : Nat) :
    Bytes → Except Failure (Nat × Bytes)
  | [] => .ok (exponent, [])
  | b :: rest =>
      match digit? b with
      | none => .ok (exponent, b :: rest)
      | some d =>
          if 10 * exponent + d ≤ maxExponent then
            exponentDigits fatal (10 * exponent + d) rest
          else if fatal then .error (.broken .numberOutOfRange rest)
          else exponentDigits fatal (maxExponent + 1) rest

def exponentSign : Bytes → Bool × Bytes
  | [] => (false, [])
  | b :: rest =>
      if b = 0x2B then (false, rest)
      else if b = 0x2D then (true, rest)
      else (false, b :: rest)

def exponentPart (zero : Bool) : Bytes → Except Failure (Option Int × Bytes)
  | [] => .ok (none, [])
  | b :: rest =>
      if b = 0x65 ∨ b = 0x45 then
        match exponentSign rest with
        | (_, []) => .error (.broken .endOfValue [])
        | (negative, first :: more) =>
            match digit? first with
            | none => .error (.broken .invalidNumber more)
            | some d =>
                match exponentDigits (!zero && !negative) d more with
                | .error e => .error e
                | .ok (n, left) =>
                    .ok (some (if negative then -(n : Int) else n), left)
      else .ok (none, b :: rest)

def wholeNumber (negative : Bool) (n : Nat) : Json.Number :=
  if negative then
    if n = 0 ∨ Nat.pow 2 63 < n then .decimal (Double.nearest true n 1)
    else .whole (-(n : Int))
  else .whole n

/-- The number that its parts spell.  Digits of the whole part that are left over count as
zeros, those of the fraction do not count. -/
def assemble (negative : Bool) (whole : List Nat) (fraction : Option (List Nat))
    (exponent : Option Int) : Json.Number :=
  let kept := keepDigits 0 whole
  match kept.2, fraction, exponent with
  | 0, none, none => wholeNumber negative kept.1
  | left, _, _ =>
      let digits := fraction.getD []
      let all := keepDigits kept.1 digits
      let places : Int := digits.length - all.2
      .decimal ((Double.nearest negative all.1 1).scaled (left - places + exponent.getD 0))

def checkRange (n : Json.Number) (rest : Bytes) : Except Failure (Json.Number × Bytes) :=
  match n with
  | .decimal x =>
      if x.isFinite then .ok (n, rest) else .error (.broken .numberOutOfRange rest)
  | .whole _ => .ok (n, rest)

def number (negative : Bool) (s : Bytes) : Except Failure (Json.Number × Bytes) :=
  match wholePart s with
  | .error e => .error e
  | .ok (whole, s1) =>
      match fractionPart s1 with
      | .error e => .error e
      | .ok (fraction, s2) =>
          let zero := (whole ++ fraction.getD []).all (· == 0)
          match exponentPart zero s2 with
          | .error e => .error e
          | .ok (exponent, s3) => checkRange (assemble negative whole fraction exponent) s3

/-! ## What is left is shorter -/

theorem length_takeDigits_le (s : Bytes) : (takeDigits s).2.length ≤ s.length := by
  induction s with
  | nil => exact Nat.le_refl _
  | cons b rest ih =>
      rw [takeDigits]
      split
      · exact Nat.le_succ_of_le ih
      · exact Nat.le_refl _

theorem length_wholePart_lt {s rest : Bytes} {digits : List Nat}
    (h : wholePart s = .ok (digits, rest)) : rest.length < s.length := by
  cases s with
  | nil => cases h
  | cons b tail =>
      simp only [wholePart] at h
      have := length_takeDigits_le tail
      repeat' split at h
      all_goals cases h
      all_goals simp only [List.length_cons, List.length_nil] at *
      all_goals omega

theorem length_fractionPart_le {s rest : Bytes} {digits : Option (List Nat)}
    (h : fractionPart s = .ok (digits, rest)) : rest.length ≤ s.length := by
  cases s with
  | nil =>
      cases h
      exact Nat.le_refl _
  | cons b tail =>
      rw [fractionPart] at h
      have := length_takeDigits_le tail
      split at h
      · split at h
        · cases h
        · cases h
        · rename_i ds more _ hd
          cases h
          rw [hd] at this
          exact Nat.le_succ_of_le this
      · cases h
        exact Nat.le_refl _

theorem length_exponentDigits_le {fatal : Bool} {s rest : Bytes} {start n : Nat}
    (h : exponentDigits fatal start s = .ok (n, rest)) : rest.length ≤ s.length := by
  induction s generalizing start with
  | nil =>
      cases h
      exact Nat.le_refl _
  | cons b tail ih =>
      rw [exponentDigits] at h
      split at h
      · cases h
        exact Nat.le_refl _
      · split at h
        · exact Nat.le_succ_of_le (ih h)
        · split at h
          · cases h
          · exact Nat.le_succ_of_le (ih h)

theorem length_exponentSign_le (s : Bytes) :
    (exponentSign s).2.length ≤ s.length := by
  cases s with
  | nil => exact Nat.le_refl _
  | cons b tail =>
      rw [exponentSign]
      repeat' split
      all_goals simp

theorem length_exponentPart_le {zero : Bool} {s rest : Bytes} {n : Option Int}
    (h : exponentPart zero s = .ok (n, rest)) : rest.length ≤ s.length := by
  cases s with
  | nil =>
      cases h
      exact Nat.le_refl _
  | cons b tail =>
      rw [exponentPart] at h
      have hsign := length_exponentSign_le tail
      split at h
      · split at h
        · cases h
        · rename_i negative first more hs
          rw [hs] at hsign
          simp only [List.length_cons] at hsign
          split at h
          · cases h
          · split at h
            · cases h
            · rename_i hd
              have := length_exponentDigits_le hd
              cases h
              simp only [List.length_cons]
              omega
      · cases h
        exact Nat.le_refl _

theorem rest_of_checkRange {n m : Json.Number} {s rest : Bytes}
    (h : checkRange n s = .ok (m, rest)) : rest = s := by
  unfold checkRange at h
  repeat' split at h
  all_goals cases h
  all_goals rfl

theorem length_number_lt {negative : Bool} {s rest : Bytes} {n : Json.Number}
    (h : number negative s = .ok (n, rest)) : rest.length < s.length := by
  unfold number at h
  split at h
  · cases h
  · rename_i whole s1 hw
    split at h
    · cases h
    · rename_i fraction s2 hf
      simp only at h
      split at h
      · cases h
      · rename_i exponent s3 he
        have h1 := length_wholePart_lt hw
        have h2 := length_fractionPart_le hf
        have h3 := length_exponentPart_le he
        rw [rest_of_checkRange h]
        omega

end Reading
end ShapeCheck
