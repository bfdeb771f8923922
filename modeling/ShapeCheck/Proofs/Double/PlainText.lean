import Mathlib.Data.List.TakeWhile
import ShapeCheck.Double.Layout
import ShapeCheck.Proofs.Double.Interval

/-!
# The plain form of a double can be read back

The digits of the plain form, with the place of the point, give the shortest decimal
back.  That decimal lies in one rounding interval only, so a plain form belongs to
one number.
-/

namespace ShapeCheck
namespace Double

/-!
## Reading digits with a point
-/

def readGrains (cs : List Char) : Nat :=
  let whole := cs.takeWhile (· != '.')
  let fraction := (cs.dropWhile (· != '.')).drop 1
  Nat.ofDigitChars 10 (whole ++ fraction) 0 * (4 * 10 ^ (1074 - fraction.length))

theorem readGrains_of_no_point {whole : List Char} (h : '.' ∉ whole) :
    readGrains whole = Nat.ofDigitChars 10 whole 0 * (4 * 10 ^ (1074 - 0)) := by
  have hall : ∀ c ∈ whole, (c != '.') = true := by
    intro c hc
    rw [bne_iff_ne]
    rintro rfl
    exact h hc
  have htake : whole.takeWhile (· != '.') = whole := List.takeWhile_eq_self_iff.mpr hall
  have hdrop : whole.dropWhile (· != '.') = [] := List.dropWhile_eq_nil_iff.mpr hall
  rw [readGrains, htake, hdrop, List.drop_nil, List.append_nil, List.length_nil]

theorem readGrains_point {whole : List Char} (fraction : List Char) (h : '.' ∉ whole) :
    readGrains (whole ++ '.' :: fraction) =
      Nat.ofDigitChars 10 (whole ++ fraction) 0 * (4 * 10 ^ (1074 - fraction.length)) := by
  have hall : ∀ c ∈ whole, (c != '.') = true := by
    intro c hc
    rw [bne_iff_ne]
    rintro rfl
    exact h hc
  have htake : (whole ++ '.' :: fraction).takeWhile (· != '.') = whole := by
    rw [List.takeWhile_append_of_pos hall]
    simp
  have hdrop : (whole ++ '.' :: fraction).dropWhile (· != '.') = '.' :: fraction := by
    rw [List.dropWhile_append_of_pos hall]
    simp
  rw [readGrains, htake, hdrop, List.drop_succ_cons, List.drop_zero]

theorem isDigit_of_mem_digitText {n : Nat} {c : Char} (h : c ∈ (digitText n).toList) :
    c.isDigit = true := by
  rw [digitText, String.toList_ofList] at h
  exact Nat.isDigit_of_mem_toDigits (by decide) (by decide) h

theorem point_not_mem_digitText (n : Nat) : '.' ∉ (digitText n).toList := by
  intro h
  have := isDigit_of_mem_digitText h
  exact absurd this (by decide)

theorem ofDigitChars_zeros_append (k : Nat) (cs : List Char) :
    Nat.ofDigitChars 10 (List.replicate k '0' ++ cs) 0 = Nat.ofDigitChars 10 cs 0 := by
  rw [Nat.ofDigitChars_append, Nat.ofDigitChars_replicate_zero, Nat.mul_zero]

/-!
## The positional form
-/

section Positional

variable (d : Decimal)

/-- The point stands before all digits, after all of them or in between, and is not
written after all of them. -/
theorem toList_positional_cases :
    let digits := (digitText d.digits).toList
    let text := (positional (digitText d.digits) d.exponent "").toList
    d.shift + digits.length ≤ 1074 ∧
        text = ['0'] ++ '.' :: (List.replicate (1074 - d.shift - digits.length) '0' ++ digits) ∨
      1074 ≤ d.shift ∧ text = digits ++ List.replicate (d.shift - 1074) '0' ∨
      d.shift < 1074 ∧ 1074 < d.shift + digits.length ∧
        text = digits.take (d.shift + digits.length - 1074) ++
          '.' :: digits.drop (d.shift + digits.length - 1074) := by
  intro digits text
  have hlength : (digitText d.digits).length = digits.length := String.length_toList.symm
  have hexponent : d.exponent = (d.shift : Int) - 1074 + digits.length - 1 := by
    rw [← hlength]
    rfl
  have hpos : 0 < digits.length := by
    rw [show digits = Nat.toDigits 10 d.digits from String.toList_ofList]
    exact Nat.length_toDigits_pos
  by_cases hneg : d.exponent < 0
  · left
    have hzeros : (-d.exponent - 1).toNat = 1074 - d.shift - digits.length := by omega
    refine ⟨by omega, ?_⟩
    show (positional (digitText d.digits) d.exponent "").toList = _
    rw [positional, if_pos hneg, hzeros]
    simp [zeros, digits]
  · have hwhole : d.exponent.toNat + 1 = d.shift + digits.length - 1074 := by omega
    right
    show _ ∧ (positional (digitText d.digits) d.exponent "").toList = _ ∨
      _ ∧ _ ∧ (positional (digitText d.digits) d.exponent "").toList = _
    rw [positional, if_neg hneg, hwhole, hlength]
    by_cases hshift : 1074 ≤ d.shift
    · left
      have hzeros : d.shift + digits.length - 1074 - digits.length = d.shift - 1074 := by
        omega
      refine ⟨hshift, ?_⟩
      rw [if_pos (by omega), hzeros]
      simp [zeros, digits]
    · right
      refine ⟨by omega, by omega, ?_⟩
      rw [if_neg (by omega), splitPoint, String.toList_ofList]

theorem readGrains_positional :
    readGrains (positional (digitText d.digits) d.exponent "").toList = d.grains := by
  have hread : Nat.ofDigitChars 10 (digitText d.digits).toList 0 = d.digits := by
    rw [digitText, String.toList_ofList, Nat.ofDigitChars_ten_toDigits]
  have hpoint := point_not_mem_digitText d.digits
  rcases toList_positional_cases d with ⟨hle, htext⟩ | ⟨hshift, htext⟩ | ⟨hshift, hlt, htext⟩
  · have hplaces : 1074 - (1074 - d.shift - (digitText d.digits).toList.length +
        (digitText d.digits).toList.length) = d.shift := by omega
    have hzero : Nat.ofDigitChars 10 ['0'] 0 = 0 := by decide
    rw [htext, readGrains_point _ (by decide), Nat.ofDigitChars_append, hzero,
      ofDigitChars_zeros_append, hread, List.length_append, List.length_replicate, hplaces]
    rfl
  · have hno : '.' ∉ (digitText d.digits).toList ++ List.replicate (d.shift - 1074) '0' := by
      rw [List.mem_append, not_or]
      refine ⟨hpoint, ?_⟩
      intro h
      exact absurd (List.eq_of_mem_replicate h) (by decide)
    have hpow : ∀ n, n ≤ d.shift → 10 ^ (d.shift - n) * 10 ^ (n - 0) = 10 ^ d.shift :=
      fun n hn => Nat.pow_sub_mul_pow 10 hn
    rw [htext, readGrains_of_no_point hno, Nat.ofDigitChars_append, hread,
      Nat.ofDigitChars_replicate_zero, Decimal.grains,
      ← hpow 1074 hshift]
    simp only [Nat.mul_comm, Nat.mul_left_comm, Nat.mul_assoc]
  · have hno : '.' ∉ (digitText d.digits).toList.take
        (d.shift + (digitText d.digits).toList.length - 1074) :=
      fun h => hpoint (List.mem_of_mem_take h)
    have hplaces : 1074 - ((digitText d.digits).toList.length -
        (d.shift + (digitText d.digits).toList.length - 1074)) = d.shift := by omega
    rw [htext, readGrains_point _ hno, List.take_append_drop, hread, List.length_drop, hplaces]
    rfl

theorem isDigit_or_point_of_mem_positional {c : Char}
    (h : c ∈ (positional (digitText d.digits) d.exponent "").toList) :
    c.isDigit = true ∨ c = '.' := by
  have hdigit : ∀ c ∈ (digitText d.digits).toList, c.isDigit = true :=
    fun c hc => isDigit_of_mem_digitText hc
  have hzero : ∀ {n : Nat} {c : Char}, c ∈ List.replicate n '0' → c.isDigit = true := by
    intro n c hc
    rw [List.eq_of_mem_replicate hc]
    decide
  rcases toList_positional_cases d with ⟨_, htext⟩ | ⟨_, htext⟩ | ⟨_, _, htext⟩
  · rw [htext, List.mem_append, List.mem_singleton, List.mem_cons, List.mem_append] at h
    rcases h with rfl | rfl | hzeros | hdigits
    · exact Or.inl (by decide)
    · exact Or.inr rfl
    · exact Or.inl (hzero hzeros)
    · exact Or.inl (hdigit c hdigits)
  · rw [htext, List.mem_append] at h
    rcases h with hdigits | hzeros
    · exact Or.inl (hdigit c hdigits)
    · exact Or.inl (hzero hzeros)
  · rw [htext, List.mem_append, List.mem_cons] at h
    rcases h with htake | rfl | hdrop
    · exact Or.inl (hdigit c (List.mem_of_mem_take htake))
    · exact Or.inr rfl
    · exact Or.inl (hdigit c (List.mem_of_mem_drop hdrop))

end Positional

/-!
## Magnitude and sign
-/

def magnitudeText (x : Double) : String :=
  if x.units = 0 then "0"
  else positional (digitText (x.shortest .up).digits) (x.shortest .up).exponent ""

theorem plainText_of_isNaN {x : Double} (h : x.isNaN = true) : x.plainText = "NaN" := by
  rw [plainText, if_pos h]

theorem plainText_of_infinite {x : Double} (hnan : x.isNaN = false)
    (hfin : x.isFinite = false) : x.plainText = withSign x.negative "Infinity" := by
  rw [plainText, hnan, hfin]
  rfl

theorem isNaN_of_isFinite {x : Double} (hfin : x.isFinite = true) : x.isNaN = false := by
  rw [isNaN, hfin]
  rfl

theorem plainText_of_isFinite {x : Double} (hfin : x.isFinite = true) :
    x.plainText = withSign (x.negative && !x.isZero) x.magnitudeText := by
  rw [plainText, isNaN_of_isFinite hfin, magnitudeText, isZero, hfin]
  by_cases h : x.units = 0
  · simp [h, withSign]
  · simp [h]

theorem isDigit_or_point_of_mem_magnitudeText {x : Double} {c : Char}
    (h : c ∈ x.magnitudeText.toList) : c.isDigit = true ∨ c = '.' := by
  unfold magnitudeText at h
  split at h
  · have hc : c = '0' := by simpa using h
    rw [hc]
    exact Or.inl (by decide)
  · exact isDigit_or_point_of_mem_positional _ h

theorem units_eq_zero_iff (x : Double) : x.units = 0 ↔ x.significand = 0 := by
  rw [units, Nat.mul_eq_zero]
  constructor
  · rintro (h | h)
    · exact h
    · exact absurd h (Nat.ne_of_gt (Nat.two_pow_pos _))
  · intro h
    exact Or.inl h

theorem holds_zero {x : Double} (hsig : x.significand = 0) :
    x.interval.holds 0 = true := by
  have hlower : x.interval.lower = 0 := by
    rcases interval_lower_eq_or x with ⟨_, h⟩ | ⟨hne, _⟩
    · rw [h, hsig]
      exact Nat.zero_mul _
    · omega
  have hclosed : x.interval.closed = true := decide_eq_true (by rw [hsig])
  rw [Interval.holds, if_pos hclosed, hlower]
  simp

theorem holds_readGrains_magnitudeText (x : Double) :
    x.interval.holds (readGrains x.magnitudeText.toList) = true := by
  by_cases h : x.units = 0
  · have hsig := (units_eq_zero_iff x).mp h
    have hread : readGrains x.magnitudeText.toList = 0 := by
      have hzero : Nat.ofDigitChars 10 "0".toList 0 = 0 := by decide
      rw [magnitudeText, if_pos h, readGrains_of_no_point (by decide)]
      simp only [hzero, Nat.zero_mul]
    rw [hread]
    exact holds_zero hsig
  · have hpos : 0 < x.significand := by
      rw [units_eq_zero_iff] at h
      exact Nat.pos_of_ne_zero h
    rw [magnitudeText, if_neg h, readGrains_positional]
    exact holds_shortest .up hpos

theorem withSign_split {a b : Bool} {s t : String} (hs : '-' ∉ s.toList)
    (ht : '-' ∉ t.toList) (h : withSign a s = withSign b t) : a = b ∧ s = t := by
  have hminus : ∀ u : String, ("-" ++ u).toList = '-' :: u.toList := by
    intro u
    simp
  cases a with
  | true =>
      cases b with
      | true =>
          have hlist : '-' :: s.toList = '-' :: t.toList := by
            rw [← hminus, ← hminus]
            exact congrArg String.toList h
          injection hlist with _ htail
          exact ⟨rfl, String.toList_inj.mp htail⟩
      | false =>
          have hlist : '-' :: s.toList = t.toList := by
            rw [← hminus]
            exact congrArg String.toList h
          rw [← hlist] at ht
          exact absurd List.mem_cons_self ht
  | false =>
      cases b with
      | true =>
          have hlist : s.toList = '-' :: t.toList := by
            rw [← hminus]
            exact congrArg String.toList h
          rw [hlist] at hs
          exact absurd List.mem_cons_self hs
      | false => exact ⟨rfl, h⟩

/-!
## Which numbers share a plain form
-/

theorem minus_not_mem_magnitudeText (x : Double) : '-' ∉ x.magnitudeText.toList := by
  intro h
  rcases isDigit_or_point_of_mem_magnitudeText h with h | h
  · exact absurd h (by decide)
  · exact absurd h (by decide)

theorem same_self {x : Double} (h : x.isNaN = false) : x.same x = true := by
  simp [same, h]

theorem same_of_plainText_eq_of_isFinite {x y : Double} (hx : x.isFinite = true)
    (hy : y.isFinite = true) (h : x.plainText = y.plainText) : x.same y = true := by
  rw [plainText_of_isFinite hx, plainText_of_isFinite hy] at h
  rcases withSign_split (minus_not_mem_magnitudeText x) (minus_not_mem_magnitudeText y) h
    with ⟨hsign, htext⟩
  have hgrains := holds_readGrains_magnitudeText x
  rw [htext] at hgrains
  rcases magnitude_eq_of_holds hgrains (holds_readGrains_magnitudeText y) with
    ⟨hscale, hsig⟩
  have hunits : x.units = y.units := by rw [units, units, hscale, hsig]
  have hzero : x.isZero = y.isZero := by rw [isZero, isZero, hx, hy, hunits]
  have hxnan := isNaN_of_isFinite hx
  have hynan := isNaN_of_isFinite hy
  -- The sign is not written at zero, where it does not count either.
  cases hcase : y.isZero with
  | true =>
      rw [hcase] at hzero
      simp [same, hxnan, hynan, hzero, hcase]
  | false =>
      rw [hzero, hcase, Bool.not_false, Bool.and_true, Bool.and_true] at hsign
      rcases fields_eq_of_magnitude_eq hscale hsig with ⟨hexp, hfrac⟩
      rw [eq_of_fields_eq hsign hexp hfrac]
      exact same_self hynan

theorem eq_of_infinite {x y : Double} (hxnan : x.isNaN = false) (hxfin : x.isFinite = false)
    (hynan : y.isNaN = false) (hyfin : y.isFinite = false)
    (hneg : x.negative = y.negative) : x = y := by
  have hexp : ∀ {x : Double}, x.isFinite = false → x.exponentField = 2047 := by
    intro x hfin
    have hlt : x.exponentField < 2 ^ 11 := Nat.mod_lt _ (by decide)
    have hge : ¬ x.exponentField < 2047 := of_decide_eq_false hfin
    omega
  have hfrac : ∀ {x : Double}, x.isNaN = false → x.isFinite = false →
      x.fractionField = 0 := by
    intro x hnan hfin
    rw [isNaN, hfin, Bool.not_false, Bool.true_and] at hnan
    exact Decidable.not_not.mp (of_decide_eq_false hnan)
  apply eq_of_fields_eq hneg
  · rw [hexp hxfin, hexp hyfin]
  · rw [hfrac hxnan hxfin, hfrac hynan hyfin]

theorem mem_withSign {a : Bool} {s : String} {c : Char} (h : c ∈ (withSign a s).toList) :
    c = '-' ∨ c ∈ s.toList := by
  cases a with
  | true =>
      have hlist : (withSign true s).toList = '-' :: s.toList := by simp [withSign]
      rw [hlist] at h
      exact List.mem_cons.mp h
  | false => exact Or.inr h

def wordLetters : List Char := ['N', 'a', 'I', 'n', 'f', 'i', 't', 'y']

theorem not_mem_wordLetters_of_isFinite {x : Double} (hfin : x.isFinite = true) {c : Char}
    (h : c ∈ x.plainText.toList) : c ∉ wordLetters := by
  intro hletter
  have hletters : wordLetters.all (fun c => !c.isDigit && (c != '.' && c != '-')) = true := by
    decide
  have hc := List.all_eq_true.mp hletters c hletter
  simp only [Bool.and_eq_true, Bool.not_eq_true', bne_iff_ne] at hc
  rcases hc with ⟨hdigit, hpoint, hminus⟩
  rw [plainText_of_isFinite hfin] at h
  rcases mem_withSign h with h | h
  · exact hminus h
  · rcases isDigit_or_point_of_mem_magnitudeText h with h | h
    · rw [hdigit] at h
      cases h
    · exact hpoint h

theorem N_mem_plainText_iff (x : Double) : 'N' ∈ x.plainText.toList ↔ x.isNaN = true := by
  constructor
  · intro h
    cases hnan : x.isNaN with
    | true => rfl
    | false =>
        cases hfin : x.isFinite with
        | true => exact absurd (by decide) (not_mem_wordLetters_of_isFinite hfin h)
        | false =>
            rw [plainText_of_infinite hnan hfin] at h
            rcases mem_withSign h with h | h
            · exact absurd h (by decide)
            · exact absurd h (by decide)
  · intro h
    rw [plainText_of_isNaN h]
    decide

theorem I_mem_plainText_iff {x : Double} (hnan : x.isNaN = false) :
    'I' ∈ x.plainText.toList ↔ x.isFinite = false := by
  constructor
  · intro h
    cases hfin : x.isFinite with
    | true => exact absurd (by decide) (not_mem_wordLetters_of_isFinite hfin h)
    | false => rfl
  · intro h
    rw [plainText_of_infinite hnan h]
    cases x.negative with
    | true => decide
    | false => decide

theorem isNaN_or_same_of_plainText_eq {x y : Double} (h : x.plainText = y.plainText) :
    x.isNaN = true ∧ y.isNaN = true ∨ x.same y = true := by
  have hnan : x.isNaN = y.isNaN := by
    rw [Bool.eq_iff_iff, ← N_mem_plainText_iff, ← N_mem_plainText_iff, h]
  cases hynan : y.isNaN with
  | true => exact Or.inl ⟨by rw [hnan, hynan], rfl⟩
  | false =>
      right
      rw [hynan] at hnan
      have hfin : x.isFinite = y.isFinite := by
        have hiff := I_mem_plainText_iff hnan
        rw [h, I_mem_plainText_iff hynan] at hiff
        cases hx : x.isFinite <;> cases hy : y.isFinite <;> simp_all
      cases hyfin : y.isFinite with
      | true =>
          rw [hyfin] at hfin
          exact same_of_plainText_eq_of_isFinite hfin hyfin h
      | false =>
          rw [hyfin] at hfin
          rw [plainText_of_infinite hnan hfin, plainText_of_infinite hynan hyfin] at h
          rcases withSign_split (by decide) (by decide) h with ⟨hneg, _⟩
          rw [eq_of_infinite hnan hfin hynan hyfin hneg]
          exact same_self hynan

end Double
end ShapeCheck
