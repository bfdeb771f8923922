import Mathlib.Tactic.SplitIfs
import ShapeCheck.Proofs.QuotedReading
import ShapeCheck.Proofs.ReadingSteps

/-!
# Tokens of a longer text

Text that is added behind what is read does not change it.  Words, strings and marks show
their own end.  A number ends at the first byte that is no part of it, so it has to be
followed by such a byte before text may be added.
-/

namespace ShapeCheck

theorem Utf8.decode?_append {s rest : Bytes} {c : Char} (h : decode? s = some (c, rest))
    (more : Bytes) : decode? (s ++ more) = some (c, rest ++ more) := by
  have hcharacter : ∀ {least n : Nat} {left : Bytes}, character? least n left = some (c, rest) →
      character? least n (left ++ more) = some (c, rest ++ more) := by
    intro least n left hc
    unfold character? at hc ⊢
    split at hc
    · rename_i hvalid
      cases hc
      rw [if_pos hvalid]
    · cases hc
  cases s with
  | nil => cases h
  | cons b tail =>
      -- The lead byte tells how many bytes are looked at; all of them are there.
      simp only [List.cons_append, decode?] at h ⊢
      by_cases h1 : b.toNat < 0x80
      · rw [if_pos h1] at h ⊢
        cases h
        rfl
      rw [if_neg h1] at h ⊢
      by_cases h2 : b.toNat < 0xC0
      · rw [if_pos h2] at h
        cases h
      rw [if_neg h2] at h ⊢
      by_cases h3 : b.toNat < 0xE0
      · rw [if_pos h3] at h ⊢
        rcases tail with _ | ⟨b1, left⟩
        · cases h
        · simp only [List.cons_append] at h ⊢
          split at h
          · exact hcharacter h
          · cases h
      rw [if_neg h3] at h ⊢
      by_cases h4 : b.toNat < 0xF0
      · rw [if_pos h4] at h ⊢
        rcases tail with _ | ⟨b1, _ | ⟨b2, left⟩⟩
        · cases h
        · cases h
        · simp only [List.cons_append] at h ⊢
          split at h
          · exact hcharacter h
          · cases h
      rw [if_neg h4] at h ⊢
      by_cases h5 : b.toNat < 0xF8
      · rw [if_pos h5] at h ⊢
        rcases tail with _ | ⟨b1, _ | ⟨b2, _ | ⟨b3, left⟩⟩⟩
        · cases h
        · cases h
        · cases h
        · simp only [List.cons_append] at h ⊢
          split at h
          · exact hcharacter h
          · cases h
      · rw [if_neg h5] at h
        cases h

namespace Reading

variable {α β : Type}

/-- Text may be added behind a part that stays unread. -/
def Steady (run : Bytes → Except Failure (α × Bytes)) : Prop :=
  ∀ ⦃s rest : Bytes⦄ ⦃a : α⦄, run s = .ok (a, rest) → rest ≠ [] →
    ∀ more, run (s ++ more) = .ok (a, rest ++ more)

/-- Text may be added even if everything is read. -/
def Closed (run : Bytes → Except Failure (α × Bytes)) : Prop :=
  ∀ ⦃s rest : Bytes⦄ ⦃a : α⦄, run s = .ok (a, rest) →
    ∀ more, run (s ++ more) = .ok (a, rest ++ more)

theorem Closed.steady {run : Bytes → Except Failure (α × Bytes)} (h : Closed run) :
    Steady run :=
  fun _ _ _ hrun _ more => h hrun more

/-!
## Blanks and words
-/

theorem skipBlank_append {s rest : Bytes} {b : UInt8} (h : skipBlank s = b :: rest)
    (more : Bytes) : skipBlank (s ++ more) = b :: (rest ++ more) := by
  induction s with
  | nil => cases h
  | cons c tail ih =>
      rw [skipBlank] at h
      rw [List.cons_append, skipBlank]
      split at h
      · rename_i hblank
        rw [if_pos hblank]
        exact ih h
      · rename_i hblank
        cases h
        rw [if_neg hblank]

theorem word_append {letters : List UInt8} {s rest : Bytes} (h : word letters s = .ok rest)
    (more : Bytes) : word letters (s ++ more) = .ok (rest ++ more) := by
  induction letters generalizing s with
  | nil =>
      cases h
      rfl
  | cons letter letters ih =>
      cases s with
      | nil => cases h
      | cons b tail =>
          rw [word] at h
          rw [List.cons_append, word]
          split at h
          · rename_i hb
            rw [if_pos hb]
            exact ih h
          · cases h

/-!
## Numbers
-/

theorem takeDigits_append {s : Bytes} (h : (takeDigits s).2 ≠ []) (more : Bytes) :
    takeDigits (s ++ more) = ((takeDigits s).1, (takeDigits s).2 ++ more) := by
  induction s with
  | nil => exact absurd rfl h
  | cons b tail ih =>
      rw [takeDigits] at h
      rw [List.cons_append, takeDigits, takeDigits]
      cases hdigit : digit? b with
      | none => rfl
      | some d =>
          rw [hdigit] at h
          rw [ih h]

theorem wholePart_steady : Steady wholePart := by
  intro s rest digits h hrest more
  cases s with
  | nil => cases h
  | cons b tail =>
      simp only [List.cons_append, wholePart] at h ⊢
      split at h
      · cases h
      · split at h
        · split at h
          · rename_i next left hnext
            split at h
            · cases h
            · rename_i hdigit
              cases h
              rw [if_pos ‹_›]
              simp only [List.cons_append, if_neg hdigit]
          · cases h
            exact absurd rfl hrest
        · cases h
          rename_i hzero
          rw [if_neg hzero, takeDigits_append hrest]

theorem fractionPart_steady : Steady fractionPart := by
  intro s rest digits h hrest more
  cases s with
  | nil =>
      cases h
      exact absurd rfl hrest
  | cons b tail =>
      rw [fractionPart] at h
      rw [List.cons_append, fractionPart]
      split at h
      · rename_i hpoint
        rw [if_pos hpoint]
        split at h
        · cases h
        · cases h
        · rename_i ds left hnil hnone hdigits
          cases h
          have hlong := takeDigits_append (s := tail) (by rwa [hdigits]) more
          rw [hdigits] at hlong
          rw [hlong]
          cases ds with
          | nil =>
              cases rest with
              | nil => exact absurd rfl hrest
              | cons c left => exact absurd rfl (hnone c left rfl)
          | cons d ds => rfl
      · rename_i hpoint
        cases h
        rw [if_neg hpoint]
        rfl

theorem exponentDigits_steady (fatal : Bool) (n : Nat) : Steady (exponentDigits fatal n) := by
  intro s
  induction s generalizing n with
  | nil =>
      intro rest m h hrest
      cases h
      exact absurd rfl hrest
  | cons b tail ih =>
      intro rest m h hrest more
      rw [exponentDigits] at h
      rw [List.cons_append, exponentDigits]
      split at h
      · cases h
        rfl
      · split at h
        · rename_i hle
          rw [if_pos hle]
          exact ih _ h hrest more
        · rename_i hle
          rw [if_neg hle]
          split at h
          · cases h
          · rename_i hfatal
            rw [if_neg hfatal]
            exact ih _ h hrest more

theorem exponentSign_append {s left : Bytes} {negative : Bool} {b : UInt8}
    (h : exponentSign s = (negative, b :: left)) (more : Bytes) :
    exponentSign (s ++ more) = (negative, b :: (left ++ more)) := by
  cases s with
  | nil => cases h
  | cons c tail =>
      rw [exponentSign] at h
      rw [List.cons_append, exponentSign]
      repeat' split at h
      · rename_i hplus
        cases h
        rw [if_pos hplus]
        rfl
      · rename_i hplus hminus
        cases h
        rw [if_neg hplus, if_pos hminus]
        rfl
      · rename_i hplus hminus
        cases h
        rw [if_neg hplus, if_neg hminus]

theorem exponentPart_steady (zero : Bool) : Steady (exponentPart zero) := by
  intro s rest n h hrest more
  cases s with
  | nil =>
      cases h
      exact absurd rfl hrest
  | cons b tail =>
      rw [exponentPart] at h
      rw [List.cons_append, exponentPart]
      split at h
      · rename_i hletter
        rw [if_pos hletter]
        split at h
        · cases h
        · rename_i negative first left hsign
          rw [exponentSign_append hsign]
          dsimp only
          split at h
          · cases h
          · split at h
            · cases h
            · rename_i m final hdigits
              cases h
              rw [exponentDigits_steady _ _ hdigits hrest more]
      · rename_i hletter
        cases h
        rw [if_neg hletter]
        rfl

theorem checkRange_append {n m : Json.Number} {s rest : Bytes}
    (h : checkRange n s = .ok (m, rest)) (more : Bytes) :
    checkRange n (s ++ more) = .ok (m, rest ++ more) := by
  unfold checkRange at h ⊢
  split at h
  · split at h
    · rename_i hfinite
      cases h
      rw [if_pos hfinite]
    · cases h
  · cases h
    rfl

theorem ne_nil_of_length_le {s rest : Bytes} (h : rest.length ≤ s.length) (hrest : rest ≠ []) :
    s ≠ [] := by
  rintro rfl
  exact hrest (List.length_eq_zero_iff.mp (Nat.le_zero.mp h))

theorem number_steady (negative : Bool) : Steady (number negative) := by
  intro s rest n h hrest more
  unfold number at h ⊢
  split at h
  · cases h
  · rename_i whole s1 hwhole
    split at h
    · cases h
    · rename_i fraction s2 hfraction
      dsimp only at h
      split at h
      · cases h
      · rename_i exponent s3 hexponent
        -- Each part leaves at least what the next one reads.
        have h3 : s3 ≠ [] := by rwa [← rest_of_checkRange h]
        have h2 : s2 ≠ [] := ne_nil_of_length_le (length_exponentPart_le hexponent) h3
        have h1 : s1 ≠ [] := ne_nil_of_length_le (length_fractionPart_le hfraction) h2
        rw [wholePart_steady hwhole h1 more]
        dsimp only
        rw [fractionPart_steady hfraction h2 more]
        dsimp only
        rw [exponentPart_steady _ hexponent h3 more]
        exact checkRange_append h more

/-!
## Strings
-/

theorem hexQuad_closed : Closed hexQuad := by
  intro s rest n h more
  unfold hexQuad at h
  split at h
  · rename_i a b c d left
    simp only [List.cons_append, hexQuad]
    split at h
    · cases h
      rfl
    · cases h
  · cases h

theorem lowSurrogate_closed (high : Nat) : Closed (lowSurrogate high) := by
  intro s rest c h more
  unfold lowSurrogate at h
  split at h
  · cases h
  · split at h
    · rename_i hbackslash
      split at h
      · cases h
      · split at h
        · rename_i hletter
          split at h
          · cases h
          · rename_i low left hquad
            split at h
            · rename_i hlow
              simp only [Except.ok.injEq, Prod.mk.injEq] at h
              rcases h with ⟨rfl, rfl⟩
              simp only [List.cons_append, lowSurrogate]
              rw [if_pos hbackslash, if_pos hletter, hexQuad_closed hquad more]
              simp only [if_pos hlow]
            · cases h
        · cases h
    · cases h

theorem hexEscape_closed : Closed hexEscape := by
  intro s rest c h more
  unfold hexEscape at h ⊢
  split at h
  · cases h
  · rename_i n left hquad
    rw [hexQuad_closed hquad more]
    dsimp only
    repeat' split at h
    · cases h
    · rename_i hlow hhigh
      rw [if_neg hlow, if_pos hhigh]
      exact lowSurrogate_closed n h more
    · rename_i hlow hhigh
      cases h
      rw [if_neg hlow, if_neg hhigh]

theorem escaped_closed : Closed escaped := by
  intro s rest c h more
  cases s with
  | nil => cases h
  | cons letter tail =>
      rw [escaped] at h
      rw [List.cons_append, escaped]
      split at h
      · cases h
        rfl
      · split at h
        · rename_i hletter
          rw [if_pos hletter]
          exact hexEscape_closed h more
        · cases h

theorem skipEscape_append {s rest : Bytes} (h : skipEscape s = .ok rest) (more : Bytes) :
    skipEscape (s ++ more) = .ok (rest ++ more) := by
  cases s with
  | nil => cases h
  | cons letter tail =>
      rw [skipEscape] at h
      rw [List.cons_append, skipEscape]
      split at h
      · cases h
        rfl
      · split at h
        · rename_i hletter
          rw [if_pos hletter]
          cases hquad : hexQuad tail with
          | error e =>
              rw [hquad] at h
              cases h
          | ok found =>
              rw [hquad] at h
              cases h
              rw [hexQuad_closed hquad more]
              rfl
        · cases h

theorem chars_closed : Closed chars := by
  intro s rest cs h more
  fun_induction chars s generalizing cs with
  | case1 => cases h
  | case2 tail =>
      cases h
      rw [List.cons_append, chars, if_pos rfl]
  | case3 => cases h
  | case4 => cases h
  | case5 tail c left he hlt ds final hrec hne ih =>
      cases h
      exact chars_escaped (escaped_closed he more) (ih hrec)
  | case6 => cases h
  | case7 => cases h
  | case8 b tail hquote hbackslash hcontrol c left he hlt ds final hrec ih =>
      cases h
      have hlong := Utf8.decode?_append he more
      rw [List.cons_append] at hlong ⊢
      rw [chars, if_neg hquote, if_neg hbackslash, if_neg hcontrol]
      split
      · rename_i c' left' he'
        rw [hlong] at he'
        cases he'
        rw [ih hrec]
      · rename_i he'
        rw [hlong] at he'
        cases he'
  | case9 => cases h
  | case10 => cases h

theorem text_closed : Closed text := by
  intro s rest t h more
  unfold text at h ⊢
  split at h
  · cases h
  · rename_i cs left hchars
    cases h
    rw [chars_closed hchars more]

theorem skipChars_append {s rest : Bytes} (h : skipChars s = .ok rest) (more : Bytes) :
    skipChars (s ++ more) = .ok (rest ++ more) := by
  fun_induction skipChars s with
  | case1 => cases h
  | case2 tail =>
      cases h
      rw [List.cons_append, skipChars, if_pos rfl]
  | case3 => cases h
  | case4 tail left he hlt hne ih =>
      have hlong := skipEscape_append he more
      rw [List.cons_append, skipChars, if_neg hne, if_pos rfl]
      split
      · rename_i e he'
        rw [hlong] at he'
        cases he'
      · rename_i left' he'
        rw [hlong] at he'
        cases he'
        exact ih h
  | case5 => cases h
  | case6 b tail hquote hbackslash hcontrol ih =>
      rw [List.cons_append, skipChars, if_neg hquote, if_neg hbackslash, if_neg hcontrol]
      exact ih h

/-!
## The start of a document and the marks in it
-/

theorem wordScalar_closed (letters : List UInt8) (j : Json) : Closed (wordScalar letters j) := by
  intro s rest a h more
  unfold wordScalar at h ⊢
  split at h
  · cases h
  · rename_i left hword
    cases h
    rw [word_append hword more]

theorem numberScalar_steady (negative : Bool) : Steady (numberScalar negative) := by
  intro s rest a h hrest more
  unfold numberScalar at h ⊢
  split at h
  · cases h
  · rename_i n left hnumber
    cases h
    rw [number_steady negative hnumber hrest more]

theorem textScalar_closed : Closed textScalar := by
  intro s rest a h more
  unfold textScalar at h ⊢
  split at h
  · cases h
  · rename_i t left htext
    cases h
    rw [text_closed htext more]

theorem scalar_of_numberScalar {negative : Bool} {s rest : Bytes} {a : Start}
    (h : numberScalar negative s = .ok (a, rest)) : ∃ j, a = .scalar j := by
  unfold numberScalar at h
  split at h
  · cases h
  · cases h
    exact ⟨_, rfl⟩

theorem startWith_append {b : UInt8} {s rest : Bytes} {a : Start}
    (h : startWith b s = .ok (a, rest)) (hrest : rest ≠ [] ∨ ∀ j, a ≠ .scalar j) (more : Bytes) :
    startWith b (s ++ more) = .ok (a, rest ++ more) := by
  have hnumber : ∀ {negative : Bool} {digits : Bytes},
      numberScalar negative digits = .ok (a, rest) →
        numberScalar negative (digits ++ more) = .ok (a, rest ++ more) := by
    intro negative digits hread
    cases hrest with
    | inl hunread => exact numberScalar_steady negative hread hunread more
    | inr hbracket =>
        rcases scalar_of_numberScalar hread with ⟨j, hj⟩
        exact absurd hj (hbracket j)
  cases opening b with
  | word letters j hread _ =>
      rw [hread] at h ⊢
      exact wordScalar_closed letters j h more
  | minus hread _ =>
      rw [hread] at h ⊢
      exact hnumber h
  | digit hread _ =>
      rw [hread] at h ⊢
      exact hnumber h
  | quote hread _ =>
      rw [hread] at h ⊢
      exact textScalar_closed h more
  | list hread _ =>
      rw [hread] at h ⊢
      cases h
      rfl
  | object hread _ =>
      rw [hread] at h ⊢
      cases h
      rfl
  | other hread _ =>
      rw [hread] at h
      cases h

theorem start_append {s rest : Bytes} {a : Start} (h : start s = .ok (a, rest))
    (hrest : rest ≠ [] ∨ ∀ j, a ≠ .scalar j) (more : Bytes) :
    start (s ++ more) = .ok (a, rest ++ more) := by
  unfold start at h ⊢
  split at h
  · cases h
  · rename_i b left hs
    rw [skipBlank_append hs more]
    exact startWith_append h hrest more

def Next.longer (more : Bytes) : Next → Next
  | .done rest => .done (rest ++ more)
  | .more rest => .more (rest ++ more)

theorem nextItem_append {first : Bool} {s : Bytes} {next : Next}
    (h : nextItem first s = .ok next) (more : Bytes) :
    nextItem first (s ++ more) = .ok (next.longer more) := by
  unfold nextItem at h ⊢
  split at h
  · cases h
  · rename_i b left hs
    rw [skipBlank_append hs more]
    dsimp only
    split_ifs at h ⊢
    · cases h
      rfl
    · cases h
      rfl
    · split at h
      · cases h
      · rename_i c tail hc
        rw [skipBlank_append hc more]
        dsimp only
        split_ifs at h ⊢
        cases h
        rfl

theorem nextKey_append {first : Bool} {s : Bytes} {next : Next}
    (h : nextKey first s = .ok next) (more : Bytes) :
    nextKey first (s ++ more) = .ok (next.longer more) := by
  unfold nextKey at h ⊢
  split at h
  · cases h
  · rename_i b left hs
    rw [skipBlank_append hs more]
    dsimp only
    split_ifs at h ⊢
    · cases h
      rfl
    · cases h
      rfl
    · split at h
      · cases h
      · rename_i c tail hc
        rw [skipBlank_append hc more]
        dsimp only
        split_ifs at h ⊢
        cases h
        rfl

theorem colon_append {s rest : Bytes} (h : colon s = .ok rest) (more : Bytes) :
    colon (s ++ more) = .ok (rest ++ more) := by
  unfold colon at h ⊢
  split at h
  · cases h
  · rename_i b left hs
    rw [skipBlank_append hs more]
    dsimp only
    split_ifs at h ⊢
    cases h
    rfl

def Key.longer (more : Bytes) : Key → Key
  | .done rest => .done (rest ++ more)
  | .key name rest => .key name (rest ++ more)

theorem memberKey_append {first : Bool} {s : Bytes} {key : Key}
    (h : memberKey first s = .ok key) (more : Bytes) :
    memberKey first (s ++ more) = .ok (key.longer more) := by
  unfold memberKey at h ⊢
  split at h
  · cases h
  · rename_i left hnext
    cases h
    rw [nextKey_append hnext more]
    rfl
  · rename_i left hnext
    rw [nextKey_append hnext more]
    dsimp only [Next.longer]
    split at h
    · cases h
    · rename_i name after htext
      cases h
      rw [text_closed htext more]
      rfl

end Reading
end ShapeCheck
