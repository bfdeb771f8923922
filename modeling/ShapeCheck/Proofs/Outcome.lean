import ShapeCheck.Compile

/-!
# Outcomes under a condition

Compilation is a chain of steps that stop at the first error.  An outcome is
described by the condition under which it is no error and by its result then; the
description of a chain follows from those of its steps.
-/

namespace ShapeCheck

variable {ε α β : Type}

/-- The outcome is `a` if the condition holds, and an error otherwise. -/
def GivesIff (x : Except ε α) (condition : Prop) (a : α) : Prop :=
  ∀ b, x = .ok b ↔ condition ∧ b = a

namespace GivesIff

theorem ok (a : α) : GivesIff (.ok a : Except ε α) True a := by
  intro b
  rw [Except.ok.injEq, true_and]
  exact eq_comm

theorem error {condition : Prop} (e : ε) (a : α) (h : ¬ condition) :
    GivesIff (.error e) condition a := by
  intro b
  constructor
  · intro hb
    cases hb
  · intro hb
    exact absurd hb.1 h

theorem congr {x : Except ε α} {p q : Prop} {a : α} (h : GivesIff x p a)
    (hpq : p ↔ q) : GivesIff x q a := by
  intro b
  rw [h b, hpq]

theorem exists_iff {x : Except ε α} {p : Prop} {a : α} (h : GivesIff x p a) :
    (∃ b, x = .ok b) ↔ p := by
  constructor
  · rintro ⟨b, hb⟩
    exact ((h b).mp hb).1
  · intro hp
    exact ⟨a, (h a).mpr ⟨hp, rfl⟩⟩

theorem map {x : Except ε α} {p : Prop} {a : α} (f : α → β) (h : GivesIff x p a) :
    GivesIff (x.map f) p (f a) := by
  intro b
  cases x with
  | error e =>
      refine ⟨nofun, ?_⟩
      intro hb
      cases (h a).mpr ⟨hb.1, rfl⟩
  | ok a' =>
      rcases (h a').mp rfl with ⟨hp, rfl⟩
      rw [Except.map, Except.ok.injEq]
      exact ⟨fun hb => ⟨hp, hb.symm⟩, fun hb => hb.2.symm⟩

/-- Two steps in a row: `y` is an error where `x` is one, and else what `z` is. -/
theorem andThen {x : Except ε α} {y z : Except ε β} {p q : Prop} {a : α} {b : β}
    (hx : GivesIff x p a) (hz : GivesIff z q b)
    (herror : ∀ e, x = .error e → y = .error e) (hok : x = .ok a → y = z) :
    GivesIff y (p ∧ q) b := by
  cases x with
  | error e =>
      rw [herror e rfl]
      apply error
      intro h
      cases (hx a).mpr ⟨h.1, rfl⟩
  | ok a' =>
      rcases (hx a').mp rfl with ⟨hp, rfl⟩
      rw [hok rfl]
      exact hz.congr (and_iff_right hp).symm

theorem guarded {p : Prop} {x : Except ε α} {a : α} (h : GivesIff x p a) (bad : Prop)
    [Decidable bad] (e : ε) :
    GivesIff (if bad then .error e else x) (¬ bad ∧ p) a := by
  by_cases hbad : bad
  · rw [if_pos hbad]
    exact error e a (fun hp => hp.1 hbad)
  · rw [if_neg hbad]
    exact h.congr (and_iff_right hbad).symm

theorem within {x : Except Shape.Violation α} {p : Prop} {a : α} (step : Shape.Step)
    (h : GivesIff x p a) : GivesIff (Shape.Violation.within step x) p a := by
  intro b
  cases x with
  | error e => exact ⟨nofun, fun hb => nomatch (h b).mpr hb⟩
  | ok a' => exact h b

end GivesIff

end ShapeCheck
