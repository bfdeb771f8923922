import ShapeCheck.Reading.Record

/-!
# The steps of a reading

Strings, lists, objects and records are read in loops that come to an end because less
and less text is left.  What a loop does in one step is stated here without that reason.
-/

namespace ShapeCheck
namespace Reading

variable {s next value left final : Bytes} {b : UInt8} {first : Bool} {e : Failure}

/-!
## The first byte
-/

/-- How the first byte of a document says that the rest is read, and that it is skipped. -/
inductive Opening (b : UInt8) : Prop where
  | word (letters : List UInt8) (j : Json)
      (hread : ∀ s, startWith b s = wordScalar letters j s)
      (hskip : ∀ s, skipStartWith b s = skippedScalar (Reading.word letters s))
  | minus
      (hread : ∀ s, startWith b s = numberScalar true s)
      (hskip : ∀ s, skipStartWith b s = skippedScalar (skipNumber s))
  | digit
      (hread : ∀ s, startWith b s = numberScalar false (b :: s))
      (hskip : ∀ s, skipStartWith b s = skippedScalar (skipNumber (b :: s)))
  | quote
      (hread : ∀ s, startWith b s = textScalar s)
      (hskip : ∀ s, skipStartWith b s = skippedScalar (skipChars s))
  | list
      (hread : ∀ s, startWith b s = .ok (.list, s))
      (hskip : ∀ s, skipStartWith b s = .ok (.opened .list, s))
  | object
      (hread : ∀ s, startWith b s = .ok (.object, s))
      (hskip : ∀ s, skipStartWith b s = .ok (.opened .object, s))
  | other
      (hread : ∀ s, startWith b s = .error (.broken .expectedValue s))
      (hskip : ∀ s, skipStartWith b s = .error (.broken .expectedValue s))

theorem opening (b : UInt8) : Opening b := by
  by_cases hnull : b = 0x6E
  · subst hnull
    exact .word _ _ (fun _ => rfl) (fun _ => rfl)
  by_cases htrue : b = 0x74
  · subst htrue
    exact .word _ _ (fun _ => rfl) (fun _ => rfl)
  by_cases hfalse : b = 0x66
  · subst hfalse
    exact .word _ _ (fun _ => rfl) (fun _ => rfl)
  by_cases hminus : b = 0x2D
  · subst hminus
    exact .minus (fun _ => rfl) (fun _ => rfl)
  by_cases hquote : b = 0x22
  · subst hquote
    exact .quote (fun _ => rfl) (fun _ => rfl)
  by_cases hlist : b = 0x5B
  · subst hlist
    exact .list (fun _ => rfl) (fun _ => rfl)
  by_cases hobject : b = 0x7B
  · subst hobject
    exact .object (fun _ => rfl) (fun _ => rfl)
  by_cases hdigit : (digit? b).isSome = true
  · refine .digit (fun s => ?_) (fun s => ?_)
    · simp only [startWith, hnull, htrue, hfalse, hminus, hdigit, if_true, if_false]
    · simp only [skipStartWith, hnull, htrue, hfalse, hminus, hdigit, if_true, if_false]
  · refine .other (fun s => ?_) (fun s => ?_)
    · simp only [startWith, hnull, htrue, hfalse, hminus, hdigit, hquote, hlist, hobject,
        Bool.false_eq_true, if_false]
    · simp only [skipStartWith, hnull, htrue, hfalse, hminus, hdigit, hquote, hlist, hobject,
        Bool.false_eq_true, if_false]

/-!
## Lists and objects
-/

section Loops

variable {α : Type} {item : Reader α} {i : Nat} {name : String} {a : α}

theorem items_done (h : nextItem first s = .ok (.done next)) :
    items item first i s = .ok ([], next) := by
  rw [items]
  grind

theorem items_more (h : nextItem first s = .ok (.more next))
    (hread : item.run next = .ok (a, left)) :
    items item first i s =
      (items item false (i + 1) left).map (fun others => (a :: others.1, others.2)) := by
  rw [items]
  cases hothers : items item false (i + 1) left <;> grind [Except.map]

theorem items_refused (h : nextItem first s = .ok (.more next))
    (hread : item.run next = .error e) :
    items item first i s = .error (e.under (.index i)) := by
  rw [items]
  grind

theorem members_done (h : memberKey first s = .ok (.done next)) :
    members item first s = .ok ([], next) := by
  rw [members]
  grind

theorem members_more (h : memberKey first s = .ok (.key name next))
    (hcolon : colon next = .ok value) (hread : item.run value = .ok (a, left)) :
    members item first s =
      (members item false left).map (fun others => ((name, a) :: others.1, others.2)) := by
  rw [members]
  cases hothers : members item false left <;> grind [Except.map]

end Loops

/-!
## Records
-/

namespace RecordForm

variable {σ : Type} {form : RecordForm σ} {below : Nat} {seen : List String} {draft stored : σ}
  {name : String}

theorem fields_done (h : memberKey first s = .ok (.done next)) (hall : form.missing? seen = none) :
    form.fields below seen draft first s = .ok (draft, next) := by
  rw [fields]
  grind

theorem fields_more (h : memberKey first s = .ok (.key name next))
    (hnew : ¬ ((form.slot? name).isSome && seen.contains name) = true) (hcolon : colon next = .ok value)
    (hcontent : form.content below name draft value = .ok (stored, left)) :
    form.fields below seen draft first s =
      form.fields below (name :: seen) stored false left := by
  rw [fields]
  grind

theorem fields_refused (h : memberKey first s = .ok (.key name next))
    (hnew : ¬ ((form.slot? name).isSome && seen.contains name) = true) (hcolon : colon next = .ok value)
    (hcontent : form.content below name draft value = .error e) :
    form.fields below seen draft first s = .error e := by
  rw [fields]
  grind

end RecordForm

/-!
## Skipped documents
-/

section Skipping

variable {stack : List Bracket} {bracket : Bracket}

theorem skipInside_scalar (h : skipBlank s = b :: next)
    (hstart : skipStartWith b next = .ok (.scalar, left)) :
    skipInside stack s = skipAfter stack left := by
  rw [skipInside]
  grind

theorem skipInside_opened (h : skipBlank s = b :: next)
    (hstart : skipStartWith b next = .ok (.opened bracket, left)) :
    skipInside stack s = skipOpened bracket stack left := by
  rw [skipInside]
  grind

theorem skipOpened_closing (h : skipBlank s = bracket.closing :: next) :
    skipOpened bracket stack s = skipAfter stack next := by
  rw [skipOpened]
  grind

theorem skipOpened_content (h : skipBlank s = b :: next) (hopen : b ≠ bracket.closing)
    (hcontent : skipToContent bracket (b :: next) = .ok left) :
    skipOpened bracket stack s = skipInside (bracket :: stack) left := by
  rw [skipOpened]
  grind

theorem skipAfter_nil : skipAfter [] s = .ok s := by
  rw [skipAfter]

theorem skipAfter_comma (h : skipBlank s = 0x2C :: next)
    (hcontent : skipToContent bracket next = .ok left) :
    skipAfter (bracket :: stack) s = skipInside (bracket :: stack) left := by
  rw [skipAfter]
  grind

theorem skipAfter_closing (h : skipBlank s = bracket.closing :: next) :
    skipAfter (bracket :: stack) s = skipAfter stack next := by
  have hcomma : bracket.closing ≠ 0x2C := by
    cases bracket <;> decide
  rw [skipAfter]
  grind

end Skipping

end Reading
end ShapeCheck
