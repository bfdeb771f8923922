import ShapeCheck.Reading.Document
import ShapeCheck.Reading.Skip
import ShapeCheck.Shape.Decode

/-!
# Reading texts, lists and records

Documents of a known form are read straight from the text, so that what does not
fit is reported at its place.  A record is written as an object, whose unknown
members are skipped, or as a list of its fields in order.
-/

namespace ShapeCheck
namespace Reading

def unwanted (wanted : Json.Wanted) : Start × Bytes → Failure
  | (.scalar j, rest) => .misfit (.wrongType j.found wanted) rest
  | (.list, rest) => .misfit (.wrongType .sequence wanted) (0x5B :: rest)
  | (.object, rest) => .misfit (.wrongType .map wanted) (0x7B :: rest)

/-! ## Texts -/

def stringRun (s : Bytes) : Except Failure (String × Bytes) :=
  match start s with
  | .error e => .error e
  | .ok (.scalar (.text t), rest) => .ok (t, rest)
  | .ok other => .error (unwanted .string other)

def string : Reader String where
  run := stringRun
  consumes := by
    intro s rest t h
    unfold stringRun at h
    split at h
    · cases h
    · rename_i hs
      cases h
      exact length_start_lt hs
    · cases h

/-! ## Optional documents -/

def optionalRun {α : Type} (inner : Reader α) (s : Bytes) :
    Except Failure (Option α × Bytes) :=
  let present : Except Failure (Option α × Bytes) :=
    match inner.run s with
    | .error e => .error e
    | .ok (a, rest) => .ok (some a, rest)
  match skipBlank s with
  | [] => present
  | b :: rest =>
      if b = 0x6E then
        match word [0x75, 0x6C, 0x6C] rest with
        | .error e => .error e
        | .ok left => .ok (none, left)
      else present

def optional {α : Type} (inner : Reader α) : Reader (Option α) where
  run := optionalRun inner
  consumes := by
    intro s rest a h
    have hpresent : ∀ {r : Bytes} {x : Option α},
        (match inner.run s with
          | .error e => Except.error e
          | .ok (a, rest) => Except.ok (some a, rest)) = .ok (x, r) →
          r.length < s.length := by
      intro r x hp
      split at hp
      · cases hp
      · rename_i hi
        cases hp
        exact inner.consumes hi
    unfold optionalRun at h
    simp only at h
    split at h
    · exact hpresent h
    · rename_i hs
      have := length_lt_of_skipBlank hs
      split at h
      · split at h
        · cases h
        · rename_i hw
          have := length_word_le hw
          cases h
          omega
      · exact hpresent h

/-! ## Lists -/

/-- The text left when the reader leaves a list after a failure: the closing
bracket is taken, or a comma and the blanks after it. -/
def leaveList (s : Bytes) : Bytes :=
  match skipBlank s with
  | [] => []
  | b :: rest =>
      if b = 0x5D then rest
      else if b = 0x2C then skipBlank rest
      else b :: rest

def leaveObject (s : Bytes) : Bytes :=
  match skipBlank s with
  | [] => []
  | b :: rest => if b = 0x7D then rest else b :: rest

def listRun {α : Type} (item : Nat → Reader α) (depth : Nat) (s : Bytes) :
    Except Failure (List α × Bytes) :=
  match start s with
  | .error e => .error e
  | .ok (.list, rest) =>
      match depth with
      | 0 => .error (.broken .tooDeep rest)
      | below + 1 =>
          match items (item below) true 0 rest with
          | .error e => .error (e.settle leaveList)
          | .ok (as, left) => .ok (as, left.tail)
  | .ok other => .error (unwanted .sequence other)

/-- A reader of lists where `depth` levels of nesting are left. -/
def list {α : Type} (item : Nat → Reader α) (depth : Nat) : Reader (List α) where
  run := listRun item depth
  consumes := by
    intro s rest as h
    unfold listRun at h
    split at h
    · cases h
    · rename_i hs
      have := length_start_lt hs
      split at h
      · cases h
      · split at h
        · cases h
        · rename_i hi
          have := length_items_le hi
          cases h
          rw [List.length_tail]
          omega
    · cases h

/-! ## Records -/

structure Slot (σ : Type) where
  name : String
  /-- whether the record needs the field -/
  required : Bool
  /-- read the content, where some levels of nesting are left, and store it -/
  content : Nat → Reader (σ → σ)

structure RecordForm (σ : Type) where
  title : String
  /-- the record before anything is read -/
  blank : σ
  slots : List (Slot σ)

namespace RecordForm

variable {σ : Type}

def missing? (form : RecordForm σ) (seen : List String) : Option String :=
  (form.slots.find? (fun slot => slot.required && !seen.contains slot.name)).map Slot.name

def slot? (form : RecordForm σ) (name : String) : Option (Slot σ) :=
  form.slots.find? (fun slot => slot.name == name)

def content (form : RecordForm σ) (below : Nat) (name : String) (draft : σ)
    (s : Bytes) : Except Failure (σ × Bytes) :=
  match form.slot? name with
  | some slot =>
      match (slot.content below).run s with
      | .error e => .error (e.under (.key name))
      | .ok (store, rest) => .ok (store draft, rest)
  | none =>
      match skip s with
      | .error e => .error (e.under (.key name))
      | .ok rest => .ok (draft, rest)

theorem length_content_lt {form : RecordForm σ} {below : Nat} {name : String}
    {draft next : σ} {s rest : Bytes}
    (h : form.content below name draft s = .ok (next, rest)) :
    rest.length < s.length := by
  unfold content at h
  split at h
  · rename_i slot _
    split at h
    · cases h
    · rename_i hr
      cases h
      exact (slot.content below).consumes hr
  · split at h
    · cases h
    · rename_i hs
      cases h
      exact length_skip_lt hs

/-- Read the members of a record up to the closing bracket, which stays. -/
def fields (form : RecordForm σ) (below : Nat) (seen : List String) (draft : σ)
    (first : Bool) (s : Bytes) : Except Failure (σ × Bytes) :=
  match hkey : memberKey first s with
  | .error e => .error e
  | .ok (.done rest) =>
      match form.missing? seen with
      | some name => .error (.misfitWhole (.missingField name) rest)
      | none => .ok (draft, rest)
  | .ok (.key name rest) =>
      if (form.slot? name).isSome && seen.contains name then
        .error (.misfitWhole (.duplicateField name) rest)
      else
        match hcolon : colon rest with
        | .error e => .error e
        | .ok value =>
            match hcontent : form.content below name draft value with
            | .error e => .error e
            | .ok (next, left) =>
                have := length_content_lt hcontent
                have := length_colon_lt hcolon
                have := length_memberKey_key_lt hkey
                form.fields below (name :: seen) next false left
termination_by s.length
decreasing_by omega

theorem length_fields_le {form : RecordForm σ} {below : Nat} {seen : List String}
    {draft final : σ} {first : Bool} {s rest : Bytes}
    (h : form.fields below seen draft first s = .ok (final, rest)) :
    rest.length ≤ s.length := by
  fun_induction fields form below seen draft first s with
  | case1 => cases h
  | case2 => cases h
  | case3 seen draft first s left hkey hmissing =>
      cases h
      exact length_memberKey_done_le hkey
  | case4 => cases h
  | case5 => cases h
  | case6 => cases h
  | case7 seen draft first s name next hkey hdup value hcolon store left hcontent h1 h2 h3 ih =>
      have := ih h
      omega

/-- Read the fields of a record from a list, the first of them `i` places from its
start.  A field that the record does not need may be absent. -/
def places (form : RecordForm σ) (below : Nat) (i : Nat) (draft : σ) (first : Bool)
    (slots : List (Slot σ)) (s : Bytes) : Except Failure (σ × Bytes) :=
  match slots with
  | [] => .ok (draft, s)
  | slot :: more =>
      match nextItem first s with
      | .error e => .error e
      | .ok (.done rest) =>
          if slot.required then
            .error (.misfitWhole (.tooShort i form.title form.slots.length) rest)
          else form.places below (i + 1) draft first more rest
      | .ok (.more rest) =>
          match (slot.content below).run rest with
          | .error e => .error (e.under (.index i))
          | .ok (store, left) => form.places below (i + 1) (store draft) false more left

theorem length_places_le {form : RecordForm σ} {below : Nat} {i : Nat}
    {draft final : σ} {first : Bool} {slots : List (Slot σ)} {s rest : Bytes}
    (h : form.places below i draft first slots s = .ok (final, rest)) :
    rest.length ≤ s.length := by
  induction slots generalizing i draft first s with
  | nil =>
      cases h
      exact Nat.le_refl _
  | cons slot more ih =>
      rw [places] at h
      split at h
      · cases h
      · rename_i hd
        have := length_nextItem_done_le hd
        split at h
        · cases h
        · exact Nat.le_trans (ih h) this
      · rename_i hm
        have := length_nextItem_more_le hm
        split at h
        · cases h
        · rename_i hr
          have := (slot.content below).consumes hr
          have := ih h
          omega

def closeList (s : Bytes) : Except Failure Bytes :=
  match skipBlank s with
  | [] => .error (.broken .endOfList [])
  | b :: rest =>
      if b = 0x5D then .ok rest
      else if b = 0x2C then
        match skipBlank rest with
        | [] => .error (.broken .trailingCharacters [])
        | c :: more =>
            if c = 0x5D then .error (.broken .trailingComma more)
            else .error (.broken .trailingCharacters more)
      else .error (.broken .trailingCharacters rest)

theorem length_closeList_lt {s rest : Bytes} (h : closeList s = .ok rest) :
    rest.length < s.length := by
  unfold closeList at h
  split at h
  · cases h
  · rename_i hs
    have := length_lt_of_skipBlank hs
    repeat' split at h
    all_goals cases h
    exact this

def readRun (form : RecordForm σ) (depth : Nat) (s : Bytes) :
    Except Failure (σ × Bytes) :=
  match start s with
  | .error e => .error e
  | .ok (.scalar j, rest) =>
      .error (unwanted (.record form.title) (.scalar j, rest))
  | .ok (.list, rest) =>
      match depth with
      | 0 => .error (.broken .tooDeep rest)
      | below + 1 =>
          match form.places below 0 form.blank true form.slots rest with
          | .error e => .error (e.settle leaveList)
          | .ok (final, left) =>
              match closeList left with
              | .error e => .error e
              | .ok after => .ok (final, after)
  | .ok (.object, rest) =>
      match depth with
      | 0 => .error (.broken .tooDeep rest)
      | below + 1 =>
          match form.fields below [] form.blank true rest with
          | .error e => .error (e.settle leaveObject)
          | .ok (final, left) => .ok (final, left.tail)

def read (form : RecordForm σ) (depth : Nat) : Reader σ where
  run := form.readRun depth
  consumes := by
    intro s rest final h
    unfold readRun at h
    split at h
    · cases h
    · cases h
    · rename_i hs
      have := length_start_lt hs
      split at h
      · cases h
      · split at h
        · cases h
        · rename_i hp
          have := length_places_le hp
          split at h
          · cases h
          · rename_i hc
            have := length_closeList_lt hc
            cases h
            omega
    · rename_i hs
      have := length_start_lt hs
      split at h
      · cases h
      · split at h
        · cases h
        · rename_i hf
          have := length_fields_le hf
          cases h
          rw [List.length_tail]
          omega

end RecordForm

/-! ## Storing contents -/

def Reader.map {α β : Type} (f : α → β) (r : Reader α) : Reader β where
  run s :=
    match r.run s with
    | .error e => .error e
    | .ok (a, rest) => .ok (f a, rest)
  consumes := by
    intro s rest b h
    split at h
    · cases h
    · rename_i hr
      cases h
      exact r.consumes hr

/-! ## Shapes -/

def shapeRun (depth : Nat) (s : Bytes) : Except Failure (Shape × Bytes) :=
  match (value depth).run s with
  | .error e => .error e
  | .ok (j, rest) =>
      match Shape.ofJson j with
      | .error e => .error ⟨[], .shape e, rest, false⟩
      | .ok shape => .ok (shape, rest)

/-- A reader of shapes where `depth` levels of nesting are left.  What is wrong
with a shape belongs to the record that holds it. -/
def shape (depth : Nat) : Reader Shape where
  run := shapeRun depth
  consumes := by
    intro s rest a h
    unfold shapeRun at h
    split at h
    · cases h
    · rename_i hv
      split at h
      · cases h
      · cases h
        exact (value depth).consumes hv

/-- Read what stands at the front of a text; the rest is not looked at. -/
def front {α : Type} (reader : Nat → Reader α) (text : Bytes) : Except Report α :=
  match (reader maxNesting).run text with
  | .error e => .error (e.report text)
  | .ok (a, _) => .ok a

end Reading
end ShapeCheck
