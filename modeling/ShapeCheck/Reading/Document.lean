import ShapeCheck.Reading.Token

/-!
# Reading documents

Readers consume at least one byte when they succeed, so repeating one comes to an
end.  Arrays and objects may be nested up to a limit.
-/

namespace ShapeCheck
namespace Reading

structure Reader (α : Type) where
  run : Bytes → Except Failure (α × Bytes)
  consumes : ∀ {s rest : Bytes} {a : α}, run s = .ok (a, rest) → rest.length < s.length

/-- Read items up to the closing bracket, which stays; the first of them is `i`
places from the start of the list. -/
def items {α : Type} (item : Reader α) (first : Bool) (i : Nat) (s : Bytes) :
    Except Failure (List α × Bytes) :=
  match hnext : nextItem first s with
  | .error e => .error e
  | .ok (.done rest) => .ok ([], rest)
  | .ok (.more rest) =>
      match hitem : item.run rest with
      | .error e => .error (e.under (.index i))
      | .ok (a, left) =>
          have := item.consumes hitem
          have := length_nextItem_more_le hnext
          match items item false (i + 1) left with
          | .error e => .error e
          | .ok (as, final) => .ok (a :: as, final)
termination_by s.length
decreasing_by omega

def members {α : Type} (item : Reader α) (first : Bool) (s : Bytes) :
    Except Failure (List (String × α) × Bytes) :=
  match hkey : memberKey first s with
  | .error e => .error e
  | .ok (.done rest) => .ok ([], rest)
  | .ok (.key name rest) =>
      match hcolon : colon rest with
      | .error e => .error e
      | .ok value =>
          match hitem : item.run value with
          | .error e => .error (e.under (.key name))
          | .ok (a, left) =>
              have := item.consumes hitem
              have := length_colon_lt hcolon
              have := length_memberKey_key_lt hkey
              match members item false left with
              | .error e => .error e
              | .ok (as, final) => .ok ((name, a) :: as, final)
termination_by s.length
decreasing_by omega

theorem length_items_le {α : Type} {item : Reader α} {first : Bool} {i : Nat}
    {s rest : Bytes} {as : List α} (h : items item first i s = .ok (as, rest)) :
    rest.length ≤ s.length := by
  fun_induction items item first i s generalizing as with
  | case1 => cases h
  | case2 first i s left hd =>
      cases h
      exact length_nextItem_done_le hd
  | case3 => cases h
  | case4 => cases h
  | case5 first i s next hnext a left hitem hlt hle bs final hrec ih =>
      cases h
      have := ih hrec
      omega

theorem length_members_le {α : Type} {item : Reader α} {first : Bool}
    {s rest : Bytes} {as : List (String × α)}
    (h : members item first s = .ok (as, rest)) : rest.length ≤ s.length := by
  fun_induction members item first s generalizing as with
  | case1 => cases h
  | case2 first s left hd =>
      cases h
      exact length_memberKey_done_le hd
  | case3 => cases h
  | case4 => cases h
  | case5 => cases h
  | case6 first s name next hkey value hcolon a left hitem h1 h2 h3 bs final hrec ih =>
      cases h
      have := ih hrec
      omega

/-- Read a document.  `inner` reads what is nested in it; without it nothing may
be. -/
def document (inner : Option (Reader Json)) (s : Bytes) :
    Except Failure (Json × Bytes) :=
  match start s with
  | .error e => .error e
  | .ok (.scalar j, rest) => .ok (j, rest)
  | .ok (.list, rest) =>
      match inner with
      | none => .error (.broken .tooDeep rest)
      | some item =>
          match items item true 0 rest with
          | .error e => .error e
          | .ok (as, left) => .ok (.array as, left.tail)
  | .ok (.object, rest) =>
      match inner with
      | none => .error (.broken .tooDeep rest)
      | some item =>
          match members item true rest with
          | .error e => .error e
          | .ok (as, left) => .ok (.object (Entries.ofList as), left.tail)

theorem length_document_lt {inner : Option (Reader Json)} {s rest : Bytes} {j : Json}
    (h : document inner s = .ok (j, rest)) : rest.length < s.length := by
  unfold document at h
  split at h
  · cases h
  · rename_i hs
    cases h
    exact length_start_lt hs
  · rename_i hs
    have := length_start_lt hs
    split at h
    · cases h
    · split at h
      · cases h
      · rename_i hi
        have := length_items_le hi
        cases h
        rw [List.length_tail]
        omega
  · rename_i hs
    have := length_start_lt hs
    split at h
    · cases h
    · split at h
      · cases h
      · rename_i hm
        have := length_members_le hm
        cases h
        rw [List.length_tail]
        omega

/-- A reader of documents in which arrays and objects nest at most `depth` deep. -/
def value : (depth : Nat) → Reader Json
  | 0 => ⟨document none, length_document_lt⟩
  | depth + 1 => ⟨document (some (value depth)), length_document_lt⟩

def maxNesting : Nat := 127

def whole (text : Bytes) : Except Failure Json :=
  match (value maxNesting).run text with
  | .error e => .error e
  | .ok (j, rest) =>
      match skipBlank rest with
      | [] => .ok j
      | _ :: more => .error (.broken .trailingCharacters more)

end Reading

def Json.ofText (text : String) : Except Reading.Report Json :=
  let bytes := Utf8.encode text
  (Reading.whole bytes).mapError (fun e => e.report bytes)

end ShapeCheck
