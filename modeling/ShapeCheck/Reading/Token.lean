import ShapeCheck.Reading.Number
import ShapeCheck.Reading.Quoted

/-!
# Reading what stands at the front of a text

Blanks, words, scalars, and the marks between the items of a list and the members
of an object.
-/

namespace ShapeCheck
namespace Reading

def isBlank (b : UInt8) : Bool :=
  b == 0x20 || b == 0x0A || b == 0x0D || b == 0x09

def skipBlank : Bytes → Bytes
  | [] => []
  | b :: rest => if isBlank b then skipBlank rest else b :: rest

def word : List UInt8 → Bytes → Except Failure Bytes
  | [], s => .ok s
  | _ :: _, [] => .error (.broken .endOfValue [])
  | letter :: letters, b :: rest =>
      if b = letter then word letters rest else .error (.broken .expectedWord rest)

/-- What a document starts with: all of a scalar, or an opening bracket. -/
inductive Start where
  | scalar (j : Json)
  | list
  | object

def wordScalar (letters : List UInt8) (j : Json) (s : Bytes) :
    Except Failure (Start × Bytes) :=
  match word letters s with
  | .error e => .error e
  | .ok rest => .ok (.scalar j, rest)

def numberScalar (negative : Bool) (s : Bytes) : Except Failure (Start × Bytes) :=
  match number negative s with
  | .error e => .error e
  | .ok (n, rest) => .ok (.scalar (.number n), rest)

def textScalar (s : Bytes) : Except Failure (Start × Bytes) :=
  match text s with
  | .error e => .error e
  | .ok (t, rest) => .ok (.scalar (.text t), rest)

def startWith (b : UInt8) (rest : Bytes) : Except Failure (Start × Bytes) :=
  if b = 0x6E then wordScalar [0x75, 0x6C, 0x6C] .null rest
  else if b = 0x74 then wordScalar [0x72, 0x75, 0x65] (.bool true) rest
  else if b = 0x66 then wordScalar [0x61, 0x6C, 0x73, 0x65] (.bool false) rest
  else if b = 0x2D then numberScalar true rest
  else if (digit? b).isSome then numberScalar false (b :: rest)
  else if b = 0x22 then textScalar rest
  else if b = 0x5B then .ok (.list, rest)
  else if b = 0x7B then .ok (.object, rest)
  else .error (.broken .expectedValue rest)

def start (s : Bytes) : Except Failure (Start × Bytes) :=
  match skipBlank s with
  | [] => .error (.broken .endOfValue [])
  | b :: rest => startWith b rest

/-! ## Between items and members -/

inductive Next where
  /-- the closing bracket, which is the first byte of `rest` -/
  | done (rest : Bytes)
  /-- an item, or a key without its opening quote -/
  | more (rest : Bytes)

def nextItem (first : Bool) (s : Bytes) : Except Failure Next :=
  match skipBlank s with
  | [] => .error (.broken .endOfList [])
  | b :: rest =>
      if b = 0x5D then .ok (.done (b :: rest))
      else if first then .ok (.more (b :: rest))
      else if b = 0x2C then
        match skipBlank rest with
        | [] => .error (.broken .endOfValue [])
        | c :: more =>
            if c = 0x5D then .error (.broken .trailingComma more)
            else .ok (.more (c :: more))
      else .error (.broken .expectedListEnd rest)

def nextKey (first : Bool) (s : Bytes) : Except Failure Next :=
  match skipBlank s with
  | [] => .error (.broken .endOfObject [])
  | b :: rest =>
      if b = 0x7D then .ok (.done (b :: rest))
      else if first then
        if b = 0x22 then .ok (.more rest) else .error (.broken .keyNotString rest)
      else if b = 0x2C then
        match skipBlank rest with
        | [] => .error (.broken .endOfValue [])
        | c :: more =>
            if c = 0x22 then .ok (.more more)
            else if c = 0x7D then .error (.broken .trailingComma more)
            else .error (.broken .keyNotString more)
      else .error (.broken .expectedObjectEnd rest)

def colon (s : Bytes) : Except Failure Bytes :=
  match skipBlank s with
  | [] => .error (.broken .endOfObject [])
  | b :: rest =>
      if b = 0x3A then .ok rest else .error (.broken .expectedColon rest)

inductive Key where
  | done (rest : Bytes)
  | key (name : String) (rest : Bytes)

def memberKey (first : Bool) (s : Bytes) : Except Failure Key :=
  match nextKey first s with
  | .error e => .error (e.under .unknown)
  | .ok (.done rest) => .ok (.done rest)
  | .ok (.more rest) =>
      match text rest with
      | .error e => .error (e.under .unknown)
      | .ok (name, left) => .ok (.key name left)

/-! ## What is left is shorter -/

theorem length_skipBlank_le (s : Bytes) : (skipBlank s).length ≤ s.length := by
  induction s with
  | nil => exact Nat.le_refl _
  | cons b rest ih =>
      rw [skipBlank]
      split
      · exact Nat.le_succ_of_le ih
      · exact Nat.le_refl _

theorem length_lt_of_skipBlank {s rest : Bytes} {b : UInt8}
    (h : skipBlank s = b :: rest) : rest.length < s.length := by
  have := length_skipBlank_le s
  rw [h] at this
  exact this

theorem length_word_le {letters : List UInt8} {s rest : Bytes}
    (h : word letters s = .ok rest) : rest.length ≤ s.length := by
  induction letters generalizing s with
  | nil =>
      cases h
      exact Nat.le_refl _
  | cons letter letters ih =>
      cases s with
      | nil => cases h
      | cons b tail =>
          rw [word] at h
          split at h
          · exact Nat.le_succ_of_le (ih h)
          · cases h

theorem length_wordScalar_le {letters : List UInt8} {j : Json} {s rest : Bytes}
    {a : Start} (h : wordScalar letters j s = .ok (a, rest)) :
    rest.length ≤ s.length := by
  unfold wordScalar at h
  split at h
  · cases h
  · rename_i hw
    cases h
    exact length_word_le hw

theorem length_numberScalar_lt {negative : Bool} {s rest : Bytes} {a : Start}
    (h : numberScalar negative s = .ok (a, rest)) : rest.length < s.length := by
  unfold numberScalar at h
  split at h
  · cases h
  · rename_i hn
    cases h
    exact length_number_lt hn

theorem length_textScalar_lt {s rest : Bytes} {a : Start}
    (h : textScalar s = .ok (a, rest)) : rest.length < s.length := by
  unfold textScalar at h
  split at h
  · cases h
  · rename_i ht
    cases h
    exact length_text_lt ht

theorem length_startWith_le {b : UInt8} {s rest : Bytes} {a : Start}
    (h : startWith b s = .ok (a, rest)) : rest.length ≤ s.length := by
  unfold startWith at h
  repeat' split at h
  · exact length_wordScalar_le h
  · exact length_wordScalar_le h
  · exact length_wordScalar_le h
  · exact Nat.le_of_lt (length_numberScalar_lt h)
  · exact Nat.le_of_lt_succ (length_numberScalar_lt h)
  · exact Nat.le_of_lt (length_textScalar_lt h)
  · cases h
    exact Nat.le_refl _
  · cases h
    exact Nat.le_refl _
  · cases h

theorem length_start_lt {s rest : Bytes} {a : Start}
    (h : start s = .ok (a, rest)) : rest.length < s.length := by
  unfold start at h
  split at h
  · cases h
  · rename_i hs
    exact Nat.lt_of_le_of_lt (length_startWith_le h) (length_lt_of_skipBlank hs)

theorem length_nextItem_done_le {first : Bool} {s rest : Bytes}
    (h : nextItem first s = .ok (.done rest)) : rest.length ≤ s.length := by
  unfold nextItem at h
  have hs := length_skipBlank_le s
  split at h
  · cases h
  · rename_i heq
    rw [heq] at hs
    repeat' split at h
    all_goals cases h
    exact hs

theorem length_nextItem_more_le {first : Bool} {s rest : Bytes}
    (h : nextItem first s = .ok (.more rest)) : rest.length ≤ s.length := by
  unfold nextItem at h
  have hs := length_skipBlank_le s
  split at h
  · cases h
  · rename_i b tail heq
    rw [heq] at hs
    repeat' split at h
    · cases h
    · cases h
      exact hs
    · cases h
    · cases h
    · rename_i hc _
      cases h
      have := length_skipBlank_le tail
      rw [hc] at this
      exact Nat.le_trans this (Nat.le_of_lt hs)
    · cases h

theorem length_nextKey_done_le {first : Bool} {s rest : Bytes}
    (h : nextKey first s = .ok (.done rest)) : rest.length ≤ s.length := by
  unfold nextKey at h
  have hs := length_skipBlank_le s
  split at h
  · cases h
  · rename_i heq
    rw [heq] at hs
    repeat' split at h
    all_goals cases h
    exact hs

theorem length_nextKey_more_lt {first : Bool} {s rest : Bytes}
    (h : nextKey first s = .ok (.more rest)) : rest.length < s.length := by
  unfold nextKey at h
  split at h
  · cases h
  · rename_i b tail heq
    have hs := length_lt_of_skipBlank heq
    repeat' split at h
    · cases h
    · cases h
      exact hs
    · cases h
    · cases h
    · rename_i hc _
      cases h
      exact Nat.lt_trans (length_lt_of_skipBlank hc) hs
    · cases h
    · cases h
    · cases h

theorem length_colon_lt {s rest : Bytes} (h : colon s = .ok rest) :
    rest.length < s.length := by
  unfold colon at h
  split at h
  · cases h
  · rename_i heq
    have hs := length_lt_of_skipBlank heq
    split at h
    · cases h
      exact hs
    · cases h

theorem length_memberKey_done_le {first : Bool} {s rest : Bytes}
    (h : memberKey first s = .ok (.done rest)) : rest.length ≤ s.length := by
  unfold memberKey at h
  split at h
  · cases h
  · rename_i hd
    cases h
    exact length_nextKey_done_le hd
  · split at h <;> cases h

theorem length_memberKey_key_lt {first : Bool} {s rest : Bytes} {name : String}
    (h : memberKey first s = .ok (.key name rest)) : rest.length < s.length := by
  unfold memberKey at h
  split at h
  · cases h
  · cases h
  · rename_i hm
    split at h
    · cases h
    · rename_i ht
      cases h
      exact Nat.lt_trans (length_text_lt ht) (length_nextKey_more_lt hm)

end Reading
end ShapeCheck
