/-!
# Characters as bytes

The encoding of characters in one to four bytes, and the reading of one character
from the front of a list of bytes.  Only shortest forms of proper characters are
read.
-/

namespace ShapeCheck

abbrev Bytes := List UInt8

namespace Utf8

def encodeChar (c : Char) : Bytes :=
  let n := c.toNat
  if n < 0x80 then [UInt8.ofNat n]
  else if n < 0x800 then [UInt8.ofNat (0xC0 + n / 64), UInt8.ofNat (0x80 + n % 64)]
  else if n < 0x10000 then
    [UInt8.ofNat (0xE0 + n / 4096), UInt8.ofNat (0x80 + n / 64 % 64),
      UInt8.ofNat (0x80 + n % 64)]
  else
    [UInt8.ofNat (0xF0 + n / 262144), UInt8.ofNat (0x80 + n / 4096 % 64),
      UInt8.ofNat (0x80 + n / 64 % 64), UInt8.ofNat (0x80 + n % 64)]

def encodeList (cs : List Char) : Bytes := cs.flatMap encodeChar

def encode (text : String) : Bytes := encodeList text.toList

def continuation? (b : UInt8) : Option Nat :=
  if 0x80 ≤ b.toNat ∧ b.toNat < 0xC0 then some (b.toNat - 0x80) else none

/-- The character of a code point that is at least `least`, before `rest`. -/
def character? (least n : Nat) (rest : Bytes) : Option (Char × Bytes) :=
  if least ≤ n ∧ n.isValidChar then some (Char.ofNat n, rest) else none

def decode? : Bytes → Option (Char × Bytes)
  | [] => none
  | b :: rest =>
      let lead := b.toNat
      if lead < 0x80 then some (Char.ofNat lead, rest)
      else if lead < 0xC0 then none
      else if lead < 0xE0 then
        match rest with
        | b1 :: more =>
            match continuation? b1 with
            | some x1 => character? 0x80 ((lead - 0xC0) * 64 + x1) more
            | none => none
        | _ => none
      else if lead < 0xF0 then
        match rest with
        | b1 :: b2 :: more =>
            match continuation? b1, continuation? b2 with
            | some x1, some x2 =>
                character? 0x800 ((lead - 0xE0) * 4096 + x1 * 64 + x2) more
            | _, _ => none
        | _ => none
      else if lead < 0xF8 then
        match rest with
        | b1 :: b2 :: b3 :: more =>
            match continuation? b1, continuation? b2, continuation? b3 with
            | some x1, some x2, some x3 =>
                character? 0x10000
                  ((lead - 0xF0) * 262144 + x1 * 4096 + x2 * 64 + x3) more
            | _, _, _ => none
        | _ => none
      else none

theorem rest_of_character? {least n : Nat} {more rest : Bytes} {c : Char}
    (h : character? least n more = some (c, rest)) : rest = more := by
  unfold character? at h
  split at h
  · cases h
    rfl
  · cases h

theorem length_lt_of_decode? {s rest : Bytes} {c : Char}
    (h : decode? s = some (c, rest)) : rest.length < s.length := by
  unfold decode? at h
  split at h
  · cases h
  · dsimp only at h
    split at h
    · cases h
      exact Nat.lt_succ_self _
    · split at h
      · cases h
      · split at h
        · split at h
          · split at h
            · rw [rest_of_character? h, List.length_cons, List.length_cons]
              omega
            · cases h
          · cases h
        · split at h
          · split at h
            · split at h
              · rw [rest_of_character? h, List.length_cons, List.length_cons, List.length_cons]
                omega
              · cases h
            · cases h
          · split at h
            · split at h
              · split at h
                · rw [rest_of_character? h, List.length_cons, List.length_cons,
                    List.length_cons, List.length_cons]
                  omega
                · cases h
              · cases h
            · cases h

def decodeList? (s : Bytes) : Option (List Char) :=
  match s with
  | [] => some []
  | b :: tail =>
      match h : decode? (b :: tail) with
      | none => none
      | some (c, rest) =>
          have : rest.length < tail.length + 1 := length_lt_of_decode? h
          (decodeList? rest).map (c :: ·)
termination_by s.length

def decodeText? (s : Bytes) : Option String := (decodeList? s).map String.ofList

end Utf8

end ShapeCheck
