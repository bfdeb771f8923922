import ShapeCheck.Proofs.Double.PlainText
import ShapeCheck.Proofs.Nesting
import ShapeCheck.Proofs.Pointer
import ShapeCheck.Proofs.QuotedReading
import ShapeCheck.Proofs.ReadingSteps

/-!
# Compact text is read back

The compact text of a document spells the document.  Whole numbers need a byte behind
them that does not go on with the number, which the marks and brackets of compact text
provide, so everything is stated for a text that is followed by more.
-/

namespace ShapeCheck

/-!
## Documents with an exact text
-/

namespace Json

def Number.IsWhole : Number → Prop
  | .whole n => InRange n
  | .decimal _ => False

instance : (n : Number) → Decidable n.IsWhole
  | .whole n => inferInstanceAs (Decidable (Number.InRange n))
  | .decimal _ => inferInstanceAs (Decidable False)

/-- All numbers are whole and no object repeats a name. -/
structure Exact (j : Json) : Prop where
  whole : ∀ n ∈ j.numbers, n.IsWhole
  names : j.namesDiffer = true

theorem Exact.part {j part : Json} (h : j.Exact) (hpart : part ∈ j.parts) : part.Exact := by
  constructor
  · intro n hn
    exact h.whole n (numbers_subset_of_mem_parts hpart hn)
  · exact (namesDiffer_iff.mp h.names).2 part hpart

theorem Exact.item {items : List Json} (h : (array items).Exact) {item : Json}
    (hitem : item ∈ items) : item.Exact :=
  h.part hitem

theorem Exact.member {members : List (String × Json)} (h : (object members).Exact)
    {m : String × Json} (hm : m ∈ members) : m.2.Exact :=
  h.part (List.mem_map_of_mem hm)

end Json

namespace Reading

/-- No number goes on here. -/
def Delimits (rest : Bytes) : Prop :=
  ∀ b ∈ rest.head?, digit? b = none ∧ b ≠ 0x2E ∧ b ≠ 0x65 ∧ b ≠ 0x45

theorem delimits_nil : Delimits [] := by
  intro b hb
  cases hb

theorem delimits_cons {b : UInt8} {rest : Bytes}
    (h : digit? b = none ∧ b ≠ 0x2E ∧ b ≠ 0x65 ∧ b ≠ 0x45) : Delimits (b :: rest) := by
  intro c hc
  cases hc
  exact h

/-!
## Numbers
-/

theorem range_of_isDigit {c : Char} (h : c.isDigit = true) : 48 ≤ c.toNat ∧ c.toNat ≤ 57 := by
  simpa [Char.isDigit, UInt32.le_iff_toNat_le] using h

theorem encodeChar_digit {c : Char} (h : c.isDigit = true) :
    Utf8.encodeChar c = [UInt8.ofNat c.toNat] ∧
      digit? (UInt8.ofNat c.toNat) = some (c.toNat - '0'.toNat) := by
  have hrange := range_of_isDigit h
  have hbyte : (UInt8.ofNat c.toNat).toNat = c.toNat := Utf8.toNat_byte (by omega)
  constructor
  · rw [Utf8.encodeChar, if_pos (by omega)]
  · rw [digit?, hbyte, if_pos hrange]
    rfl

theorem takeDigits_of_delimits {rest : Bytes} (h : Delimits rest) :
    takeDigits rest = ([], rest) := by
  cases rest with
  | nil => rfl
  | cons b tail => rw [takeDigits, (h b rfl).1]

theorem takeDigits_encodeList {cs : List Char} (hcs : ∀ c ∈ cs, c.isDigit = true) {rest : Bytes}
    (hrest : Delimits rest) :
    takeDigits (Utf8.encodeList cs ++ rest) =
      (cs.map (fun c => c.toNat - '0'.toNat), rest) := by
  induction cs with
  | nil => exact takeDigits_of_delimits hrest
  | cons c cs ih =>
      rcases List.forall_mem_cons.mp hcs with ⟨hc, hcs⟩
      rcases encodeChar_digit hc with ⟨hbytes, hdigit⟩
      rw [Utf8.encodeList_cons, hbytes, List.append_assoc, List.singleton_append, takeDigits, hdigit]
      simp only [ih hcs, List.map_cons]

def ofDigits (digits : List Nat) : Nat :=
  digits.foldl (fun n d => 10 * n + d) 0

theorem le_foldl_digits (digits : List Nat) (n : Nat) :
    n ≤ digits.foldl (fun n d => 10 * n + d) n := by
  induction digits generalizing n with
  | nil => exact Nat.le_refl n
  | cons d rest ih => exact Nat.le_trans (by omega) (ih (10 * n + d))

theorem keepDigits_eq {start : Nat} {digits : List Nat}
    (h : digits.foldl (fun n d => 10 * n + d) start < Nat.pow 2 64) :
    keepDigits start digits = (digits.foldl (fun n d => 10 * n + d) start, 0) := by
  induction digits generalizing start with
  | nil => rfl
  | cons d rest ih =>
      rw [List.foldl_cons] at h ⊢
      rw [keepDigits, if_pos (Nat.lt_of_le_of_lt (le_foldl_digits rest _) h), ih h]

theorem ofDigits_eq_ofDigitChars (cs : List Char) :
    ofDigits (cs.map (fun c => c.toNat - '0'.toNat)) = Nat.ofDigitChars 10 cs 0 := by
  rw [ofDigits, List.foldl_map, Nat.ofDigitChars_eq_foldl]

theorem encode_digitText (n : Nat) :
    Utf8.encode (Double.digitText n) = Utf8.encodeList (Nat.toDigits 10 n) := by
  rw [Utf8.encode, Double.digitText, String.toList_ofList]

/-- Digits are a whole part if a leading zero is the only one. -/
theorem wholePart_encodeList {c : Char} {cs : List Char} (hcs : ∀ d ∈ c :: cs, d.isDigit = true)
    (hzero : c = '0' → cs = []) {rest : Bytes} (hrest : Delimits rest) :
    wholePart (Utf8.encodeList (c :: cs) ++ rest) =
      .ok ((c :: cs).map (fun d => d.toNat - '0'.toNat), rest) := by
  rcases List.forall_mem_cons.mp hcs with ⟨hc, hcs⟩
  rcases encodeChar_digit hc with ⟨hbytes, hdigit⟩
  rw [Utf8.encodeList_cons, hbytes, List.append_assoc, List.singleton_append]
  simp only [wholePart, hdigit]
  by_cases hc0 : c = '0'
  · cases hzero hc0
    subst hc0
    cases rest with
    | nil => rfl
    | cons b tail => simp [Utf8.encodeList, (hrest b rfl).1]
  · have hvalue : c.toNat - '0'.toNat ≠ 0 := by
      have hne : c.toNat ≠ '0'.toNat := fun he => hc0 (Char.toNat_inj.mp he)
      have hle : '0'.toNat ≤ c.toNat := (range_of_isDigit hc).1
      omega
    rw [if_neg hvalue, takeDigits_encodeList hcs hrest, List.map_cons]

theorem wholePart_digitText (n : Nat) {rest : Bytes} (hrest : Delimits rest) :
    ∃ digits, wholePart (Utf8.encode (Double.digitText n) ++ rest) = .ok (digits, rest) ∧
      ofDigits digits = n := by
  have hvalue := ofDigits_eq_ofDigitChars (Nat.toDigits 10 n)
  rw [Nat.ofDigitChars_ten_toDigits] at hvalue
  refine ⟨_, ?_, hvalue⟩
  rw [encode_digitText]
  cases hdigits : Nat.toDigits 10 n with
  | nil => exact absurd hdigits Nat.toDigits_ne_nil
  | cons c cs =>
      apply wholePart_encodeList _ _ hrest
      · intro d hd
        rw [← hdigits] at hd
        exact Nat.isDigit_of_mem_toDigits (by decide) (by decide) hd
      · rintro rfl
        have hzero : n = 0 := by
          apply Nat.eq_zero_of_not_pos
          intro hpos
          apply Pointer.head?_toDigits_ne_zero hpos
          rw [hdigits]
          rfl
        rw [hzero, Nat.toDigits_zero] at hdigits
        cases hdigits
        rfl

theorem fractionPart_of_delimits {rest : Bytes} (h : Delimits rest) :
    fractionPart rest = .ok (none, rest) := by
  cases rest with
  | nil => rfl
  | cons b tail => rw [fractionPart, if_neg (h b rfl).2.1]

theorem exponentPart_of_delimits {rest : Bytes} (h : Delimits rest) (zero : Bool) :
    exponentPart zero rest = .ok (none, rest) := by
  cases rest with
  | nil => rfl
  | cons b tail =>
      have hletter : ¬ (b = 0x65 ∨ b = 0x45) := not_or.mpr (h b rfl).2.2
      rw [exponentPart, if_neg hletter]

theorem number_digitText (negative : Bool) (n : Nat) {rest : Bytes} (hrest : Delimits rest)
    (hn : n < Nat.pow 2 64) {k : Int} (hk : wholeNumber negative n = .whole k) :
    number negative (Utf8.encode (Double.digitText n) ++ rest) = .ok (.whole k, rest) := by
  rcases wholePart_digitText n hrest with ⟨digits, hwhole, hvalue⟩
  have hkept : keepDigits 0 digits = (n, 0) := by
    rw [← hvalue] at hn ⊢
    exact keepDigits_eq hn
  rw [number, hwhole]
  dsimp only
  rw [fractionPart_of_delimits hrest]
  dsimp only
  rw [exponentPart_of_delimits hrest]
  dsimp only
  simp only [assemble, hkept]
  rw [hk, checkRange]

/-!
## Starts of documents
-/

theorem skipBlank_of_not_isBlank {b : UInt8} (h : isBlank b = false) (rest : Bytes) :
    skipBlank (b :: rest) = b :: rest := by
  rw [skipBlank, if_neg (by rw [h]; decide)]

theorem start_of_not_isBlank {b : UInt8} (h : isBlank b = false) (rest : Bytes) :
    start (b :: rest) = startWith b rest := by
  rw [start, skipBlank_of_not_isBlank h]

theorem ne_of_digit {b c : UInt8} {d : Nat} (hb : digit? b = some d) (hc : digit? c = none) :
    b ≠ c := by
  rintro rfl
  rw [hc] at hb
  cases hb

theorem not_isBlank_of_digit {b : UInt8} {d : Nat} (hb : digit? b = some d) :
    isBlank b = false := by
  have hne : ∀ c, digit? c = none → b ≠ c := fun c hc => ne_of_digit hb hc
  simp only [isBlank, Bool.or_eq_false_iff, beq_eq_false_iff_ne]
  exact ⟨⟨⟨hne _ (by decide), hne _ (by decide)⟩, hne _ (by decide)⟩, hne _ (by decide)⟩

theorem start_digit {b : UInt8} {d : Nat} (hb : digit? b = some d) (rest : Bytes) :
    start (b :: rest) = numberScalar false (b :: rest) := by
  have hne : ∀ c, digit? c = none → b ≠ c := fun c hc => ne_of_digit hb hc
  rw [start_of_not_isBlank (not_isBlank_of_digit hb), startWith, if_neg (hne _ (by decide)),
    if_neg (hne _ (by decide)), if_neg (hne _ (by decide)), if_neg (hne _ (by decide)),
    if_pos (by rw [hb]; rfl)]

theorem start_minus (rest : Bytes) : start (0x2D :: rest) = numberScalar true rest := by
  rw [start_of_not_isBlank (by decide), startWith, if_neg (by decide), if_neg (by decide),
    if_neg (by decide), if_pos rfl]

theorem exists_encode_digitText (n : Nat) :
    ∃ b d tail, Utf8.encode (Double.digitText n) = b :: tail ∧ digit? b = some d := by
  rw [encode_digitText]
  cases hdigits : Nat.toDigits 10 n with
  | nil => exact absurd hdigits Nat.toDigits_ne_nil
  | cons c cs =>
      have hc : c.isDigit = true := by
        have hmem : c ∈ Nat.toDigits 10 n := by
          rw [hdigits]
          exact List.mem_cons_self
        exact Nat.isDigit_of_mem_toDigits (by decide) (by decide) hmem
      rcases encodeChar_digit hc with ⟨hbytes, hdigit⟩
      rw [Utf8.encodeList_cons, hbytes]
      exact ⟨_, _, _, rfl, hdigit⟩

theorem start_wholeText {n : Int} (hn : Json.Number.InRange n) {rest : Bytes}
    (hrest : Delimits rest) :
    start (Utf8.encode (Json.wholeText n) ++ rest) = .ok (.scalar (.number (.whole n)), rest) := by
  have hlower : Int.pow 2 63 = 2 ^ 63 := rfl
  have hupper : Int.pow 2 64 = 2 ^ 64 := rfl
  rcases hn with ⟨hle, hlt⟩
  have hbits : n.natAbs < Nat.pow 2 64 := by
    rw [Nat.pow_eq]
    omega
  by_cases hsign : n < 0
  · have hminus : Utf8.encode "-" = [0x2D] := by decide
    have hwhole : wholeNumber true n.natAbs = .whole n := by
      rw [wholeNumber, if_pos rfl, if_neg, Int.ofNat_natAbs_of_nonpos (Int.le_of_lt hsign),
        Int.neg_neg]
      rw [Nat.pow_eq]
      omega
    rw [Json.wholeText, Double.withSign, if_pos (decide_eq_true hsign), Utf8.encode_append, hminus,
      List.append_assoc, List.singleton_append, start_minus, numberScalar,
      number_digitText true _ hrest hbits hwhole]
  · have hwhole : wholeNumber false n.natAbs = .whole n := by
      rw [wholeNumber, if_neg (by decide), Int.natAbs_of_nonneg (Int.not_lt.mp hsign)]
    rcases exists_encode_digitText n.natAbs with ⟨b, d, tail, hbytes, hdigit⟩
    have hnumber := number_digitText false _ hrest hbits hwhole
    rw [Json.wholeText, Double.withSign, if_neg (by simpa using hsign), hbytes, List.cons_append,
      start_digit hdigit]
    rw [hbytes, List.cons_append] at hnumber
    rw [numberScalar, hnumber]

/-!
## Parts in a row
-/

/-- Parts with commas between them; a comma comes before the first one too, unless
nothing stands before it. -/
def row (first : Bool) : List Bytes → Bytes
  | [] => []
  | part :: parts => (if first then part else 0x2C :: part) ++ row false parts

theorem encode_intercalate (texts : List String) :
    Utf8.encode (",".intercalate texts) = row true (texts.map Utf8.encode) := by
  have hcomma : Utf8.encode "," = [0x2C] := by decide
  cases texts with
  | nil => rfl
  | cons text texts =>
      induction texts generalizing text with
      | nil => simp [row]
      | cons next texts ih =>
          rw [String.intercalate_cons_cons, Utf8.encode_append, Utf8.encode_append, ih, hcomma]
          simp [row]

theorem delimits_row (parts : List Bytes) {b : UInt8} {rest : Bytes}
    (hb : digit? b = none ∧ b ≠ 0x2E ∧ b ≠ 0x65 ∧ b ≠ 0x45) :
    Delimits (row false parts ++ b :: rest) := by
  cases parts with
  | nil => exact delimits_cons hb
  | cons part parts => exact delimits_cons (by decide)

section Rows

variable {c : UInt8} {tail rest : Bytes} (parts : List Bytes)

theorem nextItem_row_nil (first : Bool) :
    nextItem first (row first [] ++ 0x5D :: rest) = .ok (.done (0x5D :: rest)) := by
  show nextItem first (0x5D :: rest) = _
  rw [nextItem, skipBlank_of_not_isBlank (by decide)]
  rfl

theorem nextItem_row_cons (hblank : isBlank c = false) (hclose : c ≠ 0x5D) (first : Bool) :
    nextItem first (row first ((c :: tail) :: parts) ++ rest) =
      .ok (.more (c :: tail ++ (row false parts ++ rest))) := by
  cases first with
  | true =>
      show nextItem true (c :: tail ++ row false parts ++ rest) = _
      rw [List.append_assoc, List.cons_append, nextItem, skipBlank_of_not_isBlank hblank]
      dsimp only
      rw [if_neg hclose, if_pos rfl]
  | false =>
      show nextItem false (0x2C :: (c :: tail ++ row false parts ++ rest)) = _
      rw [List.append_assoc, List.cons_append, nextItem, skipBlank_of_not_isBlank (by decide)]
      dsimp only
      rw [if_neg (by decide), if_neg (by decide), if_pos rfl, skipBlank_of_not_isBlank hblank]
      dsimp only
      rw [if_neg hclose]

theorem memberKey_row_nil (first : Bool) :
    memberKey first (row first [] ++ 0x7D :: rest) = .ok (.done (0x7D :: rest)) := by
  have hnext : nextKey first (0x7D :: rest) = .ok (.done (0x7D :: rest)) := by
    rw [nextKey, skipBlank_of_not_isBlank (by decide)]
    rfl
  show memberKey first (0x7D :: rest) = _
  rw [memberKey, hnext]

theorem nextKey_row_cons (first : Bool) :
    nextKey first (row first ((0x22 :: tail) :: parts) ++ rest) =
      .ok (.more (tail ++ (row false parts ++ rest))) := by
  cases first with
  | true =>
      show nextKey true (0x22 :: tail ++ row false parts ++ rest) = _
      rw [List.append_assoc, List.cons_append, nextKey, skipBlank_of_not_isBlank (by decide)]
      rfl
  | false =>
      show nextKey false (0x2C :: (0x22 :: tail ++ row false parts ++ rest)) = _
      rw [List.append_assoc, List.cons_append, nextKey, skipBlank_of_not_isBlank (by decide)]
      dsimp only
      rw [if_neg (by decide), if_neg (by decide), if_pos rfl, skipBlank_of_not_isBlank (by decide)]
      rfl

end Rows

/-!
## Lists and objects
-/

def spelled (j : Json) : Bytes := Utf8.encode j.compact

def spelledMember (m : String × Json) : Bytes :=
  Utf8.encode (quote m.1) ++ 0x3A :: spelled m.2

theorem spelled_array (items : List Json) :
    spelled (.array items) = 0x5B :: (row true (items.map spelled) ++ [0x5D]) := by
  have hopen : Utf8.encode "[" = [0x5B] := by decide
  have hclose : Utf8.encode "]" = [0x5D] := by decide
  rw [spelled, Json.compact, Utf8.encode_append, Utf8.encode_append, encode_intercalate, hopen,
    hclose, Json.compactItems_eq_map, List.map_map]
  rfl

theorem spelled_object (members : List (String × Json)) :
    spelled (.object members) = 0x7B :: (row true (members.map spelledMember) ++ [0x7D]) := by
  have hopen : Utf8.encode "\x7b" = [0x7B] := by decide
  have hclose : Utf8.encode "\x7d" = [0x7D] := by decide
  have hcolon : Utf8.encode ":" = [0x3A] := by decide
  have hmember : Utf8.encode ∘ (fun m : String × Json => quote m.1 ++ ":" ++ m.2.compact) =
      spelledMember := by
    funext m
    rw [Function.comp_apply, Utf8.encode_append, Utf8.encode_append, hcolon, List.append_assoc]
    rfl
  rw [spelled, Json.compact, Utf8.encode_append, Utf8.encode_append, encode_intercalate, hopen,
    hclose, Json.compactMembers_eq_map, List.map_map, hmember]
  rfl

theorem exists_encode_wholeText (n : Int) :
    ∃ b tail, Utf8.encode (Json.wholeText n) = b :: tail ∧ isBlank b = false ∧ b ≠ 0x5D ∧
      b ≠ 0x6E := by
  rw [Json.wholeText, Double.withSign]
  split
  · have hminus : Utf8.encode "-" = [0x2D] := by decide
    rw [Utf8.encode_append, hminus]
    exact ⟨_, _, rfl, by decide, by decide, by decide⟩
  · rcases exists_encode_digitText n.natAbs with ⟨b, d, tail, hbytes, hdigit⟩
    exact ⟨b, tail, hbytes, not_isBlank_of_digit hdigit, ne_of_digit hdigit (by decide),
      ne_of_digit hdigit (by decide)⟩

/-- A document does not start with a blank or with the end of a list, and only null with
the first letter of null. -/
theorem exists_spelled {j : Json} (h : j.Exact) :
    ∃ b tail, spelled j = b :: tail ∧ isBlank b = false ∧ b ≠ 0x5D ∧ (j ≠ .null → b ≠ 0x6E) := by
  cases j with
  | null => exact ⟨_, _, rfl, by decide, by decide, fun hnull => absurd rfl hnull⟩
  | bool b => cases b <;> exact ⟨_, _, rfl, by decide, by decide, fun _ => by decide⟩
  | number n =>
      cases n with
      | whole k =>
          rcases exists_encode_wholeText k with ⟨b, tail, hspelled, hblank, hclose, hnull⟩
          exact ⟨b, tail, hspelled, hblank, hclose, fun _ => hnull⟩
      | decimal x => exact absurd (h.whole _ List.mem_cons_self) id
  | text s =>
      rw [spelled, Json.compact, encode_quote]
      exact ⟨_, _, rfl, by decide, by decide, fun _ => by decide⟩
  | array items =>
      rw [spelled_array]
      exact ⟨_, _, rfl, by decide, by decide, fun _ => by decide⟩
  | object members =>
      rw [spelled_object]
      exact ⟨_, _, rfl, by decide, by decide, fun _ => by decide⟩

theorem memberKey_row_cons (first : Bool) (m : String × Json) (parts : List Bytes) (rest : Bytes) :
    memberKey first (row first (spelledMember m :: parts) ++ rest) =
      .ok (.key m.1 (0x3A :: (spelled m.2 ++ (row false parts ++ rest)))) := by
  have hkey : spelledMember m =
      0x22 :: (Utf8.encodeList (Quoted.body m.1.toList) ++ 0x22 :: 0x3A :: spelled m.2) := by
    rw [spelledMember, encode_quote]
    simp
  have htext := chars_body m.1.toList (0x3A :: (spelled m.2 ++ (row false parts ++ rest)))
  rw [hkey, memberKey, nextKey_row_cons]
  simp only [List.append_assoc, List.cons_append, text, htext, String.ofList_toList]

theorem colon_cons (rest : Bytes) : colon (0x3A :: rest) = .ok rest := by
  rw [colon, skipBlank_of_not_isBlank (by decide)]
  rfl

section Loops

variable {α : Type}

/-- The reader takes a document for `a` and leaves what follows it. -/
def Reader.Takes (r : Reader α) (j : Json) (a : α) : Prop :=
  ∀ rest, Delimits rest → r.run (spelled j ++ rest) = .ok (a, rest)

theorem nextItem_spelled {j : Json} (h : j.Exact) (first : Bool) (parts : List Bytes)
    (rest : Bytes) :
    nextItem first (row first (spelled j :: parts) ++ rest) =
      .ok (.more (spelled j ++ (row false parts ++ rest))) := by
  rcases exists_spelled h with ⟨b, tail, hspelled, hblank, hclose, -⟩
  rw [hspelled]
  exact nextItem_row_cons parts hblank hclose first

theorem items_of_takes {item : Reader α} {js : List Json} {as : List α}
    (hexact : ∀ j ∈ js, j.Exact) (h : List.Forall₂ item.Takes js as) (first : Bool) (i : Nat)
    (rest : Bytes) :
    items item first i (row first (js.map spelled) ++ 0x5D :: rest) = .ok (as, 0x5D :: rest) := by
  induction h generalizing first i with
  | nil => exact items_done (nextItem_row_nil first)
  | @cons j a js as hj _ ih =>
      rcases List.forall_mem_cons.mp hexact with ⟨hexactHere, hexactLater⟩
      -- What follows an item is a comma or the bracket, so a number ends there.
      have hread := hj (row false (js.map spelled) ++ 0x5D :: rest) (delimits_row _ (by decide))
      rw [List.map_cons, items_more (nextItem_spelled hexactHere first _ _) hread, ih hexactLater]
      rfl

theorem members_of_takes {item : Reader α} {ms : List (String × Json)} {as : List (String × α)}
    (h : List.Forall₂ (fun m a => m.1 = a.1 ∧ item.Takes m.2 a.2) ms as) (first : Bool)
    (rest : Bytes) :
    members item first (row first (ms.map spelledMember) ++ 0x7D :: rest) =
      .ok (as, 0x7D :: rest) := by
  induction h generalizing first with
  | nil => exact members_done (memberKey_row_nil first)
  | @cons m a ms as hm _ ih =>
      have hread := hm.2 (row false (ms.map spelledMember) ++ 0x7D :: rest)
        (delimits_row _ (by decide))
      rw [List.map_cons, members_more (memberKey_row_cons first m _ _) (colon_cons _) hread, ih,
        hm.1]
      rfl

end Loops

/-!
## Documents
-/

theorem start_spelled_array (items : List Json) (rest : Bytes) :
    start (spelled (.array items) ++ rest) =
      .ok (.list, row true (items.map spelled) ++ 0x5D :: rest) := by
  rw [spelled_array, List.cons_append, List.append_assoc, List.singleton_append,
    start_of_not_isBlank (by decide)]
  rfl

theorem start_spelled_object (members : List (String × Json)) (rest : Bytes) :
    start (spelled (.object members) ++ rest) =
      .ok (.object, row true (members.map spelledMember) ++ 0x7D :: rest) := by
  rw [spelled_object, List.cons_append, List.append_assoc, List.singleton_append,
    start_of_not_isBlank (by decide)]
  rfl

theorem start_spelled_scalar {j : Json} (h : j.Exact) (hdepth : j.depth = 0) {rest : Bytes}
    (hrest : Delimits rest) : start (spelled j ++ rest) = .ok (.scalar j, rest) := by
  cases j with
  | null => rfl
  | bool b => cases b <;> rfl
  | number n =>
      have hn : n.IsWhole := h.whole n List.mem_cons_self
      cases n with
      | whole k => exact start_wholeText hn hrest
      | decimal x => exact absurd hn id
  | text s =>
      have htext := chars_body s.toList rest
      rw [spelled, Json.compact, encode_quote, List.cons_append, start_quote, textScalar, text,
        List.append_assoc, List.singleton_append, htext]
      simp
  | array items => cases hdepth
  | object members => cases hdepth

theorem takes_of_scalar {j : Json} (h : j.Exact) (hdepth : j.depth = 0) (depth : Nat) :
    (value depth).Takes j j :=
  fun _ hrest => run_value_of_scalar (start_spelled_scalar h hdepth hrest)

theorem value_takes {j : Json} (h : j.Exact) {depth : Nat} (hdepth : j.depth ≤ depth) :
    (value depth).Takes j j := by
  induction j generalizing depth with
  | null => exact takes_of_scalar h rfl depth
  | bool b => exact takes_of_scalar h rfl depth
  | number n => exact takes_of_scalar h rfl depth
  | text s => exact takes_of_scalar h rfl depth
  | array items ih =>
      intro rest hrest
      cases depth with
      | zero => cases hdepth
      | succ depth =>
          have hitems : List.Forall₂ (value depth).Takes items items := by
            apply List.forall₂_same.mpr
            intro item hitem
            exact ih item hitem (h.item hitem) (Json.depth_le_succ_iff.mp hdepth item hitem)
          have hread := items_of_takes (fun item hitem => h.item hitem) hitems true 0 rest
          show document (some (value depth)) _ = _
          rw [document, start_spelled_array]
          dsimp only
          rw [hread]
          rfl
  | object members ih =>
      intro rest hrest
      cases depth with
      | zero => cases hdepth
      | succ depth =>
          have hmembers : List.Forall₂ (fun m a => m.1 = a.1 ∧ (value depth).Takes m.2 a.2)
              members members := by
            apply List.forall₂_same.mpr
            intro m hm
            have hpart := Json.depth_le_succ_iff.mp hdepth m.2 (List.mem_map_of_mem hm)
            exact ⟨rfl, ih m hm (h.member hm) hpart⟩
          have hread := members_of_takes hmembers true rest
          show document (some (value depth)) _ = _
          rw [document, start_spelled_object]
          dsimp only
          rw [hread]
          dsimp only
          rw [Entries.ofList_of_distinct (Json.distinct_of_namesDiffer h.names)]
          rfl

end Reading

theorem Json.ofText_compact {j : Json} (h : j.Exact) (hdepth : j.depth ≤ Reading.maxNesting) :
    ofText j.compact = .ok j := by
  have hread := Reading.value_takes h hdepth [] Reading.delimits_nil
  rw [List.append_nil] at hread
  have hwhole : Reading.whole (Utf8.encode j.compact) = .ok j := by
    show Reading.whole (Reading.spelled j) = .ok j
    rw [Reading.whole, hread]
    rfl
  rw [ofText, hwhole]
  rfl

end ShapeCheck
