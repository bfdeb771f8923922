import ShapeCheck.Check.Printer
import ShapeCheck.Proofs.Alike
import ShapeCheck.Proofs.Double.PlainText
import ShapeCheck.Proofs.Names
import ShapeCheck.Proofs.Quoted

/-!
# Printed checks can be told apart

A printed check is found in any text that starts with it: names are no beginnings of
each other, arguments stand between brackets, and quoted text ends at its quote.  So
two checks that print alike are alike.
-/

namespace ShapeCheck

theorem append_cons_split {c : Char} {xs ys u v : List Char} (hxs : c ∉ xs) (hys : c ∉ ys)
    (h : xs ++ c :: u = ys ++ c :: v) : xs = ys ∧ u = v := by
  induction xs generalizing ys with
  | nil =>
      cases ys with
      | nil =>
          injection h with _ h
          exact ⟨rfl, h⟩
      | cons y ys =>
          injection h with hc _
          rw [hc] at hys
          exact absurd List.mem_cons_self hys
  | cons x xs ih =>
      cases ys with
      | nil =>
          injection h with hc _
          rw [hc] at hxs
          exact absurd List.mem_cons_self hxs
      | cons y ys =>
          injection h with hxy h
          rw [List.mem_cons, not_or] at hxs hys
          rcases ih hxs.2 hys.2 h with ⟨htail, huv⟩
          exact ⟨by rw [hxy, htail], huv⟩

theorem cons_ne_append_cons {c d : Char} {xs u v : List Char} (hxs : c ∉ xs) (hcd : c ≠ d) :
    c :: u ≠ xs ++ d :: v := by
  cases xs with
  | nil =>
      intro h
      injection h with h _
      exact hcd h
  | cons x xs =>
      intro h
      injection h with h _
      rw [h] at hxs
      exact hxs List.mem_cons_self

/-!
## Names of combinators
-/

namespace Combinator

theorem eq_of_name_isBeginning (k l : Combinator) (h : k.name.toList <+: l.name.toList) :
    k = l := by
  revert h
  cases k <;> cases l <;> decide

theorem name_split {k l : Combinator} {u v : List Char}
    (h : k.name.toList ++ u = l.name.toList ++ v) : k = l ∧ u = v := by
  have hk : k.name.toList <+: l.name.toList ++ v := ⟨u, h⟩
  have hkl : k = l := by
    rcases List.prefix_or_prefix_of_prefix hk (List.prefix_append _ v) with hpre | hpre
    · exact eq_of_name_isBeginning k l hpre
    · exact (eq_of_name_isBeginning l k hpre).symm
  subst hkl
  exact ⟨rfl, List.append_cancel_left h⟩

end Combinator

/-!
## Literals
-/

namespace Double

def isNumberChar (c : Char) : Bool := c.isDigit || ('.' :: '-' :: wordLetters).contains c

theorem isNumberChar_of_mem_plainText {x : Double} {c : Char} (h : c ∈ x.plainText.toList) :
    isNumberChar c = true := by
  have hword : ∀ c, c = '-' ∨ c ∈ "Infinity".toList → isNumberChar c = true := by
    have hletters : "Infinity".toList.all isNumberChar = true := by decide
    rintro c (rfl | hc)
    · decide
    · exact List.all_eq_true.mp hletters c hc
  cases hnan : x.isNaN with
  | true =>
      rw [plainText_of_isNaN hnan] at h
      have hletters : "NaN".toList.all isNumberChar = true := by decide
      exact List.all_eq_true.mp hletters c h
  | false =>
      cases hfin : x.isFinite with
      | false =>
          rw [plainText_of_infinite hnan hfin] at h
          exact hword c (mem_withSign h)
      | true =>
          rw [plainText_of_isFinite hfin] at h
          rcases mem_withSign h with rfl | h
          · decide
          · rcases isDigit_or_point_of_mem_magnitudeText h with h | rfl
            · rw [isNumberChar, h, Bool.true_or]
            · decide

theorem plainText_of_isZero {x : Double} (h : x.isZero = true) : x.plainText = "0" := by
  rw [isZero, Bool.and_eq_true, decide_eq_true_eq] at h
  rw [plainText, isNaN_of_isFinite h.1, h.1, h.2]
  rfl

theorem plainText_eq_of_alike {x y : Double} (h : x.alike y = true) :
    x.plainText = y.plainText := by
  rw [alike, Bool.or_eq_true, Bool.and_eq_true] at h
  rcases h with ⟨hx, hy⟩ | hsame
  · rw [plainText_of_isNaN hx, plainText_of_isNaN hy]
  · rcases eq_or_isZero_of_same hsame with heq | ⟨hx, hy⟩
    · rw [heq]
    · rw [plainText_of_isZero hx, plainText_of_isZero hy]

end Double

namespace Literal

/-- A literal that is neither a number nor text. -/
def isWord : Literal → Bool
  | .number _ => false
  | .text _ => false
  | _ => true

/-- Words have a letter that no number is written with. -/
theorem exists_letter_of_isWord {a : Literal} (h : a.isWord = true) :
    ∃ c ∈ a.print.toList, Double.isNumberChar c = false := by
  cases a with
  | undefined => exact ⟨'u', by decide, by decide⟩
  | null => exact ⟨'u', by decide, by decide⟩
  | bool b =>
      cases b with
      | true => exact ⟨'u', by decide, by decide⟩
      | false => exact ⟨'l', by decide, by decide⟩
  | number x => cases h
  | text s => cases h

theorem print_ne_plainText {a : Literal} (h : a.isWord = true) (x : Double) :
    a.print ≠ x.plainText := by
  intro heq
  rcases exists_letter_of_isWord h with ⟨c, hmem, hc⟩
  rw [heq] at hmem
  rw [Double.isNumberChar_of_mem_plainText hmem] at hc
  cases hc

theorem eq_of_print_eq_of_isWord {a b : Literal} (ha : a.isWord = true)
    (hb : b.isWord = true) (h : a.print = b.print) : a = b := by
  have hall : ∀ a ∈ [undefined, null, bool true, bool false],
      ∀ b ∈ [undefined, null, bool true, bool false], a.print = b.print → a = b := by
    decide
  have hmem : ∀ a : Literal, a.isWord = true →
      a ∈ [undefined, null, bool true, bool false] := by
    intro a ha
    cases a with
    | undefined => decide
    | null => decide
    | bool b => cases b <;> decide
    | number x => cases ha
    | text s => cases ha
  exact hall a (hmem a ha) b (hmem b hb) h

theorem not_mem_print {a : Literal} (h : ∀ s, a ≠ .text s) :
    '"' ∉ a.print.toList ∧ ')' ∉ a.print.toList := by
  cases a with
  | undefined => decide
  | null => decide
  | bool b => cases b <;> decide
  | number x =>
      have hnot : ∀ c, Double.isNumberChar c = false → c ∉ x.plainText.toList := by
        intro c hc hmem
        rw [Double.isNumberChar_of_mem_plainText hmem] at hc
        cases hc
      exact ⟨hnot '"' (by decide), hnot ')' (by decide)⟩
  | text s => exact absurd rfl (h s)

theorem alike_self_of_isWord {a : Literal} (h : a.isWord = true) : a.alike a = true := by
  cases a with
  | number x => cases h
  | _ => simp [alike]

theorem alike_of_print_eq {a b : Literal} (ha : ∀ s, a ≠ .text s) (hb : ∀ s, b ≠ .text s)
    (h : a.print = b.print) : a.alike b = true := by
  have hword : ∀ {a : Literal}, (∀ s, a ≠ .text s) → a.isWord = true ∨ ∃ x, a = .number x := by
    intro a ha
    cases a with
    | number x => exact Or.inr ⟨x, rfl⟩
    | text s => exact absurd rfl (ha s)
    | _ => exact Or.inl rfl
  rcases hword ha with ha | ⟨x, rfl⟩
  · rcases hword hb with hb | ⟨y, rfl⟩
    · rw [← eq_of_print_eq_of_isWord ha hb h]
      exact alike_self_of_isWord ha
    · exact absurd h (print_ne_plainText ha y)
  · rcases hword hb with hb | ⟨y, rfl⟩
    · exact absurd h.symm (print_ne_plainText hb x)
    · show x.alike y = true
      rw [Double.alike, Bool.or_eq_true, Bool.and_eq_true]
      exact Double.isNaN_or_same_of_plainText_eq h

theorem print_eq_of_alike {a b : Literal} (h : a.alike b = true) : a.print = b.print := by
  unfold alike at h
  split at h
  · exact Double.plainText_eq_of_alike h
  · rw [of_decide_eq_true h]

theorem quote_append_ne {s : String} {b : Literal} (hb : ∀ t, b ≠ .text t)
    {u v : List Char} : (quote s).toList ++ u ≠ b.print.toList ++ ')' :: v := by
  rw [toList_quote, List.cons_append]
  exact cons_ne_append_cons (not_mem_print hb).1 (by decide)

theorem print_split {a b : Literal} {u v : List Char}
    (h : a.print.toList ++ ')' :: u = b.print.toList ++ ')' :: v) :
    a.alike b = true ∧ u = v := by
  by_cases ha : ∃ s, a = .text s
  · rcases ha with ⟨s, rfl⟩
    by_cases hb : ∃ t, b = .text t
    · rcases hb with ⟨t, rfl⟩
      rcases quote_split h with ⟨rfl, hrest⟩
      injection hrest with _ huv
      exact ⟨by simp [alike], huv⟩
    · exact absurd h (quote_append_ne (fun t ht => hb ⟨t, ht⟩))
  · have ha' : ∀ s, a ≠ .text s := fun s hs => ha ⟨s, hs⟩
    by_cases hb : ∃ t, b = .text t
    · rcases hb with ⟨t, rfl⟩
      exact absurd h.symm (quote_append_ne ha')
    · have hb' : ∀ t, b ≠ .text t := fun t ht => hb ⟨t, ht⟩
      rcases append_cons_split (not_mem_print ha').2 (not_mem_print hb').2 h with
        ⟨htext, huv⟩
      exact ⟨alike_of_print_eq ha' hb' (String.toList_inj.mp htext), huv⟩

end Literal

/-!
## Keys
-/

theorem isRest_of_mem_identifier {key : String} (h : isIdentifier key = true) {c : Char}
    (hc : c ∈ key.toList) : Identifier.isRest c = true := by
  rcases isIdentifier_iff.mp h with ⟨first, rest, hlist, hfirst, hrest⟩
  rw [hlist] at hc
  rcases List.mem_cons.mp hc with rfl | hc
  · rw [Identifier.isRest, hfirst, Bool.true_or]
  · exact hrest c hc

theorem not_mem_identifier {key : String} (h : isIdentifier key = true) {c : Char}
    (hc : Identifier.isRest c = false) : c ∉ key.toList := by
  intro hmem
  rw [isRest_of_mem_identifier h hmem] at hc
  cases hc

theorem printKey_cases (key : String) :
    key = "__proto__" ∧ (printKey key).toList = '[' :: ((quote key).toList ++ [']']) ∨
      isIdentifier key = true ∧ (printKey key).toList = key.toList ∨
      (printKey key).toList = (quote key).toList := by
  by_cases hproto : key = "__proto__"
  · left
    refine ⟨hproto, ?_⟩
    rw [printKey, if_pos hproto]
    simp
  · right
    by_cases hident : isIdentifier key = true
    · exact Or.inl ⟨hident, by rw [printKey, if_neg hproto, if_pos hident]⟩
    · exact Or.inr (by rw [printKey, if_neg hproto, if_neg hident])

theorem printKey_split {key other : String} {u v : List Char}
    (h : (printKey key).toList ++ ':' :: u = (printKey other).toList ++ ':' :: v) :
    key = other ∧ u = v := by
  have hident : ∀ {key : String} {w : List Char}, isIdentifier key = true →
      (∀ u, '[' :: u ≠ key.toList ++ ':' :: w) ∧ (∀ u, '"' :: u ≠ key.toList ++ ':' :: w) := by
    intro key w hkey
    refine ⟨fun u => ?_, fun u => ?_⟩
    · exact cons_ne_append_cons (not_mem_identifier hkey (by decide)) (by decide)
    · exact cons_ne_append_cons (not_mem_identifier hkey (by decide)) (by decide)
  rcases printKey_cases key with ⟨hkey, htext⟩ | ⟨hkey, htext⟩ | htext <;>
    rcases printKey_cases other with ⟨hother, htext'⟩ | ⟨hother, htext'⟩ | htext' <;>
    rw [htext, htext'] at h
  -- Both keys are the computed one, and then they are equal already.
  · rw [hkey, hother] at h
    injection h with _ h
    have huv := List.append_cancel_left h
    injection huv with _ huv
    exact ⟨by rw [hkey, hother], huv⟩
  · exact absurd h ((hident hother).1 _)
  · rw [toList_quote other] at h
    injection h with h _
    exact absurd h (by decide)
  · exact absurd h.symm ((hident hkey).1 _)
  · have hcolon := not_mem_identifier hkey (c := ':') (by decide)
    have hcolon' := not_mem_identifier hother (c := ':') (by decide)
    rcases append_cons_split hcolon hcolon' h with ⟨hkeys, huv⟩
    exact ⟨String.toList_inj.mp hkeys, huv⟩
  · rw [toList_quote other] at h
    exact absurd h.symm ((hident hkey).2 _)
  · rw [toList_quote key] at h
    injection h with h _
    exact absurd h (by decide)
  · rw [toList_quote key] at h
    exact absurd h ((hident hother).2 _)
  · rcases quote_split h with ⟨hkeys, hrest⟩
    injection hrest with _ huv
    exact ⟨hkeys, huv⟩

/-!
## Lists of printed parts
-/

def following (parts : List String) : List Char :=
  parts.flatMap (fun part => ',' :: ' ' :: part.toList)

theorem following_cons (part : String) (parts : List String) :
    following (part :: parts) = ',' :: ' ' :: (part.toList ++ following parts) := by
  simp [following]

theorem toList_intercalate_cons (part : String) (parts : List String) :
    (", ".intercalate (part :: parts)).toList = part.toList ++ following parts := by
  induction parts generalizing part with
  | nil => simp [following]
  | cons next parts ih =>
      rw [String.intercalate_cons_cons, String.toList_append, String.toList_append, ih next,
        following_cons, List.append_assoc]
      rfl

/-- Texts that start with the printed form of `a` and of any other part have these two
parts related, and the same text after them. -/
def Found {α : Type} (print : α → String) (R : α → α → Prop) (a : α) : Prop :=
  ∀ b u v, (print a).toList ++ u = (print b).toList ++ v → R a b ∧ u = v

section Parts

variable {α : Type} {print : α → String} {R : α → α → Prop} {as bs : List α} {close : Char}
  {u v : List Char}

theorem following_split (hparts : ∀ a ∈ as, Found print R a) (hclose : close ≠ ',')
    (h : following (as.map print) ++ close :: u = following (bs.map print) ++ close :: v) :
    List.Forall₂ R as bs ∧ u = v := by
  induction as generalizing bs with
  | nil =>
      cases bs with
      | nil =>
          injection h with _ h
          exact ⟨.nil, h⟩
      | cons b bs =>
          rw [List.map_cons, following_cons] at h
          injection h with h _
          exact absurd h hclose
  | cons a as ih =>
      cases bs with
      | nil =>
          rw [List.map_cons, following_cons] at h
          injection h with h _
          exact absurd h.symm hclose
      | cons b bs =>
          rcases List.forall_mem_cons.mp hparts with ⟨ha, has⟩
          rw [List.map_cons, List.map_cons, following_cons, following_cons] at h
          simp only [List.cons_append, List.append_assoc, List.cons.injEq, true_and] at h
          rcases ha b _ _ h with ⟨hab, hrest⟩
          rcases ih has hrest with ⟨hall, huv⟩
          exact ⟨.cons hab hall, huv⟩

theorem intercalate_cons_split {a b : α} (hparts : ∀ c ∈ a :: as, Found print R c)
    (hclose : close ≠ ',')
    (h : (", ".intercalate ((a :: as).map print)).toList ++ close :: u =
      (", ".intercalate ((b :: bs).map print)).toList ++ close :: v) :
    List.Forall₂ R (a :: as) (b :: bs) ∧ u = v := by
  rw [List.map_cons, List.map_cons, toList_intercalate_cons, toList_intercalate_cons,
    List.append_assoc, List.append_assoc] at h
  rcases List.forall_mem_cons.mp hparts with ⟨ha, has⟩
  rcases ha b _ _ h with ⟨hab, hrest⟩
  rcases following_split has hclose hrest with ⟨hall, huv⟩
  exact ⟨.cons hab hall, huv⟩

end Parts

/-!
## Checks
-/

namespace Check

abbrev FoundAlike : Check → Prop := Found print (fun c d => c.alike d = true)

theorem printAll_eq_map (cs : List Check) : printAll cs = cs.map print := by
  induction cs with
  | nil => rfl
  | cons c cs ih => rw [printAll, List.map_cons, ih]

def printEntry (e : String × Check) : String := printKey e.1 ++ ": " ++ e.2.print

theorem printEntries_eq_map (entries : List (String × Check)) :
    printEntries entries = entries.map printEntry := by
  induction entries with
  | nil => rfl
  | cons e entries ih => rw [printEntries, List.map_cons, ih, printEntry]

theorem toList_call (k : Combinator) (argument : String) :
    (call k argument).toList = k.name.toList ++ '(' :: (argument.toList ++ [')']) := by
  simp [call]

theorem argument_append_eq {k : Combinator} {a b : String} {u v : List Char}
    (h : (call k a).toList ++ u = (call k b).toList ++ v) :
    a.toList ++ ')' :: u = b.toList ++ ')' :: v := by
  rw [toList_call, toList_call, List.append_assoc, List.append_assoc] at h
  have hargument := List.append_cancel_left h
  simpa using hargument

theorem call_split {k : Combinator} {a b : String} {R : Prop} {u v : List Char}
    (hargument : ∀ u v, a.toList ++ u = b.toList ++ v → R ∧ u = v)
    (h : (call k a).toList ++ u = (call k b).toList ++ v) : R ∧ u = v := by
  rcases hargument _ _ (argument_append_eq h) with ⟨hR, hrest⟩
  injection hrest with _ huv
  exact ⟨hR, huv⟩

theorem exists_toList_print (c : Check) :
    ∃ rest, c.print.toList = c.combinator.name.toList ++ rest := by
  cases c with
  | primitive type => exact ⟨[], (List.append_nil _).symm⟩
  | noop => exact ⟨[], (List.append_nil _).symm⟩
  | _ => exact ⟨_, toList_call _ _⟩

theorem combinator_eq_of_print_append {c d : Check} {u v : List Char}
    (h : c.print.toList ++ u = d.print.toList ++ v) : c.combinator = d.combinator := by
  rcases exists_toList_print c with ⟨rest, hc⟩
  rcases exists_toList_print d with ⟨rest', hd⟩
  rw [hc, hd, List.append_assoc, List.append_assoc] at h
  exact (Combinator.name_split h).1

theorem print_append_ne_bracket (c : Check) (u v : List Char) :
    ']' :: u ≠ c.print.toList ++ v := by
  have hname : ∀ k : Combinator, k.name.toList.head? ≠ some ']' ∧ k.name.toList ≠ [] := by
    intro k
    cases k <;> decide
  intro h
  rcases exists_toList_print c with ⟨rest, hc⟩
  rcases List.exists_cons_of_ne_nil (hname c.combinator).2 with ⟨first, others, hlist⟩
  rw [hc, hlist] at h
  injection h with h _
  have hfirst := (hname c.combinator).1
  rw [hlist, ← h] at hfirst
  exact hfirst rfl

theorem toList_bracketList (parts : List String) :
    (bracketList parts).toList = '[' :: ((", ".intercalate parts).toList ++ [']']) := by
  simp [bracketList]

theorem bracketList_split {cs ds : List Check} {u v : List Char}
    (hcs : ∀ c ∈ cs, FoundAlike c)
    (h : (bracketList (printAll cs)).toList ++ u = (bracketList (printAll ds)).toList ++ v) :
    alikeAll cs ds = true ∧ u = v := by
  rw [alikeAll_iff]
  rw [printAll_eq_map, printAll_eq_map, toList_bracketList, toList_bracketList] at h
  simp only [List.cons_append, List.append_assoc, List.nil_append, List.cons.injEq,
    true_and] at h
  cases cs with
  | nil =>
      cases ds with
      | nil =>
          injection List.append_cancel_left h with _ huv
          exact ⟨.nil, huv⟩
      | cons d ds =>
          rw [List.map_cons, toList_intercalate_cons, List.append_assoc] at h
          exact absurd h (print_append_ne_bracket d _ _)
  | cons c cs =>
      cases ds with
      | nil =>
          rw [List.map_cons, toList_intercalate_cons, List.append_assoc] at h
          exact absurd h.symm (print_append_ne_bracket c _ _)
      | cons d ds => exact intercalate_cons_split hcs (by decide) h

theorem foundAlike_entry {e : String × Check} (h : FoundAlike e.2) :
    Found printEntry (fun e f => e.1 = f.1 ∧ e.2.alike f.2 = true) e := by
  intro f u v huv
  simp only [printEntry, String.toList_append, List.append_assoc] at huv
  rcases printKey_split huv with ⟨hkey, hrest⟩
  injection hrest with _ hrest
  rcases h f.2 u v hrest with ⟨halike, huv⟩
  exact ⟨⟨hkey, halike⟩, huv⟩

theorem toList_braceList_cons (part : String) (parts : List String) :
    (braceList (part :: parts)).toList =
      '\x7b' :: ' ' :: ((", ".intercalate (part :: parts)).toList ++ [' ', '\x7d']) := by
  simp [braceList]

theorem braceList_split {entries others : List (String × Check)} {u v : List Char}
    (hentries : ∀ e ∈ entries, FoundAlike e.2)
    (h : (braceList (printEntries entries)).toList ++ u =
      (braceList (printEntries others)).toList ++ v) :
    alikeEntries entries others = true ∧ u = v := by
  rw [alikeEntries_iff]
  rw [printEntries_eq_map, printEntries_eq_map] at h
  cases entries with
  | nil =>
      cases others with
      | nil => exact ⟨.nil, List.append_cancel_left h⟩
      | cons f others =>
          rw [List.map_cons, toList_braceList_cons] at h
          injection h with _ h
          injection h with h _
          exact absurd h (by decide)
  | cons e entries =>
      cases others with
      | nil =>
          rw [List.map_cons, toList_braceList_cons] at h
          injection h with _ h
          injection h with h _
          exact absurd h (by decide)
      | cons f others =>
          rw [List.map_cons, List.map_cons, toList_braceList_cons, toList_braceList_cons] at h
          simp only [List.cons_append, List.append_assoc, List.nil_append, List.cons.injEq,
            true_and] at h
          rcases intercalate_cons_split (fun e he => foundAlike_entry (hentries e he))
            (by decide) h with ⟨hall, hrest⟩
          injection hrest with _ huv
          exact ⟨hall, huv⟩

theorem ofPrimitive_inj {type other : Primitive} (h : ofPrimitive type = ofPrimitive other) :
    type = other := by
  revert h
  cases type <;> cases other <;> decide

theorem foundAlike (c : Check) : FoundAlike c := by
  -- The name of the combinator comes first, so only a check of the same constructor can
  -- have been printed; then the argument is found before its closing bracket.
  induction c with
  | const a =>
      intro d u v h
      have hk := combinator_eq_of_print_append h
      cases d with
      | const b => exact Literal.print_split (argument_append_eq h)
      | primitive type => cases type <;> cases hk
      | _ => cases hk
  | primitive type =>
      intro d u v h
      have hk := combinator_eq_of_print_append h
      cases d with
      | primitive other =>
          have htype : type = other := ofPrimitive_inj hk
          subst htype
          exact ⟨decide_eq_true rfl, List.append_cancel_left h⟩
      | _ => cases type <;> cases hk
  | noop =>
      intro d u v h
      have hk := combinator_eq_of_print_append h
      cases d with
      | noop => exact ⟨rfl, List.append_cancel_left h⟩
      | primitive type => cases type <;> cases hk
      | _ => cases hk
  | optional inner ih =>
      intro d u v h
      have hk := combinator_eq_of_print_append h
      cases d with
      | optional other => exact call_split (ih other) h
      | primitive type => cases type <;> cases hk
      | _ => cases hk
  | union members ih =>
      intro d u v h
      have hk := combinator_eq_of_print_append h
      cases d with
      | union others => exact call_split (fun _ _ => bracketList_split ih) h
      | primitive type => cases type <;> cases hk
      | _ => cases hk
  | intersection members ih =>
      intro d u v h
      have hk := combinator_eq_of_print_append h
      cases d with
      | intersection others => exact call_split (fun _ _ => bracketList_split ih) h
      | primitive type => cases type <;> cases hk
      | _ => cases hk
  | tuple elements ih =>
      intro d u v h
      have hk := combinator_eq_of_print_append h
      cases d with
      | tuple others => exact call_split (fun _ _ => bracketList_split ih) h
      | primitive type => cases type <;> cases hk
      | _ => cases hk
  | array element ih =>
      intro d u v h
      have hk := combinator_eq_of_print_append h
      cases d with
      | array other => exact call_split (ih other) h
      | primitive type => cases type <;> cases hk
      | _ => cases hk
  | object entries ih =>
      intro d u v h
      have hk := combinator_eq_of_print_append h
      cases d with
      | object others => exact call_split (fun _ _ => braceList_split ih) h
      | primitive type => cases type <;> cases hk
      | _ => cases hk

/-!
## Alike checks print alike
-/

theorem printAll_eq_of_forall₂ {cs ds : List Check}
    (h : List.Forall₂ (fun c d => c.print = d.print) cs ds) : printAll cs = printAll ds := by
  rw [printAll_eq_map, printAll_eq_map]
  induction h with
  | nil => rfl
  | cons hcd _ ih => rw [List.map_cons, List.map_cons, hcd, ih]

theorem printEntries_eq_of_related {entries others : List (String × Check)}
    (h : Entries.Related (fun c d => c.print = d.print) entries others) :
    printEntries entries = printEntries others := by
  rw [printEntries_eq_map, printEntries_eq_map]
  induction h with
  | nil => rfl
  | cons hef _ ih => rw [List.map_cons, List.map_cons, printEntry, printEntry, hef.1, hef.2, ih]

theorem print_eq_of_alike {c d : Check} (h : c.alike d = true) : c.print = d.print := by
  refine alike_induct (motive := fun c d => c.print = d.print)
    ?const ?primitive ?noop ?optional ?union ?intersection ?tuple ?array ?object h
  case const =>
    intro a b hab
    rw [print, print, Literal.print_eq_of_alike hab]
  case primitive => exact fun type => rfl
  case noop => rfl
  case optional =>
    intro c d ih
    rw [print, print, ih]
  case union =>
    intro cs ds ih
    rw [print, print, printAll_eq_of_forall₂ ih]
  case intersection =>
    intro cs ds ih
    rw [print, print, printAll_eq_of_forall₂ ih]
  case tuple =>
    intro cs ds ih
    rw [print, print, printAll_eq_of_forall₂ ih]
  case array =>
    intro c d ih
    rw [print, print, ih]
  case object =>
    intro entries others ih
    rw [print, print, printEntries_eq_of_related ih]

/-- Checks share a printed form exactly if they are the same tree up to numbers that
are equal or both no number, and then they accept the same values. -/
theorem print_eq_iff_alike (c d : Check) :
    (c.print = d.print ↔ c.alike d = true) ∧
      (c.print = d.print → ∀ v, c.bind.test v = d.bind.test v) := by
  have halike : c.print = d.print → c.alike d = true := by
    intro h
    have happend : c.print.toList ++ [] = d.print.toList ++ [] := by rw [h]
    exact (foundAlike c d [] [] happend).1
  constructor
  · exact ⟨halike, print_eq_of_alike⟩
  · intro h
    exact agree_of_alike (halike h)

end Check

end ShapeCheck
