import ShapeCheck.Command.Program
import ShapeCheck.Proofs.CompactText
import ShapeCheck.Proofs.Quoted

/-!
# A document on each line

A file of lines, each of which is the compact text of a document or blank, gives exactly
these documents, and each of them is labelled with the number of its line.  Compact text
has no character below the blank, so it never runs over a line.
-/

namespace ShapeCheck

/-!
## Bytes and characters
-/

theorem Utf8.decodeList?_encodeList (cs : List Char) : decodeList? (encodeList cs) = some cs := by
  induction cs with
  | nil => rw [encodeList, List.flatMap_nil, decodeList?]
  | cons c cs ih =>
      have hdecode := decode?_encodeChar_append c (encodeList cs)
      rw [encodeList_cons]
      rcases encodeChar_eq_cons c with ⟨b, tail, hbytes, -⟩
      rw [hbytes, List.cons_append] at hdecode ⊢
      rw [decodeList?]
      grind

/-!
## Text without control characters
-/

/-- No character lies below the blank. -/
def IsVisible (text : String) : Prop := text.toList.all (fun c => 32 ≤ c.toNat) = true

instance (text : String) : Decidable (IsVisible text) :=
  inferInstanceAs (Decidable (_ = true))

theorem isVisible_iff {text : String} : IsVisible text ↔ ∀ c ∈ text.toList, 32 ≤ c.toNat := by
  simp [IsVisible, List.all_eq_true]

theorem IsVisible.append {s t : String} (hs : IsVisible s) (ht : IsVisible t) :
    IsVisible (s ++ t) := by
  rw [IsVisible, String.toList_append, List.all_append, hs, ht]
  rfl

theorem isVisible_intercalate {texts : List String} (h : ∀ text ∈ texts, IsVisible text) :
    IsVisible (",".intercalate texts) := by
  cases texts with
  | nil => decide
  | cons text texts =>
      induction texts generalizing text with
      | nil => simpa using h
      | cons next texts ih =>
          rcases List.forall_mem_cons.mp h with ⟨hhere, hlater⟩
          rw [String.intercalate_cons_cons]
          exact (hhere.append (by decide)).append (ih next hlater)

theorem isVisible_quote (text : String) : IsVisible (quote text) := by
  rw [isVisible_iff]
  intro c hc
  rw [toList_quote] at hc
  simp only [List.mem_cons, List.mem_append, List.not_mem_nil, or_false] at hc
  rcases hc with rfl | hc | rfl
  · decide
  · exact Quoted.le_of_mem_body hc
  · decide

theorem toNat_of_isDigit {c : Char} (h : c.isDigit = true) : 48 ≤ c.toNat ∧ c.toNat ≤ 57 := by
  simp only [Char.isDigit, ge_iff_le, Bool.and_eq_true, decide_eq_true_eq] at h
  exact ⟨UInt32.le_iff_toNat_le.mp h.1, UInt32.le_iff_toNat_le.mp h.2⟩

theorem isVisible_digitText (n : Nat) : IsVisible (Double.digitText n) := by
  rw [isVisible_iff]
  intro c hc
  have hrange := toNat_of_isDigit (Double.isDigit_of_mem_digitText hc)
  omega

theorem isVisible_wholeText (n : Int) : IsVisible (Json.wholeText n) := by
  rw [Json.wholeText, Double.withSign]
  split
  · exact IsVisible.append (by decide) (isVisible_digitText _)
  · exact isVisible_digitText _

theorem Json.isVisible_compact {j : Json} (h : j.Exact) : IsVisible j.compact := by
  induction j with
  | null => decide
  | bool b => cases b <;> decide
  | number n =>
      cases n with
      | whole k => exact isVisible_wholeText k
      | decimal x => exact absurd (h.whole _ List.mem_cons_self) id
  | text s => exact isVisible_quote s
  | array items ih =>
      rw [compact, compactItems_eq_map]
      refine (IsVisible.append (by decide) (isVisible_intercalate ?_)).append (by decide)
      rw [List.forall_mem_map]
      intro item hitem
      exact ih item hitem (h.item hitem)
  | object members ih =>
      rw [compact, compactMembers_eq_map]
      refine (IsVisible.append (by decide) (isVisible_intercalate ?_)).append (by decide)
      rw [List.forall_mem_map]
      intro m hm
      exact ((isVisible_quote m.1).append (by decide)).append (ih m hm (h.member hm))

theorem not_isBlank_of_isDigit {c : Char} (h : c.isDigit = true) : isBlank c = false := by
  have hrange := toNat_of_isDigit h
  simp only [isBlank, Bool.or_eq_false_iff, Bool.and_eq_false_iff, decide_eq_false_iff_not,
    beq_eq_false_iff_ne, ne_eq]
  omega

theorem exists_not_isBlank_wholeText (n : Int) :
    ∃ c ∈ (Json.wholeText n).toList, isBlank c = false := by
  have hdigit : ∃ c ∈ (Double.digitText n.natAbs).toList, isBlank c = false := by
    have hne : (Double.digitText n.natAbs).toList ≠ [] := by
      rw [Double.digitText, String.toList_ofList]
      exact Nat.toDigits_ne_nil
    rcases List.exists_mem_of_ne_nil _ hne with ⟨c, hc⟩
    exact ⟨c, hc, not_isBlank_of_isDigit (Double.isDigit_of_mem_digitText hc)⟩
  rcases hdigit with ⟨c, hc, hblank⟩
  refine ⟨c, ?_, hblank⟩
  rw [Json.wholeText, Double.withSign]
  split
  · rw [String.toList_append]
    exact List.mem_append_right _ hc
  · exact hc

theorem Json.exists_not_isBlank {j : Json} (h : j.Exact) :
    ∃ c ∈ j.compact.toList, isBlank c = false := by
  cases j with
  | null => exact ⟨'n', by decide, by decide⟩
  | bool b =>
      cases b with
      | true => exact ⟨'t', by decide, by decide⟩
      | false => exact ⟨'f', by decide, by decide⟩
  | number n =>
      cases n with
      | whole k => exact exists_not_isBlank_wholeText k
      | decimal x => exact absurd (h.whole _ List.mem_cons_self) id
  | text s =>
      refine ⟨'"', ?_, by decide⟩
      rw [compact, toList_quote]
      exact List.mem_cons_self
  | array items =>
      refine ⟨'[', ?_, by decide⟩
      rw [compact, String.toList_append, String.toList_append]
      exact List.mem_append_left _ (List.mem_append_left _ (by decide))
  | object members =>
      refine ⟨'\x7b', ?_, by decide⟩
      rw [compact, String.toList_append, String.toList_append]
      exact List.mem_append_left _ (List.mem_append_left _ (by decide))

/-!
## Lines
-/

theorem trimBlank_eq_nil_iff {cs : List Char} :
    trimBlank cs = [] ↔ ∀ c ∈ cs, isBlank c = true := by
  rw [trimBlank, List.reverse_eq_nil_iff, List.dropWhile_eq_nil_iff]
  simp only [List.mem_reverse]
  constructor
  · intro hdropped c hc
    rw [← List.takeWhile_append_dropWhile (p := isBlank) (l := cs), List.mem_append] at hc
    rcases hc with hc | hc
    · exact List.mem_takeWhile_imp hc
    · exact hdropped c hc
  · intro hall c hc
    exact hall c ((List.dropWhile_suffix isBlank).subset hc)

theorem dropReturn_of_not_mem {cs : List Char} (h : '\r' ∉ cs) : dropReturn cs = cs := by
  rw [dropReturn, if_neg]
  intro hlast
  rw [beq_iff_eq] at hlast
  exact h (List.mem_of_getLast? hlast)

theorem dropReturn_append_return (cs : List Char) : dropReturn (cs ++ ['\r']) = cs := by
  simp [dropReturn]

theorem mem_of_mem_dropReturn {cs : List Char} {c : Char} (h : c ∈ dropReturn cs) : c ∈ cs := by
  unfold dropReturn at h
  split at h
  · exact (List.dropLast_subset cs) h
  · exact h

theorem linesFrom_of_not_mem {cs : List Char} (h : '\n' ∉ cs) (read : List Char) :
    linesFrom read cs = if (read.reverse ++ cs).isEmpty then [] else [read.reverse ++ cs] := by
  induction cs generalizing read with
  | nil => simp [linesFrom]
  | cons c cs ih =>
      rw [List.mem_cons, not_or] at h
      rw [linesFrom, if_neg (Ne.symm h.1), ih h.2]
      simp

theorem lines_of_not_mem {cs : List Char} (h : '\n' ∉ cs) :
    lines cs = if cs.isEmpty then [] else [cs] :=
  linesFrom_of_not_mem h []

namespace Command

/-- A line of a file: the compact text of a document, or blanks. -/
inductive Line where
  | document (j : Json) (exact : j.Exact) (nesting : j.depth ≤ Reading.maxNesting)
  | blank (cs : List Char) (blanks : cs.all (fun c => isBlank c && c != '\n') = true)

namespace Line

def chars : Line → List Char
  | .document j _ _ => j.compact.toList
  | .blank cs _ => cs

def value? : Line → Option Json
  | .document j _ _ => some j
  | .blank _ _ => none

def labelled? (path : String) (number : Nat) (line : Line) : Option Document :=
  line.value?.map (fun j => ⟨path ++ ":" ++ Double.digitText number, j⟩)

end Line

/-- A file of lines.  A line ends at a line feed, which follows a carriage return if the
flag beside the line is set; the last line need not end. -/
structure LineFile where
  ended : List (Line × Bool)
  last : Option Line

namespace LineFile

def ending (withReturn : Bool) : List Char := if withReturn then ['\r', '\n'] else ['\n']

def chars (file : LineFile) : List Char :=
  file.ended.flatMap (fun line => line.1.chars ++ ending line.2) ++ file.last.elim [] Line.chars

def lines (file : LineFile) : List Line := file.ended.map Prod.fst ++ file.last.toList

/-- The documents of the file, each under the number of its line; lines count from one. -/
def documents (path : String) (file : LineFile) : List Document :=
  (file.lines.zipIdx 1).filterMap (fun line => line.1.labelled? path line.2)

end LineFile

theorem documentsOfLines_blank {cs : List Char} (h : ∀ c ∈ cs, isBlank c = true) (path : String)
    (number : Nat) (rest : List (List Char)) :
    documentsOfLines path number (cs :: rest) = documentsOfLines path (number + 1) rest := by
  rw [documentsOfLines, if_pos]
  rw [List.isEmpty_iff]
  exact trimBlank_eq_nil_iff.mpr h

theorem documentsOfLines_document {j : Json} (hexact : j.Exact)
    (hdepth : j.depth ≤ Reading.maxNesting) (path : String) (number : Nat)
    (rest : List (List Char)) :
    documentsOfLines path number (j.compact.toList :: rest) =
      (documentsOfLines path (number + 1) rest).map
        (⟨path ++ ":" ++ Double.digitText number, j⟩ :: ·) := by
  have hfilled : ¬ (trimBlank j.compact.toList).isEmpty = true := by
    rw [List.isEmpty_iff, trimBlank_eq_nil_iff]
    intro hall
    rcases Json.exists_not_isBlank hexact with ⟨c, hc, hblank⟩
    rw [hall c hc] at hblank
    cases hblank
  rw [documentsOfLines, if_neg hfilled, String.ofList_toList, Json.ofText_compact hexact hdepth]

namespace Line

theorem isBlank_of_mem {cs : List Char} (h : cs.all (fun c => isBlank c && c != '\n') = true)
    {c : Char} (hc : c ∈ cs) : isBlank c = true ∧ c ≠ '\n' := by
  simpa using List.all_eq_true.mp h c hc

theorem feed_not_mem (line : Line) : '\n' ∉ line.chars := by
  intro hmem
  cases line with
  | document j hexact _ =>
      exact absurd (isVisible_iff.mp (Json.isVisible_compact hexact) _ hmem) (by decide)
  | blank cs hblanks => exact (isBlank_of_mem hblanks hmem).2 rfl

def StandsFor : Line → List Char → Prop
  | .document j _ _, cs => cs = j.compact.toList
  | .blank _ _, cs => ∀ c ∈ cs, isBlank c = true

theorem standsFor_chars : (line : Line) → line.StandsFor line.chars
  | .document _ _ _ => rfl
  | .blank _ blanks => fun _ hc => (isBlank_of_mem blanks hc).1

theorem standsFor_dropReturn (line : Line) (withReturn : Bool) :
    line.StandsFor (dropReturn (line.chars ++ if withReturn then ['\r'] else [])) := by
  cases line with
  | document j hexact hdepth =>
      show dropReturn (j.compact.toList ++ if withReturn then ['\r'] else []) = j.compact.toList
      cases withReturn with
      | true => exact dropReturn_append_return _
      | false =>
          rw [if_neg (by decide), List.append_nil]
          apply dropReturn_of_not_mem
          intro hmem
          exact absurd (isVisible_iff.mp (Json.isVisible_compact hexact) _ hmem) (by decide)
  | blank cs hblanks =>
      intro c hc
      rcases List.mem_append.mp (mem_of_mem_dropReturn hc) with hc | hc
      · exact (isBlank_of_mem hblanks hc).1
      · cases withReturn with
        | true =>
            rw [List.mem_singleton.mp hc]
            decide
        | false => cases hc

theorem documentsOfLines_cons {line : Line} {cs : List Char} (h : line.StandsFor cs)
    (path : String) (number : Nat) (rest : List (List Char)) :
    documentsOfLines path number (cs :: rest) =
      (documentsOfLines path (number + 1) rest).map
        ((line.labelled? path number).toList ++ ·) := by
  cases line with
  | document j hexact hdepth =>
      have hcs : cs = j.compact.toList := h
      rw [hcs, documentsOfLines_document hexact hdepth]
      rfl
  | blank _ hblanks =>
      rw [documentsOfLines_blank h]
      cases documentsOfLines path (number + 1) rest <;> rfl

theorem labelled?_of_chars_eq_nil {line : Line} (h : line.chars = []) (path : String)
    (number : Nat) : line.labelled? path number = none := by
  cases line with
  | document j hexact _ =>
      rcases Json.exists_not_isBlank hexact with ⟨c, hc, -⟩
      have hnil : j.compact.toList = [] := h
      rw [hnil] at hc
      cases hc
  | blank _ _ => rfl

end Line

namespace LineFile

theorem chars_cons (line : Line) (withReturn : Bool) (ended : List (Line × Bool))
    (last : Option Line) :
    chars ⟨(line, withReturn) :: ended, last⟩ =
      (line.chars ++ if withReturn then ['\r'] else []) ++ '\n' :: chars ⟨ended, last⟩ := by
  cases withReturn <;> simp [chars, ending]

theorem documentsOfLines_last (path : String) (last : Option Line) (number : Nat) :
    documentsOfLines path number (ShapeCheck.lines (chars ⟨[], last⟩)) =
      .ok ((last.toList.zipIdx number).filterMap (fun line => line.1.labelled? path line.2)) := by
  cases last with
  | none => rfl
  | some line =>
      show documentsOfLines path number (ShapeCheck.lines line.chars) = _
      rw [lines_of_not_mem line.feed_not_mem, Option.toList_some, List.zipIdx_singleton,
        List.filterMap_cons, List.filterMap_nil]
      -- Nothing after the last line feed is no line, and here it can only be a blank one.
      split_ifs with hempty
      · rw [Line.labelled?_of_chars_eq_nil (List.isEmpty_iff.mp hempty)]
        rfl
      · rw [Line.documentsOfLines_cons line.standsFor_chars]
        cases line.labelled? path number <;> rfl

/-- Line by line, each line adds its document or nothing, and takes a number in any case. -/
theorem documentsOfLines_chars (path : String) (ended : List (Line × Bool)) (last : Option Line)
    (number : Nat) :
    documentsOfLines path number (ShapeCheck.lines (chars ⟨ended, last⟩)) =
      .ok (((lines ⟨ended, last⟩).zipIdx number).filterMap
        (fun line => line.1.labelled? path line.2)) := by
  induction ended generalizing number with
  | nil => exact documentsOfLines_last path last number
  | cons line ended ih =>
      rcases line with ⟨line, withReturn⟩
      have hfeed : '\n' ∉ line.chars ++ if withReturn then ['\r'] else [] := by
        intro hmem
        rcases List.mem_append.mp hmem with hmem | hmem
        · exact line.feed_not_mem hmem
        · cases withReturn <;> simp at hmem
      have hlines : lines ⟨(line, withReturn) :: ended, last⟩ = line :: lines ⟨ended, last⟩ := rfl
      rw [chars_cons, lines_append hfeed,
        Line.documentsOfLines_cons (line.standsFor_dropReturn withReturn), ih, hlines,
        List.zipIdx_cons, List.filterMap_cons]
      cases line.labelled? path number <;> rfl

theorem map_value_documents (path : String) (file : LineFile) :
    (file.documents path).map Document.value = file.lines.filterMap Line.value? := by
  have hvalue : ∀ line : Line × Nat,
      (line.1.labelled? path line.2).map Document.value = line.1.value? := by
    rintro ⟨_ | _, number⟩ <;> rfl
  rw [documents, List.map_filterMap]
  simp only [hvalue]
  show List.filterMap (Line.value? ∘ Prod.fst) _ = _
  rw [← List.filterMap_map, List.zipIdx_map_fst]

end LineFile

theorem select_nothing (tools : Tools) {options : InputOptions} (hpointer : options.pointer = none)
    (hfilter : options.filter = none) (found : List Document) :
    select tools options found = .ok found := by
  induction found with
  | nil => rfl
  | cons d rest ih =>
      simp only [select, selectPart, hpointer, applyFilter, hfilter, ih]
      rfl

/-- Reading a file line by line loses, merges and misnumbers nothing. -/
theorem loadDocuments_lineByLine (tools : Tools) {disk : Disk} {options : InputOptions}
    {path : String} {file : LineFile} (hlines : options.lineByLine = true)
    (hpointer : options.pointer = none) (hfilter : options.filter = none)
    (hpaths : pathsOfAll tools disk options.patterns = .ok [path])
    (hread : disk.read path = .ok (Utf8.encodeList file.chars)) :
    loadDocuments tools disk options = .ok (file.documents path) ∧
      (file.documents path).map Document.value = file.lines.filterMap Line.value? := by
  have htext : disk.readText path = .ok (String.ofList file.chars) := by
    have hdecode : Utf8.decodeText? (Utf8.encodeList file.chars) =
        some (String.ofList file.chars) := by
      rw [Utf8.decodeText?, Utf8.decodeList?_encodeList, Option.map_some]
    rw [Disk.readText, hread]
    dsimp only
    rw [hdecode]
  have hfound : documentsOfFile disk options.lineByLine path = .ok (file.documents path) := by
    rw [documentsOfFile, htext, hlines]
    dsimp only
    rw [if_pos rfl, String.toList_ofList]
    exact LineFile.documentsOfLines_chars path file.ended file.last 1
  refine ⟨?_, LineFile.map_value_documents path file⟩
  rw [loadDocuments, hpaths]
  dsimp only
  rw [documentsOfPaths, hfound]
  dsimp only
  rw [select_nothing tools hpointer hfilter, documentsOfPaths]
  dsimp only [Except.map]
  rw [List.append_nil]

/-- Two documents and two blank lines, with both ways to end a line and a last line that
does not end. -/
def LineFile.mixed : LineFile :=
  ⟨[(.blank [' ', '\x0b'] (by decide), true),
      (.document (.array [.text "a\nb", .ofNat 5]) ⟨by decide, by decide⟩ (by decide), true),
      (.blank [] (by decide), false)],
    some (.document .null ⟨by decide, by decide⟩ (by decide))⟩

theorem loadDocuments_lineByLine_mixed :
    loadDocuments .builtin (.holding [("f", Utf8.encodeList LineFile.mixed.chars)])
        ⟨true, none, none, ["f"]⟩ =
      .ok [⟨"f:2", .array [.text "a\nb", .ofNat 5]⟩, ⟨"f:4", .null⟩] := by
  have hread : Disk.read (.holding [("f", Utf8.encodeList LineFile.mixed.chars)]) "f" =
      .ok (Utf8.encodeList LineFile.mixed.chars) := by rfl
  exact (loadDocuments_lineByLine .builtin rfl rfl rfl rfl hread).1

end Command
end ShapeCheck
