import ShapeCheck.Proofs.Literals
import ShapeCheck.Proofs.Occurrence

/-!
# The lines of a module

Whatever texts, keys and names go into a module, it consists of the lines that its
declarations call for.  The names and checks, and the runtime if there is a
declaration, are found in these lines.
-/

namespace ShapeCheck
namespace Module

def headerLine : String := "// @generated by shape-guard. Do not edit."

def importText (runtime : String) (names : List String) : String :=
  "import \x7b " ++ ", ".intercalate names ++ " \x7d from " ++ quote runtime ++ ";"

def declarationLines (d : Compiled) : List String :=
  ["",
    "const " ++ schemaName d.name ++ " = " ++ d.check.print ++ ";",
    "export function " ++ functionName d.name ++ "(value) \x7b",
    "  return " ++ schemaName d.name ++ "(value)",
    "    ? \x7b ok: true, value \x7d",
    "    : \x7b ok: false, error: new Error(\"validation failed\") \x7d;",
    "\x7d"]

/-- The lines of a module.  Names are imported only if something is declared. -/
def lines (runtime : String) (decls : List Compiled) : List String :=
  headerLine ::
    ((if decls.isEmpty then [] else [importText runtime (importedNames decls)]) ++
      decls.flatMap declarationLines)

def unlines (ls : List String) : List Char := ls.flatMap (fun l => (l ++ "\n").toList)

/-!
## The text is made of the lines
-/

theorem unlines_cons (l : String) (ls : List String) :
    unlines (l :: ls) = (l ++ "\n").toList ++ unlines ls := rfl

theorem unlines_append (ls ms : List String) : unlines (ls ++ ms) = unlines ls ++ unlines ms := by
  simp [unlines]

theorem toList_declaration (d : Compiled) :
    (declaration d).toList = unlines (declarationLines d) := by
  have hconst : "\nconst " = "\n" ++ "const " := rfl
  have hend : ";\n" = ";" ++ "\n" := rfl
  have hfunction : "(value) \x7b\n" = "(value) \x7b" ++ "\n" := rfl
  have hreturn : "(value)\n" = "(value)" ++ "\n" := rfl
  have hyes : "    ? \x7b ok: true, value \x7d\n" =
      "    ? \x7b ok: true, value \x7d" ++ "\n" := rfl
  have hno : "    : \x7b ok: false, error: new Error(\"validation failed\") \x7d;\n" =
      "    : \x7b ok: false, error: new Error(\"validation failed\") \x7d;" ++ "\n" := rfl
  have hclose : "\x7d\n" = "\x7d" ++ "\n" := rfl
  unfold declaration unlines declarationLines
  rw [hconst, hend, hfunction, hreturn, hyes, hno, hclose]
  simp only [List.flatMap_cons, List.flatMap_nil, String.toList_append, List.append_assoc,
    String.toList_empty, List.nil_append, List.append_nil]

theorem importLine_nil (runtime : String) : importLine runtime [] = "" := by
  rw [importLine, importedNames_eq_nil_iff.mpr rfl]

theorem importLine_of_ne_nil {runtime : String} {decls : List Compiled} (h : decls ≠ []) :
    importLine runtime decls = importText runtime (importedNames decls) ++ "\n" := by
  have hend : ";\n" = ";" ++ "\n" := rfl
  unfold importLine
  split
  · rename_i hnil
    exact absurd (importedNames_eq_nil_iff.mp hnil) h
  · rw [importText, hend, ← String.append_assoc]

theorem toList_render (runtime : String) (decls : List Compiled) :
    (render runtime decls).toList = unlines (lines runtime decls) := by
  have hheader : header = headerLine ++ "\n" := rfl
  have hdecls : (String.join (decls.map declaration)).toList =
      unlines (decls.flatMap declarationLines) := by
    rw [String.toList_join, List.flatMap_map, unlines, List.flatMap_assoc]
    apply List.flatMap_congr
    intro d _
    exact toList_declaration d
  rw [render, String.toList_append, String.toList_append, hdecls, lines, unlines_cons, hheader,
    List.append_assoc, unlines_append]
  cases decls with
  | nil =>
      rw [importLine_nil]
      rfl
  | cons d rest =>
      rw [importLine_of_ne_nil (by simp)]
      simp [unlines]

/-!
## No line breaks off
-/

theorem splitOn_unlines {ls : List String} (h : ∀ l ∈ ls, '\n' ∉ l.toList) :
    (unlines ls).splitOn '\n' = ls.map String.toList ++ [[]] := by
  have hjoin : unlines ls = ['\n'].intercalate (ls.map String.toList ++ [[]]) := by
    clear h
    induction ls with
    | nil => rfl
    | cons l ls ih =>
        rw [unlines_cons, ih, List.map_cons, List.cons_append,
          List.intercalate_cons_of_ne_nil (by simp), String.toList_append]
        rfl
  rw [hjoin]
  apply List.splitOn_intercalate
  · intro l hl
    rcases List.mem_append.mp hl with hl | hl
    · rcases List.mem_map.mp hl with ⟨line, hline, rfl⟩
      exact h line hline
    · rw [List.mem_singleton.mp hl]
      simp
  · simp

/-- Text without characters below the blank. -/
def IsPlain (text : String) : Prop := ∀ c ∈ text.toList, 32 ≤ c.toNat

theorem isPlain_append {s t : String} (hs : IsPlain s) (ht : IsPlain t) : IsPlain (s ++ t) := by
  intro c hc
  rw [String.toList_append] at hc
  rcases List.mem_append.mp hc with hc | hc
  · exact hs c hc
  · exact ht c hc

theorem isPlain_of_all {text : String}
    (h : text.toList.all (fun c => decide (32 ≤ c.toNat)) = true) : IsPlain text := by
  intro c hc
  exact of_decide_eq_true (List.all_eq_true.mp h c hc)

theorem isPlain_of_hasLiterals {text : String} {texts : List String}
    (h : HasLiterals text.toList texts) : IsPlain text := by
  intro c hc
  exact h.le_of_mem hc

theorem isPlain_of_isIdentifier {name : String} (h : isIdentifier name = true) :
    IsPlain name := by
  intro c hc
  exact Identifier.le_of_isRest (isRest_of_mem_identifier h hc)

theorem isCodeChar_of_mem_intercalate {parts : List String} {c : Char}
    (h : ∀ part ∈ parts, part.toList.all isCodeChar = true)
    (hc : c ∈ (", ".intercalate parts).toList) : isCodeChar c = true := by
  cases parts with
  | nil => simp at hc
  | cons part parts =>
      rcases List.forall_mem_cons.mp h with ⟨hpart, hparts⟩
      rw [toList_intercalate_cons, following, List.mem_append, List.mem_flatMap] at hc
      rcases hc with hc | ⟨other, hother, hc⟩
      · exact List.all_eq_true.mp hpart c hc
      · rcases List.mem_cons.mp hc with rfl | hc
        · decide
        · rcases List.mem_cons.mp hc with rfl | hc
          · decide
          · exact List.all_eq_true.mp (hparts other hother) c hc

theorem isCodeChar_of_mem_importedNames {decls : List Compiled} {c : Char}
    (hc : c ∈ (", ".intercalate (importedNames decls)).toList) : isCodeChar c = true := by
  refine isCodeChar_of_mem_intercalate ?_ hc
  intro name hname
  rcases mem_importedNames_iff.mp hname with ⟨_, _, e, _, rfl⟩
  exact Check.all_isCodeChar_name e.combinator

theorem isPlain_importText (runtime : String) (decls : List Compiled) :
    IsPlain (importText runtime (importedNames decls)) := by
  have hstart : IsPlain "import \x7b " := isPlain_of_all (by decide)
  have hfrom : IsPlain " \x7d from " := isPlain_of_all (by decide)
  have hend : IsPlain ";" := isPlain_of_all (by decide)
  have hnames : IsPlain (", ".intercalate (importedNames decls)) :=
    fun c hc => le_of_isCodeChar (isCodeChar_of_mem_importedNames hc)
  have hquote := isPlain_of_hasLiterals (.quoted runtime)
  exact isPlain_append (isPlain_append (isPlain_append (isPlain_append hstart hnames) hfrom)
    hquote) hend

theorem isPlain_of_mem_declarationLines {d : Compiled} (hd : isIdentifier d.name = true)
    {l : String} (hl : l ∈ declarationLines d) : IsPlain l := by
  have hschema := isPlain_of_isIdentifier (isIdentifier_schemaName hd)
  have hfunction := isPlain_of_isIdentifier (isIdentifier_functionName hd)
  have hcheck := isPlain_of_hasLiterals d.check.hasLiterals_print
  simp only [declarationLines, List.mem_cons, List.not_mem_nil, or_false] at hl
  rcases hl with rfl | rfl | rfl | rfl | rfl | rfl | rfl
  · exact isPlain_of_all (by decide)
  · exact isPlain_append (isPlain_append (isPlain_append (isPlain_append
      (isPlain_of_all (by decide)) hschema) (isPlain_of_all (by decide))) hcheck)
      (isPlain_of_all (by decide))
  · exact isPlain_append (isPlain_append (isPlain_of_all (by decide)) hfunction)
      (isPlain_of_all (by decide))
  · exact isPlain_append (isPlain_append (isPlain_of_all (by decide)) hschema)
      (isPlain_of_all (by decide))
  · exact isPlain_of_all (by decide)
  · exact isPlain_of_all (by decide)
  · exact isPlain_of_all (by decide)

theorem isPlain_of_mem_lines {runtime : String} {decls : List Compiled}
    (h : ∀ d ∈ decls, isIdentifier d.name = true) {l : String} (hl : l ∈ lines runtime decls) :
    IsPlain l := by
  rw [lines, List.mem_cons, List.mem_append, List.mem_flatMap] at hl
  rcases hl with rfl | hl | ⟨d, hd, hl⟩
  · exact isPlain_of_all (by decide)
  · split at hl
    · cases hl
    · rw [List.mem_singleton.mp hl]
      exact isPlain_importText runtime decls
  · exact isPlain_of_mem_declarationLines (h d hd) hl

theorem splitOn_render {decls : List Compiled} (h : ∀ d ∈ decls, isIdentifier d.name = true)
    (runtime : String) :
    (render runtime decls).toList.splitOn '\n' =
      (lines runtime decls).map String.toList ++ [[]] := by
  rw [toList_render]
  apply splitOn_unlines
  intro l hl hmem
  exact absurd (isPlain_of_mem_lines h hl '\n' hmem) (by decide)

/-!
## The lines tell the parts
-/

def written (d : Compiled) : String × String × String :=
  (schemaName d.name, functionName d.name, d.check.print)

theorem written_eq_of_lines {d e : Compiled} (hd : isIdentifier d.name = true)
    (he : isIdentifier e.name = true) {ls ms : List String}
    (h : declarationLines d ++ ls = declarationLines e ++ ms) :
    written d = written e ∧ ls = ms := by
  simp only [declarationLines, List.cons_append, List.nil_append, List.cons.injEq, true_and] at h
  rcases h with ⟨hconst, hfunction, _, hrest⟩
  -- The name of the check ends at the first blank after it.
  have hblank : ∀ {name : String}, isIdentifier name = true → ' ' ∉ (schemaName name).toList := by
    intro name hname
    exact not_mem_identifier (isIdentifier_schemaName hname) (by decide)
  have hconst' := congrArg String.toList hconst
  simp only [String.toList_append, List.append_assoc] at hconst'
  rcases append_cons_split (hblank hd) (hblank he) (List.append_cancel_left hconst') with
    ⟨hschema, hcheck⟩
  have hfunction' := congrArg String.toList hfunction
  simp only [String.toList_append, List.append_assoc] at hfunction'
  have hname := List.append_cancel_right (List.append_cancel_left hfunction')
  have hprint : d.check.print.toList = e.check.print.toList := by
    have hcheck' : "= ".toList ++ (d.check.print.toList ++ ";".toList) =
        "= ".toList ++ (e.check.print.toList ++ ";".toList) := hcheck
    exact List.append_cancel_right (List.append_cancel_left hcheck')
  refine ⟨?_, hrest⟩
  rw [written, written, String.toList_inj.mp hschema, String.toList_inj.mp hname,
    String.toList_inj.mp hprint]

theorem map_written_eq_of_lines {decls others : List Compiled}
    (h : ∀ d ∈ decls, isIdentifier d.name = true) (h' : ∀ d ∈ others, isIdentifier d.name = true)
    (hlines : decls.flatMap declarationLines = others.flatMap declarationLines) :
    decls.map written = others.map written := by
  induction decls generalizing others with
  | nil =>
      cases others with
      | nil => rfl
      | cons e others => cases hlines
  | cons d decls ih =>
      cases others with
      | nil => cases hlines
      | cons e others =>
          rcases List.forall_mem_cons.mp h with ⟨hd, hdecls⟩
          rcases List.forall_mem_cons.mp h' with ⟨he, hothers⟩
          rw [List.flatMap_cons, List.flatMap_cons] at hlines
          rcases written_eq_of_lines hd he hlines with ⟨hde, hrest⟩
          rw [List.map_cons, List.map_cons, hde, ih hdecls hothers hrest]

/-- The runtime is quoted where the first quote of the line is. -/
theorem runtime_eq_of_importText {runtime other : String} {decls others : List Compiled}
    (h : importText runtime (importedNames decls) = importText other (importedNames others)) :
    runtime = other := by
  have hquote : ∀ ds : List Compiled,
      '"' ∉ "import \x7b ".toList ++ ((", ".intercalate (importedNames ds)).toList ++
        " \x7d from ".toList) := by
    intro ds hmem
    rcases List.mem_append.mp hmem with hmem | hmem
    · exact absurd hmem (by decide)
    · rcases List.mem_append.mp hmem with hmem | hmem
      · exact absurd (isCodeChar_of_mem_importedNames hmem) (by decide)
      · exact absurd hmem (by decide)
  have htext := congrArg String.toList h
  simp only [importText, String.toList_append, toList_quote, List.append_assoc,
    List.cons_append] at htext
  simp only [← List.append_assoc] at htext hquote
  rcases append_cons_split (hquote decls) (hquote others) (by simpa using htext) with ⟨_, hrest⟩
  exact String.toList_inj.mp (Quoted.body_split hrest).1

theorem parts_eq_of_render_eq {runtime other : String} {decls others : List Compiled}
    (h : ∀ d ∈ decls, isIdentifier d.name = true) (h' : ∀ d ∈ others, isIdentifier d.name = true)
    (hrender : render runtime decls = render other others) :
    (decls ≠ [] → runtime = other) ∧ decls.map written = others.map written := by
  have hlines : lines runtime decls = lines other others := by
    have hsplit := splitOn_render h runtime
    rw [hrender, splitOn_render h' other] at hsplit
    exact (List.map_inj_right (fun _ _ => String.toList_inj.mp)).mp
      (List.append_cancel_right hsplit).symm
  cases decls with
  | nil =>
      cases others with
      | nil => exact ⟨fun hne => absurd rfl hne, rfl⟩
      | cons e others => cases hlines
  | cons d decls =>
      cases others with
      | nil => cases hlines
      | cons e others =>
          simp only [lines, List.isEmpty_cons, Bool.false_eq_true, if_false, List.cons_append,
            List.nil_append, List.cons.injEq, true_and] at hlines
          exact ⟨fun _ => runtime_eq_of_importText hlines.1,
            map_written_eq_of_lines h h' hlines.2⟩

/-!
## Modules contain what is put into them
-/

end Module

namespace Check

theorem quotedTexts_subset_of_mem_children {c d : Check} (h : d ∈ c.children) :
    d.quotedTexts ⊆ c.quotedTexts := by
  intro text htext
  cases c with
  | optional inner =>
      cases List.mem_singleton.mp h
      exact htext
  | array element =>
      cases List.mem_singleton.mp h
      exact htext
  | union members =>
      rw [quotedTexts, quotedTextsAll_eq_flatMap]
      exact List.mem_flatMap.mpr ⟨d, h, htext⟩
  | intersection members =>
      rw [quotedTexts, quotedTextsAll_eq_flatMap]
      exact List.mem_flatMap.mpr ⟨d, h, htext⟩
  | tuple elements =>
      rw [quotedTexts, quotedTextsAll_eq_flatMap]
      exact List.mem_flatMap.mpr ⟨d, h, htext⟩
  | object entries =>
      rcases List.mem_map.mp h with ⟨e, he, rfl⟩
      rw [quotedTexts, quotedTextsOfEntries_eq_flatMap]
      exact List.mem_flatMap.mpr ⟨e, he, List.mem_append_right _ htext⟩
  | _ => cases h

theorem quotedTexts_subset_of_occurs {e c : Check} (h : Occurs e c) :
    e.quotedTexts ⊆ c.quotedTexts := by
  induction h with
  | self => exact List.Subset.refl _
  | inside hd _ ih => exact List.Subset.trans ih (quotedTexts_subset_of_mem_children hd)

theorem mem_quotedTexts_of_occurs_text {c : Check} {text : String}
    (h : Occurs (.const (.text text)) c) : text ∈ c.quotedTexts := by
  apply quotedTexts_subset_of_occurs h
  exact List.mem_singleton.mpr rfl

theorem isBareKey_or_mem_quotedTexts {c : Check} {entries : List (String × Check)}
    (h : Occurs (.object entries) c) {e : String × Check} (he : e ∈ entries) :
    isBareKey e.1 = true ∨ e.1 ∈ c.quotedTexts := by
  by_cases hbare : isBareKey e.1 = true
  · exact Or.inl hbare
  · right
    apply quotedTexts_subset_of_occurs h
    rw [quotedTexts, quotedTextsOfEntries_eq_flatMap]
    refine List.mem_flatMap.mpr ⟨e, he, List.mem_append_left _ ?_⟩
    rw [keyTexts, if_neg hbare]
    exact List.mem_singleton.mpr rfl

end Check

namespace Module

/-- Every text of a module stays in its place: the module has the lines that it should
have, the runtime and all texts and keys in the checks are string literals of these
texts, and the parts can be told from the text. -/
structure Contained (runtime : String) (decls : List Compiled) : Prop where
  lines_eq : (render runtime decls).toList.splitOn '\n' =
    (lines runtime decls).map String.toList ++ [[]]
  runtime_literal : IsLiteral (quote runtime) runtime
  check_literals : ∀ d ∈ decls, HasLiterals d.check.print.toList d.check.quotedTexts ∧
    ∀ text ∈ d.check.quotedTexts, IsLiteral (quote text) text
  texts_quoted : ∀ d ∈ decls, ∀ text, Check.Occurs (.const (.text text)) d.check →
    text ∈ d.check.quotedTexts
  keys_quoted : ∀ d ∈ decls, ∀ entries, Check.Occurs (.object entries) d.check →
    ∀ e ∈ entries, isBareKey e.1 = true ∨ e.1 ∈ d.check.quotedTexts
  determined : ∀ other others, (∀ d ∈ others, isIdentifier d.name = true) →
    render runtime decls = render other others →
      (decls ≠ [] → runtime = other) ∧ decls.map written = others.map written

theorem contained_of_identifiers (runtime : String) (decls : List Compiled)
    (h : ∀ d ∈ decls, isIdentifier d.name = true) : Contained runtime decls where
  lines_eq := splitOn_render h runtime
  runtime_literal := isLiteral_quote runtime
  check_literals := fun d _ => ⟨d.check.hasLiterals_print, fun text _ => isLiteral_quote text⟩
  texts_quoted := fun _ _ _ => Check.mem_quotedTexts_of_occurs_text
  keys_quoted := fun _ _ _ hoccurs _ => Check.isBareKey_or_mem_quotedTexts hoccurs
  determined := fun _ _ h' hrender => parts_eq_of_render_eq h h' hrender

/-- A declaration whose key and text try to leave their quotes. -/
def hostile : List Compiled :=
  [⟨"user", .object [("\"\x7d); //\n", .const (.text "\\\"\n ")), ("__proto__", .noop)]⟩]

theorem contained_hostile :
    (∀ d ∈ hostile, isIdentifier d.name = true) ∧ Contained "\";\nimport \"x" hostile := by
  have hnames : ∀ d ∈ hostile, isIdentifier d.name = true := by decide
  exact ⟨hnames, contained_of_identifiers _ _ hnames⟩

end Module
end ShapeCheck
