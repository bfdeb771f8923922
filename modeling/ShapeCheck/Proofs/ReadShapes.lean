import ShapeCheck.Proofs.Double.Nearest
import ShapeCheck.Proofs.Nesting
import ShapeCheck.Proofs.Violation

/-!
# Shapes that are read are well formed

Every shape inside a shape that is read was itself read from some document.  So what
reading checks at one level holds at all levels: unions have members, field names
differ, and number literals are numbers of the document.  Compiling checks nothing else
but the depth.
-/

namespace ShapeCheck

theorem Json.Number.isFinite_toDouble {n : Json.Number} (h : n.Fits) :
    n.toDouble.isFinite = true := by
  cases n with
  | decimal x => exact h
  | whole n =>
      have hlower : -(2 ^ 63 : Int) ≤ n := h.1
      have hupper : n < 2 ^ 64 := h.2
      apply Double.isFinite_ofInt
      omega

namespace Shape

/-!
## One level
-/

theorem soundHere_of_reads {j : Json} {s : Shape} (h : Reads j s) : s.SoundHere := by
  rcases reads_iff.mp h with ⟨node, _, hgives⟩
  cases hgives with
  | union hne hmembers =>
      apply SoundHere.of_ne
      · intro hempty
        cases hempty
        exact hne (List.forall₂_nil_right_iff.mp hmembers)
      · simp
  | object hnodup hfields =>
      constructor
      · simp
      · intro fields heq
        cases heq
        exact hnodup
  | _ => exact .of_ne (by simp) (by simp)

theorem literalOf_eq_number {value : Option Json} {x : Double}
    (h : literalOf value = .ok (.number x)) :
    ∃ n, value = some (.number n) ∧ n.toDouble = x := by
  unfold literalOf at h
  split at h <;> cases h
  exact ⟨_, rfl, rfl⟩

theorem exists_number_of_reads {j : Json} {x : Double} (h : Reads j (.literal (.number x))) :
    ∃ n ∈ j.numbers, n.toDouble = x := by
  rcases reads_iff.mp h with ⟨node, hnode, hgives⟩
  rcases Node.holds_of_ofJson hnode with ⟨kind, content, hholds, hmade⟩
  cases hgives with
  | literal hliteral =>
      rcases literalOf_eq_number hliteral with ⟨n, rfl, hn⟩
      cases hmade with
      | literal content =>
          have hsubset := Json.numbers_subset_of_inside (hholds.inside rfl)
          exact ⟨n, hsubset List.mem_cons_self, hn⟩

/-!
## All levels
-/

/-- A shape inside a shape is read from a document that has no further numbers. -/
theorem exists_reads_of_at? {j : Json} {s t : Shape} {path : Path} (h : Reads j s)
    (ht : s.at? path = some t) : ∃ part, Reads part t ∧ part.numbers ⊆ j.numbers := by
  induction path generalizing j s with
  | nil =>
      cases ht
      exact ⟨j, h, List.Subset.refl _⟩
  | cons step rest ih =>
      rcases Option.bind_eq_some_iff.mp ht with ⟨u, hu, hrest⟩
      have hmem : u ∈ s.parts := exists_part?_iff.mp ⟨step, hu⟩
      rcases exists_inside_of_mem_parts h hmem with ⟨inner, hinside, hread⟩
      rcases ih hread hrest with ⟨part, hpart, hsubset⟩
      exact ⟨part, hpart, List.Subset.trans hsubset (Json.numbers_subset_of_inside hinside)⟩

theorem isSound_of_reads {j : Json} {s : Shape} (h : Reads j s) : s.isSound = true := by
  apply (isSound_iff_at? s).mpr
  intro path t ht
  rcases exists_reads_of_at? h ht with ⟨part, hpart, _⟩
  exact soundHere_of_reads hpart

theorem isFinite_of_reads {j : Json} {s : Shape} (hfit : j.NumbersFit) (h : Reads j s)
    {path : Path} {x : Double} (hx : s.at? path = some (.literal (.number x))) :
    x.isFinite = true := by
  rcases exists_reads_of_at? h hx with ⟨part, hpart, hsubset⟩
  rcases exists_number_of_reads hpart with ⟨n, hn, rfl⟩
  exact Json.Number.isFinite_toDouble (hfit n (hsubset hn))

/-- In a shape that is read, unions have members, the names of the fields of an object
differ, and number literals are finite if the numbers of the document fit into 64 bits.
So it compiles under every ceiling that it does not exceed, and the only violation is to
exceed it. -/
theorem ofJson_establishes_invariants {j : Json} {s : Shape} (h : ofJson j = .ok s) :
    (∀ path, s.at? path ≠ some (.union [])) ∧
    (∀ path fields, s.at? path = some (.object fields) → (fieldNames fields).Nodup) ∧
    (j.NumbersFit → ∀ path x, s.at? path = some (.literal (.number x)) → x.isFinite = true) ∧
    ∀ limit, (s.depth ≤ limit → ∃ c, s.compile limit = .ok c) ∧
      (limit < s.depth → ∃ path, s.compile limit = .error ⟨.tooDeep limit, path⟩) := by
  have hsound := isSound_of_reads h
  have hhere := (isSound_iff_at? s).mp hsound
  refine ⟨?_, ?_, ?_, ?_⟩
  · intro path hpath
    exact (hhere path _ hpath).not_empty_union rfl
  · intro path fields hpath
    exact (hhere path _ hpath).names_nodup fields rfl
  · intro hfit path x hpath
    exact isFinite_of_reads hfit h hpath
  · intro limit
    constructor
    · intro hdepth
      exact (compile_givesIff limit s).exists_iff.mpr ⟨hdepth, hsound⟩
    · intro hdepth
      exact compile_eq_error_of_isSound hsound hdepth

/-- An array of the greatest whole number, under a ceiling that it fits and one that it
does not. -/
theorem ofJson_establishes_invariants_greatest :
    let element := Json.object
      [("kind", .text "literal"), ("value", .number (.whole 18446744073709551615))]
    let j := Json.object [("kind", .text "array"), ("element", element)]
    let x := Double.ofInt 18446744073709551615
    ofJson j = .ok (.array (.literal (.number x))) ∧ j.NumbersFit ∧ x.isFinite = true ∧
      (∃ c, (Shape.array (.literal (.number x))).compile 2 = .ok c) ∧
      ∃ path, (Shape.array (.literal (.number x))).compile 1 = .error ⟨.tooDeep 1, path⟩ := by
  intro element j x
  have helement : Reads element (.literal (.number x)) :=
    reads_iff.mpr ⟨.literal (some (.number (.whole 18446744073709551615))), rfl, .literal rfl⟩
  have hread : ofJson j = .ok (.array (.literal (.number x))) :=
    reads_iff.mpr ⟨.array element, rfl, .array helement⟩
  have hfit : j.NumbersFit := by decide
  rcases ofJson_establishes_invariants hread with ⟨_, _, hfinite, hcompile⟩
  refine ⟨hread, hfit, hfinite hfit [.item] x rfl, (hcompile 2).1 ?_, (hcompile 1).2 ?_⟩
  · exact Nat.le_refl 2
  · exact Nat.lt_succ_self 1

end Shape
end ShapeCheck
