import Mathlib.Data.List.Nodup
import ShapeCheck.Proofs.Compile
import ShapeCheck.Proofs.Site

/-!
# The first violation

Lowering visits the sites of a shape in their order and stops at the first one that has
a fault.  One level of it is described first: lowering stops at the shape itself or in one
of its parts, and in the latter case all parts before are lowered.
-/

namespace ShapeCheck

theorem map_eq_error_iff {ε α β : Type} {x : Except ε α} {f : α → β} {e : ε} :
    x.map f = .error e ↔ x = .error e := by
  cases x with
  | error e' => simp [Except.map]
  | ok a => simp [Except.map]

theorem nodup_take_add_one_iff {α : Type} {as : List α} {k : Nat} {a : α}
    (ha : as[k]? = some a) : (as.take (k + 1)).Nodup ↔ a ∉ as.take k ∧ (as.take k).Nodup := by
  rw [List.take_add_one, ha, Option.toList_some, ← List.concat_eq_append, List.nodup_concat]

theorem not_mem_take_of_nodup {α : Type} {as : List α} {i m : Nat} {a : α}
    (hnodup : (as.take m).Nodup) (hlt : i < m) (ha : as[i]? = some a) : a ∉ as.take i := by
  have hsublist : (as.take (i + 1)).Sublist (as.take m) := List.take_sublist_take_left hlt
  exact ((nodup_take_add_one_iff ha).mp (hnodup.sublist hsublist)).1

namespace Shape

/-!
## Faults
-/

/-- What a shape has at a site and may not have under any ceiling. -/
inductive Flaw (s : Shape) : Site → Fault → Prop
  | emptyUnion {path : Path} (h : s.at? path = some (.union [])) :
      Flaw s (.members path) .emptyUnion
  | duplicateField {path : Path} {fields : List Field} {i : Nat} {f : Field}
      (h : s.at? path = some (.object fields)) (hf : fields[i]? = some f)
      (hseen : f.name ∈ fieldNames (fields.take i)) :
      Flaw s (.name path i) (.duplicateField f.name)

/-- What a shape has at a site and may not have where `room` levels are left below a
ceiling of `limit`. -/
inductive FaultAt (limit room : Nat) (s : Shape) : Site → Fault → Prop
  | tooDeep {path : Path} {t : Shape} (h : s.at? path = some t) (hroom : room ≤ path.length) :
      FaultAt limit room s (.level path) (.tooDeep limit)
  | flaw {site : Site} {fault : Fault} (h : s.Flaw site fault) :
      FaultAt limit room s site fault

theorem fieldNames_take (fields : List Field) (i : Nat) :
    fieldNames (fields.take i) = (fieldNames fields).take i :=
  List.map_take

theorem getElem?_fieldNames {fields : List Field} {i : Nat} {f : Field}
    (h : fields[i]? = some f) : (fieldNames fields)[i]? = some f.name := by
  rw [fieldNames, List.getElem?_map, h]
  rfl

theorem not_flaw_of_isSound {s : Shape} (hsound : s.isSound = true) (site : Site)
    (fault : Fault) : ¬ s.Flaw site fault := by
  have hhere := (isSound_iff_at? s).mp hsound
  intro h
  cases h with
  | emptyUnion h => exact (hhere _ _ h).not_empty_union rfl
  | @duplicateField path fields i f h hf hseen =>
      have hnodup := (hhere _ _ h).names_nodup fields rfl
      rw [fieldNames_take] at hseen
      exact not_mem_take_of_nodup (hnodup.sublist (List.take_sublist _ _)) (Nat.lt_succ_self i)
        (getElem?_fieldNames hf) hseen

theorem Flaw.of_under {s : Shape} {site : Site} {step : Step} {fault : Fault}
    (h : s.Flaw (site.under step) fault) : ∃ t, s.part? step = some t ∧ t.Flaw site fault := by
  cases site with
  | level path => cases h
  | members path =>
      cases h with
      | emptyUnion h =>
          rcases Option.bind_eq_some_iff.mp h with ⟨t, ht, hpath⟩
          exact ⟨t, ht, .emptyUnion hpath⟩
  | name path i =>
      cases h with
      | duplicateField h hf hseen =>
          rcases Option.bind_eq_some_iff.mp h with ⟨t, ht, hpath⟩
          exact ⟨t, ht, .duplicateField hpath hf hseen⟩

theorem Flaw.under {s t : Shape} {site : Site} {step : Step} {fault : Fault}
    (hpart : s.part? step = some t) (h : t.Flaw site fault) :
    s.Flaw (site.under step) fault := by
  cases h with
  | emptyUnion h => exact .emptyUnion (Option.bind_eq_some_iff.mpr ⟨t, hpart, h⟩)
  | duplicateField h hf hseen =>
      exact .duplicateField (Option.bind_eq_some_iff.mpr ⟨t, hpart, h⟩) hf hseen

theorem FaultAt.of_under {limit room : Nat} {s : Shape} {site : Site} {step : Step}
    {fault : Fault} (h : s.FaultAt limit (room + 1) (site.under step) fault) :
    ∃ t, s.part? step = some t ∧ t.FaultAt limit room site fault := by
  generalize hsite : site.under step = other at h
  cases h with
  | flaw h =>
      subst hsite
      rcases h.of_under with ⟨t, ht, hflaw⟩
      exact ⟨t, ht, .flaw hflaw⟩
  | tooDeep h hroom =>
      cases site <;> cases hsite
      rcases Option.bind_eq_some_iff.mp h with ⟨t, ht, hpath⟩
      exact ⟨t, ht, .tooDeep hpath (Nat.le_of_succ_le_succ hroom)⟩

theorem FaultAt.under {limit room : Nat} {s t : Shape} {site : Site} {step : Step}
    {fault : Fault} (hpart : s.part? step = some t) (h : t.FaultAt limit room site fault) :
    s.FaultAt limit (room + 1) (site.under step) fault := by
  cases h with
  | flaw h => exact .flaw (h.under hpart)
  | tooDeep h hroom =>
      exact .tooDeep (Option.bind_eq_some_iff.mpr ⟨t, hpart, h⟩) (Nat.succ_le_succ hroom)

theorem FaultAt.root_cases {limit room : Nat} {s : Shape} {site : Site} {fault : Fault}
    (h : s.FaultAt limit (room + 1) site fault) (hroot : site.path = []) :
    s = .union [] ∧ site = .members [] ∨ ∃ fields i f, s = .object fields ∧
      site = .name [] i ∧ fields[i]? = some f ∧ f.name ∈ fieldNames (fields.take i) := by
  cases h with
  | tooDeep h hroom =>
      cases hroot
      cases hroom
  | flaw h =>
      cases h with
      | emptyUnion h =>
          cases hroot
          cases h
          exact Or.inl ⟨rfl, rfl⟩
      | duplicateField h hf hseen =>
          cases hroot
          cases h
          exact Or.inr ⟨_, _, _, rfl, rfl, hf, hseen⟩

theorem FaultAt.flaw_of_depth_le {limit room : Nat} {s : Shape} {site : Site} {fault : Fault}
    (h : s.FaultAt limit room site fault) (hdepth : s.depth ≤ room) : s.Flaw site fault := by
  cases h with
  | flaw hflaw => exact hflaw
  | tooDeep ht hroom =>
      have hlength := length_lt_depth_of_at? ht
      exact absurd (Nat.lt_of_lt_of_le hlength hdepth) (Nat.not_lt.mpr hroom)

theorem not_faultAt_of_lower {limit room : Nat} {s : Shape} {c : Check}
    (h : lower limit s room = .ok c) (site : Site) (fault : Fault) :
    ¬ s.FaultAt limit room site fault := by
  rcases ((lowersExactly limit s room c).mp h).1 with ⟨hdepth, hsound⟩
  intro hfault
  exact not_flaw_of_isSound hsound site fault (hfault.flaw_of_depth_le hdepth)

/-!
## One level
-/

def Lowers (limit room : Nat) (s : Shape) : Prop := ∃ c, lower limit s room = .ok c

/-- How lowering stops at a shape for which there is room: at the shape itself, or in its
first part that cannot be lowered. -/
inductive Stops (limit room : Nat) : Shape → Violation → Prop
  | emptyUnion : Stops limit room (.union []) (.here .emptyUnion)
  | duplicateField {fields : List Field} {k : Nat} {f : Field}
      (hfirst : FirstAt (fun g => g.shape.Lowers limit room) fields k f)
      (hnodup : (fieldNames (fields.take k)).Nodup)
      (hseen : f.name ∈ fieldNames (fields.take k)) :
      Stops limit room (.object fields) (.here (.duplicateField f.name))
  | part {s t : Shape} {step : Step} {inner : Violation} (hpart : s.part? step = some t)
      (hearlier : ∀ earlier u, Step.Before earlier step → s.part? earlier = some u →
        u.Lowers limit room)
      (hunion : s ≠ .union [])
      (hnames : ∀ fields k, s = .object fields → step = .field k →
        (fieldNames (fields.take (k + 1))).Nodup)
      (h : lower limit t room = .error inner) : Stops limit room s (inner.under step)

theorem lowerAll_eq_error {limit : Nat} {step : Nat → Step} {i room : Nat}
    {shapes : List Shape} {e : Violation} (h : lowerAll limit step i shapes room = .error e) :
    ∃ k t inner, FirstAt (Lowers limit room) shapes k t ∧ lower limit t room = .error inner ∧
      e = inner.under (step (i + k)) := by
  induction shapes generalizing i with
  | nil => cases h
  | cons s rest ih =>
      rw [lowerAll] at h
      cases hs : lower limit s room with
      | error inner =>
          rw [hs] at h
          cases h
          exact ⟨0, s, inner, .head s rest, hs, rfl⟩
      | ok c =>
          rw [hs] at h
          rcases ih (map_eq_error_iff.mp h) with ⟨k, t, inner, hfirst, ht, he⟩
          refine ⟨k + 1, t, inner, hfirst.tail ⟨c, hs⟩, ht, ?_⟩
          rw [he, Nat.add_right_comm, Nat.add_assoc]

theorem lowerFields_eq_error {limit : Nat} {i room : Nat} {seen : List String}
    {fields : List Field} {e : Violation} (h : lowerFields limit i seen fields room = .error e) :
    ∃ k f, FirstAt (fun g => g.shape.Lowers limit room) fields k f ∧
      ((fieldNames (fields.take k)).Nodup ∧ ∀ name ∈ fieldNames (fields.take k), name ∉ seen) ∧
      (f.name ∈ fieldNames (fields.take k) ++ seen ∧ e = .here (.duplicateField f.name) ∨
        f.name ∉ fieldNames (fields.take k) ++ seen ∧
          ∃ inner, lower limit f.shape room = .error inner ∧ e = inner.under (.field (i + k))) := by
  induction fields generalizing i seen with
  | nil => cases h
  | cons f rest ih =>
      cases f with
      | mk name shape optional =>
          rw [lowerFields] at h
          by_cases hname : name ∈ seen
          · rw [if_pos hname] at h
            cases h
            exact ⟨0, _, .head _ rest, by simp [fieldNames], Or.inl ⟨hname, rfl⟩⟩
          · rw [if_neg hname] at h
            cases hs : lower limit shape room with
            | error inner =>
                rw [hs] at h
                cases h
                exact ⟨0, _, .head _ rest, by simp [fieldNames], Or.inr ⟨hname, inner, hs, rfl⟩⟩
            | ok c =>
                rw [hs] at h
                rcases ih (map_eq_error_iff.mp h) with ⟨k, f, hfirst, hfresh, hstop⟩
                have hseen : f.name ∈ fieldNames (rest.take k) ++ name :: seen ↔
                    f.name ∈ fieldNames (List.take (k + 1) (⟨name, shape, optional⟩ :: rest)) ++
                      seen := by
                  rw [List.take_succ_cons, fieldNames_cons]
                  exact List.perm_middle.mem_iff
                refine ⟨k + 1, f, hfirst.tail ⟨c, hs⟩, ?_, ?_⟩
                · rw [List.take_succ_cons, fieldNames_cons, ← fresh_cons_iff]
                  exact ⟨hname, hfresh⟩
                · rw [← hseen, Nat.add_comm k 1, ← Nat.add_assoc]
                  exact hstop

theorem stops_of_lower_eq_error {limit room : Nat} {s : Shape} {e : Violation}
    (h : lower limit s (room + 1) = .error e) : Stops limit room s e := by
  have hlist : ∀ {step : Nat → Step} {shapes : List Shape},
      lowerAll limit step 0 shapes room = .error e → (∀ k, s.part? (step k) = shapes[k]?) →
      (∀ earlier k, Step.Before earlier (step k) → ∃ i < k, earlier = step i) →
      s ≠ .union [] → (∀ fields, s ≠ .object fields) → Stops limit room s e := by
    intro step shapes hshapes hpart hbefore hunion hobject
    rcases lowerAll_eq_error hshapes with ⟨k, t, inner, hfirst, ht, rfl⟩
    rw [Nat.zero_add]
    refine .part ((hpart k).trans hfirst.place) ?_ hunion ?_ ht
    · intro earlier u hearlier hu
      rcases hbefore earlier k hearlier with ⟨i, hi, rfl⟩
      exact hfirst.good_of_lt hi ((hpart i).symm.trans hu)
    · intro fields _ hs
      exact absurd hs (hobject fields)
  cases s with
  | literal value => cases h
  | primitive type => cases h
  | any => cases h
  | union members =>
      cases members with
      | nil =>
          cases h
          exact .emptyUnion
      | cons s rest =>
          exact hlist (map_eq_error_iff.mp h) (fun k => rfl) Step.before_member (by simp) (by simp)
  | intersection members =>
      exact hlist (map_eq_error_iff.mp h) (fun k => rfl) Step.before_member (by simp) (by simp)
  | tuple elements =>
      exact hlist (map_eq_error_iff.mp h) (fun k => rfl) Step.before_element (by simp) (by simp)
  | array element =>
      cases ht : lower limit element room with
      | ok c =>
          rw [lower, ht] at h
          cases h
      | error inner =>
          rw [lower, ht] at h
          cases h
          refine .part rfl ?_ (by simp) (by simp) ht
          intro earlier u hearlier
          cases hearlier
  | object fields =>
      rcases lowerFields_eq_error (map_eq_error_iff.mp h) with ⟨k, f, hfirst, hfresh, hstop⟩
      rw [List.append_nil] at hstop
      rcases hstop with ⟨hseen, rfl⟩ | ⟨hnew, inner, hf, rfl⟩
      · exact .duplicateField hfirst hfresh.1 hseen
      · rw [Nat.zero_add]
        refine .part (by rw [part?, hfirst.place]; rfl) ?_ (by simp) ?_ hf
        · intro earlier u hearlier hu
          cases hearlier with
          | field hi =>
              rcases Option.map_eq_some_iff.mp hu with ⟨g, hg, rfl⟩
              exact hfirst.good_of_lt hi hg
        · rintro _ _ ⟨⟩ ⟨⟩
          rw [fieldNames_take] at hnew hfresh ⊢
          exact (nodup_take_add_one_iff (getElem?_fieldNames hfirst.place)).mpr ⟨hnew, hfresh.1⟩

/-!
## The first fault
-/

/-- No fault is visited before a turn in a part if there is none in the parts before, none
in the names up to it and none before the turn in the part itself. -/
theorem not_faultAt_before_part {limit room : Nat} {s : Shape} {step : Step} {path : Path}
    {n : Nat} (hunion : s ≠ .union [])
    (hearlier : ∀ earlier u, Step.Before earlier step → s.part? earlier = some u →
      u.Lowers limit room)
    (hnames : ∀ fields i f, s = .object fields → fields[i]? = some f →
      TurnBefore ([.field i], 0) (step :: path, n) → f.name ∉ fieldNames (fields.take i))
    (hpart : ∀ t inner fault, s.part? step = some t → TurnBefore (Site.turn inner) (path, n) →
      ¬ t.FaultAt limit room inner fault)
    {site : Site} (hbefore : TurnBefore site.turn (step :: path, n)) (fault : Fault) :
    ¬ s.FaultAt limit (room + 1) site fault := by
  intro hfault
  rcases site.path_eq_nil_or_under with hroot | ⟨other, inner, rfl⟩
  · rcases hfault.root_cases hroot with ⟨hempty, _⟩ | ⟨fields, i, f, hobject, rfl, hf, hseen⟩
    · exact hunion hempty
    · exact hnames fields i f hobject hf hbefore hseen
  · rcases hfault.of_under with ⟨t, ht, hinner⟩
    rw [Site.turn_under] at hbefore
    rcases before_of_turnBefore_cons hbefore with hother | ⟨rfl, hturn⟩
    · rcases hearlier other t hother ht with ⟨c, hc⟩
      exact not_faultAt_of_lower hc inner fault hinner
    · exact hpart t inner fault ht hturn hinner

/-- The violation is reported for the first site that has a fault. -/
def IsFirst (limit room : Nat) (s : Shape) (e : Violation) : Prop :=
  ∃ site, s.FaultAt limit room site e.fault ∧ site.path = e.path ∧
    ∀ earlier fault, Site.Before earlier site → ¬ s.FaultAt limit room earlier fault

theorem isFirst_of_stops {limit room : Nat} {s : Shape} {e : Violation}
    (h : Stops limit room s e)
    (hinner : ∀ t inner, lower limit t room = .error inner → IsFirst limit room t inner) :
    IsFirst limit (room + 1) s e := by
  cases h with
  | emptyUnion =>
      refine ⟨.members [], .flaw (.emptyUnion rfl), rfl, ?_⟩
      intro earlier fault hbefore hfault
      rcases earlier.path_eq_nil_or_under with hroot | ⟨step, inner, rfl⟩
      · rcases hfault.root_cases hroot with ⟨_, rfl⟩ | ⟨_, _, _, hobject, _⟩
        · exact Nat.lt_irrefl 2 (of_turnBefore_nil hbefore).2
        · cases hobject
      · rw [Site.Before, Site.turn_under] at hbefore
        cases (of_turnBefore_nil hbefore).1
  | @duplicateField fields k f hfirst hnodup hseen =>
      refine ⟨.name [] k, .flaw (.duplicateField rfl hfirst.place hseen), rfl, ?_⟩
      intro earlier fault hbefore
      refine not_faultAt_before_part (by simp) ?_ ?_ ?_ hbefore fault
      · intro other u hother hu
        cases hother with
        | field hi =>
            rcases Option.map_eq_some_iff.mp hu with ⟨g, hg, rfl⟩
            exact hfirst.good_of_lt hi hg
      · intro _ i g hobject hg hturn
        cases hobject
        rcases before_of_turnBefore_cons hturn with hother | ⟨_, hturn⟩
        · cases hother with
          | field hi =>
              rw [fieldNames_take] at hnodup ⊢
              exact not_mem_take_of_nodup hnodup hi (getElem?_fieldNames hg)
        · exact absurd (of_turnBefore_nil hturn).2 (Nat.not_lt_zero _)
      · intro t inner fault _ hturn
        exact absurd (of_turnBefore_nil hturn).2 (Nat.not_lt_zero _)
  | @part _ t step inner hpart hearlier hunion hnames hlower =>
      rcases hinner t inner hlower with ⟨site, hfault, hpath, hclear⟩
      refine ⟨site.under step, hfault.under hpart, ?_, ?_⟩
      · rw [Site.path_under, hpath]
        rfl
      · intro earlier fault hbefore
        rw [Site.Before, Site.turn_under] at hbefore
        refine not_faultAt_before_part hunion hearlier ?_ ?_ hbefore fault
        · intro fields i f hobject hf hturn
          -- The name of the field in which lowering stops was checked before its shape.
          have hle : ∃ k, step = .field k ∧ i < k + 1 := by
            rcases before_of_turnBefore_cons hturn with hother | ⟨rfl, _⟩
            · cases hother with
              | field hi => exact ⟨_, rfl, Nat.lt_succ_of_lt hi⟩
            · exact ⟨i, rfl, Nat.lt_succ_self i⟩
          rcases hle with ⟨k, hstep, hi⟩
          have hnodup := hnames fields k hobject hstep
          rw [fieldNames_take] at hnodup ⊢
          exact not_mem_take_of_nodup hnodup hi (getElem?_fieldNames hf)
        · intro u other fault hu hturn
          cases hpart.symm.trans hu
          exact hclear other fault hturn

theorem isFirst_of_lower_eq_error {limit room : Nat} {s : Shape} {e : Violation}
    (h : lower limit s room = .error e) : IsFirst limit room s e := by
  -- A part is one level below the shape, so the room goes down with the shape.
  induction room generalizing s e with
  | zero =>
      rw [lower_zero] at h
      cases h
      refine ⟨.level [], .tooDeep rfl (Nat.le_refl 0), rfl, ?_⟩
      intro earlier fault hbefore
      exact absurd hbefore earlier.not_before_level_nil
  | succ room ih => exact isFirst_of_stops (stops_of_lower_eq_error h) (fun t inner => ih)

theorem fault_of_isSound {limit room : Nat} {s : Shape} {e : Violation}
    (hsound : s.isSound = true) (h : lower limit s room = .error e) :
    e.fault = .tooDeep limit := by
  rcases isFirst_of_lower_eq_error h with ⟨site, hfault, _⟩
  cases e with
  | mk fault path =>
      cases hfault with
      | tooDeep _ _ => rfl
      | flaw hflaw => exact absurd hflaw (not_flaw_of_isSound hsound site fault)

theorem compile_eq_error_of_isSound {limit : Nat} {s : Shape} (hsound : s.isSound = true)
    (hdepth : limit < s.depth) : ∃ path, s.compile limit = .error ⟨.tooDeep limit, path⟩ := by
  cases hcompile : s.compile limit with
  | ok c =>
      have hle := ((compile_givesIff limit s c).mp hcompile).1.1
      exact absurd hle (Nat.not_le_of_lt hdepth)
  | error e =>
      have hfault := fault_of_isSound hsound hcompile
      cases e with
      | mk fault path =>
          cases hfault
          exact ⟨path, rfl⟩

/-!
## What a violation says
-/

/-- Lowering goes down as far as there is room, so what is too deep lies at the end of it. -/
theorem length_path_of_tooDeep {limit room l : Nat} {s : Shape} {e : Violation}
    (h : lower limit s room = .error e) (hfault : e.fault = .tooDeep l) :
    e.path.length = room := by
  induction room generalizing s e with
  | zero =>
      rw [lower_zero] at h
      cases h
      rfl
  | succ room ih =>
      cases stops_of_lower_eq_error h with
      | emptyUnion => cases hfault
      | duplicateField _ _ _ => cases hfault
      | part _ _ _ _ hlower => exact congrArg (· + 1) (ih hlower hfault)

/-- A violation says where it lies, and what it says is wrong there. -/
structure Describes (limit : Nat) (s : Shape) (e : Violation) (t : Shape) : Prop where
  place : s.at? e.path = some t
  tooDeep : ∀ l, e.fault = .tooDeep l → l = limit ∧ e.path.length = limit
  emptyUnion : e.fault = .emptyUnion → t = .union []
  duplicateField : ∀ name, e.fault = .duplicateField name →
    ∃ (fields : List Field) (i k : Nat), t = .object fields ∧ i < k ∧
      (fieldNames fields)[i]? = some name ∧ (fieldNames fields)[k]? = some name

theorem FaultAt.exists_describes {limit : Nat} {s : Shape} {site : Site} {e : Violation}
    (h : s.FaultAt limit limit site e.fault) (hpath : site.path = e.path)
    (hlength : ∀ l, e.fault = .tooDeep l → e.path.length = limit) :
    ∃ t, Describes limit s e t := by
  cases e with
  | mk fault path =>
      cases hpath
      cases h with
      | @tooDeep path t ht hroom =>
          refine ⟨t, ht, ?_, by simp, by simp⟩
          rintro l ⟨⟩
          exact ⟨rfl, hlength limit rfl⟩
      | flaw h =>
          cases h with
          | emptyUnion ht => exact ⟨_, ht, by simp, fun _ => rfl, by simp⟩
          | @duplicateField path fields k f ht hf hseen =>
              refine ⟨_, ht, by simp, by simp, ?_⟩
              rintro name ⟨⟩
              rw [fieldNames_take, List.mem_take_iff_getElem] at hseen
              rcases hseen with ⟨i, hi, hname⟩
              rw [Nat.lt_min] at hi
              refine ⟨fields, i, k, rfl, hi.1, ?_, getElem?_fieldNames hf⟩
              rw [List.getElem?_eq_getElem hi.2, hname]

/-- A violation leads to a shape inside the compiled shape and is right about it: what is
too deep lies just below the ceiling, the union has no members, the object has two fields
of the name.  No site that is visited earlier has a fault. -/
theorem compile_reports_first_violation {limit : Nat} {s : Shape} {e : Violation}
    (h : s.compile limit = .error e) :
    (∃ t, Describes limit s e t) ∧
      ∃ site : Site, s.FaultAt limit limit site e.fault ∧ site.path = e.path ∧
        ∀ earlier fault, Site.Before earlier site → ¬ s.FaultAt limit limit earlier fault := by
  rcases isFirst_of_lower_eq_error h with ⟨site, hfault, hpath, hfirst⟩
  refine ⟨hfault.exists_describes hpath ?_, site, hfault, hpath, hfirst⟩
  intro l hl
  exact length_path_of_tooDeep h hl

/-- Three things are wrong: the second field has the name of the first, its shape is an
empty union, and the shape of the third is too deep.  The name comes first. -/
theorem compile_reports_first_violation_name :
    let s : Shape := .object [⟨"a", .any, false⟩, ⟨"a", .union [], true⟩,
      ⟨"b", .array .any, false⟩]
    s.compile 2 = .error ⟨.duplicateField "a", []⟩ ∧
      (∃ t, Describes 2 s ⟨.duplicateField "a", []⟩ t) ∧
      ∃ site : Site, s.FaultAt 2 2 site (.duplicateField "a") ∧ site.path = [] ∧
        ∀ earlier fault, Site.Before earlier site → ¬ s.FaultAt 2 2 earlier fault := by
  intro s
  have h : s.compile 2 = .error ⟨.duplicateField "a", []⟩ := rfl
  exact ⟨h, compile_reports_first_violation h⟩

end Shape
end ShapeCheck
