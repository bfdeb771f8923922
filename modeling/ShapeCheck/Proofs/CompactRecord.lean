import ShapeCheck.Proofs.CompactText
import ShapeCheck.Proofs.Skipping

/-!
# Records in compact text

What the readers of texts, lists and records make of a document that is written as compact
text.  A document is taken, or it is refused at a path inside it, and neither depends on
what follows.
-/

namespace ShapeCheck
namespace Reading

variable {α β : Type}

/-- The reader refuses a document for what stands at a path inside it. -/
def Reader.Refuses (r : Reader α) (j : Json) (path : List Segment) (reason : Reason) : Prop :=
  ∀ rest, Delimits rest →
    ∃ e, r.run (spelled j ++ rest) = .error e ∧ e.path = path ∧ e.reason = reason

section Readers

variable {r : Reader α} {j : Json} {a : α} {path : List Segment} {reason : Reason}

theorem Reader.Takes.map (f : α → β) (h : r.Takes j a) : (r.map f).Takes j (f a) := by
  intro rest hrest
  simp only [Reader.map, h rest hrest]

theorem Reader.Refuses.map (f : α → β) (h : r.Refuses j path reason) :
    (r.map f).Refuses j path reason := by
  intro rest hrest
  rcases h rest hrest with ⟨e, hread, he⟩
  exact ⟨e, by simp only [Reader.map, hread], he⟩

theorem run_string_of_start {s rest : Bytes} {t : String}
    (h : start s = .ok (.scalar (.text t), rest)) : string.run s = .ok (t, rest) := by
  simp only [string, stringRun, h]

theorem string_takes (t : String) : string.Takes (.text t) t := by
  intro rest hrest
  have hexact : (Json.text t).Exact := ⟨List.forall_mem_nil _, rfl⟩
  exact run_string_of_start (start_spelled_scalar hexact rfl hrest)

theorem optional_takes_null : (optional r).Takes .null none :=
  fun _ _ => rfl

/-- Only null starts like null, so anything else is left to the inner reader. -/
theorem optionalRun_spelled (h : j.Exact) (hnull : j ≠ .null) (rest : Bytes) :
    optionalRun r (spelled j ++ rest) =
      (r.run (spelled j ++ rest)).map (fun read => (some read.1, read.2)) := by
  rcases exists_spelled h with ⟨b, tail, hspelled, hblank, -, hne⟩
  rw [optionalRun, hspelled, List.cons_append, skipBlank_of_not_isBlank hblank]
  dsimp only
  rw [if_neg (hne hnull)]
  cases r.run (b :: (tail ++ rest)) <;> rfl

theorem optional_takes (hexact : j.Exact) (hnull : j ≠ .null) (h : r.Takes j a) :
    (optional r).Takes j (some a) := by
  intro rest hrest
  show optionalRun r _ = _
  rw [optionalRun_spelled hexact hnull, h rest hrest]
  rfl

theorem optional_refuses (hexact : j.Exact) (hnull : j ≠ .null) (h : r.Refuses j path reason) :
    (optional r).Refuses j path reason := by
  intro rest hrest
  rcases h rest hrest with ⟨e, hread, he⟩
  refine ⟨e, ?_, he⟩
  show optionalRun r _ = _
  rw [optionalRun_spelled hexact hnull, hread]
  rfl

theorem shape_takes (hexact : j.Exact) {depth : Nat} (hdepth : j.depth ≤ depth) {s : Shape}
    (h : Shape.ofJson j = .ok s) : (shape depth).Takes j s := by
  intro rest hrest
  show shapeRun depth _ = _
  rw [shapeRun, value_takes hexact hdepth rest hrest]
  simp only [h]

theorem shape_refuses (hexact : j.Exact) {depth : Nat} (hdepth : j.depth ≤ depth)
    {e : Shape.Error} (h : Shape.ofJson j = .error e) : (shape depth).Refuses j [] (.shape e) := by
  intro rest hrest
  refine ⟨⟨[], .shape e, rest, false⟩, ?_, rfl, rfl⟩
  show shapeRun depth _ = _
  rw [shapeRun, value_takes hexact hdepth rest hrest]
  simp only [h]

theorem settle_path (e : Failure) (leave : Bytes → Bytes) : (e.settle leave).path = e.path := by
  unfold Failure.settle
  split <;> rfl

theorem settle_reason (e : Failure) (leave : Bytes → Bytes) :
    (e.settle leave).reason = e.reason := by
  unfold Failure.settle
  split <;> rfl

end Readers

/-!
## Lists
-/

section Lists

variable {item : Nat → Reader α} {below : Nat} {js : List Json}

theorem list_takes {as : List α} (hexact : (Json.array js).Exact)
    (h : List.Forall₂ (item below).Takes js as) : (list item (below + 1)).Takes (.array js) as := by
  intro rest _
  have hread := items_of_takes (fun j hj => hexact.item hj) h true 0 rest
  show listRun item (below + 1) _ = _
  rw [listRun, start_spelled_array]
  dsimp only
  rw [hread]
  rfl

theorem items_of_refuses {item : Reader α} {before : List Json} {as : List α} {j : Json}
    {path : List Segment} {reason : Reason} (hexact : ∀ b ∈ before, b.Exact)
    (hbefore : List.Forall₂ item.Takes before as) (hj : j.Exact)
    (hrefuses : item.Refuses j path reason) (after : List Json) (first : Bool) (i : Nat)
    (rest : Bytes) :
    ∃ e, items item first i (row first ((before ++ j :: after).map spelled) ++ 0x5D :: rest) =
        .error e ∧ e.path = .index (i + before.length) :: path ∧ e.reason = reason := by
  -- The first item of a list stands where the count is when the loop comes to it.
  induction hbefore generalizing first i with
  | nil =>
      rcases hrefuses (row false (after.map spelled) ++ 0x5D :: rest)
        (delimits_row _ (by decide)) with ⟨e, hread, hpath, hreason⟩
      refine ⟨e.under (.index i), ?_, ?_, hreason⟩
      · exact items_refused (nextItem_spelled hj first _ _) hread
      · rw [← hpath]
        rfl
  | @cons b a before as hb _ ih =>
      rcases List.forall_mem_cons.mp hexact with ⟨hexactHere, hexactLater⟩
      have hread := hb (row false ((before ++ j :: after).map spelled) ++ 0x5D :: rest)
        (delimits_row _ (by decide))
      rcases ih hexactLater false (i + 1) with ⟨e, hitems, hpath, hreason⟩
      refine ⟨e, ?_, ?_, hreason⟩
      · rw [List.cons_append, List.map_cons,
          items_more (nextItem_spelled hexactHere first _ _) hread, hitems]
        rfl
      · rw [hpath, List.length_cons, Nat.add_assoc, Nat.add_comm 1]

theorem list_refuses {before after : List Json} {as : List α} {j : Json} {path : List Segment}
    {reason : Reason} (hexact : (Json.array (before ++ j :: after)).Exact)
    (hbefore : List.Forall₂ (item below).Takes before as)
    (h : (item below).Refuses j path reason) :
    (list item (below + 1)).Refuses (.array (before ++ j :: after))
      (.index before.length :: path) reason := by
  intro rest _
  have hbeforeExact : ∀ b ∈ before, b.Exact :=
    fun b hb => hexact.item (List.mem_append_left _ hb)
  have hj : j.Exact := hexact.item (List.mem_append_right _ List.mem_cons_self)
  rcases items_of_refuses hbeforeExact hbefore hj h after true 0 rest with
    ⟨e, hread, hpath, hreason⟩
  refine ⟨e.settle leaveList, ?_, ?_, ?_⟩
  · show listRun item (below + 1) _ = _
    rw [listRun, start_spelled_array]
    dsimp only
    rw [hread]
  · rw [settle_path, hpath, Nat.zero_add]
  · rw [settle_reason, hreason]

end Lists

/-!
## Records
-/

namespace RecordForm

variable {σ : Type}

/-- The content of a member is read and stored, or passed over. -/
def Stores (form : RecordForm σ) (below : Nat) (m : String × Json) (store : σ → σ) : Prop :=
  ∀ draft rest, Delimits rest →
    form.content below m.1 draft (spelled m.2 ++ rest) = .ok (store draft, rest)

/-- The content of a member is refused for what stands at a path that starts with it. -/
def Rejects (form : RecordForm σ) (below : Nat) (m : String × Json) (path : List Segment)
    (reason : Reason) : Prop :=
  ∀ draft rest, Delimits rest →
    ∃ e, form.content below m.1 draft (spelled m.2 ++ rest) = .error e ∧
      e.path = path ∧ e.reason = reason

variable {form : RecordForm σ} {below : Nat} {m : String × Json}

theorem stores_slot {slot : Slot σ} {store : σ → σ} (hslot : form.slot? m.1 = some slot)
    (h : (slot.content below).Takes m.2 store) : form.Stores below m store := by
  intro draft rest hrest
  simp only [content, hslot, h rest hrest]

theorem stores_unknown (hslot : form.slot? m.1 = none) (hexact : m.2.Exact) :
    form.Stores below m id := by
  intro draft rest hrest
  have hskip := skip_of_value (value_takes hexact (Nat.le_refl _) rest hrest)
  simp only [content, hslot, hskip, id_eq]

theorem stores_text_or_unknown {ms : List (String × Json)} (hexact : (Json.object ms).Exact)
    {key t : String} {required : Bool} {set : String → σ → σ}
    (hslot : form.slot? key = some ⟨key, required, fun _ => string.map set⟩)
    (htext : ∀ content, (Json.object ms).member? key = some content → content = .text t)
    (hm : m ∈ ms) (hunknown : m.1 ≠ key → form.slot? m.1 = none) :
    form.Stores below m (if m.1 = key then set t else id) := by
  split_ifs with hkey
  · have hget : (Json.object ms).member? m.1 = some m.2 :=
      Entries.get?_of_mem (Json.distinct_of_namesDiffer hexact.names) hm
    rw [hkey] at hget
    refine stores_slot (hkey ▸ hslot) ?_
    rw [htext m.2 hget]
    exact (string_takes t).map set
  · exact stores_unknown (hunknown hkey) (hexact.member hm)

theorem rejects_slot {slot : Slot σ} {path : List Segment} {reason : Reason}
    (hslot : form.slot? m.1 = some slot) (h : (slot.content below).Refuses m.2 path reason) :
    form.Rejects below m (.key m.1 :: path) reason := by
  intro draft rest hrest
  rcases h rest hrest with ⟨e, hread, rfl, hreason⟩
  refine ⟨e.under (.key m.1), ?_, rfl, hreason⟩
  simp only [content, hslot, hread]

/-- One member that is stored.  Its name was not seen before. -/
theorem fields_row_cons {store : σ → σ} (hm : form.Stores below m store) {seen : List String}
    (hnew : m.1 ∉ seen) (draft : σ) (first : Bool) (ms : List (String × Json)) (rest : Bytes) :
    form.fields below seen draft first
        (row first ((m :: ms).map spelledMember) ++ 0x7D :: rest) =
      form.fields below (m.1 :: seen) (store draft) false
        (row false (ms.map spelledMember) ++ 0x7D :: rest) :=
  fields_more (memberKey_row_cons first m _ _) (by simp [hnew]) (colon_cons _)
    (hm draft _ (delimits_row _ (by decide)))

theorem not_mem_seen {ms : List (String × Json)} {seen : List String}
    (hnames : (Entries.names (m :: ms)).Nodup) (hseen : ∀ b ∈ m :: ms, b.1 ∉ seen) :
    ∀ b ∈ ms, b.1 ∉ m.1 :: seen := by
  intro b hb
  rw [List.mem_cons, not_or]
  refine ⟨?_, hseen b (List.mem_cons_of_mem _ hb)⟩
  intro heq
  exact (List.nodup_cons.mp hnames).1 (heq ▸ List.mem_map_of_mem hb)

theorem fields_of_stores {ms : List (String × Json)} {store : String × Json → σ → σ}
    (hstores : ∀ m ∈ ms, form.Stores below m (store m)) (hnames : (Entries.names ms).Nodup)
    {seen : List String} (hseen : ∀ m ∈ ms, m.1 ∉ seen)
    (hall : ∀ slot ∈ form.slots, slot.required = true →
      slot.name ∈ Entries.names ms ∨ slot.name ∈ seen)
    (draft : σ) (first : Bool) (rest : Bytes) :
    form.fields below seen draft first (row first (ms.map spelledMember) ++ 0x7D :: rest) =
      .ok (ms.foldl (fun draft m => store m draft) draft, 0x7D :: rest) := by
  -- The names seen are those of the members before, so each member that comes is new.
  induction ms generalizing seen draft first with
  | nil =>
      have hmissing : form.missing? seen = none := by
        simp only [missing?, Option.map_eq_none_iff, List.find?_eq_none]
        intro slot hslot
        rw [Bool.and_eq_true, not_and, Bool.not_eq_true', Bool.not_eq_false, List.contains_iff_mem]
        intro hrequired
        rcases hall slot hslot hrequired with hnone | hmem
        · cases hnone
        · exact hmem
      exact fields_done (memberKey_row_nil first) hmissing
  | cons m ms ih =>
      rcases List.forall_mem_cons.mp hstores with ⟨hm, hms⟩
      rw [fields_row_cons hm (hseen m List.mem_cons_self)]
      refine ih hms (List.nodup_cons.mp hnames).2 (not_mem_seen hnames hseen) ?_ _ _
      intro slot hslot hrequired
      rcases hall slot hslot hrequired with hname | hname
      · rcases List.mem_cons.mp hname with hhere | hlater
        · exact Or.inr (List.mem_cons.mpr (Or.inl hhere))
        · exact Or.inl hlater
      · exact Or.inr (List.mem_cons_of_mem _ hname)

theorem fields_of_rejects {before : List (String × Json)} {path : List Segment} {reason : Reason}
    (hbefore : ∀ b ∈ before, ∃ store, form.Stores below b store)
    (hm : form.Rejects below m path reason) (after : List (String × Json))
    (hnames : (Entries.names (before ++ m :: after)).Nodup) {seen : List String}
    (hseen : ∀ b ∈ before ++ m :: after, b.1 ∉ seen) (draft : σ) (first : Bool) (rest : Bytes) :
    ∃ e, form.fields below seen draft first
        (row first ((before ++ m :: after).map spelledMember) ++ 0x7D :: rest) = .error e ∧
      e.path = path ∧ e.reason = reason := by
  induction before generalizing seen draft first with
  | nil =>
      rcases hm draft (row false (after.map spelledMember) ++ 0x7D :: rest)
        (delimits_row _ (by decide)) with ⟨e, hread, he⟩
      refine ⟨e, ?_, he⟩
      exact fields_refused (memberKey_row_cons first m _ _)
        (by simp [hseen m List.mem_cons_self]) (colon_cons _) hread
  | cons b before ih =>
      rcases List.forall_mem_cons.mp hbefore with ⟨⟨store, hb⟩, hbefore⟩
      rw [List.cons_append, fields_row_cons hb (hseen b List.mem_cons_self)]
      exact ih hbefore (List.nodup_cons.mp hnames).2 (not_mem_seen hnames hseen) _ _

/-- A record whose members are all stored.  What the members store one after the other
is the record. -/
theorem read_takes {ms : List (String × Json)} (hexact : (Json.object ms).Exact)
    {store : String × Json → σ → σ} (hstores : ∀ m ∈ ms, form.Stores below m (store m))
    (hall : ∀ slot ∈ form.slots, slot.required = true → slot.name ∈ Entries.names ms) :
    (form.read (below + 1)).Takes (.object ms)
      (ms.foldl (fun draft m => store m draft) form.blank) := by
  intro rest _
  have hfields := fields_of_stores hstores (Json.distinct_of_namesDiffer hexact.names)
    (fun _ _ => List.not_mem_nil) (fun slot hslot hrequired => Or.inl (hall slot hslot hrequired))
    form.blank true rest
  show form.readRun (below + 1) _ = _
  rw [readRun, start_spelled_object]
  dsimp only
  rw [hfields]
  rfl

theorem read_refuses {ms : List (String × Json)} {name : String} {content : Json}
    {path : List Segment} {reason : Reason} (hexact : (Json.object ms).Exact)
    (hget : Entries.get? ms name = some content)
    (hothers : ∀ m ∈ ms, m.1 ≠ name → ∃ store, form.Stores below m store)
    (hrejects : form.Rejects below (name, content) path reason) :
    (form.read (below + 1)).Refuses (.object ms) path reason := by
  have hnames := Json.distinct_of_namesDiffer hexact.names
  rcases List.append_of_mem (Entries.mem_of_get? hget) with ⟨before, after, rfl⟩
  have hbefore : ∀ b ∈ before, ∃ store, form.Stores below b store := by
    intro b hb
    refine hothers b (List.mem_append_left _ hb) ?_
    intro heq
    have hnodup : (before.map Prod.fst ++ name :: after.map Prod.fst).Nodup := by
      simpa [Entries.Distinct, Entries.names] using hnames
    exact List.disjoint_of_nodup_append hnodup (List.mem_map_of_mem hb)
      (heq ▸ List.mem_cons_self)
  intro rest _
  rcases fields_of_rejects hbefore hrejects after hnames (fun _ _ => List.not_mem_nil) form.blank
    true rest with ⟨e, hfields, hpath, hreason⟩
  refine ⟨e.settle leaveObject, ?_, ?_, ?_⟩
  · show form.readRun (below + 1) _ = _
    rw [readRun, start_spelled_object]
    dsimp only
    rw [hfields]
  · rw [settle_path, hpath]
  · rw [settle_reason, hreason]

/-- A field that members set to one value or leave alone has this value at the end, if it
had it before or one of them sets it. -/
theorem field_foldl {ms : List (String × Json)} {store : String × Json → σ → σ} {field : σ → β}
    {v : β} (hstore : ∀ m ∈ ms, (∀ draft, field (store m draft) = v) ∨
      ∀ draft, field (store m draft) = field draft) {draft : σ}
    (hset : field draft = v ∨ ∃ m ∈ ms, ∀ draft, field (store m draft) = v) :
    field (ms.foldl (fun draft m => store m draft) draft) = v := by
  induction ms generalizing draft with
  | nil => simpa using hset
  | cons m ms ih =>
      rcases List.forall_mem_cons.mp hstore with ⟨hhere, hlater⟩
      apply ih hlater
      rcases hhere with hsets | hkeeps
      · exact Or.inl (hsets draft)
      · rcases hset with hdraft | ⟨b, hb, hsets⟩
        · exact Or.inl ((hkeeps draft).trans hdraft)
        · rcases List.mem_cons.mp hb with rfl | hb
          · exact Or.inl (hsets draft)
          · exact Or.inr ⟨b, hb, hsets⟩

def storeField (key : String) (set : σ → σ) (other : String) (setOther : σ → σ)
    (m : String × Json) : σ → σ :=
  if m.1 = key then set else if m.1 = other then setOther else id

section Fields

variable {key other : String} {set setOther : σ → σ} {field : σ → β} {v : β} {draft : σ}
  {ms : List (String × Json)}

theorem field_storeField (hset : ∀ draft, field (set draft) = v)
    (hkeep : ∀ draft, field (setOther draft) = field draft)
    (hinit : Entries.get? ms key = none → field draft = v) :
    field (ms.foldl (fun draft m => storeField key set other setOther m draft) draft) = v := by
  refine field_foldl ?_ ?_
  · intro m _
    unfold storeField
    split_ifs
    · exact Or.inl hset
    · exact Or.inr hkeep
    · exact Or.inr fun _ => rfl
  · cases hget : Entries.get? ms key with
    | none => exact Or.inl (hinit hget)
    | some content =>
        refine Or.inr ⟨_, Entries.mem_of_get? hget, ?_⟩
        rw [storeField, if_pos rfl]
        exact hset

theorem field_storeField_other (hne : other ≠ key) (hset : ∀ draft, field (setOther draft) = v)
    (hkeep : ∀ draft, field (set draft) = field draft)
    (hinit : Entries.get? ms other = none → field draft = v) :
    field (ms.foldl (fun draft m => storeField key set other setOther m draft) draft) = v := by
  refine field_foldl ?_ ?_
  · intro m _
    unfold storeField
    split_ifs
    · exact Or.inr hkeep
    · exact Or.inl hset
    · exact Or.inr fun _ => rfl
  · cases hget : Entries.get? ms other with
    | none => exact Or.inl (hinit hget)
    | some content =>
        refine Or.inr ⟨_, Entries.mem_of_get? hget, ?_⟩
        rw [storeField, if_neg hne, if_pos rfl]
        exact hset

end Fields

end RecordForm

/-!
## Whole texts
-/

theorem front_of_takes {reader : Nat → Reader α} {j : Json} {a : α}
    (h : (reader maxNesting).Takes j a) : front reader (spelled j) = .ok a := by
  have hrun := h [] delimits_nil
  rw [List.append_nil] at hrun
  simp only [front, hrun]

theorem front_of_refuses {reader : Nat → Reader α} {j : Json} {path : List Segment}
    {reason : Reason} (h : (reader maxNesting).Refuses j path reason) :
    ∃ report, front reader (spelled j) = .error report ∧
      report.path = path ∧ report.reason = reason := by
  rcases h [] delimits_nil with ⟨e, hrun, he⟩
  rw [List.append_nil] at hrun
  exact ⟨e.report (spelled j), by simp only [front, hrun], he⟩

end Reading
end ShapeCheck
