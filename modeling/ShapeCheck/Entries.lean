/-!
# Entries kept in order of insertion

Objects are lists of named entries.  A name keeps the place where it first
appeared and takes the content it was given last.
-/

namespace ShapeCheck

/-- Named entries in the order in which their names first appeared. -/
abbrev Entries (α : Type) := List (String × α)

namespace Entries

/-- Give `name` a content: in its place if it has one, else at the end. -/
def insert {α : Type} (name : String) (content : α) : Entries α → Entries α
  | [] => [(name, content)]
  | (other, held) :: rest =>
      if other = name then (name, content) :: rest
      else (other, held) :: insert name content rest

def ofList {α : Type} (pairs : List (String × α)) : Entries α :=
  pairs.foldl (fun entries pair => entries.insert pair.1 pair.2) []

def get? {α : Type} (entries : Entries α) (name : String) : Option α :=
  match entries with
  | [] => none
  | (other, held) :: rest => if other = name then some held else get? rest name

def names {α : Type} (entries : Entries α) : List String :=
  entries.map Prod.fst

def has {α : Type} (entries : Entries α) (name : String) : Bool :=
  (entries.get? name).isSome

def Distinct {α : Type} (entries : Entries α) : Prop :=
  entries.names.Nodup

@[simp] theorem get?_nil {α : Type} (name : String) :
    get? ([] : Entries α) name = none := rfl

theorem get?_cons {α : Type} (other : String) (held : α) (rest : Entries α)
    (name : String) :
    get? ((other, held) :: rest) name =
      if other = name then some held else get? rest name := rfl

theorem get?_insert_self {α : Type} (entries : Entries α) (name : String)
    (content : α) : get? (insert name content entries) name = some content := by
  induction entries with
  | nil => simp [insert, get?]
  | cons entry rest ih =>
      obtain ⟨other, held⟩ := entry
      by_cases h : other = name
      · simp [insert, get?, h]
      · simp [insert, get?, h, ih]

theorem get?_insert_of_ne {α : Type} (entries : Entries α) {name other : String}
    (content : α) (h : name ≠ other) :
    get? (insert name content entries) other = get? entries other := by
  induction entries with
  | nil => simp [insert, get?, h]
  | cons entry rest ih =>
      obtain ⟨third, held⟩ := entry
      by_cases hname : third = name
      · subst hname
        simp [insert, get?, h]
      · by_cases hother : third = other
        · subst hother
          simp [insert, get?, hname]
        · simp [insert, get?, hname, hother, ih]

theorem names_insert {α : Type} (entries : Entries α) (name : String)
    (content : α) :
    names (insert name content entries) =
      if name ∈ names entries then names entries
      else names entries ++ [name] := by
  induction entries with
  | nil => simp [insert, names]
  | cons entry rest ih =>
      obtain ⟨other, held⟩ := entry
      by_cases h : other = name
      · subst h
        simp [insert, names]
      · have h' : ¬ name = other := fun e => h e.symm
        have ih' : List.map Prod.fst (insert name content rest) =
            if name ∈ List.map Prod.fst rest then List.map Prod.fst rest
            else List.map Prod.fst rest ++ [name] := ih
        by_cases hmem : name ∈ List.map Prod.fst rest
        · simp [insert, names, h, h', ih', hmem]
        · simp only [hmem, if_false] at ih'
          simp only [insert, names, h, if_false, List.map_cons, ih',
            List.mem_cons, h', hmem, or_self, List.cons_append]

end Entries

end ShapeCheck
