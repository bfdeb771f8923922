import ShapeCheck.Double.Nearest
import ShapeCheck.Entries

/-!
# JSON values

Numbers written without a fraction or an exponent are kept as whole numbers,
all others as doubles.  Objects keep their members in order.
-/

namespace ShapeCheck

inductive Json.Number where
  | whole (n : Int)
  | decimal (x : Double)
deriving DecidableEq

inductive Json where
  | null
  | bool (b : Bool)
  | number (n : Json.Number)
  | text (s : String)
  | array (items : List Json)
  | object (members : List (String × Json))

instance : Inhabited Json := ⟨.null⟩

namespace Json

def Number.toDouble : Number → Double
  | .whole n => Double.ofInt n
  | .decimal x => x

/-- Whole numbers that a document can hold: 64 bits, signed or not. -/
def Number.InRange (n : Int) : Prop := -Int.pow 2 63 ≤ n ∧ n < Int.pow 2 64

instance (n : Int) : Decidable (Number.InRange n) :=
  inferInstanceAs (Decidable (_ ∧ _))

def ofNat (n : Nat) : Json := .number (.whole n)

def member? (name : String) : Json → Option Json
  | .object members => Entries.get? members name
  | _ => none

def item? (i : Nat) : Json → Option Json
  | .array items => items[i]?
  | _ => none

mutual
/-- How deep arrays and objects are nested; zero for a scalar. -/
def depth : Json → Nat
  | .array items => depthItems items + 1
  | .object members => depthMembers members + 1
  | _ => 0
termination_by structural j => j

def depthItems : List Json → Nat
  | [] => 0
  | item :: rest => max item.depth (depthItems rest)
termination_by structural items => items

def depthMembers : List (String × Json) → Nat
  | [] => 0
  | (_, content) :: rest => max content.depth (depthMembers rest)
termination_by structural members => members
end

mutual
/-- The number of documents inside a document, itself included. -/
def weight : Json → Nat
  | .array items => weightItems items + 1
  | .object members => weightMembers members + 1
  | _ => 1
termination_by structural j => j

def weightItems : List Json → Nat
  | [] => 0
  | item :: rest => item.weight + weightItems rest
termination_by structural items => items

def weightMembers : List (String × Json) → Nat
  | [] => 0
  | (_, content) :: rest => content.weight + weightMembers rest
termination_by structural members => members
end

theorem weight_pos (j : Json) : 0 < j.weight := by
  cases j <;> simp [weight]

theorem weight_le_of_get? {members : List (String × Json)} {name : String}
    {content : Json} (h : Entries.get? members name = some content) :
    content.weight ≤ weightMembers members := by
  induction members with
  | nil => cases h
  | cons m rest ih =>
      obtain ⟨other, held⟩ := m
      rw [Entries.get?_cons] at h
      rw [weightMembers]
      by_cases hname : other = name
      · rw [if_pos hname] at h
        cases h
        exact Nat.le_add_right _ _
      · rw [if_neg hname] at h
        exact Nat.le_trans (ih h) (Nat.le_add_left _ _)

end Json

end ShapeCheck
