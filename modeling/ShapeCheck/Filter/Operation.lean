import ShapeCheck.Filter.Datum

/-!
# Operations on data

Indexing, slicing, iteration and calculation.  Each tells what it cannot do.
-/

namespace ShapeCheck

inductive Datum.Fault where
  | raised (value : Datum)
  | notIndexed (value place : Datum)
  | notSliced (value : Datum)
  | notIterated (value : Datum)
  | notCombined (left right : Datum)
  | notNegated (value : Datum)
  | notMeasured (value : Datum)
  | keyNotText (key : Datum)
  | unbound (name : String)

namespace Datum

def Fault.message : Fault → String
  | .raised value => value.print
  | .notIndexed value place => "cannot index " ++ value.print ++ " with " ++ place.print
  | .notSliced value => "cannot slice " ++ value.print
  | .notIterated value => "cannot iterate over " ++ value.print
  | .notCombined left right => "cannot combine " ++ left.print ++ " and " ++ right.print
  | .notNegated value => "cannot negate " ++ value.print
  | .notMeasured value => value.print ++ " has no length and no keys"
  | .keyNotText key => "cannot use " ++ key.print ++ " as a key"
  | .unbound name => name ++ " has no meaning"

/-- A place in a list, counted from its end if negative. -/
def place? (i : Int) (length : Nat) : Option Nat :=
  if 0 ≤ i then some i.toNat
  else if i + length < 0 then none
  else some (i + length).toNat

/-- What stands at a place.  Nothing at all counts as null. -/
def index : Datum → Datum → Except Fault Datum
  | .array _ items, .whole i =>
      .ok (((place? i items.length).bind (fun k => items[k]?)).getD .null)
  | .object _ members, .text name => .ok ((Entries.get? members name).getD .null)
  | d, place => .error (.notIndexed d place)

def bound (fallback length : Nat) : Option Datum → Option Nat
  | none => some fallback
  | some (.whole i) => some ((place? i length).getD 0)
  | some _ => none

def cut {α : Type} (items : List α) (start stop : Option Datum) : Option (List α) :=
  match bound 0 items.length start, bound items.length items.length stop with
  | some i, some k => some ((items.take k).drop i)
  | _, _ => none

def slice (made : Origin) (start stop : Option Datum) : Datum → Except Fault Datum
  | .array held items =>
      match cut items start stop with
      | some part => .ok (.array made part)
      | none => .error (.notSliced (.array held items))
  | .text s =>
      match cut s.toList start stop with
      | some part => .ok (.text (String.ofList part))
      | none => .error (.notSliced (.text s))
  | d => .error (.notSliced d)

def values : Datum → Except Fault (List Datum)
  | .array _ items => .ok items
  | .object _ members => .ok (members.map Prod.snd)
  | d => .error (.notIterated d)

/-- The whole number of 64 bits that differs from a number by a multiple of 2^64. -/
def ofInt (n : Int) : Datum := .whole (n.bmod (Nat.pow 2 64))

/-- The sum of two data, made at a place.  Null adds nothing, and sums of whole numbers
stay whole. -/
def add (made : Origin) : Datum → Datum → Except Fault Datum
  | .null, d => .ok d
  | d, .null => .ok d
  | .whole m, .whole n => .ok (ofInt (m + n))
  | .text s, .text t => .ok (.text (s ++ t))
  | .array _ items, .array _ others => .ok (.array made (items ++ others))
  | .object _ members, .object _ others =>
      .ok (.object made (others.foldl (fun es e => Entries.insert e.1 e.2 es) members))
  | d, e =>
      match d.toDouble?, e.toDouble? with
      | some x, some y => .ok (.float (x.add y))
      | _, _ => .error (.notCombined d e)

/-- The pieces of a text between occurrences of a separator; `piece` is the part
of the current piece that is read, reversed, and `skipped` characters belong to
a separator. -/
def pieces (separator : List Char) (piece : List Char) (skipped : Nat) :
    List Char → List (List Char)
  | [] => [piece.reverse]
  | c :: rest =>
      match skipped with
      | more + 1 => pieces separator piece more rest
      | 0 =>
          if separator.isPrefixOf (c :: rest) then
            piece.reverse :: pieces separator [] (separator.length - 1) rest
          else pieces separator (c :: piece) 0 rest

/-- A text divided by a separator; the empty separator stands between all
characters. -/
def divideText (s separator : String) : List String :=
  if s.isEmpty then []
  else if separator.isEmpty then s.toList.map (fun c => String.ofList [c])
  else (pieces separator.toList [] 0 s.toList).map String.ofList

def divide : Datum → Datum → Except Fault Datum
  | .text s, .text t => .ok (.array none ((divideText s t).map Datum.text))
  | d, e =>
      match d.toDouble?, e.toDouble? with
      | some x, some y => .ok (.float (x.div y))
      | _, _ => .error (.notCombined d e)

def negate : Datum → Except Fault Datum
  | .whole n => .ok (ofInt (-n))
  | d =>
      match d.toDouble? with
      | some x => .ok (.float ⟨x.bits ^^^ 0x8000000000000000⟩)
      | none => .error (.notNegated d)

/-- The length of a text or list, the absolute value of a number. -/
def length : Datum → Except Fault Datum
  | .null => .ok (.whole 0)
  | .whole n => .ok (ofInt n.natAbs)
  | .text s => .ok (.whole s.toList.length)
  | .array _ items => .ok (.whole items.length)
  | .object _ members => .ok (.whole members.length)
  | d =>
      match d.toDouble? with
      | some x => .ok (.float x.abs)
      | none => .error (.notMeasured d)

/-- The names of an object, ascending, or the places of an array. -/
def keys : Datum → Except Fault Datum
  | .object _ members =>
      .ok (.array none (((members.map Prod.fst).mergeSort (fun a b => decide (a ≤ b))).map
        Datum.text))
  | .array _ items => .ok (.array none ((List.range items.length).map (fun i : Nat => .whole i)))
  | d => .error (.notMeasured d)

end Datum
end ShapeCheck
