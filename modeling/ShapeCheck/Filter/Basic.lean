import ShapeCheck.Filter.Operation

/-!
# Filters

A filter turns a datum into any number of outputs, each a datum or a fault.
-/

namespace ShapeCheck

inductive Filter.Operator where
  | equal
  | add
  | divide
deriving DecidableEq

mutual
inductive Filter where
  /-- the input itself -/
  | identity
  /-- the input and all that it contains -/
  | descend
  | constant (value : Datum)
  | variable (name : String)
  /-- a call of a name that has no meaning -/
  | unknown (name : String) (arguments : List Filter)
  /-- no output -/
  | nothing
  /-- fail with the input -/
  | fail
  /-- fail with an output, or pass the input on if there is none -/
  | raise (message : Filter)
  | length
  | keys
  /-- the array of all outputs -/
  | collect (inner : Filter)
  | record (entries : List (Filter × Filter))
  | negate (inner : Filter)
  | pipe (first second : Filter)
  /-- run the body for each output of the source, under a name -/
  | bind (source : Filter) (name : String) (body : Filter)
  /-- the outputs of one filter, then of the other -/
  | both (first second : Filter)
  /-- the true outputs of one filter, or the other if there are none -/
  | orElse (first second : Filter)
  | operate (op : Filter.Operator) (left right : Filter)
  /-- the outputs up to the first fault -/
  | attempt (inner : Filter)
  | choose (condition yes no : Filter)
  | path (source : Filter) (steps : List Access)

/-- A step of a path.  A guarded step gives no fault of its own. -/
inductive Access where
  | every (guarded : Bool)
  | index (place : Filter) (guarded : Bool)
  | slice (start stop : Filter) (guarded : Bool)
  | sliceFrom (start : Filter) (guarded : Bool)
  | sliceTo (stop : Filter) (guarded : Bool)
end

namespace Filter

instance : Inhabited Filter := ⟨.identity⟩

def call (name : String) (arguments : List Filter) : Filter :=
  match name, arguments with
  | "empty", [] => .nothing
  | "error", [] => .fail
  | "error", [f] => .raise f
  | "length", [] => .length
  | "keys", [] => .keys
  | "not", [] => .choose .identity (.constant (.bool false)) (.constant (.bool true))
  | "select", [f] => .choose f .identity .nothing
  | "map", [f] => .collect (.pipe (.path .identity [.every false]) f)
  | "true", [] => .constant (.bool true)
  | "false", [] => .constant (.bool false)
  | "null", [] => .constant .null
  | "nan", [] => .constant (.float Double.nan)
  | "infinite", [] => .constant (.float (Double.infinity false))
  | _, _ => .unknown name arguments

/-! ## Names without a meaning -/

inductive Unknown where
  | filter (name : String) (arity : Nat)
  | variable (name : String)
deriving DecidableEq

mutual
/-- The names without a meaning in a filter under bound variables.  Arguments come
before the name that takes them, a body before what it binds, and the last branch
of a choice before its condition. -/
def unknowns (bound : List String) : Filter → List Unknown
  | .variable name => if name ∈ bound then [] else [.variable name]
  | .unknown name arguments =>
      unknownsOfAll bound arguments ++ [.filter name arguments.length]
  | .raise message => message.unknowns bound
  | .collect inner => inner.unknowns bound
  | .record entries => unknownsOfEntries bound entries
  | .negate inner => inner.unknowns bound
  | .pipe first second => first.unknowns bound ++ second.unknowns bound
  | .bind source name body => body.unknowns (name :: bound) ++ source.unknowns bound
  | .both first second => first.unknowns bound ++ second.unknowns bound
  | .orElse first second => first.unknowns bound ++ second.unknowns bound
  | .operate _ left right => left.unknowns bound ++ right.unknowns bound
  | .attempt inner => inner.unknowns bound
  | .choose condition yes no =>
      no.unknowns bound ++ condition.unknowns bound ++ yes.unknowns bound
  | .path source steps => source.unknowns bound ++ unknownsOfSteps bound steps
  | _ => []
termination_by structural f => f

def unknownsOfAll (bound : List String) : List Filter → List Unknown
  | [] => []
  | f :: rest => f.unknowns bound ++ unknownsOfAll bound rest
termination_by structural fs => fs

def unknownsOfEntries (bound : List String) : List (Filter × Filter) → List Unknown
  | [] => []
  | (key, content) :: rest =>
      key.unknowns bound ++ content.unknowns bound ++ unknownsOfEntries bound rest
termination_by structural entries => entries

def unknownsOfSteps (bound : List String) : List Access → List Unknown
  | [] => []
  | step :: rest => unknownsOfStep bound step ++ unknownsOfSteps bound rest
termination_by structural steps => steps

def unknownsOfStep (bound : List String) : Access → List Unknown
  | .every _ => []
  | .index place _ => place.unknowns bound
  | .slice start stop _ => start.unknowns bound ++ stop.unknowns bound
  | .sliceFrom start _ => start.unknowns bound
  | .sliceTo stop _ => stop.unknowns bound
termination_by structural step => step
end

end Filter
end ShapeCheck
