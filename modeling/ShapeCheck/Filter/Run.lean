import ShapeCheck.Filter.Engine
import ShapeCheck.Filter.Reader

/-!
# Running filters

Outputs come in the order in which they arise.  Where two filters are combined,
the first is the outer loop, and a combination in which one of them fails is a
fault: a filter without outputs leaves no combination and so no fault.

Each run of a part of a filter has a place of its own, which names the containers
that are made there.
-/

namespace ShapeCheck
namespace Filter

abbrev Outputs := List (Except Datum.Fault Datum)

/-- A part of a run, from the innermost part outwards. -/
abbrev Place := List Nat

/-- Continue each output, which is told its number; faults are passed on. -/
def Outputs.andThen {α : Type} (outputs : Outputs)
    (next : Nat → Datum → List (Except Datum.Fault α)) : List (Except Datum.Fault α) :=
  outputs.zipIdx.flatMap (fun
    | (.ok d, i) => next i d
    | (.error e, _) => [.error e])

/-- All pairs of outputs of two filters, the second run for each output of the first,
which is told its number. -/
def Outputs.pairs (first : Outputs) (second : Nat → Outputs) :
    List (Except Datum.Fault Datum × Except Datum.Fault Datum) :=
  first.zipIdx.flatMap (fun x => (second x.2).map (fun y => (x.1, y)))

def Operator.apply (place : Place) : Operator → Datum → Datum → Except Datum.Fault Datum
  | .equal, d, e => .ok (.bool (d.same e))
  | .add, d, e => d.add (some place) e
  | .divide, d, e => d.divide e

def gather {α : Type} : List (Except Datum.Fault α) → Except Datum.Fault (List α)
  | [] => .ok []
  | .error e :: _ => .error e
  | .ok d :: rest => (gather rest).map (d :: ·)

/-- Whether an output counts as an answer: a fault or a true datum. -/
def counts : Except Datum.Fault Datum → Bool
  | .ok d => d.isTrue
  | .error _ => true

def isOk : Except Datum.Fault Datum → Bool
  | .ok _ => true
  | .error _ => false

/-- Every choice of one element of each list, the first list as the outer loop. -/
def choices {α : Type} : List (List α) → List (List α)
  | [] => [[]]
  | items :: rest => items.flatMap (fun item => (choices rest).map (item :: ·))

/-! ## Paths -/

/-- A step of a path whose places are known. -/
inductive Reach where
  | every
  | index (place : Datum)
  | slice (start stop : Option Datum)

def Reach.find (place : Place) (d : Datum) : Reach → Outputs
  | .every =>
      match d.values with
      | .ok values => values.map .ok
      | .error e => [.error e]
  | .index i => [d.index i]
  | .slice start stop => [d.slice (some place) start stop]

/-- Follow steps from a datum.  A guarded step, marked by `true`, gives no fault. -/
def follow (place : Place) (d : Datum) : List (Reach × Bool) → Outputs
  | [] => [.ok d]
  | (reach, guarded) :: rest =>
      let found := reach.find place d
      let kept := if guarded then found.filter isOk else found
      Outputs.andThen kept (fun i e => follow (i :: place) e rest)

/-! ## Records -/

def entryOf : Except Datum.Fault Datum × Except Datum.Fault Datum →
    Except Datum.Fault (String × Datum)
  | (.error e, _) => .error e
  | (.ok _, .error e) => .error e
  | (.ok (.text name), .ok d) => .ok (name, d)
  | (.ok key, .ok _) => .error (.keyNotText key)

mutual
/-- The outputs of a filter that runs at a place, under bound variables. -/
def run (place : Place) (bound : Entries Datum) (input : Datum) : Filter → Outputs
  | .identity => [.ok input]
  | .descend => input.descendants.map .ok
  | .constant value => [.ok value]
  | .variable name =>
      match bound.get? name with
      | some d => [.ok d]
      | none => [.error (.unbound name)]
  | .unknown name _ => [.error (.unbound name)]
  | .nothing => []
  | .fail => [.error (.raised input)]
  | .raise message =>
      match run (0 :: place) bound input message with
      | [] => [.ok input]
      | .ok d :: _ => [.error (.raised d)]
      | .error e :: _ => [.error e]
  | .length => [input.length]
  | .keys => [input.keys]
  | .collect inner =>
      [(gather (run (0 :: place) bound input inner)).map (Datum.array (some place))]
  | .record entries =>
      (choices (runEntries (0 :: place) bound input entries)).zipIdx.map (fun choice =>
        (gather choice.1).map (fun pairs =>
          .object (some ((choice.2 + 1) :: place)) (Entries.ofList pairs)))
  | .negate inner =>
      Outputs.andThen (run (0 :: place) bound input inner) (fun _ d => [d.negate])
  | .pipe first second =>
      Outputs.andThen (run (0 :: place) bound input first) (fun i d =>
        run ((i + 1) :: place) bound d second)
  | .bind source name body =>
      Outputs.andThen (run (0 :: place) bound input source) (fun i d =>
        run ((i + 1) :: place) ((name, d) :: bound) input body)
  | .both first second =>
      run (0 :: place) bound input first ++ run (1 :: place) bound input second
  | .orElse first second =>
      match (run (0 :: place) bound input first).filter counts with
      | [] => run (1 :: place) bound input second
      | kept => kept
  | .operate op left right =>
      (Outputs.pairs (run (0 :: place) bound input left)
        (fun i => run ((i + 2) :: place) bound input right)).zipIdx.map (fun
          | ((.ok d, .ok e), k) => op.apply (k :: 1 :: place) d e
          | ((.error e, _), _) => .error e
          | ((_, .error e), _) => .error e)
  | .attempt inner => (run (0 :: place) bound input inner).takeWhile isOk
  | .choose condition yes no =>
      Outputs.andThen (run (0 :: place) bound input condition) (fun i d =>
        if d.isTrue then run ((i + 1) :: place) bound input yes
        else run ((i + 1) :: place) bound input no)
  | .path source steps =>
      let ways := choices (runSteps (0 :: place) bound input steps)
      Outputs.andThen (run (1 :: place) bound input source) (fun i d =>
        ways.zipIdx.flatMap (fun way =>
          match gather way.1 with
          | .ok reaches => follow (way.2 :: (i + 2) :: place) d reaches
          | .error e => [.error e]))
termination_by structural f => f

def runEntries (place : Place) (bound : Entries Datum) (input : Datum) :
    List (Filter × Filter) → List (List (Except Datum.Fault (String × Datum)))
  | [] => []
  | (key, content) :: rest =>
      (Outputs.pairs (run (1 :: place) bound input key)
        (fun i => run ((i + 2) :: place) bound input content)).map entryOf ::
        runEntries (0 :: place) bound input rest
termination_by structural entries => entries

/-- The reaches of each step with its guard.  Places are looked up from the input of
the path. -/
def runSteps (place : Place) (bound : Entries Datum) (input : Datum) :
    List Access → List (List (Except Datum.Fault (Reach × Bool)))
  | [] => []
  | step :: rest =>
      runStep (1 :: place) bound input step :: runSteps (0 :: place) bound input rest
termination_by structural steps => steps

def runStep (place : Place) (bound : Entries Datum) (input : Datum) :
    Access → List (Except Datum.Fault (Reach × Bool))
  | .every guarded => [.ok (.every, guarded)]
  | .index at' guarded =>
      (run place bound input at').map (fun p => p.map (fun i => (.index i, guarded)))
  | .slice start stop guarded =>
      (Outputs.pairs (run (0 :: place) bound input start)
        (fun i => run ((i + 1) :: place) bound input stop)).map (fun
          | (.ok a, .ok b) => .ok (.slice (some a) (some b), guarded)
          | (.error e, _) => .error e
          | (_, .error e) => .error e)
  | .sliceFrom start guarded =>
      (run place bound input start).map (fun p =>
        p.map (fun a => (.slice (some a) none, guarded)))
  | .sliceTo stop guarded =>
      (run place bound input stop).map (fun p =>
        p.map (fun a => (.slice none (some a), guarded)))
termination_by structural step => step
end

/-! ## The engine -/

def Unknown.describe (source : String) : Unknown → String × String × String
  | .filter name arity => (name, "Filter(" ++ Double.digitText arity ++ ")", source)
  | .variable name => ("$" ++ name, "Var", source)

/-- The engine that the program comes with.  It knows a part of the language only. -/
def builtin : Engine := fun source input =>
  match ofText? source with
  | none => .error (.malformed [("not a filter", source)])
  | some f =>
      match f.unknowns [] with
      | [] => .ok ((f.run [] [] (Datum.ofJson input)).map (fun output =>
          (output.map Datum.print).mapError Datum.Fault.message))
      | names => .error (.unknown (names.map (Unknown.describe source)))

end Filter
end ShapeCheck
