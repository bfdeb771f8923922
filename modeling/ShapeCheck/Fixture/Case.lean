import ShapeCheck.Compile
import ShapeCheck.Reading.Record
import ShapeCheck.Validator

/-!
# Fixture cases

A case is a document that should be a shape, with what is expected of it: that it
fails with a message, or that it compiles, prints as told, and accepts and
rejects documents.
-/

namespace ShapeCheck
namespace Fixture

open Reading

structure Case where
  name : String
  shape : Json
  expression : Option String
  accept : List Json
  reject : List Json
  compileError : Option String

/-! ## Reading cases -/

namespace Case

def setName (name : String) (c : Case) : Case :=
  ⟨name, c.shape, c.expression, c.accept, c.reject, c.compileError⟩

def setShape (shape : Json) (c : Case) : Case :=
  ⟨c.name, shape, c.expression, c.accept, c.reject, c.compileError⟩

def setExpression (expression : Option String) (c : Case) : Case :=
  ⟨c.name, c.shape, expression, c.accept, c.reject, c.compileError⟩

def setAccept (accept : List Json) (c : Case) : Case :=
  ⟨c.name, c.shape, c.expression, accept, c.reject, c.compileError⟩

def setReject (reject : List Json) (c : Case) : Case :=
  ⟨c.name, c.shape, c.expression, c.accept, reject, c.compileError⟩

def setCompileError (compileError : Option String) (c : Case) : Case :=
  ⟨c.name, c.shape, c.expression, c.accept, c.reject, compileError⟩

def form : RecordForm Case :=
  ⟨"struct Case", ⟨"", .null, none, [], [], none⟩,
    [⟨"name", true, fun _ => string.map setName⟩,
      ⟨"shape", true, fun depth => (value depth).map setShape⟩,
      ⟨"expression", false, fun _ => (optional string).map setExpression⟩,
      ⟨"accept", false, fun depth => (Reading.list value depth).map setAccept⟩,
      ⟨"reject", false, fun depth => (Reading.list value depth).map setReject⟩,
      ⟨"compile_error", false, fun _ => (optional string).map setCompileError⟩]⟩

def listOfBytes (bytes : Bytes) : Except Report (List Case) :=
  front (Reading.list form.read) bytes

/-! ## Judging cases -/

inductive Reason where
  | otherError (expected found : String)
  | unexpectedError (found : String)
  | noError (expected : String)
  | otherExpression (expected printed : String)
  | rejected (i : Nat) (document : Json)
  | accepted (i : Nat) (document : Json)

def Reason.message : Reason → String
  | .otherError expected found =>
      "expected error containing `" ++ expected ++ "`, got `" ++ found ++ "`"
  | .unexpectedError found => "unexpected compile error: " ++ found
  | .noError expected => "expected compile error `" ++ expected ++ "`"
  | .otherExpression expected printed =>
      "expression mismatch:\n  expected " ++ expected ++ "\n  printed  " ++ printed
  | .rejected i document =>
      "accept[" ++ Double.digitText i ++ "] was rejected: " ++ document.compact
  | .accepted i document =>
      "reject[" ++ Double.digitText i ++ "] was accepted: " ++ document.compact

def occursIn (part : List Char) : List Char → Bool
  | [] => part.isEmpty
  | c :: rest => part.isPrefixOf (c :: rest) || occursIn part rest

def compileShape (limit : Nat) (j : Json) : Except CompileError Check :=
  match Shape.ofJson j with
  | .error e => .error (.shape e)
  | .ok s => s.compile? limit

/-- Documents that a validator accepts; the first has the number `i`. -/
def acceptsAll (v : Validator) (i : Nat) : List Json → Except Reason Unit
  | [] => .ok ()
  | j :: rest =>
      match v.validateJson j with
      | .ok _ => acceptsAll v (i + 1) rest
      | .error _ => .error (.rejected i j)

def rejectsAll (v : Validator) (i : Nat) : List Json → Except Reason Unit
  | [] => .ok ()
  | j :: rest =>
      match v.validateJson j with
      | .ok _ => .error (.accepted i j)
      | .error _ => rejectsAll v (i + 1) rest

def printsAs (check : Check) : Option String → Except Reason Unit
  | none => .ok ()
  | some expected =>
      if check.print = expected then .ok () else .error (.otherExpression expected check.print)

def judge (c : Case) : Except Reason Unit :=
  match compileShape defaultMaxDepth c.shape, c.compileError with
  | .error e, some expected =>
      if occursIn expected.toList e.message.toList then .ok ()
      else .error (.otherError expected e.message)
  | .error e, none => .error (.unexpectedError e.message)
  | .ok _, some expected => .error (.noError expected)
  | .ok check, none =>
      match printsAs check c.expression with
      | .error e => .error e
      | .ok () =>
          match acceptsAll (.ofCheck check) 0 c.accept with
          | .error e => .error e
          | .ok () => rejectsAll (.ofCheck check) 0 c.reject

end Case
end Fixture
end ShapeCheck
