import ShapeCheck.Compile
import ShapeCheck.Entries

/-!
# Arguments

A command and its options, read from a list of words.  Words are looked at one
after the other; an option is settled, and its values judged, when the next one
starts or the words end.
-/

namespace ShapeCheck

/-! ## Commands -/

inductive OutputFormat where
  | module
  | report
deriving DecidableEq

structure InputOptions where
  /-- whether each line is a document -/
  lineByLine : Bool
  pointer : Option String
  filter : Option String
  patterns : List String
deriving DecidableEq

structure CompileOptions where
  manifest : String
  format : OutputFormat
  out : Option String
  maxDepth : Nat
deriving DecidableEq

structure CheckOptions where
  manifest : String
  declaration : String
  input : InputOptions
  maxDepth : Nat
  quiet : Bool
deriving DecidableEq

structure PrintOptions where
  shape : String
  maxDepth : Nat
deriving DecidableEq

inductive Command where
  | compile (options : CompileOptions)
  | check (options : CheckOptions)
  | print (options : PrintOptions)
deriving DecidableEq

namespace Command

/-! ## Options -/

inductive Content where
  | text
  /-- a path, which is not empty -/
  | path
  | number
  | format
deriving DecidableEq

inductive Arity where
  | none
  | one
  | many
deriving DecidableEq

structure OptionForm where
  long : String
  short : Option Char
  arity : Arity
  content : Content
  required : Bool
deriving DecidableEq

def OptionForm.shown (form : OptionForm) : String :=
  let name := "--" ++ form.long
  let value := String.ofList (form.long.toList.map (fun c =>
    if c = '-' then '_' else c.toUpper))
  match form.arity with
  | .none => name
  | .one => name ++ " <" ++ value ++ ">"
  | .many => name ++ " <" ++ value ++ ">..."

/-! ## Usage errors -/

inductive NumberFlaw where
  | empty
  | invalidDigit
  | tooLarge
deriving DecidableEq

inductive UsageError where
  | noWords
  | help
  | version
  | unknownCommand (name : String)
  | unknownWord (word : String)
  | missingOptions (forms : List OptionForm)
  | missingValue (form : OptionForm)
  | notAllowed (form : OptionForm) (value : String)
  | notANumber (form : OptionForm) (value : String) (flaw : NumberFlaw)
  | repeated (form : OptionForm)
  | unneededValue (form : OptionForm) (value : String)
deriving DecidableEq

def NumberFlaw.message : NumberFlaw → String
  | .empty => "cannot parse integer from empty string"
  | .invalidDigit => "invalid digit found in string"
  | .tooLarge => "number too large to fit in target type"

/-- The first line that is told about a usage error. -/
def UsageError.message : UsageError → String
  | .noWords => "compile declared type shapes into runtime validators, or run them against JSON documents"
  | .help => "compile declared type shapes into runtime validators, or run them against JSON documents"
  | .version => "shape-guard 0.1.0"
  | .unknownCommand name => "error: unrecognized subcommand '" ++ name ++ "'"
  | .unknownWord word => "error: unexpected argument '" ++ word ++ "' found"
  | .missingOptions _ => "error: the following required arguments were not provided:"
  | .missingValue form =>
      "error: a value is required for '" ++ form.shown ++ "' but none was supplied"
  | .notAllowed form value =>
      "error: invalid value '" ++ value ++ "' for '" ++ form.shown ++ "'"
  | .notANumber form value flaw =>
      "error: invalid value '" ++ value ++ "' for '" ++ form.shown ++ "': " ++ flaw.message
  | .repeated form =>
      "error: the argument '" ++ form.shown ++ "' cannot be used multiple times"
  | .unneededValue form value =>
      "error: unexpected value '" ++ value ++ "' for '" ++ form.shown ++
        "' found; no more were expected"

/-! ## Values -/

/-- The number that digits spell, below 2 to the power 64. -/
def readNumber (text : String) : Except NumberFlaw Nat :=
  let digits :=
    match text.toList with
    | ['+'] => ['+']
    | '+' :: rest => rest
    | cs => cs
  if digits.isEmpty then .error .empty
  else if !digits.all Char.isDigit then .error .invalidDigit
  else
    let n := digits.foldl (fun n c => n * 10 + (c.toNat - '0'.toNat)) 0
    if n < Nat.pow 2 64 then .ok n else .error .tooLarge

def readFormat : String → Option OutputFormat
  | "module" => some .module
  | "json" => some .report
  | _ => none

def judge (form : OptionForm) (value : String) : Except UsageError Unit :=
  match form.content with
  | .text => .ok ()
  | .path => if value == "" then .error (.missingValue form) else .ok ()
  | .number =>
      match readNumber value with
      | .ok _ => .ok ()
      | .error flaw => .error (.notANumber form value flaw)
  | .format =>
      match readFormat value with
      | some _ => .ok ()
      | none =>
          if value == "" then .error (.missingValue form)
          else .error (.notAllowed form value)

def judgeAll (form : OptionForm) : List String → Except UsageError Unit
  | [] => .ok ()
  | value :: rest =>
      match judge form value with
      | .error e => .error e
      | .ok () => judgeAll form rest

/-! ## Reading words -/

/-- The options that are settled, with their values, and the one that is open. -/
structure Given where
  settled : Entries (List String)
  opened : Option (OptionForm × List String)

namespace Given

def start : Given := ⟨[], none⟩

def record (form : OptionForm) (values : List String) (settled : Entries (List String)) :
    Except UsageError Given :=
  if form.arity != .none && values.isEmpty then .error (.missingValue form)
  else
    match settled.get? form.long with
    | some earlier =>
        if form.arity == .many then
          match judgeAll form values with
          | .error e => .error e
          | .ok () => .ok ⟨settled.insert form.long (earlier ++ values), none⟩
        else .error (.repeated form)
    | none =>
        match judgeAll form values with
        | .error e => .error e
        | .ok () => .ok ⟨settled.insert form.long values, none⟩

def close (g : Given) : Except UsageError Given :=
  match g.opened with
  | none => .ok g
  | some (form, values) => record form values g.settled

def closeAndRecord (form : OptionForm) (values : List String) (g : Given) :
    Except UsageError Given :=
  match g.close with
  | .error e => .error e
  | .ok next => record form values next.settled

def openOption (form : OptionForm) (g : Given) : Except UsageError Given :=
  match g.close with
  | .error e => .error e
  | .ok next => .ok ⟨next.settled, some (form, [])⟩

def stopForHelp (g : Given) : Except UsageError Given :=
  match g.close with
  | .error e => .error e
  | .ok _ => .error .help

/-- A word that is no option: a value of the open one, or not understood. -/
def takeValue (word : String) (g : Given) : Except UsageError Given :=
  match g.opened with
  | some (form, values) =>
      if form.arity == .many || values.isEmpty then
        .ok ⟨g.settled, some (form, values ++ [word])⟩
      else .error (.unknownWord word)
  | none => .error (.unknownWord word)

end Given

def helpForm : OptionForm := ⟨"help", some 'h', .none, .text, false⟩

/-- A word that starts with two dashes, which are left out. -/
def readLong (forms : List OptionForm) (word : List Char) (g : Given) :
    Except UsageError Given :=
  let name := String.ofList (word.takeWhile (· != '='))
  let value? : Option String :=
    match word.dropWhile (· != '=') with
    | [] => none
    | _ :: value => some (String.ofList value)
  match (helpForm :: forms).find? (fun form => form.long == name) with
  | none => .error (.unknownWord ("--" ++ name))
  | some form =>
      if form.arity == .none then
        match value? with
        | some value => .error (.unneededValue form value)
        | none => if form == helpForm then g.stopForHelp else g.closeAndRecord form []
      else
        match value? with
        | some value => g.closeAndRecord form [value]
        | none => g.openOption form

/-- A word that starts with one dash, which is left out. -/
def readShort (forms : List OptionForm) (c : Char) (rest : List Char) (g : Given) :
    Except UsageError Given :=
  match (helpForm :: forms).find? (fun form => form.short == some c) with
  | none => .error (.unknownWord (String.ofList ['-', c]))
  | some form =>
      if form == helpForm then g.stopForHelp
      else
        match rest with
        | [] => g.openOption form
        | '=' :: value => g.closeAndRecord form [String.ofList value]
        | value => g.closeAndRecord form [String.ofList value]

def readWord (forms : List OptionForm) (word : String) (g : Given) :
    Except UsageError Given :=
  match word.toList with
  | '-' :: '-' :: rest => readLong forms rest g
  | '-' :: c :: rest => readShort forms c rest g
  | _ => g.takeValue word

/-- All words.  After two dashes no word is an option or a value of one. -/
def readWords (forms : List OptionForm) : List String → Given → Except UsageError Given
  | [], g => g.close
  | word :: rest, g =>
      if word == "--" then
        match rest with
        | [] => g.close
        | extra :: _ => .error (.unknownWord extra)
      else
        match readWord forms word g with
        | .error e => .error e
        | .ok next => readWords forms rest next

/-- The values of options, all required ones among them. -/
def readOptions (forms : List OptionForm) (words : List String) :
    Except UsageError (Entries (List String)) :=
  match readWords forms words Given.start with
  | .error e => .error e
  | .ok g =>
      match forms.filter (fun form => form.required && !g.settled.has form.long) with
      | [] => .ok g.settled
      | missing => .error (.missingOptions missing)

/-! ## The commands -/

def manifestForm : OptionForm := ⟨"manifest", some 'm', .one, .path, true⟩
def formatForm : OptionForm := ⟨"format", none, .one, .format, false⟩
def outForm : OptionForm := ⟨"out", some 'o', .one, .path, false⟩
def maxDepthForm : OptionForm := ⟨"max-depth", none, .one, .number, false⟩
def declarationForm : OptionForm := ⟨"declaration", some 'd', .one, .text, true⟩
def linesForm : OptionForm := ⟨"ndjson", none, .none, .text, false⟩
def pointerForm : OptionForm := ⟨"json-pointer", none, .one, .text, false⟩
def filterForm : OptionForm := ⟨"jq-expr", none, .one, .text, false⟩
def inputForm : OptionForm := ⟨"input", some 'i', .many, .text, true⟩
def quietForm : OptionForm := ⟨"quiet", none, .none, .text, false⟩
def shapeForm : OptionForm := ⟨"shape", some 's', .one, .path, true⟩

def compileForms : List OptionForm := [manifestForm, formatForm, outForm, maxDepthForm]

def checkForms : List OptionForm :=
  [manifestForm, declarationForm, linesForm, pointerForm, filterForm, inputForm,
    maxDepthForm, quietForm]

def printForms : List OptionForm := [shapeForm, maxDepthForm]

def value? (settled : Entries (List String)) (form : OptionForm) : Option String :=
  (settled.get? form.long).bind List.head?

def valueOf (settled : Entries (List String)) (form : OptionForm) : String :=
  (value? settled form).getD ""

def maxDepthOf (settled : Entries (List String)) : Nat :=
  match (value? settled maxDepthForm).map readNumber with
  | some (.ok n) => n
  | _ => defaultMaxDepth

def formatOf (settled : Entries (List String)) : OutputFormat :=
  ((value? settled formatForm).bind readFormat).getD .module

def compileOf (settled : Entries (List String)) : Command :=
  .compile ⟨valueOf settled manifestForm, formatOf settled, value? settled outForm,
    maxDepthOf settled⟩

def inputOf (settled : Entries (List String)) : InputOptions :=
  ⟨settled.has linesForm.long, value? settled pointerForm, value? settled filterForm,
    (settled.get? inputForm.long).getD []⟩

def checkOf (settled : Entries (List String)) : Command :=
  .check ⟨valueOf settled manifestForm, valueOf settled declarationForm, inputOf settled,
    maxDepthOf settled, settled.has quietForm.long⟩

def printOf (settled : Entries (List String)) : Command :=
  .print ⟨valueOf settled shapeForm, maxDepthOf settled⟩

def commandNames : List String := ["compile", "check", "print", "help"]

/-- The words after a request for help: at most the name of a command. -/
def readHelp : List String → UsageError
  | [] => .help
  | name :: rest =>
      if name ∈ commandNames then
        match rest with
        | [] => .help
        | extra :: _ => .unknownCommand extra
      else .unknownCommand name

/-- A first word that names no command. -/
def readFirst (word : String) (rest : List String) : UsageError :=
  match word.toList with
  | ['-', '-'] =>
      match rest with
      | [] => .noWords
      | name :: _ =>
          if name ∈ commandNames then .unknownWord name else .unknownCommand name
  | '-' :: '-' :: name =>
      let stem := String.ofList (name.takeWhile (· != '='))
      if stem == "help" || stem == "version" then
        match name.dropWhile (· != '=') with
        | [] => if stem == "help" then .help else .version
        | _ :: value =>
            .unneededValue ⟨stem, none, .none, .text, false⟩ (String.ofList value)
      else .unknownWord ("--" ++ stem)
  | '-' :: c :: _ =>
      if c = 'h' then .help
      else if c = 'V' then .version
      else .unknownWord (String.ofList ['-', c])
  | _ => .unknownCommand word

def ofWords : List String → Except UsageError Command
  | [] => .error .noWords
  | "compile" :: rest => (readOptions compileForms rest).map compileOf
  | "check" :: rest => (readOptions checkForms rest).map checkOf
  | "print" :: rest => (readOptions printForms rest).map printOf
  | "help" :: rest => .error (readHelp rest)
  | word :: rest => .error (readFirst word rest)

end Command
end ShapeCheck
