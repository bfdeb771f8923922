/-!
# Paths

A path is a text whose components are separated by slashes.  What is typed is
kept: a path is only taken apart where it is followed.
-/

namespace ShapeCheck
namespace Path

def split : List Char → List (List Char)
  | [] => [[]]
  | '/' :: rest => [] :: split rest
  | c :: rest =>
      match split rest with
      | piece :: more => (c :: piece) :: more
      | [] => [[c]]

/-- The components of a path, the empty ones included. -/
def pieces (path : String) : List String := (split path.toList).map String.ofList

/-- The last component that is not empty, and those before it. -/
def lastName? (path : String) : Option (List String × String) :=
  match (pieces path).reverse.dropWhile (· == "") with
  | [] => none
  | name :: back => some (back.reverse, name)

def isAbsolute (path : String) : Bool := path.toList.head? == some '/'

/-- The components of a path that lead somewhere. -/
def components (path : String) : List String :=
  match pieces path with
  | [] => []
  | first :: rest =>
      let kept := rest.filter (fun piece => piece != "" && piece != ".")
      if first == "" then kept else first :: kept

def join (path name : String) : String :=
  if path == "" then name
  else if path.toList.getLast? == some '/' then path ++ name
  else path ++ "/" ++ name

/-- Drop what leads nowhere at the end of a path; the path is reversed. -/
def trimEnd : List Char → List Char
  | ['/'] => ['/']
  | '/' :: rest => trimEnd rest
  | '.' :: '/' :: rest => trimEnd ('/' :: rest)
  | cs => cs

/-- The path of the folder that holds what a path names; none for the root. -/
def parent? (path : String) : Option String :=
  match trimEnd path.toList.reverse with
  | [] => none
  | ['/'] => none
  | cs => some (String.ofList (trimEnd (cs.dropWhile (· != '/'))).reverse)

/-- The name of a file after its last point; none if that is its first character. -/
def extension? (name : String) : Option String :=
  let cs := name.toList.reverse
  match cs.dropWhile (· != '.') with
  | [] => none
  | ['.'] => none
  | _ => if name == ".." then none else some (String.ofList (cs.takeWhile (· != '.')).reverse)

end Path
end ShapeCheck
