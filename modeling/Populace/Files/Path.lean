/-!
Paths as text: pieces between slashes. An empty piece or `.` leads nowhere, `..` leads
to the directory above; a path that begins with a slash starts at the root.
-/

namespace Populace.Files.Path

/-- Cuts at every slash. -/
def cut : List Char → List (List Char)
  | [] => [[]]
  | c :: cs =>
    if c = '/' then [] :: cut cs
    else match cut cs with
      | [] => [[c]]
      | piece :: pieces => (c :: piece) :: pieces

/-- The pieces that are not empty. -/
def pieces (path : String) : List String :=
  ((cut path.toList).filter (· ≠ [])).map String.ofList

/-- Does the path start at the root? -/
def isAbsolute (path : String) : Bool :=
  path.toList.head? == some '/'

/-- Does the path end in a slash? -/
def endsInSlash (path : String) : Bool :=
  path.toList.getLast? == some '/'

/-- The path without slashes and `.` pieces at its end; it comes and goes last
character first. A path of nothing else keeps its first character. -/
def withoutTail : List Char → List Char
  | '/' :: c :: rest => withoutTail (c :: rest)
  | '.' :: '/' :: rest => withoutTail ('/' :: rest)
  | cs => cs

/-- The path without its last piece. The root and the empty path have none. -/
def parent? (path : String) : Option String :=
  match withoutTail path.toList.reverse with
  | [] => none
  | ['/'] => none
  | cs =>
    some (String.ofList (withoutTail (cs.dropWhile (· ≠ '/'))).reverse)

/-- The path of a name in a directory. -/
def child (directory name : String) : String :=
  if directory.isEmpty || endsInSlash directory then directory ++ name
  else directory ++ "/" ++ name

/-- The name without what follows its last point, if a point stands behind its first
character; it comes and goes last character first. -/
def withoutExtension (reversed : List Char) : List Char :=
  match reversed.dropWhile (· ≠ '.') with
  | '.' :: c :: rest => c :: rest
  | _ => reversed

/-- The path with another extension to its last name. -/
def withExtension (path extension : String) : String :=
  let reversed := path.toList.reverse
  let name := reversed.takeWhile (· ≠ '/')
  let directory := reversed.dropWhile (· ≠ '/')
  String.ofList (withoutExtension name ++ directory).reverse ++ "." ++ extension

end Populace.Files.Path
