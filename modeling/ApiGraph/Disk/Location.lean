import ApiGraph.Text.Pieces

namespace ApiGraph.Location

/-- A reversed path without the slashes and single dots at its end. -/
def dropEnd : List Char → List Char
  | ['/'] => ['/']
  | '/' :: rest => dropEnd rest
  | '.' :: '/' :: rest => if rest.isEmpty then ['/'] else dropEnd rest
  | cs => cs

/-- A reversed path without its last name. -/
def dropName (cs : List Char) : List Char := cs.dropWhile (· != '/')

def parent? (path : String) : Option String :=
  match dropEnd path.toList.reverse with
  | [] => none
  | ['/'] => none
  | cs => some (String.ofList (dropEnd (dropName cs)).reverse)

/-- The last name of a path, unless it stands for a folder by dots. -/
def name? (path : String) : Option String :=
  match ((dropEnd path.toList.reverse).takeWhile (· != '/')).reverse with
  | [] => none
  | ['.'] => none
  | ['.', '.'] => none
  | cs => some (String.ofList cs)

/-- The text behind the last dot of a name, if there is a text before it. -/
def extension? (path : String) : Option String := do
  let cs := (← name? path).toList.reverse
  let extension := cs.takeWhile (· != '.')
  let stem := (cs.dropWhile (· != '.')).drop 1
  if stem.isEmpty then none else some (String.ofList extension.reverse)

def join (folder path : String) : String :=
  if folder.isEmpty || folder.toList.getLast? = some '/' then folder ++ path
  else folder ++ "/" ++ path

/-- The names on a path, single dots among them. -/
def names (path : String) : List String := (Text.words (· == '/') path.toList).map String.ofList

def endsInSlash (path : String) : Bool := path.toList.getLast? = some '/'

end ApiGraph.Location
