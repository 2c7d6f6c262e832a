import BraceLint.Files.ReadError
import BraceLint.Text.Bytes

/-!
# File layouts

A layout is a working directory with the files and directories below it. A path
is followed name by name, and each step has to start in a directory. Nothing is
known of what lies outside the working directory, and no name is found there.
-/
namespace BraceLint

/-- A name between the slashes of a path. -/
abbrev Name := List Char

/-- The names from an entry up to the working directory, its own name first. -/
abbrev Route := List Name

/-- What a route leads to. -/
inductive Entry where
  | file (content : ByteArray)
  | directory

/-- The entries below a working directory. The first entry for a route counts. -/
structure Layout where
  /-- The entries, those put there latest first. -/
  entries : List (Route × Entry)

/-- The names of a path, empty ones included. -/
def namesOf (path : String) : List Name := path.toList.splitOn '/'

/-- Where a walk along a path has got to. -/
inductive Place where
  /-- At an entry of the layout, or at the working directory for the empty route. -/
  | inside (route : Route)
  /-- In a directory above the working directory. -/
  | outside
deriving DecidableEq

/-- The directory that holds a place. -/
def Place.parent : Place → Place
  | inside [] => outside
  | inside (_ :: route) => inside route
  | outside => outside

namespace Layout

def empty : Layout := ⟨[]⟩

/-- The route behind one more name, without regard to what there is. -/
def extend (route : Route) (name : Name) : Route :=
  if name = [] ∨ name = ['.'] then route
  else if name = ['.', '.'] then route.tail
  else name :: route

/-- The route that a path spells. -/
def routeOf (path : String) : Route := (namesOf path).foldl extend []

/-- The routes from which the names of a path are taken, one for each name. -/
def passed (route : Route) : List Name → List Route
  | [] => []
  | name :: rest => route :: passed (extend route name) rest

/-- Put an entry at a path. The directories that the path passes through are made
where there is nothing yet, also those that it leaves again. -/
def insert (layout : Layout) (path : String) (entry : Entry) : Layout :=
  ⟨(routeOf path, entry) :: layout.entries
    ++ (passed [] (namesOf path)).map fun route => (route, .directory)⟩

/-- What a route leads to, if there is anything. -/
def find? (layout : Layout) (route : Route) : Option Entry :=
  if route = [] then some .directory else layout.entries.lookup route

/-- The content of the file at a place, or none at a directory. -/
def content? (layout : Layout) : Place → Option ByteArray
  | .outside => none
  | .inside route =>
    match layout.find? route with
    | some (.file content) => some content
    | _ => none

def isDirectory (layout : Layout) (place : Place) : Bool := (layout.content? place).isNone

def maxName : Nat := 255

def maxPath : Nat := 4095

/-- Take one step from a place along a name. -/
def enter (layout : Layout) (place : Place) (name : Name) : Except ReadError Place :=
  if ¬ layout.isDirectory place then .error .notADirectory
  else if name = [] ∨ name = ['.'] then .ok place
  else if name = ['.', '.'] then .ok place.parent
  else if maxName < byteLength name then .error .nameTooLong
  else match place with
    | .outside => .error .notFound
    | .inside route =>
      if (layout.find? (name :: route)).isSome then .ok (.inside (name :: route))
      else .error .notFound

/-- Where a walk along a path starts. -/
def origin (path : String) : Place :=
  if path.toList.head? = some '/' then .outside else .inside []

def follow (layout : Layout) (path : String) : Except ReadError Place :=
  (namesOf path).foldlM layout.enter (origin path)

/-- The content of the file that a path leads to. -/
def read (layout : Layout) (path : String) : Except ReadError ByteArray :=
  if '\x00' ∈ path.toList then .error .nulInPath
  else if path = "" then .error .notFound
  else if maxPath < path.utf8ByteSize then .error .nameTooLong
  else match layout.follow path with
    | .error e => .error e
    | .ok place =>
      match layout.content? place with
      | some content => .ok content
      | none => .error .isADirectory

end Layout
end BraceLint
