import SqlText.Fault
import SqlText.Text.LineEnd

/-!
# Log files — directories and appended texts below the working directory

    (({} : Files).makeDirectories "logs/old").2.openFile ["logs", "old", "q.log"]

A path is the list of its names, two points standing for the directory above and a slash in
front for the root. A directory is made with all directories on the way to it, and those
that were made stay where a later one cannot be; a file is opened only in a directory that
is there, and what is written to it comes after what it holds. The listing goes by the names
of the paths, name by name, and shows nothing outside the working directory.
-/

namespace SqlText.Log

/-- The names that lead to a file or directory, from the working directory or from the root;
two points occur at the front alone. -/
abbrev Path := List String

namespace Path

/-- The name of the root. -/
def rootName : String := "/"

/-- Does the path lead to the root, to the working directory or straight up from it? -/
def isTop (p : Path) : Bool := p == [rootName] || p.all (· == "..")

/-- Does the path lead out of the working directory? -/
def leadsOut (p : Path) : Bool := p.head? == some ".." || p.head? == some rootName

/-- The path one name further: the root is reached from everywhere, and two points go back,
but not from the root. -/
def goTo (p : Path) (name : String) : Path :=
  if name == rootName then [rootName]
  else if name != ".." then p ++ [name]
  else if p == [rootName] then p
  else if p.isTop then p ++ [name]
  else p.dropLast

/-- The path further by several names. -/
def goAll (p : Path) (names : List String) : Path := names.foldl goTo p

/-- The names of a path that is written with slashes; empty ones and single points do not
count. -/
def names (s : String) : List String :=
  let ns := (s.splitOn rootName).filter fun name => name != "" && name != "."
  if s.toList.head? == some '/' then rootName :: ns else ns

/-- A path in text. -/
def text : Path → String
  | []      => ""
  | n :: ns => if n == rootName then n ++ "/".intercalate ns else "/".intercalate (n :: ns)

end Path

/-- The directories and files below the working directory. -/
structure Files where
  directories : List Path := []
  files : List (Path × String) := []

namespace Files

/-- Is there a file of this path? -/
def isFile (d : Files) (p : Path) : Bool := d.files.any (·.1 == p)

/-- Is there a directory of this path? The root, the working directory and those above it
always are. -/
def isDirectory (d : Files) (p : Path) : Bool := p.isTop || d.directories.contains p

/-- The greatest size of a name in bytes. -/
def nameLimit : Nat := 255

/-- The greatest size of a whole path in bytes. -/
def pathLimit : Nat := 4095

/-- Has the name more bytes than a name may have? -/
def isLongName (name : String) : Bool := nameLimit < name.utf8ByteSize

/-- Have names that are written as one path more bytes than a path may have? -/
def isLongPath (names : List String) : Bool := pathLimit < (Path.text names).utf8ByteSize

/-- The directory that names lead to from a path on. The first name that is too long or
leads to no directory is the fault. -/
def reach (d : Files) (p : Path) : List String → Except FileFault Path
  | []            => .ok p
  | name :: names =>
    if isLongName name then .error .nameTooLong
    else if d.isFile (p.goTo name) then .error .notADirectory
    else if d.isDirectory (p.goTo name) then d.reach (p.goTo name) names
    else .error .notFound

/-- Makes the directory of a name below those of other names, unless it is there; the way to
it has to be there. -/
def makeDirectory (d : Files) (way : List String) (name : String) : Except FileFault Files := do
  if isLongPath (way ++ [name]) then throw .nameTooLong
  let p := (← d.reach [] way).goTo name
  if isLongName name then throw .nameTooLong
  else if d.isFile p then throw .exists
  else if d.isDirectory p then return d
  else return { d with directories := d.directories ++ [p] }

/-- Makes the directory of names, the last one first, and where the way to it is missing the
directories of the way before it. What was made before a fault stays. -/
def makeWay (d : Files) : List String → Except FileFault Unit × Files
  | []          => (.ok (), d)
  | name :: way =>
    match d.makeDirectory way.reverse name with
    | .ok d₁           => (.ok (), d₁)
    | .error .notFound =>
      match d.makeWay way with
      | (.ok (), d₁)  =>
        match d₁.makeDirectory way.reverse name with
        | .ok d₂   => (.ok (), d₂)
        | .error e => (.error e, d₁)
      | (.error e, d₁) => (.error e, d₁)
    | .error e => (.error e, d)

/-- Makes the directory of a written path with those on the way to it. -/
def makeDirectories (d : Files) (s : String) : Except FileFault Unit × Files :=
  d.makeWay (Path.names s).reverse

/-- Opens a file for appending; one that is not there is created empty. -/
def openFile (d : Files) (p : Path) : Except FileFault Files := do
  if isLongPath p then throw .nameTooLong
  let _ ← d.reach [] p.dropLast
  if p.any isLongName then throw .nameTooLong
  else if d.isDirectory p then throw .isADirectory
  else if d.isFile p then return d
  else return { d with files := d.files ++ [(p, "")] }

/-- Appends to a file. -/
def append (d : Files) (p : Path) (s : String) : Files :=
  { d with files := d.files.map fun f => if f.1 == p then (f.1, f.2 ++ s) else f }

/-- The order of paths: by their names, the shorter first. -/
def pathLe : Path → Path → Bool
  | [],      _       => true
  | _ :: _,  []      => false
  | a :: as, b :: bs => if a == b then pathLe as bs else a < b

/-- Everything below the working directory in the order of paths: the content of each file
read as text, and none for a directory. -/
def listing (d : Files) : List (Path × Option String) :=
  let content (s : String) := String.ofList (Text.withLineFeeds s.toList)
  let entries := d.directories.map (·, none) ++ d.files.map fun f => (f.1, some (content f.2))
  (entries.filter fun e => !e.1.leadsOut).mergeSort fun x y => pathLe x.1 y.1

end Files

end SqlText.Log
