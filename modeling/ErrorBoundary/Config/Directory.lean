import ErrorBoundary.Members

/-!
# ErrorBoundary.Config.Directory

Files below a directory, and the paths that lead to them. A path is taken part by part: an empty
part and a single point stay where they are, two points lead up, and any other part leads into the
directory of its name.

* `Directory.parts` — the parts of a path that lead somewhere.
* `Directory.place` — where they lead.
* `Directory.text?` — the text of the file at the end of a path.
-/

namespace ErrorBoundary

/-- The files below a directory: the path of each from there, and its text. -/
abbrev Directory := Members String

namespace Directory

/-- What stands between the slashes of a path. -/
def pieces (path : String) : List String := (path.toList.splitOn '/').map String.ofList

def parts (path : String) : List String :=
  (pieces path).filter fun part => part != "" && part != "."

def path (parts : List String) : String := "/".intercalate parts

/-- One part further. Above the directory itself the parts that lead up are kept. -/
def step (here : List String) (part : String) : List String :=
  if part = ".." then
    match here.getLast? with
    | none | some ".." => here ++ [part]
    | some _ => here.dropLast
  else here ++ [part]

/-- The shortest parts that lead to the same place. -/
def place (parts : List String) : List String := parts.foldl step []

/-- Whether a place is that of a directory: it has files below it, or is the directory itself. -/
def isDirectory (d : Directory) (here : List String) : Bool :=
  here.isEmpty || d.any fun f =>
    let there := place (parts f.1)
    here.isPrefixOf there && here.length < there.length

/-- Whether each part but the last leads to a directory. -/
def isPassable (d : Directory) : List String → List String → Bool
  | _, [] => true
  | _, [_] => true
  | here, part :: rest => d.isDirectory (step here part) && isPassable d (step here part) rest

/-- The text of the file at the end of a path. -/
def text? (d : Directory) (ps : List String) : Option String :=
  if d.isPassable [] ps then
    (List.find? (fun f => place (parts f.1) = place ps) d).map Prod.snd
  else none

end Directory
end ErrorBoundary
