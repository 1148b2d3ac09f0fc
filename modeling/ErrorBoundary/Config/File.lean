import ErrorBoundary.Config.Directory
import ErrorBoundary.Config.Path
import ErrorBoundary.Json.Reader
import ErrorBoundary.Toml.Document

/-!
# ErrorBoundary.Config.File

Settings in files. A file is asked for by a name, with its extension or without; the extension
tells the format. The name is a path from the directory of such files.

* `ConfigFile.locate?` — the file that a name stands for.
* `ConfigFile.entries?` — what a file says, unless its text is wrong.
-/

namespace ErrorBoundary

inductive FileFormat where
  | toml
  | json
deriving DecidableEq

namespace FileFormat

/-- The formats in the order in which files of one name are preferred. -/
def all : List FileFormat := [.toml, .json]

def extension : FileFormat → String
  | .toml => "toml"
  | .json => "json"

def ofExtension? (e : String) : Option FileFormat := all.find? fun f => f.extension = e

/-- The top-level members of a text in the format. -/
def members? (f : FileFormat) (origin : Origin) (text : String) : Option (Members Tree) :=
  match f with
  | .toml => (Toml.ofText? text).map (Tree.ofTomlMembers origin)
  | .json =>
    match Json.ofText text with
    | .ok (.object members) => some (Tree.ofJsonMembers origin members)
    | _ => none

end FileFormat

/-- A file of settings: its format, its path and its text. -/
structure ConfigFile where
  format : FileFormat
  path : String
  text : String
deriving DecidableEq

namespace ConfigFile

def directory : String := "config"

/-- The path that a name stands for, without an extension being added. -/
def pathOf (name : String) : String := s!"{directory}/{name}"

/-- Whether a path may be that of a file: not if it ends in a slash, or in a single point behind
one. -/
def mayBeFile (path : String) : Bool :=
  match (Directory.pieces path).getLast? with
  | some last => last != "" && last != "."
  | none => false

/-- The part of a file's name behind the last point, unless the name only begins with it. -/
def extension? (parts : List String) : Option String :=
  let name := (parts.getLast?.getD "").toList.reverse
  match name.dropWhile (· != '.') with
  | _ :: _ :: _ => some (String.ofList (name.takeWhile (· != '.')).reverse)
  | _ => none

/-- The parts with an extension at the end; a step up takes none. -/
def extend? (extension : String) (parts : List String) : Option (List String) :=
  match parts.getLast? with
  | none | some ".." => none
  | some last => some (parts.dropLast ++ [s!"{last}.{extension}"])

/-- The paths under which the file of a name may stand: its own, or with an extension. -/
def candidates (name : String) : List String :=
  pathOf name :: FileFormat.all.filterMap fun f =>
    (extend? f.extension (Directory.parts (pathOf name))).map Directory.path

/-- The file that a name stands for. A file of just this name hides the others, even when its
extension is that of no format. -/
def locate? (d : Directory) (name : String) : Option ConfigFile :=
  let parts := Directory.parts (pathOf name)
  match if mayBeFile (pathOf name) then d.text? parts else none with
  | some text =>
    ((extension? parts).bind FileFormat.ofExtension?).map fun f => ⟨f, Directory.path parts, text⟩
  | none =>
    FileFormat.all.findSome? fun f =>
      (extend? f.extension parts).bind fun parts =>
        (d.text? parts).map fun text => ⟨f, Directory.path parts, text⟩

def origin (f : ConfigFile) : Origin := .file f.path

/-- The text without the mark that may open it. -/
def contents (f : ConfigFile) : String :=
  match f.text.toList with
  | '\ufeff' :: rest => String.ofList rest
  | _ => f.text

/-- What a file says; each top-level key is a path. -/
def entries? (f : ConfigFile) : Option (List Tree.Entry) :=
  (f.format.members? f.origin f.contents).map fun members =>
    members.map fun m => ⟨Step.ofText m.1, m.2⟩

end ConfigFile
end ErrorBoundary
