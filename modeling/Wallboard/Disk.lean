import Wallboard.Keyed
import Wallboard.Text.Lines

/-!
Files and directories by path. A path is walked name by name from the working directory or from the
root; the walk fails where a name is missing or is a file.
-/
namespace Wallboard

/-- A path without empty names and single dots. -/
structure Path where
  absolute : Bool
  names : List Text
  deriving DecidableEq

namespace Path

def ofText (text : Text) : Path where
  absolute := Text.startsWith text ['/']
  names := (Text.splitAt '/' text).filter fun name => !name.isEmpty && decide (name ≠ ['.'])

def text (path : Path) : Text :=
  let names := Text.join ['/'] path.names
  if path.absolute then '/' :: names else if names.isEmpty then ['.'] else names

def parent (path : Path) : Path := { path with names := path.names.dropLast }

end Path

inductive Node
  | directory
  | file (content : ByteArray)

inductive DiskFault
  | notFound
  | alreadyExists
  | isDirectory
  | notDirectory
  deriving DecidableEq

/-- The nodes by their names from the working directory. The names of a node under the root start
with a slash of their own, and those of a node outside the working directory with double dots. -/
structure Disk where
  nodes : List (List Text × Node) := []

namespace Disk

def root : List Text := [['/']]

def above : Text := "..".toList

/-- Whether a place is the working directory or a directory that it is in. -/
def isAbove (place : List Text) : Bool := place.all (· == above)

def node? (disk : Disk) (place : List Text) : Option Node :=
  if isAbove place ∨ place = root then some .directory else Keyed.find? place disk.nodes

def parentPlace (place : List Text) : List Text :=
  if place = root then root else if isAbove place then place ++ [above] else place.dropLast

/-- The place that names lead to from a place. The last name need not exist. -/
def walk (disk : Disk) (place : List Text) : List Text → Except DiskFault (List Text)
  | [] => .ok place
  | name :: rest =>
      match disk.node? place with
      | none => .error .notFound
      | some (.file _) => .error .notDirectory
      | some .directory =>
          walk disk (if name = above then parentPlace place else place ++ [name]) rest

def resolve (disk : Disk) (path : Path) : Except DiskFault (List Text) :=
  disk.walk (if path.absolute then root else []) path.names

def lookup? (disk : Disk) (path : Path) : Option Node :=
  match disk.resolve path with
  | .ok place => disk.node? place
  | .error _ => none

def isFile (disk : Disk) (path : Path) : Bool :=
  match disk.lookup? path with
  | some (.file _) => true
  | _ => false

def read (disk : Disk) (path : Path) : Except DiskFault ByteArray := do
  let place ← disk.resolve path
  match disk.node? place with
  | none => .error .notFound
  | some .directory => .error .isDirectory
  | some (.file content) => .ok content

def write (disk : Disk) (path : Path) (content : ByteArray) : Except DiskFault Disk := do
  let place ← disk.resolve path
  match disk.node? place with
  | some .directory => .error .isDirectory
  | _ => .ok { disk with nodes := Keyed.put place (.file content) disk.nodes }

def makeDirectory (disk : Disk) (path : Path) : Except DiskFault Disk := do
  let place ← disk.resolve path
  match disk.node? place with
  | some _ => .error .alreadyExists
  | none => .ok { disk with nodes := Keyed.put place .directory disk.nodes }

def isDirectory (disk : Disk) (path : Path) : Bool :=
  match disk.lookup? path with
  | some .directory => true
  | _ => false

def ensureDirectory (disk : Disk) (path : Path) : Except DiskFault Disk :=
  match disk.makeDirectory path with
  | .error fault => if disk.isDirectory path then .ok disk else .error fault
  | done => done

/-- Makes a directory and every missing directory above it. `reversed` is its names from the
last to the first. -/
def ensureAll (disk : Disk) (absolute : Bool) : List Text → Except DiskFault Disk
  | [] => .ok disk
  | name :: above =>
      let path : Path := ⟨absolute, (name :: above).reverse⟩
      match disk.makeDirectory path with
      | .error .notFound => do
          let disk ← ensureAll disk absolute above
          disk.ensureDirectory path
      | .error fault => if disk.isDirectory path then .ok disk else .error fault
      | done => done

def places (disk : Disk) : List Text :=
  let inside (place : List Text) : Bool :=
    match place with
    | [] => false
    | name :: _ => decide ([name] ≠ root) && name != above
  let texts := ((Keyed.keys disk.nodes).filter inside).map (Text.join ['/'])
  texts.mergeSort Text.precedes

def ensureTree (disk : Disk) (path : Path) : Except DiskFault Disk :=
  disk.ensureAll path.absolute path.names.reverse

end Disk

def fileText? (content : ByteArray) : Option Text :=
  (String.fromUTF8? content).map fun text => Text.unifyNewlines text.toList

def fileContent (text : Text) : ByteArray := (String.ofList text).toUTF8

end Wallboard
