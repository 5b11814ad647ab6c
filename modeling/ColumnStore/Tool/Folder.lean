import ColumnStore.Text.Cut
import ColumnStore.Tool.Run

/-!
# A folder of files

A `Folder` holds files and no other folders. It stands in for a file system where the tool is tried
out without one, and refuses a path for the reason that a file system would give.
-/

set_option autoImplicit false

namespace ColumnStore

/-- Why a path cannot be read. -/
inductive PathFault where
  | missing
  /-- A file is used as a folder. -/
  | notFolder
  /-- A folder is used as a file. -/
  | isFolder
  deriving DecidableEq, Repr

/-- The fault as one line of text. -/
def PathFault.message : PathFault → String
  | missing => "No such file or directory (os error 2)"
  | notFolder => "Not a directory (os error 20)"
  | isFolder => "Is a directory (os error 21)"

/-- Files by name. -/
structure Folder where
  files : List (String × List UInt8)

namespace Folder

/-- The steps of a path. A dot does not lead anywhere, and the step behind a slash at the end is
one. -/
def steps (path : String) : List String :=
  (Text.splitAll '/' path).filter fun step ↦ !step.isEmpty && step ≠ "."

/-- The bytes of the file at a path. -/
def read (folder : Folder) (path : String) : Except PathFault (List UInt8) :=
  if path.isEmpty then .error .missing
  else
    match steps path with
    | [] => .error .isFolder
    | name :: rest =>
      if Text.beginsWith "/" path then .error .missing
      else if name = ".." then
        if rest.all (· == "..") then .error .isFolder else .error .missing
      else
        match folder.files.lookup name with
        | none => .error .missing
        | some bytes =>
          if rest.isEmpty && !Text.finishesWith "/" path && !Text.finishesWith "/." path then
            .ok bytes
          else .error .notFolder

/-- A world with a folder, a sheet for the output and variables. -/
def world (folder : Folder) (environment : Options) : World (StateM Sheet) where
  surroundings := Sheet.surroundings
  readFile path := pure ((folder.read path).mapError PathFault.message)
  environment := environment

end Folder

end ColumnStore
