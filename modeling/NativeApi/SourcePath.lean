/-!
# Paths of source files

A path is kept as it was written.  Two paths name the same file if their components agree:
repeated and final separators do not count, nor does `.` except at the start of a relative path.
-/

namespace NativeApi.SourcePath

inductive Component where
  | root
  | here
  | up
  | named (name : String)
  deriving DecidableEq

/-- The component that a piece between separators stands for, if it counts. -/
def component? (piece : List Char) : Option Component :=
  if piece = [] ∨ piece = ['.'] then none
  else if piece = ['.', '.'] then some .up
  else some (.named (String.ofList piece))

def components (path : String) : List Component :=
  match path.toList.splitOn '/' with
  | [] => []
  | first :: rest =>
    let start : List Component :=
      if first = [] then (if rest = [] then [] else [.root])
      else if first = ['.'] then [.here]
      else []
    start ++ (first :: rest).filterMap component?

def same (a b : String) : Bool := components a = components b

def sameAll (as bs : List String) : Bool := as.map components = bs.map components

/-- A file name without its extension: a dot at the start opens no extension. -/
def stem (name : String) : String :=
  match (name.toList.splitOn '.').reverse with
  | [] | [_] => name
  | [_, []] => name
  | _ :: rest => String.ofList (['.'].intercalate rest.reverse)

def fileStem? (path : String) : Option String :=
  match (components path).getLast? with
  | some (.named name) => some (stem name)
  | _ => none

end NativeApi.SourcePath
