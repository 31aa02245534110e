import NativeApi.Emission
import NativeApi.Library.Dump
import NativeApi.Pipeline
import NativeApi.Sample
import NativeApi.Text.Blank
import NativeApi.Text.Lowercase

/-!
# The command

What the command prints: it runs the configured pipeline over the sample library, shows what it
is asked to show, and ends with a line of success or of failure.

* `Arguments.parse?`: the arguments, unless they are not understood.
* `DumpRequest.parse`: what is to be shown, with a warning for each word that is not known.
* `Arguments.execute`: the output, given what reading the configuration file yields.
-/

namespace NativeApi

/-! ## Arguments -/

structure Arguments where
  /-- What to show, separated by commas. -/
  dump : Option String
  /-- The path of the configuration file. -/
  config : Option String

namespace Arguments

def none : Arguments := ⟨.none, .none⟩

/-- Sets an option, which may be given once; the path of a file is not empty. -/
def set? (a : Arguments) (option value : String) : Option Arguments :=
  if option = "--dump" ∧ a.dump.isNone then some { a with dump := some value }
  else if option = "--config" ∧ a.config.isNone ∧ value ≠ "" then
    some { a with config := some value }
  else .none

/-- An argument of the form `option=value`, at the first `=`. -/
def splitOption? (argument : String) : Option (String × String) :=
  let cs := argument.toList
  match cs.dropWhile (· ≠ '=') with
  | _ :: value => some (String.ofList (cs.takeWhile (· ≠ '=')), String.ofList value)
  | [] => .none

/-- Whether an argument cannot be the value of an option before it. -/
def looksLikeOption (argument : String) : Bool :=
  argument.startsWith "-" && argument ≠ "-"

/-- Reads arguments on top of those read before. -/
def parseFrom? (a : Arguments) : List String → Option Arguments
  | [] => some a
  | ["--"] => some a
  | argument :: rest =>
    match splitOption? argument with
    | some (option, value) => (a.set? option value).bind (parseFrom? · rest)
    | .none =>
      match rest with
      | [] => .none
      | value :: rest =>
        if looksLikeOption value then .none
        else (a.set? argument value).bind (parseFrom? · rest)

def parse? (arguments : List String) : Option Arguments := parseFrom? none arguments

end Arguments

/-! ## Sections -/

structure DumpRequest where
  input : Bool
  tree : Bool
  diagnostics : Bool
  emit : Bool

namespace DumpRequest

def none : DumpRequest := ⟨false, false, false, false⟩

/-- Adds a word to a request; without an answer the word is not known. -/
def add? (request : DumpRequest) (word : String) : Option DumpRequest :=
  if word = "input" then some { request with input := true }
  else if word = "tree" then some { request with tree := true }
  else if word = "diagnostics" then some { request with diagnostics := true }
  else if word = "emit" then some { request with emit := true }
  else if word = "" then some request
  else .none

/-- The words of a request: trimmed, in lower case. -/
def words (text : String) : List String :=
  (text.toList.splitOn ',').map fun word => Text.lowercase (Text.trim (String.ofList word))

def parse (text : Option String) : DumpRequest × List String :=
  match text with
  | .none => (none, [])
  | some text =>
    (words text).foldl
      (fun (request, unknown) word =>
        match request.add? word with
        | some request => (request, unknown)
        | .none => (request, unknown ++ [word]))
      (none, [])

end DumpRequest

/-- The line above and below the body of a section. -/
def sectionRule : String := "--------------------------------\n"

def outputSection (title body : String) : String :=
  title ++ ":\n" ++ sectionRule ++ body ++ sectionRule

namespace Library

def diagnosticsSection (L : Library) : String :=
  outputSection "Diagnostics" (Decl.textOfLines (L.diagnostics.map AttachedDiagnostic.text))

def emittedLine (v : Visit) : String :=
  Decl.indent v.above.length ++ v.decl.kind.name ++ " " ++ v.decl.name

def emittedLines (L : Library) : List String :=
  L.emission.events.filterMap fun
    | .emit v => some (emittedLine v)
    | .report _ => .none

end Library

/-! ## Execution -/

structure Outcome where
  exitCode : Nat
  output : String
  /-- The warnings, which do not belong to the output. -/
  warnings : String

def Outcome.usage : Outcome := ⟨2, "", "usage: [--dump LIST] [--config FILE]\n"⟩

def Library.report (L : Library) (request : DumpRequest) : String :=
  let e := L.emission
  (if request.tree then outputSection "Tree" L.dump else "")
    ++ (if request.diagnostics then L.diagnosticsSection else "")
    ++ (if request.emit then outputSection "Emit" (Decl.textOfLines L.emittedLines) else "")
    ++ "[SUCCESS] " ++ toString e.emitted ++ " declaration(s) emitted, " ++ toString e.skipped
    ++ " skipped, " ++ toString e.reported ++ " diagnostic(s) reported\n"

namespace Arguments

/-- The configuration that is asked for, given what reading its file yields. -/
def pipelineConfig (a : Arguments) (read : String → Except FileError String) :
    Except ConfigError PipelineConfig :=
  match a.config with
  | .none => .ok .default
  | some path =>
    match read path with
    | .ok text => PipelineConfig.ofJson text
    | .error cause => .error (.unreadable path cause)

def execute (a : Arguments) (read : String → Except FileError String) : Outcome :=
  let (request, unknown) := DumpRequest.parse a.dump
  let warnings := Decl.textOfLines (unknown.map ("[WARN] unknown dump flag: " ++ ·))
  match a.pipelineConfig read with
  | .error e => ⟨1, "[ERROR] " ++ e.message ++ "\n", warnings⟩
  | .ok config =>
    let input := if request.input then outputSection "Input" Sample.library.dump else ""
    match ((Pipeline.ofConfig config).run Sample.library).1 with
    | .ok result => ⟨0, input ++ result.report request, warnings⟩
    | .error e =>
      let .errorsRemain _ result := e
      let diagnostics := if request.diagnostics then result.diagnosticsSection else ""
      ⟨1, input ++ diagnostics ++ "[ERROR] " ++ e.message ++ "\n", warnings⟩

end Arguments

end NativeApi
