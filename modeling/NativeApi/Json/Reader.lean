import NativeApi.Json.Numbers
import NativeApi.Json.Strings
import NativeApi.Number.Shortest
import NativeApi.Text.Quoted

/-!
# Reading JSON on demand

A reader takes what it needs from a text and fails at the first thing that it cannot use, so the
order of the text decides which of several faults is reported.  What is of the wrong type is
named by its first token and not read to its end.

* `boolean`, `name`: values.
* `fields`: an object with known fields, or an array with the values of the fields in order.
-/

namespace NativeApi.Json

/-! ## Faults -/

/-- What stands in the text where something else is expected. -/
inductive Token where
  | null
  | boolean (value : Bool)
  | number (value : Number)
  | string (value : String)
  | sequence
  | map

/-- Floating point numbers in messages are positional from `0.00001` up to, but not including,
`10 ^ 16`, and large ones show the sign of the exponent; ties go to the even digit. -/
def floatStyle : FloatStyle := ⟨.even, -5, 15, true⟩

example : floatStyle.text ⟨0x4341c37937e08000⟩ = "1e+16" := by decide +kernel
example : floatStyle.text ⟨0x4341c37937e07fff⟩ = "9999999999999998.0" := by decide +kernel

def Token.text : Token → String
  | null => "null"
  | boolean value => "boolean `" ++ (if value then "true" else "false") ++ "`"
  | number (.integer value) => "integer `" ++ toString value ++ "`"
  | number (.float value) => "floating point `" ++ floatStyle.text value ++ "`"
  | string value => "string " ++ Text.quote value
  | sequence => "sequence"
  | map => "map"

inductive Fault where
  | malformed (cause : Malformed)
  | unknownField (name : String) (known : List String)
  | unknownVariant (name : String) (known : List String)
  | duplicateField (name : String)
  | invalidType (found : Token) (expected : String)

def choices (known : List String) : String :=
  match known.map fun name => "`" ++ name ++ "`" with
  | [one] => one
  | [one, other] => one ++ " or " ++ other
  | several => "one of " ++ ", ".intercalate several

def Fault.message : Fault → String
  | malformed cause => cause.message
  | unknownField name known => "unknown field `" ++ name ++ "`, expected " ++ choices known
  | unknownVariant name known => "unknown variant `" ++ name ++ "`, expected " ++ choices known
  | duplicateField name => "duplicate field `" ++ name ++ "`"
  | invalidType found expected => "invalid type: " ++ found.text ++ ", expected " ++ expected

/-! ## Readers -/

abbrev Reader := StateT (List Char) (Except Fault)

namespace Reader

def malformed {α : Type} (cause : Malformed) : Reader α := throw (.malformed cause)

/-- The next character that is no white space, which is not consumed. -/
def peek? : Reader (Option Char) := fun cs =>
  let rest := cs.dropWhile fun c => c = ' ' || c = '\n' || c = '\t' || c = '\r'
  .ok (rest.head?, rest)

def skip : Reader Unit := fun cs => .ok ((), cs.tail)

/-- Consumes a word, of which the first character was consumed already. -/
def word (letters : List Char) : Reader Unit := fun cs =>
  match letters with
  | [] => .ok ((), cs)
  | letter :: letters =>
    match cs with
    | [] => .error (.malformed .endInValue)
    | c :: cs => if c = letter then word letters cs else .error (.malformed .expectedWord)

/-- Consumes a string, of which the opening quote was consumed already. -/
def string : Reader String := fun cs =>
  match stringBody cs with
  | .ok (chars, rest) => .ok (String.ofList chars, rest)
  | .error cause => .error (.malformed cause)

def number (negative : Bool) : Reader Number := fun cs =>
  match Json.number negative cs with
  | .ok (n, rest) => .ok (n, rest)
  | .error cause => .error (.malformed cause)

/-- Fails because the value that begins with `c` is not of the expected type. -/
def invalidType {α : Type} (c : Char) (expected : String) : Reader α := do
  match c with
  | 'n' =>
    skip
    word ['u', 'l', 'l']
    throw (.invalidType .null expected)
  | 't' =>
    skip
    word ['r', 'u', 'e']
    throw (.invalidType (.boolean true) expected)
  | 'f' =>
    skip
    word ['a', 'l', 's', 'e']
    throw (.invalidType (.boolean false) expected)
  | '-' =>
    skip
    let n ← number true
    throw (.invalidType (.number n) expected)
  | '"' =>
    skip
    let s ← string
    throw (.invalidType (.string s) expected)
  | '[' => throw (.invalidType .sequence expected)
  | '\x7b' => throw (.invalidType .map expected)
  | c =>
    if c.isDigit then
      let n ← number false
      throw (.invalidType (.number n) expected)
    else malformed .expectedValue

/-- The next character that is no white space, where a value must begin. -/
def peekValue : Reader Char := do
  match ← peek? with
  | some c => return c
  | none => malformed .endInValue

/-! ## Values -/

def boolean : Reader Bool := do
  match ← peekValue with
  | 't' =>
    skip
    word ['r', 'u', 'e']
    return true
  | 'f' =>
    skip
    word ['a', 'l', 's', 'e']
    return false
  | c => invalidType c "a boolean"

def null : Reader Unit := do
  match ← peekValue with
  | 'n' =>
    skip
    word ['u', 'l', 'l']
  | c => invalidType c "unit"

def colon : Reader Unit := do
  match ← peek? with
  | some ':' => skip
  | some _ => malformed .expectedColon
  | none => malformed .endInObject

/-- A value of an enumeration: its name, or an object with the name as key and `null` as value. -/
def variant {α : Type} (known : List String) (ofName? : String → Option α) : Reader α := do
  match ← peekValue with
  | '"' => name
  | '\x7b' =>
    skip
    match ← peekValue with
    | '"' =>
      let value ← name
      colon
      null
      match ← peek? with
      | some '\x7d' =>
        skip
        return value
      | some _ => malformed .expectedValue
      | none => malformed .endInObject
    | '\x7d' => malformed .expectedValue
    | _ => malformed .keyIsNoString
  | _ => malformed .expectedValue
where
  /-- The name itself, of which the opening quote is next. -/
  name : Reader α := do
    skip
    let s ← string
    match ofName? s with
    | some value => return value
    | none => throw (.unknownVariant s known)

/-! ## Structures -/

/-- A field: its name and the reader that puts its value into a structure. -/
structure Field (α : Type) where
  name : String
  read : α → Reader α

/-- The next key of an object, or `none` at its end, which is not consumed. -/
def key? (isFirst : Bool) : Reader (Option String) := do
  match ← peek? with
  | none => malformed .endInObject
  | some '\x7d' => return none
  | some c =>
    if isFirst then
      if c = '"' then some <$> (skip *> string) else malformed .keyIsNoString
    else if c = ',' then
      skip
      match ← peek? with
      | some '"' => some <$> (skip *> string)
      | some '\x7d' => malformed .trailingComma
      | some _ => malformed .keyIsNoString
      | none => malformed .endInValue
    else malformed .expectedObjectEnd

def Field.others {α : Type} (fields : List (Field α)) (name : String) : List (Field α) :=
  fields.filter (·.name ≠ name)

theorem length_others_lt {α : Type} {fields : List (Field α)} {name : String}
    {field : Field α} (h : fields.find? (·.name = name) = some field) :
    (Field.others fields name).length < fields.length := by
  refine List.length_filter_lt_length_iff_exists.2 ⟨field, List.mem_of_find?_eq_some h, ?_⟩
  simpa using List.find?_some h

/-- The fields of an object whose opening brace was consumed, up to and with its closing brace.
A field that is given twice, or that is not known, is refused before its value is read. -/
def objectFields {α : Type} (known : List String) (missing : List (Field α)) (isFirst : Bool)
    (value : α) : Reader α := do
  match ← key? isFirst with
  | none =>
    skip
    return value
  | some name =>
    match _found : missing.find? (·.name = name) with
    | some field =>
      colon
      let value ← field.read value
      objectFields known (Field.others missing name) false value
    | none =>
      if name ∈ known then throw (.duplicateField name) else throw (.unknownField name known)
termination_by missing.length
decreasing_by exact length_others_lt ‹_›

def hasElement (isFirst : Bool) : Reader Bool := do
  match ← peek? with
  | none => malformed .endInList
  | some ']' => return false
  | some c =>
    if isFirst then return true
    else if c = ',' then
      skip
      match ← peek? with
      | some ']' => malformed .trailingComma
      | some _ => return true
      | none => malformed .endInValue
    else malformed .expectedListEnd

def arrayEnd : Reader Unit := do
  match ← peek? with
  | some ']' => skip
  | some ',' =>
    skip
    match ← peek? with
    | some ']' => malformed .trailingComma
    | _ => malformed .trailingCharacters
  | some _ => malformed .trailingCharacters
  | none => malformed .endInList

/-- The fields of an array whose opening bracket was consumed, up to and with its closing
bracket.  Fields at the end may be missing. -/
def arrayFields {α : Type} (isFirst : Bool) (value : α) : List (Field α) → Reader α
  | [] => do
    arrayEnd
    return value
  | field :: fields => do
    if ← hasElement isFirst then
      let value ← field.read value
      arrayFields false value fields
    else
      arrayEnd
      return value

/-- A structure, given as an object or as an array.  Fields that are missing keep the value that
they have in `default`. -/
def fields {α : Type} (expected : String) (known : List (Field α)) (default : α) :
    Reader α := do
  match ← peekValue with
  | '\x7b' =>
    skip
    objectFields (known.map Field.name) known true default
  | '[' =>
    skip
    arrayFields true default known
  | c => invalidType c expected

def textEnd : Reader Unit := do
  match ← peek? with
  | none => return
  | some _ => malformed .trailingCharacters

def readAll {α : Type} (reader : Reader α) (text : String) : Except Fault α :=
  ((reader <* textEnd).run text.toList).map (·.1)

end Reader

end NativeApi.Json
