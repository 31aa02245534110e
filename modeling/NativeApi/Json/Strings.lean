import NativeApi.Json.Malformed

/-!
# JSON strings

Reading the inside of a JSON string: escapes, UTF-16 surrogate pairs written as two escapes, and
the characters that must be escaped.
-/

namespace NativeApi.Json

def hexDigit? (c : Char) : Option Nat :=
  if '0' ≤ c ∧ c ≤ '9' then some (c.toNat - '0'.toNat)
  else if 'a' ≤ c ∧ c ≤ 'f' then some (c.toNat - 'a'.toNat + 10)
  else if 'A' ≤ c ∧ c ≤ 'F' then some (c.toNat - 'A'.toNat + 10)
  else none

def hex4? (a b c d : Char) : Option Nat :=
  match hexDigit? a, hexDigit? b, hexDigit? c, hexDigit? d with
  | some a, some b, some c, some d => some (((a * 16 + b) * 16 + c) * 16 + d)
  | _, _, _, _ => none

def shortEscape? : Char → Option Char
  | '"' => some '"'
  | '\\' => some '\\'
  | '/' => some '/'
  | 'b' => some '\x08'
  | 'f' => some '\x0c'
  | 'n' => some '\n'
  | 'r' => some '\r'
  | 't' => some '\t'
  | _ => none

/-- Fewer than four octets cannot hold the digits of an escape; what is long enough holds
something else. -/
def shortHex (rest : List Char) : Malformed :=
  if (String.ofList rest).utf8ByteSize < 4 then .endInString else .invalidEscape

def withChar (c : Char) (result : Except Malformed (List Char × List Char)) :
    Except Malformed (List Char × List Char) :=
  result.map fun (chars, rest) => (c :: chars, rest)

/-- The characters of a string whose opening quote was read, and what follows its end. -/
def stringBody : List Char → Except Malformed (List Char × List Char)
  | [] => .error .endInString
  | '"' :: rest => .ok ([], rest)
  | '\\' :: [] => .error .endInString
  | '\\' :: 'u' :: a :: b :: c :: d :: rest =>
    match hex4? a b c d with
    | none => .error .invalidEscape
    | some high =>
      if 0xdc00 ≤ high ∧ high ≤ 0xdfff then .error .loneSurrogate
      else if high < 0xd800 ∨ 0xdbff < high then withChar (Char.ofNat high) (stringBody rest)
      else
        match rest with
        | '\\' :: 'u' :: a :: b :: c :: d :: rest =>
          match hex4? a b c d with
          | none => .error .invalidEscape
          | some low =>
            if 0xdc00 ≤ low ∧ low ≤ 0xdfff then
              let joined := (high - 0xd800) * 0x400 + (low - 0xdc00) + 0x10000
              withChar (Char.ofNat joined) (stringBody rest)
            else .error .loneSurrogate
        | '\\' :: 'u' :: short => .error (shortHex short)
        | [] | ['\\'] => .error .endInString
        | _ => .error .unfinishedSurrogates
  | '\\' :: 'u' :: short => .error (shortHex short)
  | '\\' :: c :: rest =>
    match shortEscape? c with
    | some escaped => withChar escaped (stringBody rest)
    | none => .error .invalidEscape
  | c :: rest => if c < ' ' then .error .controlCharacter else withChar c (stringBody rest)

/-- The quotes around a string are not part of it. -/
theorem stringBody_quote (rest : List Char) : stringBody ('"' :: rest) = .ok ([], rest) := by
  simp [stringBody]

end NativeApi.Json
