import NativeApi.Text.Printable
import NativeApi.Text.Combining

/-!
# Quoted text

A text in double quotes, on one line: what would break the line, end the quotes or not show is
escaped.

* `quote`: the quoted form.
* `newline_not_mem_escape`: an escaped character never holds a line break, whatever the tables of
  printable characters say.
-/

namespace NativeApi.Text

/-- The number of a character in hexadecimal, in braces. -/
def codePointEscape (c : Char) : List Char :=
  ['\\', 'u', '\x7b'] ++ Nat.toDigits 16 c.toNat ++ ['\x7d']

def escape (c : Char) : List Char :=
  match c with
  | '\x00' => ['\\', '0']
  | '\t' => ['\\', 't']
  | '\r' => ['\\', 'r']
  | '\n' => ['\\', 'n']
  | '"' => ['\\', '"']
  | '\\' => ['\\', '\\']
  | c => if isPrintable c && !isCombining c then [c] else codePointEscape c

def quote (s : String) : String :=
  String.ofList ('"' :: s.toList.flatMap escape ++ ['"'])

/-! ## Line breaks -/

theorem digitChar_ne_newline (n : Nat) : Nat.digitChar n ≠ '\n' := by
  grind [Nat.digitChar]

theorem newline_not_mem_toDigitsCore (base fuel n : Nat) {tail : List Char} (h : '\n' ∉ tail) :
    '\n' ∉ Nat.toDigitsCore base fuel n tail := by
  induction fuel generalizing n tail with
  | zero => simpa [Nat.toDigitsCore] using h
  | succ fuel ih =>
    have head : '\n' ∉ Nat.digitChar (n % base) :: tail := by
      simp [h, (digitChar_ne_newline _).symm]
    simp only [Nat.toDigitsCore]
    split
    · exact head
    · exact ih _ head

theorem newline_not_mem_toDigits (base n : Nat) : '\n' ∉ Nat.toDigits base n :=
  newline_not_mem_toDigitsCore base _ n (by simp)

theorem newline_not_mem_escape (c : Char) : '\n' ∉ escape c := by
  unfold escape
  split
  all_goals try decide
  split
  · next notNewline _ _ _ => simpa using fun h => notNewline h.symm
  · simp [codePointEscape, newline_not_mem_toDigits]

end NativeApi.Text
