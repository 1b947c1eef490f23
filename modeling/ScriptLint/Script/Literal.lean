import ScriptLint.Script.Node
import ScriptLint.Text.Scalar

namespace ScriptLint.Script

open ScriptLint.Text

/-! The values of string literals. -/

/-- The number that hexadecimal digits spell, a plus sign before them allowed, if it fits
32 bits. -/
def hexNumber? (cs : List Char) : Option Nat :=
  let digits := match cs with
    | '+' :: rest => rest
    | cs => cs
  if digits.isEmpty then none else (hexDigits? digits).filter (· < 1 <<< 32)

def scalarDigits? : List Char → Option (List Char)
  | '\\' :: 'u' :: '\x7b' :: rest =>
      if rest.getLast? = some '\x7d' then some rest.dropLast else some ('\x7b' :: rest)
  | '\\' :: 'u' :: rest => some rest
  | '\\' :: 'x' :: rest => some rest
  | _ => none

/-- What an escape sequence stands for. One that has no value of its own stands for its
text without the backslash. -/
def decodeEscape (escape : List Char) : List Char :=
  match escape with
  | ['\\', 'n'] => ['\n']
  | ['\\', 't'] => ['\t']
  | ['\\', 'r'] => ['\r']
  | ['\\', '0'] => ['\x00']
  | ['\\', '\\'] => ['\\']
  | ['\\', '\''] => ['\'']
  | ['\\', '"'] => ['"']
  | _ =>
      match ((scalarDigits? escape).bind hexNumber?).bind charOf? with
      | some c => [c]
      | none => match escape with
        | '\\' :: rest => rest
        | cs => cs

def stringValue (source : List Char) (n : Node) : List Char :=
  n.namedChildren.flatMap fun part =>
    match part.kind with
    | .stringFragment => part.text source
    | .escapeSequence => decodeEscape (part.text source)
    | _ => []

end ScriptLint.Script
