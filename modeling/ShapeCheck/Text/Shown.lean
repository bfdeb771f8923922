import ShapeCheck.Text.Hidden
import ShapeCheck.Text.Quoted

/-!
# Text shown in messages

A message shows a text between double quotes.  The usual controls have short
escapes; a hidden character is spelled by its code point in braces.
-/

namespace ShapeCheck
namespace Shown

/-- The hexadecimal digits of a number, without leading zeros. -/
def hexText (n : Nat) : List Char := Nat.toDigits 16 n

def escape (c : Char) : List Char :=
  if c = '\x00' then ['\\', '0']
  else if c = '\t' then ['\\', 't']
  else if c = '\r' then ['\\', 'r']
  else if c = '\n' then ['\\', 'n']
  else if c = '\\' then ['\\', '\\']
  else if c = '"' then ['\\', '"']
  else if isHidden c then '\\' :: 'u' :: '\x7b' :: hexText c.toNat ++ ['\x7d']
  else [c]

end Shown

def shown (text : String) : String :=
  String.ofList ('"' :: text.toList.flatMap Shown.escape ++ ['"'])

end ShapeCheck
