/-!
# Quoted text

Text is written between double quotes.  The quote, the backslash and the
characters below the blank are escaped, with a short form where there is one;
every other character stands for itself.
-/

namespace ShapeCheck
namespace Quoted

def hexDigit (n : Nat) : Char :=
  if n < 10 then Char.ofNat ('0'.toNat + n) else Char.ofNat ('a'.toNat + (n - 10))

def shortEscape? (c : Char) : Option Char :=
  if c = '"' then some '"'
  else if c = '\\' then some '\\'
  else if c = '\x08' then some 'b'
  else if c = '\x0c' then some 'f'
  else if c = '\n' then some 'n'
  else if c = '\r' then some 'r'
  else if c = '\t' then some 't'
  else none

def escape (c : Char) : List Char :=
  match shortEscape? c with
  | some letter => ['\\', letter]
  | none =>
      if c.toNat < 32 then
        ['\\', 'u', '0', '0', hexDigit (c.toNat / 16), hexDigit (c.toNat % 16)]
      else [c]

def body (cs : List Char) : List Char := cs.flatMap escape

@[simp] theorem body_nil : body [] = [] := rfl

@[simp] theorem body_cons (c : Char) (cs : List Char) :
    body (c :: cs) = escape c ++ body cs := rfl

end Quoted

def quote (text : String) : String :=
  String.ofList ('"' :: Quoted.body text.toList ++ ['"'])

end ShapeCheck
