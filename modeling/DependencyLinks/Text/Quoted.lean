import DependencyLinks.Text.Extender
import DependencyLinks.Text.Unprintable

/-! Texts in double quotes, written so that every character of them can be seen. -/

namespace DependencyLinks.Text.Quoted

/-- A code point in braces, in lower-case hexadecimal without padding. -/
def codePoint (c : Char) : List Char :=
  ['\\', 'u', '\x7b'] ++ Nat.toDigits 16 c.toNat ++ ['\x7d']

/-- A quote, a backslash and the common controls have a short form. All else that shows nothing on
its own, or joins the character before it, is named by its code point. -/
def escape (c : Char) : List Char :=
  if c = '"' then ['\\', '"']
  else if c = '\\' then ['\\', '\\']
  else if c = '\t' then ['\\', 't']
  else if c = '\n' then ['\\', 'n']
  else if c = '\r' then ['\\', 'r']
  else if c = '\x00' then ['\\', '0']
  else if extender c || unprintable c then codePoint c
  else [c]

def encode (cs : List Char) : List Char :=
  '"' :: cs.flatMap escape ++ ['"']

end Quoted

def quoted (s : String) : String :=
  String.ofList (Quoted.encode s.toList)

end DependencyLinks.Text
