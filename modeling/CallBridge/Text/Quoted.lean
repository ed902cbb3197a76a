import CallBridge.Text.CharClass

/-!
# Quoted text

`quote` writes a text between double quotes so that it reads as one unambiguous token: quotes,
backslashes and the usual controls get a two-character escape, every other character without a
visible form is written by its number in hexadecimal, and all else stands for itself.
-/

namespace CallBridge.Text

def hexDigits (n : Nat) : List Char := Nat.toDigits 16 n

def escape (c : Char) : List Char :=
  if c = '"' then ['\\', '"']
  else if c = '\\' then ['\\', '\\']
  else if c = '\n' then ['\\', 'n']
  else if c = '\r' then ['\\', 'r']
  else if c = '\t' then ['\\', 't']
  else if c = '\x00' then ['\\', '0']
  else if isVisible c then [c]
  else ['\\', 'u', '\x7b'] ++ hexDigits c.toNat ++ ['\x7d']

def quote (s : String) : String :=
  String.ofList ('"' :: s.toList.flatMap escape ++ ['"'])

end CallBridge.Text
