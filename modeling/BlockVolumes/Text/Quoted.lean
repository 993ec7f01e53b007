import BlockVolumes.Text.Hidden

/-!
Quoted text for messages: double quotes around it, hidden characters as escapes.
-/

namespace BlockVolumes.Text

def hex (n : Nat) : List Char :=
  (Nat.toDigits 16 n)

def escapeVisible (c : Char) : List Char :=
  if c = '\x00' then ['\\', '0']
  else if c = '\t' then ['\\', 't']
  else if c = '\r' then ['\\', 'r']
  else if c = '\n' then ['\\', 'n']
  else if c = '"' then ['\\', '"']
  else if c = '\\' then ['\\', '\\']
  else if Hidden.isHidden c then ['\\', 'u', '\x7b'] ++ hex c.toNat ++ ['\x7d']
  else [c]

def quoted (s : String) : String :=
  String.ofList ('"' :: (s.toList.flatMap escapeVisible ++ ['"']))

end BlockVolumes.Text
