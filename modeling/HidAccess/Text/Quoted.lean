import HidAccess.Text.Numeral
import HidAccess.Text.Unprintable

/-!
# Quoted texts

The form in which a text is shown inside diagnostic output: between double quotes, with escapes for
the quote, the backslash, four controls by letter, and every unprintable character by its code point.
-/

namespace HidAccess.Text

def codePointEscape (c : Char) : List Char :=
  '\\' :: 'u' :: '{' :: (Nat.toDigits 16 c.toNat ++ ['}'])

def quoteChar (c : Char) : List Char :=
  if c = '\x00' then ['\\', '0']
  else if c = '\t' then ['\\', 't']
  else if c = '\n' then ['\\', 'n']
  else if c = '\r' then ['\\', 'r']
  else if c = '"' then ['\\', '"']
  else if c = '\\' then ['\\', '\\']
  else if isUnprintable c then codePointEscape c
  else [c]

def quoted (s : String) : String :=
  String.ofList ('"' :: (s.toList.flatMap quoteChar ++ ['"']))

end HidAccess.Text
