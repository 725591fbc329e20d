import OfflineManifest.Unicode.Property

/-! # Quoted text

Text in messages stands between double quotes. Quotes, backslashes and the common control
characters get a backslash; other characters that do not show, and those that attach to the
character before them, are given by their code.
-/

namespace OfflineManifest.Text

/-- A number in hexadecimal digits. -/
def hexadecimal (n : Nat) : List Char := Nat.toDigits 16 n

/-- Whether a character attaches to the one before it. The halfwidth sound marks of Katakana stand
for themselves. -/
def attaches (c : Char) : Bool := Unicode.extendsGrapheme c && c != '\uFF9E' && c != '\uFF9F'

/-- How a character is written between quotes. -/
def quotedChar (c : Char) : List Char :=
  match c with
  | '\x00' => ['\\', '0']
  | '\t' => ['\\', 't']
  | '\r' => ['\\', 'r']
  | '\n' => ['\\', 'n']
  | '"' => ['\\', '"']
  | '\\' => ['\\', '\\']
  | c =>
    if attaches c || !Unicode.isPrintable c then
      ['\\', 'u', '\x7b'] ++ hexadecimal c.toNat ++ ['\x7d']
    else [c]

/-- **A text between quotes.** -/
def quoted (s : String) : String :=
  String.ofList ('"' :: s.toList.flatMap quotedChar ++ ['"'])

end OfflineManifest.Text
