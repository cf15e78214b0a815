import JavaNaming.Unicode.Property

/-!
# Quoted text

`quoted` writes a text between double quotes. Quotes, backslashes and what does not show are escaped.
-/

namespace JavaNaming.Text

/-- The characters that do not show by themselves: those that are no letters, marks, numbers,
punctuation or symbols, and those that join the character in front of them. The space does show. -/
def hidden : Unicode.CharSet :=
  (((Unicode.known "Other").union (Unicode.known "Separator")).union
    (Unicode.known "Grapheme_Extend")).diff (.single ' ')

/-- A character between double quotes. -/
def quotedChar (c : Char) : List Char :=
  match c with
  | '\x00' => ['\\', '0']
  | '\t' => ['\\', 't']
  | '\n' => ['\\', 'n']
  | '\r' => ['\\', 'r']
  | '"' => ['\\', '"']
  | '\\' => ['\\', '\\']
  | c =>
    if hidden.contains c then ['\\', 'u', '\x7b'] ++ Nat.toDigits 16 c.toNat ++ ['\x7d'] else [c]

/-- A text between double quotes. -/
def quoted (text : List Char) : String :=
  String.ofList ('"' :: text.flatMap quotedChar ++ ['"'])

end JavaNaming.Text
