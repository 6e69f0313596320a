import KeyedImages.Text.Hexadecimal
import KeyedImages.Text.Printable

/-! Quoted text for logs and messages: every character is shown, and none breaks the line. -/
namespace KeyedImages.Text

/-- A character by its code point. -/
def codePoint (c : Char) : List Char :=
  "\\u\x7b".toList ++ hexDigits c.toNat ++ ['\x7d']

/-- A character inside quotes. Characters that are not seen, and those that join the character
before them, are shown by their code points. -/
def quoteChar (c : Char) : List Char :=
  match c with
  | '\x00' => ['\\', '0']
  | '\t' => ['\\', 't']
  | '\r' => ['\\', 'r']
  | '\n' => ['\\', 'n']
  | '"' => ['\\', '"']
  | '\\' => ['\\', '\\']
  | c =>
    if isPrintable c && !isExtender c then [c] else codePoint c

def quoteChars (cs : List Char) : List Char := '"' :: cs.flatMap quoteChar ++ ['"']

/-- A text in quotes. -/
def quote (s : String) : String := String.ofList (quoteChars s.toList)

end KeyedImages.Text
