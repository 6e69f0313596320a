import KeyedImages.Json.Token

/-! Documents that are written as JSON: whole numbers, texts, and members in a fixed order. -/
namespace KeyedImages.Json

/-- A document to be written. -/
inductive Document
  | null
  | bool (b : Bool)
  | number (n : Int)
  | string (s : String)
  | array (items : List Document)
  | object (members : List (String × Document))

namespace Document

/-- A character inside a string. Quotes, backslashes and controls are escaped, and nothing else. -/
def escapeChar (c : Char) : List Char :=
  match c with
  | '"' => ['\\', '"']
  | '\\' => ['\\', '\\']
  | '\x08' => ['\\', 'b']
  | '\x0c' => ['\\', 'f']
  | '\n' => ['\\', 'n']
  | '\r' => ['\\', 'r']
  | '\t' => ['\\', 't']
  | c =>
    if c.toNat < 0x20 then
      ['\\', 'u', '0', '0', Text.hexDigit (c.toNat / 16), Text.hexDigit (c.toNat % 16)]
    else [c]

def stringChars (s : String) : List Char := '"' :: s.toList.flatMap escapeChar ++ ['"']

mutual

/-- The document on one line, without blanks. -/
def compact : Document → List Char
  | null => "null".toList
  | bool true => "true".toList
  | bool false => "false".toList
  | number n => Text.Numeral.signed n
  | string s => stringChars s
  | array items => '[' :: compactItems items ++ [']']
  | object members => '\x7b' :: compactMembers members ++ ['\x7d']

def compactItems : List Document → List Char
  | [] => []
  | [d] => d.compact
  | d :: ds => d.compact ++ ',' :: compactItems ds

def compactMembers : List (String × Document) → List Char
  | [] => []
  | [(k, d)] => stringChars k ++ ':' :: d.compact
  | (k, d) :: ms => stringChars k ++ ':' :: d.compact ++ ',' :: compactMembers ms

end

/-- The end of a line and the two blanks a level that start the next. -/
def newLine (level : Nat) : List Char := '\n' :: List.replicate (2 * level) ' '

mutual

/-- The document with every item and member on a line of its own. -/
def pretty (level : Nat) : Document → List Char
  | null => "null".toList
  | bool true => "true".toList
  | bool false => "false".toList
  | number n => Text.Numeral.signed n
  | string s => stringChars s
  | array [] => ['[', ']']
  | array (d :: ds) => '[' :: prettyItems level (d :: ds)
  | object [] => ['\x7b', '\x7d']
  | object (m :: ms) => '\x7b' :: prettyMembers level (m :: ms)

def prettyItems (level : Nat) : List Document → List Char
  | [] => []
  | [d] => newLine (level + 1) ++ d.pretty (level + 1) ++ newLine level ++ [']']
  | d :: ds => newLine (level + 1) ++ d.pretty (level + 1) ++ ',' :: prettyItems level ds

def prettyMembers (level : Nat) : List (String × Document) → List Char
  | [] => []
  | [(k, d)] =>
    newLine (level + 1) ++ stringChars k ++ ':' :: ' ' :: d.pretty (level + 1) ++
      newLine level ++ ['\x7d']
  | (k, d) :: ms =>
    newLine (level + 1) ++ stringChars k ++ ':' :: ' ' :: d.pretty (level + 1) ++
      ',' :: prettyMembers level ms

end

def text (d : Document) : String := String.ofList d.compact

def prettyText (d : Document) : String := String.ofList (d.pretty 0)

end Document

end KeyedImages.Json
