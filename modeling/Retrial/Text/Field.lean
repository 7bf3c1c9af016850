import Retrial.Text.CharClass

/-!
# Columns, quotes and fields

How a text is set among others. In a column it is padded with blanks to a width, which counts
characters; a longer text is left whole. Inside a message it stands in double quotes: quotes,
backslashes and line breaks are escaped by a letter, and characters that cannot be seen by their
code. A comma-separated field that holds a comma, a double quote or a line break stands in double
quotes, and double quotes inside it are doubled; which characters count as line breaks is up to the
kind of file.
-/

namespace Retrial.Text

/-- The text, followed by blanks up to the width. -/
def padEnd (width : Nat) (s : String) : String :=
  s ++ String.ofList (List.replicate (width - s.length) ' ')

/-- The text, preceded by blanks up to the width. -/
def padStart (width : Nat) (s : String) : String :=
  String.ofList (List.replicate (width - s.length) ' ') ++ s

/-- A number, preceded by blanks up to the width. -/
def padNat (width n : Nat) : String := padStart width (toString n)

/-- A character's code in braces, in hexadecimal. -/
def codeText (c : Char) : List Char :=
  '\\' :: 'u' :: Char.ofNat 123 :: Nat.toDigits 16 c.toNat ++ [Char.ofNat 125]

/-- How a character is written inside the quotes. -/
def messageEscape (c : Char) : List Char :=
  if c == '"' then ['\\', '"']
  else if c == '\\' then ['\\', '\\']
  else if c == '\n' then ['\\', 'n']
  else if c == '\r' then ['\\', 'r']
  else if c == '\t' then ['\\', 't']
  else if c.toNat == 0 then ['\\', '0']
  else if inRanges hiddenRanges c.toNat then codeText c
  else [c]

/-- A text in quotes, for a message. -/
def messageQuoted (s : String) : String :=
  String.ofList ('"' :: s.toList.flatMap messageEscape ++ ['"'])

end Retrial.Text

namespace Retrial.Csv

/-- Doubles the double quotes of a text. -/
def doubled : List Char → List Char
  | [] => []
  | c :: cs => if c == '"' then '"' :: '"' :: doubled cs else c :: doubled cs

/-- A field, quoted if it holds one of the characters that need it. -/
def fieldWith (special : List Char) (s : List Char) : List Char :=
  if s.any fun c => special.contains c then '"' :: doubled s ++ ['"'] else s

/-- A field of a listing. -/
def field (s : String) : String := String.ofList (fieldWith [',', '"', '\n'] s.toList)

/-- A field of an exported file; carriage returns count as line breaks too. -/
def exportField (s : String) : String := String.ofList (fieldWith [',', '"', '\n', '\r'] s.toList)

/-- Texts with commas between them. -/
def joined (fields : List String) : String := String.intercalate "," fields

/-- A line of an exported file. -/
def exportLine (fields : List String) : String := joined (fields.map exportField) ++ "\n"

end Retrial.Csv
