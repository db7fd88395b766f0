import TouchScript.Json
import TouchScript.Json.Escape

namespace TouchScript.Json

/-- A text in quotes. A text that reads as no characters is written as half a surrogate pair. -/
def quoted : Option String → List Char
  | some s => '"' :: Escape.escape s.toList ++ ['"']
  | none => ['"', '\\', 'u', 'd', '8', '0', '0', '"']

mutual

/-- The text of a value without white space. -/
def compactChars : Json → List Char
  | .null => ['n', 'u', 'l', 'l']
  | .bool true => ['t', 'r', 'u', 'e']
  | .bool false => ['f', 'a', 'l', 's', 'e']
  | .number n => n.write
  | .string s => quoted (some s)
  | .garbled => quoted none
  | .array items => '[' :: compactItems items ++ [']']
  | .object fields => '\x7b' :: compactFields fields ++ ['\x7d']

def compactItems : List Json → List Char
  | [] => []
  | [value] => compactChars value
  | value :: next :: rest => compactChars value ++ ',' :: compactItems (next :: rest)

def compactFields : List (Option String × Json) → List Char
  | [] => []
  | [(key, value)] => quoted key ++ ':' :: compactChars value
  | (key, value) :: next :: rest =>
    quoted key ++ ':' :: compactChars value ++ ',' :: compactFields (next :: rest)

end

def compact (value : Json) : String :=
  String.ofList (compactChars value)

/-- A line break followed by the indentation of `depth` levels. -/
def newLine (depth : Nat) : List Char :=
  '\n' :: List.replicate (2 * depth) ' '

mutual

/-- The text of a value at a depth, one element or field a line. -/
def indentedChars (depth : Nat) : Json → List Char
  | .array [] => ['[', ']']
  | .array (value :: rest) =>
    '[' :: indentedItems (depth + 1) (value :: rest) ++ newLine depth ++ [']']
  | .object [] => ['\x7b', '\x7d']
  | .object (field :: rest) =>
    '\x7b' :: indentedFields (depth + 1) (field :: rest) ++ newLine depth ++ ['\x7d']
  | .null => ['n', 'u', 'l', 'l']
  | .bool true => ['t', 'r', 'u', 'e']
  | .bool false => ['f', 'a', 'l', 's', 'e']
  | .number n => n.write
  | .string s => quoted (some s)
  | .garbled => quoted none

def indentedItems (depth : Nat) : List Json → List Char
  | [] => []
  | [value] => newLine depth ++ indentedChars depth value
  | value :: next :: rest =>
    newLine depth ++ indentedChars depth value ++ ',' :: indentedItems depth (next :: rest)

def indentedFields (depth : Nat) : List (Option String × Json) → List Char
  | [] => []
  | [(key, value)] => newLine depth ++ quoted key ++ ':' :: ' ' :: indentedChars depth value
  | (key, value) :: next :: rest =>
    newLine depth ++ quoted key ++ ':' :: ' ' :: indentedChars depth value ++
      ',' :: indentedFields depth (next :: rest)

end

/-- The text of a value over several lines, without a final line break. -/
def indented (value : Json) : String :=
  String.ofList (indentedChars 0 value)

end TouchScript.Json
