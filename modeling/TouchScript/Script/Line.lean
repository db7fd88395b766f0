import TouchScript.Text.Blank
import TouchScript.Text.Lowercase

namespace TouchScript

/-- A line that is neither blank nor a comment, with its number and its trimmed text. The lines that
are left out count for the numbering. -/
structure Line where
  number : Nat
  text : String
deriving DecidableEq

/-- The four kinds of block. -/
inductive BlockKind where
  | branch
  | loop
  | counted
  | function
deriving DecidableEq

namespace BlockKind

def all : List BlockKind := [branch, loop, counted, function]

def opener : BlockKind → String
  | .branch => "if"
  | .loop => "while"
  | .counted => "repeat"
  | .function => "fun"

/-- The keyword that closes this kind of block only. -/
def terminator : BlockKind → String
  | .branch => "endif"
  | .loop => "endwhile"
  | .counted => "endrepeat"
  | .function => "endfun"

end BlockKind

/-- What a line does for the nesting of blocks. A terminator without a kind closes any block. -/
inductive Role where
  | opens (kind : BlockKind)
  | divides
  | closes (kind : Option BlockKind)
  | leaf
deriving DecidableEq

/-- The role of a keyword in lower case. -/
def Role.ofKeyword (keyword : String) : Role :=
  if keyword = "else" then .divides
  else if keyword = "end" then .closes none
  else
    match BlockKind.all.find? fun kind => kind.opener == keyword with
    | some kind => .opens kind
    | none =>
      match BlockKind.all.find? fun kind => kind.terminator == keyword with
      | some kind => .closes (some kind)
      | none => .leaf

namespace Line

/-- The first word of a line in lower case. -/
def keyword (line : Line) : String :=
  String.ofList (Chars.lower (line.text.toList.takeWhile fun c => !Chars.isBlank c))

def rest (line : Line) : String :=
  String.ofList (Chars.trim (line.text.toList.dropWhile fun c => !Chars.isBlank c))

def arguments (line : Line) : List String :=
  Text.words line.rest

def role (line : Line) : Role :=
  Role.ofKeyword line.keyword

/-- The line with the given number and raw text, unless it is blank or a comment. -/
def ofRaw? (number : Nat) (raw : List Char) : Option Line :=
  match Chars.trim raw with
  | [] => none
  | '#' :: _ => none
  | text => some ⟨number, String.ofList text⟩

/-- The lines of a source that are neither blank nor comments, numbered from one. -/
def ofSource (source : String) : List Line :=
  ((Chars.lines source.toList).zipIdx 1).filterMap fun (raw, number) => ofRaw? number raw

end Line

end TouchScript
