import TouchScript.Json
import TouchScript.Json.Escape

namespace TouchScript.Json

/-- One token. A scalar token carries its value, and a string token that stands for no text is a
`garbled` scalar. -/
inductive Token where
  | openArray
  | closeArray
  | openObject
  | closeObject
  | comma
  | colon
  | text (s : Option String)
  | scalar (value : Json)

def isGap (c : Char) : Bool :=
  c == ' ' || c == '\t' || c == '\n' || c == '\r'

def punctuation? (c : Char) : Option Token :=
  if c = '[' then some .openArray
  else if c = ']' then some .closeArray
  else if c = '\x7b' then some .openObject
  else if c = '\x7d' then some .closeObject
  else if c = ',' then some .comma
  else if c = ':' then some .colon
  else none

/-- The token of a word: a literal or a number. -/
def wordToken? (word : List Char) : Option Token :=
  if word = ['n', 'u', 'l', 'l'] then some (.scalar .null)
  else if word = ['t', 'r', 'u', 'e'] then some (.scalar (.bool true))
  else if word = ['f', 'a', 'l', 's', 'e'] then some (.scalar (.bool false))
  else (NumberText.read? word).map fun n => .scalar (.number n)

/-- The token of the text between two quotes. -/
def textToken? (written : List Char) : Option Token :=
  (Escape.units? written).map fun units => .text ((Escape.assemble? units).map String.ofList)

/-- What the characters just read belong to. Unfinished words and strings are kept in reverse. -/
inductive LexMode where
  | gap
  | word (read : List Char)
  | quoted (read : List Char) (escaped : Bool)

/-- The tokens found so far, in reverse, and what is being read. -/
structure LexState where
  mode : LexMode
  tokens : List Token

namespace LexState

/-- Reads the first character after a finished token. -/
def start (tokens : List Token) (c : Char) : LexState :=
  if isGap c then ⟨.gap, tokens⟩
  else if c = '"' then ⟨.quoted [] false, tokens⟩
  else
    match punctuation? c with
    | some token => ⟨.gap, token :: tokens⟩
    | none => ⟨.word [c], tokens⟩

def endsWord (c : Char) : Bool :=
  isGap c || c == '"' || (punctuation? c).isSome

/-- Reads one character. A string ends at the first quote that no backslash precedes; every other
run of characters that is neither white space nor punctuation is a word. -/
def feed (state : LexState) (c : Char) : Option LexState :=
  match state.mode with
  | .gap => some (start state.tokens c)
  | .word read =>
    if endsWord c then (wordToken? read.reverse).map fun token => start (token :: state.tokens) c
    else some ⟨.word (c :: read), state.tokens⟩
  | .quoted read true => some ⟨.quoted (c :: read) false, state.tokens⟩
  | .quoted read false =>
    if c = '"' then (textToken? read.reverse).map fun token => ⟨.gap, token :: state.tokens⟩
    else some ⟨.quoted (c :: read) (c == '\\'), state.tokens⟩

/-- The tokens of a text that ends here; none inside a string. -/
def finish (state : LexState) : Option (List Token) :=
  match state.mode with
  | .gap => some state.tokens.reverse
  | .word read => (wordToken? read.reverse).map fun token => (token :: state.tokens).reverse
  | .quoted _ _ => none

end LexState

def tokens? (s : List Char) : Option (List Token) :=
  (s.foldlM LexState.feed ⟨.gap, []⟩).bind LexState.finish

end TouchScript.Json
