import TouchScript.Json.Token

namespace TouchScript.Json

/-- An array or object part way through, its elements in reverse. A `field` is an object that waits
for the value of the key it has just read. -/
inductive Opened where
  | array (items : List Json)
  | object (fields : List (Option String × Json))
  | field (fields : List (Option String × Json)) (key : Option String)

/-- What may come next. An opening bracket allows its closing one to follow at once, a comma does
not. -/
inductive Expected where
  | value (mayClose : Bool)
  | key (mayClose : Bool)
  | colon (key : Option String)
  | separator
  | nothing (result : Json)

/-- What has been read: the open containers, innermost first, and what may follow. With this stack
nesting of any depth is read in one pass over the tokens. -/
structure ReadState where
  expected : Expected
  stack : List Opened

namespace ReadState

def start : ReadState := ⟨.value false, []⟩

/-- Puts a finished value where it belongs. -/
def complete (value : Json) : List Opened → Option ReadState
  | [] => some ⟨.nothing value, []⟩
  | .array items :: stack => some ⟨.separator, .array (value :: items) :: stack⟩
  | .field fields key :: stack => some ⟨.separator, .object ((key, value) :: fields) :: stack⟩
  | .object _ :: _ => none

def endArray : List Opened → Option ReadState
  | .array items :: stack => complete (.array items.reverse) stack
  | _ => none

def endObject : List Opened → Option ReadState
  | .object fields :: stack => complete (.object fields.reverse) stack
  | _ => none

/-- Reads the first token of a value. -/
def startValue (token : Token) (stack : List Opened) : Option ReadState :=
  match token with
  | .openArray => some ⟨.value true, .array [] :: stack⟩
  | .openObject => some ⟨.key true, .object [] :: stack⟩
  | .text (some s) => complete (.string s) stack
  | .text none => complete .garbled stack
  | .scalar value => complete value stack
  | _ => none

def feed (state : ReadState) (token : Token) : Option ReadState :=
  match state.expected, token with
  | .value true, .closeArray => endArray state.stack
  | .value _, token => startValue token state.stack
  | .key true, .closeObject => endObject state.stack
  | .key _, .text key => some ⟨.colon key, state.stack⟩
  | .colon key, .colon =>
    match state.stack with
    | .object fields :: stack => some ⟨.value false, .field fields key :: stack⟩
    | _ => none
  | .separator, .comma =>
    match state.stack with
    | .array _ :: _ => some ⟨.value false, state.stack⟩
    | .object _ :: _ => some ⟨.key false, state.stack⟩
    | _ => none
  | .separator, .closeArray => endArray state.stack
  | .separator, .closeObject => endObject state.stack
  | _, _ => none

def finish (state : ReadState) : Option Json :=
  match state.expected with
  | .nothing result => some result
  | _ => none

end ReadState

/-- Reads a JSON text: exactly one value with white space around it. -/
def read? (s : String) : Option Json :=
  (tokens? s.toList).bind fun tokens =>
    (tokens.foldlM ReadState.feed ReadState.start).bind ReadState.finish

end TouchScript.Json
