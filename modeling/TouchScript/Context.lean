import TouchScript.Labels
import TouchScript.Value

namespace TouchScript

/-- What a run remembers between commands: the values of variables, the numbers of loop counters,
the bodies of functions, and the labels in reach. One context serves a whole run; blocks and
function calls share it. -/
structure Context where
  values : Bindings Value
  counters : Bindings Number
  functions : Bindings (List Command)
  labels : LabelScopes

namespace Context

def empty : Context := ⟨[], [], [], LabelScopes.empty⟩

def setVariable (ctx : Context) (name : String) (value : Value) : Context :=
  { ctx with values := ctx.values.set name value }

def setCounter (ctx : Context) (name : String) (n : Number) : Context :=
  { ctx with counters := ctx.counters.set name n }

/-- Defines a function, over any earlier one of the same name. -/
def define (ctx : Context) (name : String) (body : List Command) : Context :=
  { ctx with functions := ctx.functions.set name body }

/-- The value of a token: `$name` is a variable and `@name` a counter, both zero when absent, and
anything else stands for itself. -/
def resolve (ctx : Context) (token : String) : Value :=
  match Chars.trim token.toList with
  | '$' :: name => (ctx.values.get? (String.ofList name)).getD (.number Number.zero)
  | '@' :: name => .number ((ctx.counters.get? (String.ofList name)).getD Number.zero)
  | literal => Value.ofLiteral (String.ofList literal)

/-- Whether a word is a reference: a sigil followed by at least one character. -/
def isReference (word : String) : Bool :=
  match word.toList with
  | sigil :: _ :: _ => sigil == '$' || sigil == '@'
  | _ => false

/-- The text with every reference between single spaces replaced by its value. What is put in is not
looked at again. -/
def interpolate (ctx : Context) (text : String) : String :=
  Text.join " " ((Text.unspaced text).map fun word =>
    if isReference word then (ctx.resolve word).toText else word)

end Context

end TouchScript
