import TouchScript.Script.Leaf
import TouchScript.Script.Line

namespace TouchScript

/-- What reading a source gives: its usable commands, and the faults in the order of discovery. -/
structure Script where
  commands : List Command
  errors : List ParseError

def Script.isClean (script : Script) : Bool :=
  script.errors.isEmpty

/-- A block whose end has not been read: its opening line, the commands of its first part, and those
of its second part once a dividing line has been read. -/
structure OpenBlock where
  kind : BlockKind
  opener : Line
  body : List Command
  otherwise : Option (List Command)

namespace OpenBlock

/-- Adds a command to the part that is being read. -/
def add (block : OpenBlock) (command : Command) : OpenBlock :=
  match block.otherwise with
  | none => { block with body := block.body ++ [command] }
  | some part => { block with otherwise := some (part ++ [command]) }

/-- Whether a dividing line may come: only in a branch, and once. -/
def mayDivide (block : OpenBlock) : Bool :=
  block.kind == .branch && block.otherwise.isNone

/-- The header of a counted block: how often it runs, and the counter without its `@`. -/
def readCount (args : List String) : Except Fault (PassCount × Option String) :=
  let counterName (word : String) : String :=
    String.ofList (word.toList.dropWhile (· == '@'))
  let count (word : String) : Except Fault PassCount :=
    match Text.unsigned? word with
    | some n => .ok n
    | none => .error (.invalidInteger "repeat count" word)
  match args with
  | [n] => do return (← count n, none)
  | [n, counter] => do return (← count n, some (counterName counter))
  | _ => .error (.arity "repeat" "a count and an optional counter name" args.length)

/-- The command of a block, or the fault of its header. -/
def command (block : OpenBlock) : Except Fault Command :=
  let line := block.opener.number
  match block.kind with
  | .branch =>
    if block.opener.rest = "" then .error (.missingArgument "if")
    else .ok (.branch line block.opener.rest block.body (block.otherwise.getD []))
  | .loop =>
    if block.opener.rest = "" then .error (.missingArgument "while")
    else .ok (.loop line block.opener.rest block.body)
  | .counted => do
    let (count, counter) ← readCount block.opener.arguments
    return .counted line count counter block.body
  | .function =>
    match block.opener.arguments with
    | [name] => .ok (.function line name block.body)
    | args => .error (.arity "fun" "1 argument (name)" args.length)

end OpenBlock

/-- How far a script has been read: the commands outside all blocks, the open blocks with the
innermost first, and the faults so far. Reading never fails: a line that cannot be used is reported
and skipped, and a block whose header is faulty is read to its end and then dropped with everything
in it. -/
structure ParseState where
  commands : List Command
  blocks : List OpenBlock
  errors : List ParseError

namespace ParseState

def start : ParseState := ⟨[], [], []⟩

def report (state : ParseState) (line : Line) (fault : Fault) : ParseState :=
  { state with errors := state.errors ++ [⟨line.number, line.text, fault⟩] }

/-- Adds a command to the innermost open block, or to the script itself. -/
def add (state : ParseState) (command : Command) : ParseState :=
  match state.blocks with
  | [] => { state with commands := state.commands ++ [command] }
  | block :: outer => { state with blocks := block.add command :: outer }

/-- Adds a finished block where it stands, or reports its header. -/
def close (state : ParseState) (block : OpenBlock) : ParseState :=
  match block.command with
  | .ok command => state.add command
  | .error fault => state.report block.opener fault

/-- Whether a terminator may close a block: the common one always, its own one always, and any other
one unless terminators are strict. -/
def mayClose (strict : Bool) (terminator : Option BlockKind) (kind : BlockKind) : Bool :=
  !strict || terminator.isNone || terminator == some kind

/-- Closes the innermost block, which a wrong terminator does as well as the right one. -/
def terminate (strict : Bool) (state : ParseState) (line : Line)
    (terminator : Option BlockKind) : ParseState :=
  match state.blocks with
  | [] => state.report line (.unexpectedTerminator line.keyword)
  | block :: outer =>
    let state := { state with blocks := outer }
    let state :=
      if mayClose strict terminator block.kind then state
      else
        state.report line
          (.mismatchedTerminator line.keyword block.kind.opener block.opener.number)
    state.close block

/-- Begins the second part of the innermost block. -/
def divide (state : ParseState) (line : Line) : ParseState :=
  match state.blocks with
  | block :: outer =>
    if block.mayDivide then { state with blocks := { block with otherwise := some [] } :: outer }
    else state.report line .unexpectedElse
  | [] => state.report line .unexpectedElse

/-- Reads one line. -/
def feed (strict : Bool) (state : ParseState) (line : Line) : ParseState :=
  match line.role with
  | .opens kind => { state with blocks := ⟨kind, line, [], none⟩ :: state.blocks }
  | .divides => state.divide line
  | .closes terminator => state.terminate strict line terminator
  | .leaf =>
    match Instruction.read line.keyword line.arguments with
    | .ok instruction => state.add (.leaf line.number instruction)
    | .error fault => state.report line fault

/-- Reports the innermost block as never closed, and closes it. -/
def abandon (state : ParseState) : ParseState :=
  match state.blocks with
  | [] => state
  | block :: outer =>
    let unclosed := Fault.unterminatedBlock block.kind.opener block.opener.number
    (ParseState.report { state with blocks := outer } block.opener unclosed).close block

/-- Abandons the `n` innermost blocks, from the inside out. -/
def abandonAll : Nat → ParseState → ParseState
  | 0, state => state
  | n + 1, state => abandonAll n state.abandon

/-- The script of a source that ends here. -/
def finish (state : ParseState) : Script :=
  let last := abandonAll state.blocks.length state
  ⟨last.commands, last.errors⟩

end ParseState

namespace Script

def ofLines (strict : Bool) (lines : List Line) : Script :=
  (lines.foldl (ParseState.feed strict) ParseState.start).finish

/-- Reads a source. With strict terminators a block's own terminator must match the block. -/
def parse (strict : Bool) (source : String) : Script :=
  ofLines strict (Line.ofSource source)

end Script

end TouchScript
