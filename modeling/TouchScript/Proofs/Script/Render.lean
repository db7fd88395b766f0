import TouchScript.Proofs.Text.Decimal
import TouchScript.Script

namespace TouchScript

/-- The coordinates of a point as words. -/
def Point.words (p : Point) : List String :=
  [Text.ofInt p.x.val, Text.ofInt p.y.val]

/-- What is written after the keyword of a gesture. -/
def Gesture.operands : Gesture Number → List String
  | .tap p | .threeFingerTap p => p.words
  | .longPress p d => p.words ++ [Text.ofInt d.val]
  | .swipe p q d => p.words ++ q.words ++ [Text.ofInt d.val]
  | .zoom p distance d _ => p.words ++ [Text.ofInt distance.val, Text.ofInt d.val]
  | .multiTap points => points.flatMap Point.words
  | .path points d => Text.ofInt d.val :: points.flatMap Point.words

/-- What is written after the keyword of an instruction. -/
def Instruction.operands : Instruction → List String
  | .gesture g => g.operands
  | .delay ms => [Text.ofInt ms.val]
  | .stop => []
  | .set name (.literal token) => [name, token]
  | .set name (.binary lhs op rhs) => [name, lhs, op.symbol, rhs]
  | .get name | .label name | .goto name | .logVariable name | .call name => [name]
  | .gotoIf condition target => [condition, target]
  | .log message | .overlay message => [message]
  | .find lookup => [lookup.path, lookup.xVar, lookup.yVar] ++ lookup.confidenceVar.toList

/-- The line at the end of a block: its own terminator, or the one that closes any block. -/
def BlockKind.closer (kind : BlockKind) (own : Bool) : String :=
  if own then kind.terminator else "end"

namespace Command

/-- What is written after the keyword of a command. -/
def operands : Command → List String
  | .leaf _ instruction => instruction.operands
  | .branch _ condition _ _ | .loop _ condition _ => [condition]
  | .counted _ count counter _ => Text.ofInt count.val :: counter.toList.map fun name => "@" ++ name
  | .function _ name _ => [name]

/-- The line of a command, without the blocks in it. -/
def header (command : Command) : String :=
  Text.join " " (command.keyword :: command.operands)

mutual

/-- The lines of a command: its own with its arguments separated by single spaces, those of its
blocks, and `else` before a second block that is not empty. A block ends with its own terminator if
`own` holds of its line, and with `end` otherwise. -/
def lines (own : Nat → Bool) : Command → List String
  | .leaf line instruction => [header (.leaf line instruction)]
  | .branch line condition thenBlock elseBlock =>
    header (.branch line condition thenBlock elseBlock) ::
      (linesOf own thenBlock ++ (if elseBlock.isEmpty then [] else "else" :: linesOf own elseBlock) ++
        [BlockKind.branch.closer (own line)])
  | .loop line condition body =>
    header (.loop line condition body) :: (linesOf own body ++ [BlockKind.loop.closer (own line)])
  | .counted line count counter body =>
    header (.counted line count counter body) ::
      (linesOf own body ++ [BlockKind.counted.closer (own line)])
  | .function line name body =>
    header (.function line name body) :: (linesOf own body ++ [BlockKind.function.closer (own line)])

/-- The lines of a sequence. -/
def linesOf (own : Nat → Bool) : List Command → List String
  | [] => []
  | command :: rest => lines own command ++ linesOf own rest

end

/-- The number of lines of a sequence. -/
def height (commands : List Command) : Nat :=
  (linesOf (fun _ => false) commands).length

mutual

/-- The command with the numbers of its lines, the first of which is given. The numbers do not
matter for the text, except that they select the terminators. -/
def number (first : Nat) : Command → Command
  | .leaf _ instruction => .leaf first instruction
  | .branch _ condition thenBlock elseBlock =>
    .branch first condition (numberAll (first + 1) thenBlock)
      (numberAll (first + height thenBlock + 2) elseBlock)
  | .loop _ condition body => .loop first condition (numberAll (first + 1) body)
  | .counted _ count counter body => .counted first count counter (numberAll (first + 1) body)
  | .function _ name body => .function first name (numberAll (first + 1) body)

/-- The sequence with the numbers of its lines. -/
def numberAll (first : Nat) : List Command → List Command
  | [] => []
  | command :: rest => number first command :: numberAll (first + height [command]) rest

end

mutual

/-- A command and the commands in its blocks, in the order in which they are written. -/
def all : Command → List Command
  | .leaf line instruction => [.leaf line instruction]
  | .branch line condition thenBlock elseBlock =>
    .branch line condition thenBlock elseBlock :: (allOf thenBlock ++ allOf elseBlock)
  | .loop line condition body => .loop line condition body :: allOf body
  | .counted line count counter body => .counted line count counter body :: allOf body
  | .function line name body => .function line name body :: allOf body

/-- The commands of a sequence and those in their blocks. -/
def allOf : List Command → List Command
  | [] => []
  | command :: rest => all command ++ allOf rest

end

/-- The text of a sequence of commands. -/
def render (own : Nat → Bool) (commands : List Command) : String :=
  Text.join "\n" (linesOf own commands)

end Command

/-- Names are words, messages and conditions are phrases, and gestures have enough points. -/
def Instruction.WellFormed : Instruction → Prop
  | .gesture (.multiTap points) => 1 ≤ points.length
  | .gesture (.path points _) => 2 ≤ points.length
  | .gesture _ | .delay _ | .stop => True
  | .set name (.literal token) => Text.IsToken name ∧ Text.IsToken token
  | .set name (.binary lhs _ rhs) => Text.IsToken name ∧ Text.IsToken lhs ∧ Text.IsToken rhs
  | .get name | .label name | .goto name | .logVariable name | .call name => Text.IsToken name
  | .gotoIf condition target => Text.IsPhrase condition ∧ Text.IsToken target
  | .log message | .overlay message => Text.IsPhrase message
  | .find lookup => Text.IsToken lookup.path ∧ Text.IsToken lookup.xVar ∧ Text.IsToken lookup.yVar ∧
    ∀ name ∈ lookup.confidenceVar, Text.IsToken name

/-- The name of a counter: without blanks, and its `@` is not part of it. -/
def IsCounterName (name : String) : Prop :=
  (∀ c ∈ name.toList, Chars.isBlank c = false) ∧ name.toList.head? ≠ some '@'

namespace Command

mutual

/-- Everything in a command can be written: its instructions, its conditions and its names. -/
def WellFormed : Command → Prop
  | .leaf _ instruction => instruction.WellFormed
  | .branch _ condition thenBlock elseBlock =>
    Text.IsInline condition ∧ AllWellFormed thenBlock ∧ AllWellFormed elseBlock
  | .loop _ condition body => Text.IsInline condition ∧ AllWellFormed body
  | .counted _ _ counter body => (∀ name ∈ counter, IsCounterName name) ∧ AllWellFormed body
  | .function _ name body => Text.IsToken name ∧ AllWellFormed body

/-- Every command of a sequence is well formed. -/
def AllWellFormed : List Command → Prop
  | [] => True
  | command :: rest => WellFormed command ∧ AllWellFormed rest

end

end Command

end TouchScript
