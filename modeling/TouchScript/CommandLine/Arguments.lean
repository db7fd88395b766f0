namespace TouchScript

inductive Task where
  | run
  | check
deriving DecidableEq

namespace Task

def name : Task → String
  | .run => "run"
  | .check => "check"

def ofName? (s : String) : Option Task :=
  [run, check].find? fun task => task.name == s

end Task

/-- Options that have a value: the path of a file. -/
inductive PathOption where
  | config
  | logFile
  | images
  | record
deriving DecidableEq

namespace PathOption

def name : PathOption → String
  | .config => "--config"
  | .logFile => "--log-file"
  | .images => "--images"
  | .record => "--record"

def ofName? (s : String) : Option PathOption :=
  [config, logFile, images, record].find? fun option => option.name == s

/-- Whether an option belongs to `run` alone. -/
def isForRunning : PathOption → Bool
  | .images | .record => true
  | .config | .logFile => false

end PathOption

/-- The arguments read so far, and the option that still needs its value. Options may stand before
and after the words they belong to, and the value of an option is the next argument or follows an
equals sign. -/
structure Arguments where
  task : Option Task
  script : Option String
  paths : List (PathOption × String)
  noSettle : Bool
  pending : Option PathOption
deriving DecidableEq

namespace Arguments

def empty : Arguments := ⟨none, none, [], false, none⟩

/-- The path given with an option. -/
def path? (a : Arguments) (option : PathOption) : Option String :=
  (a.paths.find? fun (given, _) => given == option).map Prod.snd

/-- Takes the value of an option, which may be given once. -/
def withPath? (a : Arguments) (option : PathOption) (path : String) : Option Arguments :=
  if (a.path? option).isSome then none
  else some { a with paths := a.paths ++ [(option, path)], pending := none }

/-- Takes a word that is no option: the command first, then the script. -/
def withWord? (a : Arguments) (word : String) : Option Arguments :=
  match a.task, a.script with
  | none, _ => (Task.ofName? word).map fun task => { a with task := some task }
  | some _, none => some { a with script := some word }
  | some _, some _ => none

/-- Takes an option, whose value may follow an equals sign. -/
def withOption? (a : Arguments) (word : String) : Option Arguments :=
  let name := String.ofList (word.toList.takeWhile (· != '='))
  match PathOption.ofName? name, word.toList.dropWhile (· != '=') with
  | some option, [] => some { a with pending := some option }
  | some option, _ :: value => a.withPath? option (String.ofList value)
  | none, _ => if word = "--no-settle" ∧ !a.noSettle then some { a with noSettle := true } else none

/-- Takes the next argument. -/
def take? (a : Arguments) (word : String) : Option Arguments :=
  match a.pending with
  | some option => a.withPath? option word
  | none => if "--".toList.isPrefixOf word.toList then a.withOption? word else a.withWord? word

/-- Whether there is a command, the options go with it and none lacks its value. -/
def isComplete (a : Arguments) : Bool :=
  a.pending.isNone &&
    (match a.task with
    | some .run => true
    | some .check => !a.noSettle && a.paths.all fun (option, _) => !option.isForRunning
    | none => false)

/-- Reads the arguments of the program. -/
def read? (args : List String) : Option Arguments :=
  (args.foldlM take? empty).filter isComplete

end Arguments

def usage : String :=
  "usage: run [SCRIPT] [--config FILE] [--images FILE] [--record FILE] [--no-settle]\n" ++
  "       check [SCRIPT] [--config FILE]\n" ++
  "       both: [--log-file FILE]"

end TouchScript
