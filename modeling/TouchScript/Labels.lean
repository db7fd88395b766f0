import TouchScript.Bindings
import TouchScript.Command

namespace TouchScript

abbrev LabelTable := Bindings Nat

/-- Where a label is: which sequence of the stack, counted from the outermost, and which place. -/
structure LabelTarget where
  scope : Nat
  index : Nat
deriving DecidableEq

/-- The labels of a sequence, not of the blocks in it. Of a repeated label the first counts. -/
def collectLabels (commands : List Command) : LabelTable :=
  commands.zipIdx.foldl
    (fun table (command, index) =>
      match command.label? with
      | some name => table.setNew name index
      | none => table)
    []

/-- The tables of the sequences being walked, innermost first, and the floor: the number of outer
tables that jumps cannot reach, since the current function was called inside of them. -/
structure LabelScopes where
  tables : List LabelTable
  floor : Nat

namespace LabelScopes

def empty : LabelScopes := ⟨[], 0⟩

def depth (scopes : LabelScopes) : Nat :=
  scopes.tables.length

def push (scopes : LabelScopes) (table : LabelTable) : LabelScopes :=
  { scopes with tables := table :: scopes.tables }

def pop (scopes : LabelScopes) : LabelScopes :=
  { scopes with tables := scopes.tables.tail }

/-- Notes a label in the innermost sequence, over any earlier one of the same name. -/
def register (scopes : LabelScopes) (name : String) (index : Nat) : LabelScopes :=
  match scopes.tables with
  | [] => scopes
  | table :: outer => { scopes with tables := table.set name index :: outer }

/-- Looks for a label in a stack of tables, innermost first, but not in the `floor` outermost. -/
def search (floor : Nat) (name : String) : List LabelTable → Option LabelTarget
  | [] => none
  | table :: outer =>
    if outer.length < floor then none
    else
      match table.get? name with
      | some index => some ⟨outer.length, index⟩
      | none => search floor name outer

/-- Where a jump to a label leads. -/
def resolve (scopes : LabelScopes) (name : String) : Option LabelTarget :=
  search scopes.floor name scopes.tables

/-- Begins a function call: the sequences being walked now are out of reach. -/
def enterCall (scopes : LabelScopes) : LabelScopes :=
  { scopes with floor := scopes.depth }

/-- Ends a function call by restoring the floor from before it. -/
def exitCall (scopes : LabelScopes) (floor : Nat) : LabelScopes :=
  { scopes with floor }

end LabelScopes

end TouchScript
