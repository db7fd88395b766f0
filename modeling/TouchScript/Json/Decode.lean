import TouchScript.Json

namespace TouchScript.Json

def toRanged? {lo hi : Int} : Json → Option (Ranged lo hi)
  | .number n => n.toInt?.bind Ranged.ofInt?
  | _ => none

/-- A binary number; integers count too. -/
def toBinary64? : Json → Option Binary64
  | .number n => n.toBinary64?
  | _ => none

def toText? : Json → Option String
  | .string s => some s
  | _ => none

def toBool? : Json → Option Bool
  | .bool b => some b
  | _ => none

def toItems? : Json → Option (List Json)
  | .array items => some items
  | _ => none

/-- The value of the last field with the given key. -/
def lookup? (fields : List (Option String × Json)) (name : String) : Option Json :=
  (fields.reverse.find? fun (key, _) => key == some name).map Prod.snd

/-- The fields of an object whose keys are all texts. -/
def toFields? : Json → Option (List (String × Json))
  | .object fields => fields.mapM fun (key, value) => key.map fun name => (name, value)
  | _ => none

/-- The fields of a record in the order of `names`, each with its value if it is given. A record is
an object, whose unknown fields are skipped, or an array of its fields in order. Refuses a known
field that stands twice, and an array with more elements than there are fields. -/
def toRecord? (names : List String) : Json → Option (List (Option Json))
  | .array items =>
    if items.length ≤ names.length then
      some (items.map some ++ List.replicate (names.length - items.length) none)
    else none
  | .object fields =>
    let keys := fields.map Prod.fst
    if keys.contains none || names.any fun name => decide (1 < keys.count (some name)) then none
    else some (names.map (lookup? fields))
  | _ => none

/-- A choice, which is given by its name, or as an object of one field with that name: its name, and
its content if it is given as an object. -/
def toChoice? : Json → Option (String × Option Json)
  | .string name => some (name, none)
  | .object [(some name, content)] => some (name, some content)
  | _ => none

mutual

/-- How deep arrays and objects are nested. -/
def depth : Json → Nat
  | .array items => depthOfItems items + 1
  | .object fields => depthOfFields fields + 1
  | _ => 0

def depthOfItems : List Json → Nat
  | [] => 0
  | value :: rest => max (depth value) (depthOfItems rest)

def depthOfFields : List (Option String × Json) → Nat
  | [] => 0
  | (_, value) :: rest => max (depth value) (depthOfFields rest)

end

mutual

/-- Whether every part has a meaning: no garbled text and no number that is too large. -/
def isMeaningful : Json → Bool
  | .garbled => false
  | .number n => n.toBinary64?.isSome
  | .array items => itemsMeaningful items
  | .object fields => fieldsMeaningful fields
  | _ => true

def itemsMeaningful : List Json → Bool
  | [] => true
  | value :: rest => isMeaningful value && itemsMeaningful rest

def fieldsMeaningful : List (Option String × Json) → Bool
  | [] => true
  | (key, value) :: rest => key.isSome && isMeaningful value && fieldsMeaningful rest

end

end TouchScript.Json
