import TouchScript.Script

namespace TouchScript

/-- What can go wrong when words are taken by position: a position past the end of the words, a part
that is not in them, and a difference below zero. No check of a fault would catch it. -/
inductive Misstep where
  | position (index length : Nat)
  | part (start stop length : Nat)
  | difference (minuend subtrahend : Nat)
  | partner (length : Nat)

/-- A reading that may misstep, and otherwise finds a fault or a result. -/
abbrev Reading (α : Type) : Type :=
  ExceptT Fault (Except Misstep) α

namespace Reading

variable {α β : Type}

/-- Stops at a misstep. -/
def misstep (m : Misstep) : Reading α :=
  ExceptT.mk (.error m)

/-- A result that takes no word by position. -/
def ofResult (result : Except Fault α) : Reading α :=
  ExceptT.mk (.ok result)

/-- Stops with a fault under a condition. -/
def refuse (fault : Fault) (condition : Bool) : Reading Unit :=
  if condition then throw fault else pure ()

/-- Stops with a fault unless the number of words is in the given range. -/
def demand (fault : Fault) (args : List String) (least most : Nat) : Reading Unit :=
  refuse fault (args.length < least || most < args.length)

/-- The word at a position. -/
def word (args : List String) (i : Nat) : Reading String :=
  match args[i]? with
  | some s => pure s
  | none => misstep (.position i args.length)

/-- The words from a position on and before another one. -/
def part (args : List String) (start stop : Nat) : Reading (List String) :=
  if start ≤ stop ∧ stop ≤ args.length then pure ((args.take stop).drop start)
  else misstep (.part start stop args.length)

/-- A difference that is a natural number. -/
def difference (n m : Nat) : Reading Nat :=
  if m ≤ n then pure (n - m) else misstep (.difference n m)

/-- The integer at a position. -/
def int {lo hi : Int} (field : String) (args : List String) (i : Nat) : Reading (Ranged lo hi) := do
  ofResult (Instruction.readInt field (← word args i))

/-- The point at two positions. -/
def point (args : List String) (i j : Nat) : Reading Point := do
  let x ← word args i
  let y ← word args j
  ofResult (Instruction.readPoint x y)

/-- The words in pieces of two; the last piece may have one word. -/
def pieces : List String → List (List String)
  | x :: y :: rest => [x, y] :: pieces rest
  | [x] => [[x]]
  | [] => []

/-- One point from each piece of two words. Words without partner are a misstep at once, before any
of the pieces is read. -/
def points (args : List String) : Reading (List Point) := do
  if args.length % 2 != 0 then
    misstep (.partner args.length)
  (pieces args).mapM fun piece => point piece 0 1

/-- The reading does not misstep, and this is what it finds. -/
def Finds (reading : Reading α) (result : Except Fault α) : Prop :=
  reading.run = .ok result

/-- A result is found as it is. -/
theorem finds_ofResult (result : Except Fault α) : Finds (ofResult result) result :=
  rfl

/-- A reading that has ended finds what it ended with. -/
theorem finds_pure (a : α) : Finds (pure a) (.ok a) :=
  rfl

/-- A reading that has stopped finds its fault. -/
theorem finds_throw (fault : Fault) : Finds (throw fault : Reading α) (.error fault) :=
  rfl

/-- A misstep in the first part is one of both parts. -/
theorem run_bind (reading : Reading α) (next : α → Reading β) :
    (reading >>= next).run = reading.run >>= ExceptT.bindCont next :=
  rfl

/-- Two parts of a reading, one after the other, find what their results give one after the other. -/
theorem Finds.bind {reading : Reading α} {result : Except Fault α} {next : α → Reading β}
    {f : α → Except Fault β} (h : Finds reading result) (hnext : ∀ a, Finds (next a) (f a)) :
    Finds (reading >>= next) (result >>= f) := by
  unfold Finds at h ⊢
  rw [run_bind, h]
  cases result with
  | ok a => exact hnext a
  | error fault => rfl

/-- If the first part finds something, the second part goes on from it. -/
theorem Finds.then {reading : Reading α} {a : α} {next : α → Reading β} {result : Except Fault β}
    (h : Finds reading (.ok a)) (hnext : Finds (next a) result) : Finds (reading >>= next) result := by
  unfold Finds at h ⊢
  rw [run_bind, h]
  exact hnext

/-- Anything after a fault is not read. -/
theorem finds_refuse {fault : Fault} {condition : Bool} {next : Unit → Reading α}
    (hcondition : condition = true) : Finds (refuse fault condition >>= next) (.error fault) := by
  rw [hcondition]
  rfl

/-- A fault whose condition does not hold stops nothing. -/
theorem Finds.unrefused {fault : Fault} {condition : Bool} {next : Unit → Reading α}
    {result : Except Fault α} (h : Finds (next ()) result) (hcondition : condition = false) :
    Finds (refuse fault condition >>= next) result := by
  rw [hcondition]
  exact h

/-- The word at a position among the words is found. -/
theorem finds_word {args : List String} {i : Nat} {s : String} (hs : args[i]? = some s) :
    Finds (word args i) (.ok s) := by
  unfold word
  rw [hs]
  exact finds_pure s

/-- So is the number at such a position, or that it is none. -/
theorem finds_int {lo hi : Int} (field : String) {args : List String} {i : Nat} {s : String}
    (hs : args[i]? = some s) :
    Finds (int field args i : Reading (Ranged lo hi)) (Instruction.readInt field s) :=
  (finds_word hs).then (finds_ofResult _)

/-- So is the point at two such positions. -/
theorem finds_point {args : List String} {i j : Nat} {x y : String} (hx : args[i]? = some x)
    (hy : args[j]? = some y) : Finds (point args i j) (Instruction.readPoint x y) :=
  (finds_word hx).then ((finds_word hy).then (finds_ofResult _))

/-- Only the number of words keeps a reading from a misstep. -/
example : (point ["7"] 0 1).run = .error (.position 1 1) :=
  rfl

/-- A part within the words is found. -/
theorem finds_part {args : List String} {start stop : Nat} (hstart : start ≤ stop)
    (hstop : stop ≤ args.length) : Finds (part args start stop) (.ok ((args.take stop).drop start)) := by
  unfold part
  rw [if_pos ⟨hstart, hstop⟩]
  exact finds_pure _

/-- The difference to a number that is not larger is found. -/
theorem finds_difference {n m : Nat} (h : m ≤ n) : Finds (difference n m) (.ok (n - m)) := by
  unfold difference
  rw [if_pos h]
  exact finds_pure _

end Reading

namespace Instruction

/-- Coordinates make points exactly if each has its partner. -/
theorem isNone_readPoints (args : List String) : (readPoints args).isNone = (args.length % 2 != 0) := by
  fun_induction readPoints args with
  | case1 => rfl
  | case2 => rfl
  | case3 x y rest ih =>
    rw [Option.isNone_map, ih, List.length_cons, List.length_cons, Nat.add_assoc, Nat.add_mod_right]

end Instruction

namespace Reading

/-- Pairs of words are found as their points. -/
theorem finds_points {args : List String} {result : Except Fault (List Point)}
    (h : Instruction.readPoints args = some result) : Finds (points args) result := by
  have hpieces : Finds ((pieces args).mapM fun piece => point piece 0 1) result := by
    fun_induction Instruction.readPoints args generalizing result with
    | case1 =>
      cases h
      exact finds_pure []
    | case2 => cases h
    | case3 x y rest ih =>
      obtain ⟨more, hmore, rfl⟩ := Option.map_eq_some_iff.mp h
      rw [pieces, List.mapM_cons]
      exact (finds_point rfl rfl).bind fun p => (ih hmore).bind fun ps => finds_pure (p :: ps)
  unfold points
  rw [← Instruction.isNone_readPoints, h]
  exact hpieces

/-- A zoom in the given direction. -/
def zoom (direction : Direction) (wrong : Fault) (args : List String) : Reading Instruction := do
  demand wrong args 4 4
  let p ← point args 0 1
  let distance ← int "distance" args 2
  return .gesture (.zoom p distance (← int "duration" args 3) direction)

/-- An instruction with a name and nothing else. -/
def named (wrong : Fault) (make : String → Instruction) (args : List String) : Reading Instruction := do
  demand wrong args 1 1
  return make (← word args 0)

/-- A message of all words. -/
def message (missing : Fault) (make : String → Instruction) (args : List String) : Reading Instruction := do
  refuse missing args.isEmpty
  return make (Text.join " " args)

/-- The instruction of a keyword and the words after it. -/
def ofWords (word : LeafWord) (args : List String) : Reading Instruction :=
  let wrong := Instruction.arityFault word args
  match word with
  | .click => do
    demand wrong args 2 2
    return .gesture (.tap (← point args 0 1))
  | .threeFingerTap => do
    demand wrong args 2 2
    return .gesture (.threeFingerTap (← point args 0 1))
  | .longPress => do
    demand wrong args 3 3
    let p ← point args 0 1
    return .gesture (.longPress p (← int "duration" args 2))
  | .swipe => do
    demand wrong args 5 5
    let p ← point args 0 1
    let q ← point args 2 3
    return .gesture (.swipe p q (← int "duration" args 4))
  | .zoomIn => zoom .inward wrong args
  | .zoomOut => zoom .outward wrong args
  | .multiTap => do
    refuse wrong (args.isEmpty || args.length % 2 != 0)
    return .gesture (.multiTap (← points args))
  | .swipePath => do
    refuse wrong (args.length < 5)
    let coordinates ← difference args.length 1
    refuse wrong (coordinates % 2 != 0)
    let d ← int "duration" args 0
    return .gesture (.path (← points (← part args 1 args.length)) d)
  | .delay => do
    demand wrong args 1 1
    return .delay (← int "delay" args 0)
  | .stop => do
    demand wrong args 0 0
    return .stop
  | .set =>
    match args.length with
    | 2 => do
      let token ← Reading.word args 1
      return .set (← Reading.word args 0) (.literal token)
    | 4 => do
      let symbol ← Reading.word args 2
      match Operator.ofSymbol? symbol with
      | some op =>
        let lhs ← Reading.word args 1
        let rhs ← Reading.word args 3
        return .set (← Reading.word args 0) (.binary lhs op rhs)
      | none => throw (.unknownOperator symbol)
    | _ => throw wrong
  | .get => named wrong .get args
  | .label => named wrong .label args
  | .goto => named wrong .goto args
  | .gotoIf => do
    refuse wrong (args.length < 2)
    let last ← difference args.length 1
    let condition ← part args 0 last
    return .gotoIf (Text.join " " condition) (← Reading.word args last)
  | .log => message (.missingArgument word.name) .log args
  | .logs => message (.missingArgument word.name) .overlay args
  | .logVar => named wrong .logVariable args
  | .find => do
    demand wrong args 3 4
    let path ← Reading.word args 0
    let x ← Reading.word args 1
    let y ← Reading.word args 2
    return .find ⟨path, x, y, args[3]?⟩
  | .call => named wrong .call args

/-- The instruction of a leaf line with the given keyword in lower case. -/
def read (keyword : String) (args : List String) : Reading Instruction :=
  match LeafWord.ofName? keyword with
  | some word => ofWords word args
  | none => throw (.unknownCommand keyword)

/-- The command of a block, with the words of its first line taken by position. -/
def command (block : OpenBlock) : Reading Command :=
  let line := block.opener.number
  let args := block.opener.arguments
  match block.kind with
  | .branch => do
    refuse (.missingArgument "if") (block.opener.rest = "")
    return .branch line block.opener.rest block.body (block.otherwise.getD [])
  | .loop => do
    refuse (.missingArgument "while") (block.opener.rest = "")
    return .loop line block.opener.rest block.body
  | .counted => do
    demand (.arity "repeat" "a count and an optional counter name" args.length) args 1 2
    let count ← word args 0
    match Text.unsigned? count with
    | some n =>
      let counter := args[1]?.map fun name => String.ofList (name.toList.dropWhile (· == '@'))
      return .counted line n counter block.body
    | none => throw (.invalidInteger "repeat count" count)
  | .function => do
    demand (.arity "fun" "1 argument (name)" args.length) args 1 1
    return .function line (← word args 0) block.body

variable {args : List String}

/-- Both directions of a zoom check the number of words before any is taken. -/
theorem finds_zoom (direction : Direction) (wrong : Fault) :
    Finds (zoom direction wrong args) (Instruction.ofWords.zoom direction (.error wrong) args) := by
  match args with
  | [x, y, distance, d] =>
    refine Finds.unrefused ?_ rfl
    exact (finds_point rfl rfl).bind fun p => (finds_int _ rfl).bind fun n =>
      (finds_int _ rfl).bind fun ms => finds_pure _
  | [] | [_] | [_, _] | [_, _, _] => exact finds_refuse rfl
  | _ :: _ :: _ :: _ :: _ :: _ => exact finds_refuse (by simp)

/-- A tap at several places makes points of its words only if they are even in number. -/
theorem finds_multiTap (args : List String) :
    Finds (ofWords .multiTap args) (Instruction.ofWords .multiTap args) := by
  match args with
  | [] => exact finds_refuse rfl
  | x :: more =>
    have hodd := Instruction.isNone_readPoints (x :: more)
    cases hpoints : Instruction.readPoints (x :: more) with
    | none =>
      simp only [Instruction.ofWords, hpoints]
      exact finds_refuse (by rw [← hodd, hpoints]; rfl)
    | some result =>
      simp only [Instruction.ofWords, hpoints]
      refine Finds.unrefused ?_ (by rw [← hodd, hpoints]; rfl)
      exact (finds_points hpoints).bind fun ps => finds_pure _

/-- A swipe along a path takes its duration off first, so the words after it are counted from a
difference that is not below zero. -/
theorem finds_swipePath (args : List String) :
    Finds (ofWords .swipePath args) (Instruction.ofWords .swipePath args) := by
  match args with
  | [] | [_] | [_, _] | [_, _, _] | [_, _, _, _] => exact finds_refuse rfl
  | d :: x :: y :: u :: v :: more =>
    have hodd := Instruction.isNone_readPoints (x :: y :: u :: v :: more)
    refine Finds.unrefused ?_ (by simp)
    refine (finds_difference (by simp)).then ?_
    -- What is left after the duration is even exactly if the coordinates make points.
    rw [List.length_cons, Nat.add_sub_cancel]
    cases hpoints : Instruction.readPoints (x :: y :: u :: v :: more) with
    | none =>
      simp only [Instruction.ofWords, hpoints]
      exact finds_refuse (by rw [← hodd, hpoints]; rfl)
    | some result =>
      simp only [Instruction.ofWords, hpoints]
      refine Finds.unrefused ?_ (by rw [← hodd, hpoints]; rfl)
      refine (finds_int _ rfl).bind fun ms => ?_
      refine (finds_part (by simp) (Nat.le_refl _)).then ?_
      rw [List.take_length, List.drop_one, List.tail_cons]
      exact (finds_points hpoints).bind fun ps => finds_pure _

/-- An assignment takes its fourth word only if there is one. -/
theorem finds_set (args : List String) : Finds (ofWords .set args) (Instruction.ofWords .set args) := by
  match args with
  | [name, token] => exact (finds_word rfl).then ((finds_word rfl).then (finds_pure _))
  | [name, lhs, symbol, rhs] =>
    refine (finds_word rfl).then ?_
    simp only [Instruction.ofWords]
    cases Operator.ofSymbol? symbol with
    | some op => exact (finds_word rfl).then ((finds_word rfl).then ((finds_word rfl).then (finds_pure _)))
    | none => exact finds_throw _
  | [] | [_] | [_, _, _] => exact finds_throw _
  | _ :: _ :: _ :: _ :: _ :: _ => exact finds_throw _

/-- A conditional jump takes its label from words that are there. -/
theorem finds_gotoIf (args : List String) :
    Finds (ofWords .gotoIf args) (Instruction.ofWords .gotoIf args) := by
  rcases List.eq_nil_or_concat args with rfl | ⟨_ | ⟨first, others⟩, name, rfl⟩
  · exact finds_refuse rfl
  · exact finds_refuse rfl
  · -- The last word is the label; the words before it are the condition.
    rw [List.concat_eq_append]
    simp only [Instruction.ofWords, List.getLast?_concat, List.dropLast_concat]
    refine Finds.unrefused ?_ (by simp)
    refine (finds_difference (by simp)).then ?_
    rw [List.length_append, List.length_singleton, Nat.add_sub_cancel]
    refine (finds_part (Nat.zero_le _) (by simp)).then ?_
    rw [List.take_left, List.drop_zero]
    exact (finds_word List.getElem?_concat_length).then (finds_pure _)

/-- One case for each keyword, and in it one for each number of words. -/
theorem finds_ofWords (word : LeafWord) (args : List String) :
    Finds (ofWords word args) (Instruction.ofWords word args) := by
  cases word with
  | click | threeFingerTap =>
    match args with
    | [x, y] => exact ((finds_point rfl rfl).bind fun p => finds_pure _).unrefused rfl
    | [] | [_] => exact finds_refuse rfl
    | _ :: _ :: _ :: _ => exact finds_refuse (by simp)
  | longPress =>
    match args with
    | [x, y, d] =>
      refine Finds.unrefused ?_ rfl
      exact (finds_point rfl rfl).bind fun p => (finds_int _ rfl).bind fun ms => finds_pure _
    | [] | [_] | [_, _] => exact finds_refuse rfl
    | _ :: _ :: _ :: _ :: _ => exact finds_refuse (by simp)
  | swipe =>
    match args with
    | [x, y, u, v, d] =>
      refine Finds.unrefused ?_ rfl
      exact (finds_point rfl rfl).bind fun p => (finds_point rfl rfl).bind fun q =>
        (finds_int _ rfl).bind fun ms => finds_pure _
    | [] | [_] | [_, _] | [_, _, _] | [_, _, _, _] => exact finds_refuse rfl
    | _ :: _ :: _ :: _ :: _ :: _ :: _ => exact finds_refuse (by simp)
  | zoomIn | zoomOut => exact finds_zoom _ _
  | multiTap => exact finds_multiTap args
  | swipePath => exact finds_swipePath args
  | delay =>
    match args with
    | [ms] => exact ((finds_int _ rfl).bind fun n => finds_pure _).unrefused rfl
    | [] => exact finds_refuse rfl
    | _ :: _ :: _ => exact finds_refuse (by simp)
  | stop =>
    match args with
    | [] =>
      refine Finds.unrefused ?_ rfl
      exact finds_pure _
    | _ :: _ => exact finds_refuse (by simp)
  | set => exact finds_set args
  | get | label | goto | logVar | call =>
    match args with
    | [name] =>
      refine Finds.unrefused ?_ rfl
      exact (finds_word rfl).then (finds_pure _)
    | [] => exact finds_refuse rfl
    | _ :: _ :: _ => exact finds_refuse (by simp)
  | gotoIf => exact finds_gotoIf args
  | log | logs =>
    match args with
    | [] => exact finds_refuse rfl
    | _ :: _ =>
      refine Finds.unrefused ?_ rfl
      exact finds_pure _
  | find =>
    match args with
    | [path, x, y] | [path, x, y, confidence] =>
      refine Finds.unrefused ?_ rfl
      exact (finds_word rfl).then ((finds_word rfl).then ((finds_word rfl).then (finds_pure _)))
    | [] | [_] | [_, _] => exact finds_refuse rfl
    | _ :: _ :: _ :: _ :: _ :: _ => exact finds_refuse (by simp)

/-- Reading a line by position gives what reading the line gives. -/
theorem finds_read (keyword : String) (args : List String) :
    Finds (read keyword args) (Instruction.read keyword args) := by
  unfold read Instruction.read
  cases LeafWord.ofName? keyword with
  | some word => exact finds_ofWords word args
  | none => exact finds_throw _

/-- The header of a block is read without a misstep, as it is read by its words. -/
theorem finds_command (block : OpenBlock) : Finds (command block) block.command := by
  obtain ⟨kind, opener, body, otherwise⟩ := block
  cases kind with
  | branch | loop =>
    by_cases hrest : opener.rest = ""
    · simp only [OpenBlock.command, hrest, if_true]
      exact finds_refuse (by simp [hrest])
    · simp only [OpenBlock.command, hrest, if_false]
      refine Finds.unrefused ?_ (by simp [hrest])
      exact finds_pure _
  | counted =>
    simp only [OpenBlock.command, command]
    generalize opener.arguments = args
    match args with
    | [n] | [n, counter] =>
      refine Finds.unrefused ?_ rfl
      refine (finds_word rfl).then ?_
      simp only [OpenBlock.readCount]
      cases Text.unsigned? n with
      | some count => exact finds_pure _
      | none => exact finds_throw _
    | [] => exact finds_refuse rfl
    | _ :: _ :: _ :: _ => exact finds_refuse (by simp)
  | function =>
    simp only [OpenBlock.command, command]
    generalize opener.arguments = args
    match args with
    | [name] =>
      refine Finds.unrefused ?_ rfl
      exact (finds_word rfl).then (finds_pure _)
    | [] => exact finds_refuse rfl
    | _ :: _ :: _ => exact finds_refuse (by simp)

end Reading

end TouchScript
