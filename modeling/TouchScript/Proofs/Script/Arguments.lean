import TouchScript.Proofs.Script.Content
import TouchScript.Proofs.Script.Position

namespace TouchScript

/-- One thing that is written after a keyword: an integer, a word, or words that make up one text. -/
inductive Operand where
  | number (n : Int)
  | word (s : String)
  | phrase (s : String)

/-- The words are the operands one after the other: each word belongs to one operand, and each operand
is there. -/
inductive Operand.Spelled : List String → List Operand → Prop where
  | nil : Spelled [] []
  | number {s : String} {n : Int} {words : List String} {operands : List Operand}
      (hs : Chars.integer? s.toList = some n) (hrest : Spelled words operands) :
      Spelled (s :: words) (.number n :: operands)
  | word {s : String} {words : List String} {operands : List Operand} (hrest : Spelled words operands) :
      Spelled (s :: words) (.word s :: operands)
  | phrase {first words : List String} {operands : List Operand} (hfirst : first ≠ [])
      (hrest : Spelled words operands) :
      Spelled (first ++ words) (.phrase (Text.join " " first) :: operands)

/-- The coordinates of a point. -/
def Point.contents (p : Point) : List Operand :=
  [.number p.x.val, .number p.y.val]

/-- What a gesture contains, in the order in which it is written. -/
def Gesture.contents : Gesture Number → List Operand
  | .tap p | .threeFingerTap p => p.contents
  | .longPress p d => p.contents ++ [.number d.val]
  | .swipe p q d => p.contents ++ q.contents ++ [.number d.val]
  | .zoom p distance d _ => p.contents ++ [.number distance.val, .number d.val]
  | .multiTap points => points.flatMap Point.contents
  | .path points d => .number d.val :: points.flatMap Point.contents

/-- What an instruction contains, in the order in which it is written. -/
def Instruction.contents : Instruction → List Operand
  | .gesture g => g.contents
  | .delay ms => [.number ms.val]
  | .stop => []
  | .set name (.literal token) => [.word name, .word token]
  | .set name (.binary lhs op rhs) => [.word name, .word lhs, .word op.symbol, .word rhs]
  | .get name | .label name | .goto name | .logVariable name | .call name => [.word name]
  | .gotoIf condition target => [.phrase condition, .word target]
  | .log message | .overlay message => [.phrase message]
  | .find lookup => [.word lookup.path, .word lookup.xVar, .word lookup.yVar] ++
    lookup.confidenceVar.toList.map Operand.word

/-- There are two words for each point, and the point at a place is made of the pair of words at this
place. -/
structure Paired (words : List String) (points : List Point) : Prop where
  length_eq : words.length = 2 * points.length
  made : ∀ i p, points[i]? = some p → ∃ x y, words[2 * i]? = some x ∧ words[2 * i + 1]? = some y ∧
    Text.signed? x = some p.x ∧ Text.signed? y = some p.y

/-- The points of a tap with several fingers are made of the words, those of a path of the words after
the first, which is the duration. -/
def Instruction.PairsUp (args : List String) : Instruction → Prop
  | .gesture (.multiTap points) => Paired args points
  | .gesture (.path points d) =>
    ∃ s coordinates, args = s :: coordinates ∧ Text.signed? s = some d ∧ Paired coordinates points
  | _ => True

/-- An instruction contains the arguments and nothing else, and its points are made of its coordinates
pair by pair. -/
structure Instruction.MadeOf (args : List String) (instruction : Instruction) : Prop where
  spelled : Operand.Spelled args instruction.contents
  pairsUp : instruction.PairsUp args

namespace Operand.Spelled

variable {words : List String} {operands : List Operand} (h : Spelled words operands)
include h

/-- A word that is read as a number spells that number. -/
theorem integer {lo hi : Int} {s : String} {n : Ranged lo hi} (hs : Text.signed? s = some n) :
    Spelled (s :: words) (.number n.val :: operands) := by
  obtain ⟨m, hm, hn⟩ := Option.bind_eq_some_iff.mp hs
  rw [Ranged.ofInt?_eq_some_iff.mp hn]
  exact .number hm h

/-- Two words that are read as coordinates spell a point. -/
theorem point {x y : String} {p : Point} (hp : Text.signed? x = some p.x ∧ Text.signed? y = some p.y) :
    Spelled (x :: y :: words) (p.contents ++ operands) :=
  (h.integer hp.2).integer hp.1

end Operand.Spelled

/-- An operator is read from its symbol only. -/
theorem Operator.symbol_of_ofSymbol? {s : String} {op : Operator} (h : ofSymbol? s = some op) :
    op.symbol = s := by
  simpa using List.find?_some h

namespace Paired

/-- No points are made of no words. -/
theorem nil : Paired [] [] := by
  constructor
  · rfl
  · intro i p hp
    rw [List.getElem?_nil] at hp
    cases hp

/-- Two words in front make one point in front. -/
theorem cons {words : List String} {points : List Point} (h : Paired words points) {x y : String}
    {p : Point} (hx : Text.signed? x = some p.x) (hy : Text.signed? y = some p.y) :
    Paired (x :: y :: words) (p :: points) := by
  constructor
  · rw [List.length_cons, List.length_cons, List.length_cons, h.length_eq]
    omega
  · intro i q hq
    cases i with
    | zero =>
      cases hq
      exact ⟨x, y, rfl, rfl, hx, hy⟩
    | succ i => exact h.made i q hq

end Paired

open Fault

namespace Instruction

/-- A number that is read is spelled by its word. -/
theorem gives_readInt {lo hi : Int} (field s : String) :
    Gives (fun n => Text.signed? s = some n) (readInt field s : Except Fault (Ranged lo hi)) := by
  unfold readInt
  split
  next n hn => exact gives_ok hn
  next => exact gives_error _

/-- A point that is read is spelled by its two words. -/
theorem gives_readPoint (x y : String) :
    Gives (fun p => Text.signed? x = some p.x ∧ Text.signed? y = some p.y) (readPoint x y) :=
  (gives_readInt _ x).bind fun _ hx => (gives_readInt _ y).bind fun _ hy => gives_ok ⟨hx, hy⟩

/-- Points that are read are made of the words pair by pair. -/
theorem gives_paired (args : List String) : ∀ result ∈ readPoints args,
    Gives (fun points => Paired args points ∧ Operand.Spelled args (points.flatMap Point.contents)) result := by
  fun_induction readPoints args with
  | case1 =>
    rintro result ⟨⟩
    exact gives_ok ⟨.nil, .nil⟩
  | case2 => rintro result ⟨⟩
  | case3 x y rest ih =>
    intro result hresult
    obtain ⟨more, hmore, rfl⟩ := Option.map_eq_some_iff.mp hresult
    refine (gives_readPoint x y).bind fun p hp => (ih more hmore).bind fun points hpoints => ?_
    obtain ⟨hpaired, hspelled⟩ := hpoints
    exact gives_ok ⟨hpaired.cons hp.1 hp.2, hspelled.point hp⟩

/-- A zoom that is read contains its center, its distance and its duration. -/
theorem gives_zoom_madeOf (direction : Direction) {wrong : Except Fault Instruction} (args : List String)
    (hwrong : Gives (MadeOf args) wrong) : Gives (MadeOf args) (ofWords.zoom direction wrong args) := by
  unfold ofWords.zoom
  split
  next x y distance d =>
    refine (gives_readPoint x y).bind fun p hp => (gives_readInt _ distance).bind fun n hn =>
      (gives_readInt _ d).bind fun ms hms => gives_ok ⟨?_, trivial⟩
    exact ((Operand.Spelled.nil.integer hms).integer hn).point hp
  next => exact hwrong

/-- An instruction that is read is made of all words. -/
theorem gives_madeOf (word : LeafWord) (args : List String) : Gives (MadeOf args) (ofWords word args) := by
  have hwrong (word : LeafWord) : Gives (MadeOf args) (.error (arityFault word args)) := gives_error _
  -- For each keyword the numbers of words that it takes; any other is the fault of `hwrong`.
  cases word with
  | click | threeFingerTap =>
    simp only [ofWords]
    split
    next x y =>
      exact (gives_readPoint x y).bind fun p hp => gives_ok ⟨Operand.Spelled.nil.point hp, trivial⟩
    next => exact hwrong _
  | longPress =>
    simp only [ofWords]
    split
    next x y d =>
      refine (gives_readPoint x y).bind fun p hp => (gives_readInt _ d).bind fun ms hms =>
        gives_ok ⟨?_, trivial⟩
      exact (Operand.Spelled.nil.integer hms).point hp
    next => exact hwrong _
  | swipe =>
    simp only [ofWords]
    split
    next x y u v d =>
      refine (gives_readPoint x y).bind fun p hp => (gives_readPoint u v).bind fun q hq =>
        (gives_readInt _ d).bind fun ms hms => gives_ok ⟨?_, trivial⟩
      exact ((Operand.Spelled.nil.integer hms).point hq).point hp
    next => exact hwrong _
  | zoomIn | zoomOut => exact gives_zoom_madeOf _ args (hwrong _)
  | multiTap =>
    simp only [ofWords]
    split
    next => exact hwrong _
    next =>
      split
      next points hpoints =>
        exact (gives_paired _ points hpoints).bind fun points hmade => gives_ok ⟨hmade.2, hmade.1⟩
      next => exact hwrong _
  | swipePath =>
    simp only [ofWords]
    split
    next s x y u v more =>
      split
      next points hpoints =>
        exact (gives_readInt _ s).bind fun d hd => (gives_paired _ points hpoints).bind fun points hmade =>
          gives_ok ⟨hmade.2.integer hd, s, _, rfl, hd, hmade.1⟩
      next => exact hwrong _
    next => exact hwrong _
  | delay =>
    simp only [ofWords]
    split
    next ms =>
      exact (gives_readInt _ ms).bind fun n hn => gives_ok ⟨Operand.Spelled.nil.integer hn, trivial⟩
    next => exact hwrong _
  | stop =>
    simp only [ofWords]
    split
    next => exact gives_ok ⟨.nil, trivial⟩
    next => exact hwrong _
  | set =>
    simp only [ofWords]
    split
    next name token => exact gives_ok ⟨.word (.word .nil), trivial⟩
    next name lhs symbol rhs =>
      split
      next op hop =>
        refine gives_ok ⟨?_, trivial⟩
        rw [← Operator.symbol_of_ofSymbol? hop]
        exact .word (.word (.word (.word .nil)))
      next => exact gives_error _
    next => exact hwrong _
  | get | label | goto | logVar | call =>
    simp only [ofWords]
    split
    next name => exact gives_ok ⟨.word .nil, trivial⟩
    next => exact hwrong _
  | gotoIf =>
    simp only [ofWords]
    split
    next name first others hlast hinit =>
      obtain ⟨init, rfl⟩ := List.getLast?_eq_some_iff.mp hlast
      rw [List.dropLast_concat] at hinit
      subst hinit
      exact gives_ok ⟨.phrase (List.cons_ne_nil _ _) (.word .nil), trivial⟩
    next => exact hwrong _
  | log | logs =>
    simp only [ofWords]
    split
    next => exact gives_error _
    next first others =>
      have hspelled : Operand.Spelled (first :: others ++ []) [.phrase (Text.join " " (first :: others))] :=
        .phrase (List.cons_ne_nil _ _) .nil
      rw [List.append_nil] at hspelled
      exact gives_ok ⟨hspelled, trivial⟩
  | find =>
    simp only [ofWords]
    split
    next => exact gives_ok ⟨.word (.word (.word .nil)), trivial⟩
    next => exact gives_ok ⟨.word (.word (.word (.word .nil))), trivial⟩
    next => exact hwrong _

/-- Reading the words after a keyword never takes a word that is not there, and neither does reading
the first line of a block; and an instruction that is read has the keyword and is made of all words. -/
theorem every_argument_read (keyword : String) (args : List String) :
    (Reading.read keyword args).Finds (read keyword args) ∧
      (∀ block, (Reading.command block).Finds block.command) ∧
      (∀ instruction, read keyword args = .ok instruction →
        instruction.keyword = keyword ∧ Operand.Spelled args instruction.contents) ∧
      (∀ points, read keyword args = .ok (.gesture (.multiTap points)) → Paired args points) ∧
      ∀ points d, read keyword args = .ok (.gesture (.path points d)) →
        ∃ s coordinates, args = s :: coordinates ∧ Text.signed? s = some d ∧ Paired coordinates points := by
  have hmade (instruction : Instruction) (hread : read keyword args = .ok instruction) :
      instruction.MadeOf args := by
    unfold read at hread
    split at hread
    next word _ => exact gives_madeOf word args instruction hread
    next => cases hread
  refine ⟨Reading.finds_read keyword args, Reading.finds_command, fun instruction hread => ?_,
    fun points hread => ?_, fun points d hread => ?_⟩
  · exact ⟨read_keyword hread, (hmade instruction hread).spelled⟩
  · exact (hmade _ hread).pairsUp
  · exact (hmade _ hread).pairsUp

/-- Three points as the words of a tap, with signs and leading zeros. -/
def threePairs : List String :=
  ["1", "-02", "+3", "4", "-2147483648", "006"]

/-- Signs and leading zeros do not matter: the three pairs are three points. -/
theorem threePairs_read :
    let points : List Point := [⟨⟨1, by decide, by decide⟩, ⟨-2, by decide, by decide⟩⟩,
      ⟨⟨3, by decide, by decide⟩, ⟨4, by decide, by decide⟩⟩,
      ⟨⟨-2147483648, by decide, by decide⟩, ⟨6, by decide, by decide⟩⟩]
    let duration : Number := ⟨300, by decide, by decide⟩
    read "multitap" threePairs = .ok (.gesture (.multiTap points)) ∧
      read "swipepath" ("300" :: threePairs) = .ok (.gesture (.path points duration)) ∧
      Operand.Spelled ("300" :: threePairs) (gesture (.path points duration)).contents ∧
      Text.signed? "300" = some duration ∧ Paired threePairs points := by
  intro points duration
  have htap : read "multitap" threePairs = .ok (.gesture (.multiTap points)) := by rfl
  have hpath : read "swipepath" ("300" :: threePairs) = .ok (.gesture (.path points duration)) := by rfl
  obtain ⟨_, _, _, hpaired, _⟩ := every_argument_read "multitap" threePairs
  obtain ⟨_, _, hspelled, _, hpairs⟩ := every_argument_read "swipepath" ("300" :: threePairs)
  obtain ⟨_, _, ⟨⟩, hduration, _⟩ := hpairs points duration hpath
  exact ⟨htap, hpath, (hspelled _ hpath).2, hduration, hpaired points htap⟩

end Instruction

end TouchScript
