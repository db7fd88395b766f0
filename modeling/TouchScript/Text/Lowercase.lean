import TouchScript.Text.CaseData

namespace TouchScript

namespace CaseData

/-- The distance from `n` to its lower-case partner, if this run covers `n`. -/
def CaseRun.shift? (run : CaseRun) (n : Nat) : Option Int :=
  if run.first ≤ n ∧ n ≤ run.last ∧ (n - run.first) % run.step = 0 then some run.shift else none

def inRanges (ranges : List (Nat × Nat)) (n : Nat) : Bool :=
  ranges.any fun (first, last) => decide (first ≤ n) && decide (n ≤ last)

def isCased (c : Char) : Bool :=
  inRanges casedRanges c.toNat

def isIgnorable (c : Char) : Bool :=
  inRanges ignorableRanges c.toNat

end CaseData

namespace Chars

/-- The lower-case partner of a character, or the character itself. -/
def lowerSimple (c : Char) : Char :=
  if c.toNat < 0x80 then c.toLower
  else
    match CaseData.lowerRuns.findSome? fun run => run.shift? c.toNat with
    | some shift => Char.ofNat (c.toNat + shift).toNat
    | none => c

/-- Whether the first character that case rules do not skip is a cased one. -/
def reachesCased (s : List Char) : Bool :=
  match s.dropWhile CaseData.isIgnorable with
  | [] => false
  | c :: _ => CaseData.isCased c

/-- The capital letter sigma, whose lower-case form depends on its place in the word. -/
def capitalSigma : Char := 'Σ'

/-- Lowers one character that stands between `before`, given in reverse, and `after`. A sigma is
final when a cased character comes before it and none after it. -/
def lowerAt (before : List Char) (c : Char) (after : List Char) : List Char :=
  if c = capitalSigma then
    if reachesCased before && !reachesCased after then ['ς'] else ['σ']
  else if c = 'İ' then ['i', '\u0307']
  else [lowerSimple c]

/-- Lowers a text whose already passed part is `before`, given in reverse. -/
def lowerFrom (before : List Char) : List Char → List Char
  | [] => []
  | c :: after => lowerAt before c after ++ lowerFrom (c :: before) after

/-- The lower-case form of a text by the full Unicode mapping: one character at a time, except that
the capital I with a dot becomes two characters and that a capital sigma at the end of a word takes
its final form. -/
def lower (s : List Char) : List Char :=
  lowerFrom [] s

end Chars

def Text.lower (s : String) : String :=
  String.ofList (Chars.lower s.toList)

end TouchScript
