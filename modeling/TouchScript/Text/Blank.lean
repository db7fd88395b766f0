namespace TouchScript

namespace Chars

/-- Decides the Unicode property `White_Space`. The list is closed: the zero-width space, the
byte-order mark and the ASCII separators `0x1C` to `0x1F` are not in it. -/
def isBlank (c : Char) : Bool :=
  let n := c.toNat
  (0x09 ≤ n && n ≤ 0x0D) || n == 0x20 || n == 0x85 || n == 0xA0 || n == 0x1680 ||
    (0x2000 ≤ n && n ≤ 0x200A) || n == 0x2028 || n == 0x2029 || n == 0x202F || n == 0x205F ||
    n == 0x3000

def trimStart (s : List Char) : List Char :=
  s.dropWhile isBlank

def trimEnd (s : List Char) : List Char :=
  (s.reverse.dropWhile isBlank).reverse

def trim (s : List Char) : List Char :=
  trimEnd (trimStart s)

/-- The maximal blank-free runs of a text, in order. -/
def words (s : List Char) : List (List Char) :=
  (s.splitOnP isBlank).filter fun w => !w.isEmpty

/-- The pieces of a text between line feeds. A text that ends in a line feed has an empty last
piece. -/
def lines (s : List Char) : List (List Char) :=
  s.splitOnP (· == '\n')

/-- The text before the first place where `mark` occurs and the text after it. -/
def cutAt (mark : List Char) : List Char → Option (List Char × List Char)
  | [] => if mark.isEmpty then some ([], []) else none
  | c :: s =>
    if mark.isPrefixOf (c :: s) then some ([], (c :: s).drop mark.length)
    else (cutAt mark s).map fun (before, after) => (c :: before, after)

end Chars

namespace Text

def trim (s : String) : String :=
  String.ofList (Chars.trim s.toList)

def words (s : String) : List String :=
  (Chars.words s.toList).map String.ofList

/-- The pieces of a text between single spaces; two neighbouring spaces have an empty piece
between them, so `unspaced` followed by joining with a space gives the text back. -/
def unspaced (s : String) : List String :=
  (s.toList.splitOnP (· == ' ')).map String.ofList

/-- The pieces of `texts` with `separator` between neighbours. -/
def join (separator : String) (texts : List String) : String :=
  String.ofList (List.intercalate separator.toList (texts.map String.toList))

/-- The two trimmed sides of the first occurrence of `mark`. -/
def sidesOf (mark s : String) : Option (String × String) :=
  (Chars.cutAt mark.toList s.toList).map fun (before, after) =>
    (String.ofList (Chars.trim before), String.ofList (Chars.trim after))

end Text

end TouchScript
