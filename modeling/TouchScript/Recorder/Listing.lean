import TouchScript.Recorder
import TouchScript.Text.Hidden

namespace TouchScript

namespace Chars

def codeEscape (c : Char) : List Char :=
  ['\\', 'u', '\x7b'] ++ Nat.toDigits 16 c.toNat ++ ['\x7d']

/-- One character of a listed text. -/
def listed (c : Char) : List Char :=
  if c = '\x00' then ['\\', '0']
  else if c = '\t' then ['\\', 't']
  else if c = '\r' then ['\\', 'r']
  else if c = '\n' then ['\\', 'n']
  else if c = '"' ∨ c = '\\' then ['\\', c]
  else if isHidden c then codeEscape c
  else [c]

end Chars

/-- A text in quotes with every character visible. -/
def Text.listed (s : String) : String :=
  String.ofList ('"' :: s.toList.flatMap Chars.listed ++ ['"'])

namespace Recorder

def listedFailures (r : Recorder) : String :=
  Text.join ", " (r.failures.map fun (name, message) =>
    s!"{Text.listed name}: {Text.listed message}")

/-- The recorder on one line, for diagnosis: how much it has noted and which failures it was given. -/
def listing (r : Recorder) : String :=
  let failures := s!"\x7b{r.listedFailures}\x7d"
  let counts := s!"records: {r.entries.size}, images: {r.images.length}"
  let writer := Text.listed "<Mutex<Option<BufWriter<File>>>>"
  s!"Recorder \x7b {counts}, failures: {failures}, writer: {writer} \x7d"

end Recorder

end TouchScript
