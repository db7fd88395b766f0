import TouchScript.Proofs.Script.Render

namespace TouchScript

/-- Can stand at the beginning of a line as its keyword. -/
def IsKeyword (s : String) : Prop :=
  Text.IsToken s ∧ Text.lower s = s ∧ s.toList.head? ≠ some '#'

instance (s : String) : Decidable (IsKeyword s) :=
  inferInstanceAs (Decidable (_ ∧ _))

/-- The word of a gesture. -/
def Gesture.word {δ : Type} : Gesture δ → LeafWord
  | .tap _ => .click
  | .threeFingerTap _ => .threeFingerTap
  | .longPress _ _ => .longPress
  | .swipe _ _ _ => .swipe
  | .zoom _ _ _ .inward => .zoomIn
  | .zoom _ _ _ .outward => .zoomOut
  | .multiTap _ => .multiTap
  | .path _ _ => .swipePath

/-- The word of an instruction. -/
def Instruction.word : Instruction → LeafWord
  | .gesture g => g.word
  | .delay _ => .delay
  | .stop => .stop
  | .set _ _ => .set
  | .get _ => .get
  | .label _ => .label
  | .goto _ => .goto
  | .gotoIf _ _ => .gotoIf
  | .log _ => .log
  | .overlay _ => .logs
  | .logVariable _ => .logVar
  | .find _ => .find
  | .call _ => .call

/-- An instruction is written with the name of its word. -/
theorem Instruction.keyword_eq (instruction : Instruction) :
    instruction.keyword = instruction.word.name := by
  cases instruction with
  | gesture g =>
    cases g with
    | zoom p distance d direction => cases direction <;> rfl
    | _ => rfl
  | _ => rfl

/-- Every word is read back from its name. -/
theorem LeafWord.ofName?_name (word : LeafWord) : ofName? word.name = some word := by
  cases word <;> decide

/-- Every name of a word can begin a line: it is a word in lower case and no comment. -/
theorem LeafWord.isKeyword_name (word : LeafWord) : IsKeyword word.name := by
  cases word <;> decide

/-- A line that begins with the name of a word is a leaf. -/
theorem LeafWord.role_name (word : LeafWord) : Role.ofKeyword word.name = .leaf := by
  cases word <;> decide

/-- Every kind of block has an opener that can begin a line. -/
theorem BlockKind.isKeyword_opener (kind : BlockKind) : IsKeyword kind.opener := by
  cases kind <;> decide

/-- A line that begins with the opener of a kind opens a block of this kind. -/
theorem BlockKind.role_opener (kind : BlockKind) : Role.ofKeyword kind.opener = .opens kind := by
  cases kind <;> decide

/-- Every kind of block has closers that can begin a line. -/
theorem BlockKind.isKeyword_closer (kind : BlockKind) (own : Bool) : IsKeyword (kind.closer own) := by
  cases kind <;> cases own <;> decide

/-- The line at the end of a block closes a block of this kind, whether terminators are strict or
not. -/
theorem BlockKind.role_closer (kind : BlockKind) (own strict : Bool) :
    ∃ terminator, Role.ofKeyword (kind.closer own) = .closes terminator ∧
      ParseState.mayClose strict terminator kind = true := by
  cases own with
  | true => exact ⟨some kind, by cases kind <;> decide, by cases kind <;> cases strict <;> decide⟩
  | false => exact ⟨none, by cases kind <;> decide, by cases kind <;> cases strict <;> decide⟩

namespace Line

variable {keyword : String} {arguments : List String} (number : Nat)

/-- Behind the keyword of a line there is nothing, or a space and the arguments. -/
theorem toList_header (keyword : String) (arguments : List String) :
    ∃ after, (Text.join " " (keyword :: arguments)).toList = keyword.toList ++ after ∧
      (∀ c ∈ after.head?, Chars.isBlank c = true) ∧
      (after = [] ∧ arguments = [] ∨ arguments ≠ [] ∧ after = ' ' :: (Text.join " " arguments).toList) := by
  cases arguments with
  | nil => exact ⟨[], by simp, by simp, .inl ⟨rfl, rfl⟩⟩
  | cons argument more =>
    refine ⟨' ' :: (Text.join " " (argument :: more)).toList, Text.toList_join_cons _ _ _ _, ?_,
      .inr ⟨by simp, rfl⟩⟩
    rintro c ⟨⟩
    rfl

/-- The keyword of a line is read back. -/
theorem keyword_join (hkeyword : IsKeyword keyword) (arguments : List String) :
    Line.keyword ⟨number, Text.join " " (keyword :: arguments)⟩ = keyword := by
  obtain ⟨⟨_, hword⟩, hlower, _⟩ := hkeyword
  obtain ⟨after, htext, hblank, _⟩ := toList_header keyword arguments
  rw [Line.keyword, htext, (Chars.takeWhile_word hword hblank).1]
  exact hlower

/-- What stands behind the keyword is read back as one text. -/
theorem rest_join (hkeyword : IsKeyword keyword) (harguments : ∀ s ∈ arguments, Text.IsInline s) :
    Line.rest ⟨number, Text.join " " (keyword :: arguments)⟩ = Text.join " " arguments := by
  obtain ⟨⟨_, hword⟩, _⟩ := hkeyword
  obtain ⟨after, htext, hblank, hafter⟩ := toList_header keyword arguments
  rw [Line.rest, htext, (Chars.takeWhile_word hword hblank).2]
  rcases hafter with ⟨rfl, rfl⟩ | ⟨hne, rfl⟩
  · rfl
  · rw [Chars.trim_cons_of_blank rfl]
    exact (Text.isInline_join hne harguments).2.1

/-- The words of the arguments are read back. -/
theorem arguments_join (hkeyword : IsKeyword keyword) (harguments : ∀ s ∈ arguments, Text.IsInline s) :
    Line.arguments ⟨number, Text.join " " (keyword :: arguments)⟩ = arguments.flatMap Text.words := by
  rw [Line.arguments, rest_join number hkeyword harguments, Text.words_join]

/-- Can be read back as a line: it fits in a line and is no comment. -/
def IsPlain (text : String) : Prop :=
  Text.IsInline text ∧ text.toList.head? ≠ some '#'

/-- A keyword with arguments that can stand in a line is a line. -/
theorem isPlain_join (hkeyword : IsKeyword keyword) (harguments : ∀ s ∈ arguments, Text.IsInline s) :
    IsPlain (Text.join " " (keyword :: arguments)) := by
  obtain ⟨htoken, _, hcomment⟩ := hkeyword
  constructor
  · refine Text.isInline_join (by simp) ?_
    rintro s (_ | ⟨_, hs⟩)
    · exact htoken.isInline
    · exact harguments s hs
  · obtain ⟨after, htext, _, _⟩ := toList_header keyword arguments
    obtain ⟨c, rest, hfirst⟩ := List.exists_cons_of_ne_nil (htoken.isInline.trimmed.ne_nil)
    rw [hfirst] at hcomment
    rw [htext, hfirst]
    exact hcomment

/-- A text that can be a line is read as it is. -/
theorem ofRaw?_of_isPlain {text : String} (hplain : IsPlain text) :
    ofRaw? number text.toList = some ⟨number, text⟩ := by
  obtain ⟨hinline, hcomment⟩ := hplain
  have htrimmed := hinline.trimmed
  unfold ofRaw?
  rw [htrimmed.trim_eq]
  split
  next hnil => exact absurd hnil htrimmed.ne_nil
  next rest hrest =>
    rw [hrest] at hcomment
    exact absurd rfl hcomment
  next => rw [String.ofList_toList]

/-- Texts as lines with consecutive numbers. -/
def numbered (first : Nat) : List String → List Line
  | [] => []
  | text :: rest => ⟨first, text⟩ :: numbered (first + 1) rest

/-- Lines are numbered on where others end. -/
theorem numbered_append (first : Nat) (texts more : List String) :
    numbered first (texts ++ more) = numbered first texts ++ numbered (first + texts.length) more := by
  induction texts generalizing first with
  | nil => rfl
  | cons text rest ih =>
    rw [List.cons_append, numbered, numbered, ih, List.length_cons, Nat.add_right_comm, Nat.add_assoc]
    rfl

/-- Texts that can be lines are read as such, none of them left out. -/
theorem filterMap_ofRaw? {texts : List String} (hplain : ∀ text ∈ texts, IsPlain text) (first : Nat) :
    ((texts.map String.toList).zipIdx first).filterMap (fun (raw, number) => ofRaw? number raw) =
      numbered first texts := by
  induction texts generalizing first with
  | nil => rfl
  | cons text rest ih =>
    have hfirst := ofRaw?_of_isPlain first (hplain text (.head _))
    simp only [List.map_cons, List.zipIdx_cons, List.filterMap_cons, hfirst]
    rw [ih fun t ht => hplain t (.tail _ ht), numbered]

/-- A source made of plain lines is read line by line. -/
theorem ofSource_join {texts : List String} (hplain : ∀ text ∈ texts, IsPlain text) :
    ofSource (Text.join "\n" texts) = numbered 1 texts := by
  by_cases hne : texts = []
  · subst hne
    rfl
  · rw [ofSource, Text.lines_join hne fun text htext => (hplain text htext).1.2.2]
    exact filterMap_ofRaw? hplain 1

end Line

/-- An operator is written as a word. -/
theorem Operator.isToken_symbol (op : Operator) : Text.IsToken op.symbol := by
  cases op <;> decide

/-- An operator is read back from its symbol. -/
theorem Operator.ofSymbol?_symbol (op : Operator) : ofSymbol? op.symbol = some op := by
  cases op <;> decide

/-- The operands of a gesture are words. -/
theorem Gesture.isToken_operands (g : Gesture Number) : ∀ word ∈ g.operands, Text.IsToken word := by
  have hpoints (points : List Point) : ∀ word ∈ points.flatMap Point.words, Text.IsToken word := by
    intro word hword
    obtain ⟨p, _, hp⟩ := List.mem_flatMap.mp hword
    simp only [Point.words, List.mem_cons, List.not_mem_nil, or_false] at hp
    rcases hp with rfl | rfl
    · exact Text.isToken_ofInt _
    · exact Text.isToken_ofInt _
  cases g with
  | multiTap points => exact hpoints points
  | path points d =>
    rintro word (_ | ⟨_, hword⟩)
    · exact Text.isToken_ofInt _
    · exact hpoints points word hword
  | _ => simp [operands, Point.words, Text.isToken_ofInt]

namespace Instruction

/-- A number in range is read back, whatever the field is called. -/
@[simp]
theorem readInt_ofInt {lo hi : Int} (field : String) (n : Ranged lo hi) :
    readInt field (Text.ofInt n.val) = .ok n := by
  simp [readInt, Text.signed?_ofInt]

/-- A point is read back from its coordinates. -/
@[simp]
theorem readPoint_ofInt (p : Point) :
    readPoint (Text.ofInt p.x.val) (Text.ofInt p.y.val) = .ok p := by
  simp only [readPoint, readInt_ofInt]
  rfl

/-- Points are read back from their coordinates, pair by pair. -/
theorem readPoints_words (points : List Point) :
    readPoints (points.flatMap Point.words) = some (.ok points) := by
  induction points with
  | nil => rfl
  | cons p rest ih =>
    rw [List.flatMap_cons]
    simp only [Point.words, List.cons_append, List.nil_append, readPoints] at ih ⊢
    rw [ih, readPoint_ofInt]
    rfl

/-- A gesture is read back from its operands, if it has as many points as its keyword wants. -/
theorem ofWords_gesture {g : Gesture Number} (hformed : (gesture g).WellFormed) :
    ofWords g.word g.operands = .ok (.gesture g) := by
  cases g with
  | zoom p distance d direction =>
    cases direction with
    | inward =>
      simp only [Gesture.word, Gesture.operands, Point.words, List.cons_append, List.nil_append, ofWords,
        ofWords.zoom, readPoint_ofInt, readInt_ofInt]
      rfl
    | outward =>
      simp only [Gesture.word, Gesture.operands, Point.words, List.cons_append, List.nil_append, ofWords,
        ofWords.zoom, readPoint_ofInt, readInt_ofInt]
      rfl
  | multiTap points =>
    have hread := readPoints_words points
    cases points with
    | nil => exact absurd hformed (Nat.not_succ_le_zero 0)
    | cons p rest =>
      simp only [List.flatMap_cons, Point.words, List.cons_append, List.nil_append] at hread
      simp only [Gesture.word, Gesture.operands, List.flatMap_cons, Point.words, List.cons_append,
        List.nil_append, ofWords, hread]
      rfl
  | path points d =>
    have hread := readPoints_words points
    match points, hformed with
    | p :: q :: rest, _ =>
      simp only [List.flatMap_cons, Point.words, List.cons_append, List.nil_append] at hread
      simp only [Gesture.word, Gesture.operands, List.flatMap_cons, Point.words, List.cons_append,
        List.nil_append, ofWords, hread, readInt_ofInt]
      rfl
  | _ =>
    simp only [Gesture.word, Gesture.operands, Point.words, List.cons_append, List.nil_append, ofWords,
      readPoint_ofInt, readInt_ofInt]
    rfl

/-- What is written after a keyword are phrases. -/
theorem isPhrase_operands {instruction : Instruction} (hformed : instruction.WellFormed) :
    ∀ s ∈ instruction.operands, Text.IsPhrase s := by
  cases instruction with
  | gesture g => exact fun s hs => (g.isToken_operands s hs).isPhrase
  | delay ms => simpa [operands] using (Text.isToken_ofInt _).isPhrase
  | stop => simp [operands]
  | set name source =>
    cases source with
    | literal token =>
      obtain ⟨hname, htoken⟩ := hformed
      simp [operands, hname.isPhrase, htoken.isPhrase]
    | binary lhs op rhs =>
      obtain ⟨hname, hlhs, hrhs⟩ := hformed
      simp [operands, hname.isPhrase, hlhs.isPhrase, op.isToken_symbol.isPhrase, hrhs.isPhrase]
  | gotoIf condition target =>
    obtain ⟨hcondition, htarget⟩ := hformed
    simp [operands, hcondition, htarget.isPhrase]
  | log message | overlay message => simpa [operands, WellFormed] using hformed
  | find lookup =>
    obtain ⟨hpath, hx, hy, hconfidence⟩ := hformed
    intro s hs
    simp only [operands, List.cons_append, List.nil_append, List.mem_cons, Option.mem_toList] at hs
    rcases hs with rfl | rfl | rfl | hs
    · exact hpath.isPhrase
    · exact hx.isPhrase
    · exact hy.isPhrase
    · exact (hconfidence s hs).isPhrase
  | get name | label name | goto name | logVariable name | call name =>
    simpa [operands] using Text.IsToken.isPhrase hformed

/-- The words after a keyword make up the instruction again. -/
theorem read_operands {instruction : Instruction} (hformed : instruction.WellFormed) :
    read instruction.keyword (instruction.operands.flatMap Text.words) = .ok instruction := by
  rw [keyword_eq, read, LeafWord.ofName?_name]
  dsimp only
  cases instruction with
  | gesture g =>
    rw [operands, Text.flatMap_words g.isToken_operands]
    exact ofWords_gesture hformed
  | delay ms =>
    rw [operands, Text.flatMap_words (by simp [Text.isToken_ofInt])]
    simp only [word, ofWords, readInt_ofInt]
    rfl
  | stop => rfl
  | set name source =>
    cases source with
    | literal token =>
      rw [operands, Text.flatMap_words (by simpa [WellFormed] using hformed)]
      rfl
    | binary lhs op rhs =>
      obtain ⟨hname, hlhs, hrhs⟩ := hformed
      rw [operands, Text.flatMap_words (by simp [hname, hlhs, op.isToken_symbol, hrhs])]
      simp only [word, ofWords, op.ofSymbol?_symbol]
  | gotoIf condition target =>
    obtain ⟨hcondition, htarget⟩ := hformed
    obtain ⟨hne, hjoin⟩ := hcondition.join_words
    obtain ⟨first, others, hwords⟩ := List.exists_cons_of_ne_nil hne
    have hargs : (gotoIf condition target).operands.flatMap Text.words = (first :: others) ++ [target] := by
      simp [operands, hwords, htarget.words_eq]
    rw [hwords] at hjoin
    rw [hargs]
    simp only [word, ofWords, List.getLast?_concat, List.dropLast_concat, hjoin]
  | log message | overlay message =>
    obtain ⟨hne, hjoin⟩ := Text.IsPhrase.join_words hformed
    obtain ⟨first, others, hwords⟩ := List.exists_cons_of_ne_nil hne
    rw [hwords] at hjoin
    simp [operands, word, ofWords, hwords, hjoin]
  | find lookup =>
    obtain ⟨path, xVar, yVar, confidenceVar⟩ := lookup
    obtain ⟨hpath, hx, hy, hconfidence⟩ := hformed
    cases confidenceVar with
    | none => simp [operands, word, ofWords, hpath.words_eq, hx.words_eq, hy.words_eq]
    | some name =>
      simp [operands, word, ofWords, hpath.words_eq, hx.words_eq, hy.words_eq,
        (hconfidence name rfl).words_eq]
  | get name | label name | goto name | logVariable name | call name =>
    rw [operands, Text.flatMap_words (by simpa [WellFormed] using hformed)]
    rfl

end Instruction

end TouchScript
