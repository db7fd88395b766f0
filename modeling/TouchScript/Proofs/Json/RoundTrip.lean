import TouchScript.Json.Reader
import TouchScript.Proofs.Json.Number
import TouchScript.Proofs.Json.Quoted

namespace TouchScript.Json

mutual

/-- All numbers in a value are written as they should be. -/
def Formed : Json → Prop
  | .number n => n.Formed
  | .array items => ItemsFormed items
  | .object fields => FieldsFormed fields
  | .null | .bool _ | .string _ | .garbled => True

/-- All numbers in the elements are written as they should be. -/
def ItemsFormed : List Json → Prop
  | [] => True
  | value :: rest => Formed value ∧ ItemsFormed rest

/-- All numbers in the fields are written as they should be. -/
def FieldsFormed : List (Option String × Json) → Prop
  | [] => True
  | (_, value) :: rest => Formed value ∧ FieldsFormed rest

end

mutual

/-- The tokens of a value. -/
def tokens : Json → List Token
  | .null => [.scalar .null]
  | .bool b => [.scalar (.bool b)]
  | .number n => [.scalar (.number n)]
  | .string s => [.text (some s)]
  | .garbled => [.text none]
  | .array items => .openArray :: (itemTokens items ++ [.closeArray])
  | .object fields => .openObject :: (fieldTokens fields ++ [.closeObject])

/-- The tokens of the elements of an array. -/
def itemTokens : List Json → List Token
  | [] => []
  | [value] => tokens value
  | value :: next :: rest => tokens value ++ .comma :: itemTokens (next :: rest)

/-- The tokens of the fields of an object. -/
def fieldTokens : List (Option String × Json) → List Token
  | [] => []
  | [(key, value)] => .text key :: .colon :: tokens value
  | (key, value) :: next :: rest =>
    .text key :: .colon :: (tokens value ++ .comma :: fieldTokens (next :: rest))

end

namespace LexState

/-- The tokens of a text that goes on from here. -/
def lex? (state : LexState) (s : List Char) : Option (List Token) :=
  (s.foldlM feed state).bind finish

/-- The tokens of a text are those found with its first character, and then those of the rest. -/
theorem lex?_cons (state : LexState) (c : Char) (s : List Char) :
    state.lex? (c :: s) = (state.feed c).bind fun next => next.lex? s := by
  rw [lex?, List.foldlM_cons]
  cases state.feed c <;> rfl

/-- The tokens of two texts in a row are found in the first and then in the second. -/
theorem lex?_append (state : LexState) (s t : List Char) :
    state.lex? (s ++ t) = (s.foldlM feed state).bind fun next => next.lex? t := by
  rw [lex?, List.foldlM_append]
  cases s.foldlM feed state <;> rfl

variable (read : List Token)

/-- Ends a word where it stands: before nothing, or before a character that is no part of it. -/
theorem lex?_endWord (word : List Char) {rest : List Char} (hrest : ∀ c ∈ rest.head?, endsWord c = true) :
    lex? ⟨.word word, read⟩ rest =
      (wordToken? word.reverse).bind fun token => lex? ⟨.gap, token :: read⟩ rest := by
  cases rest with
  | nil => cases hword : wordToken? word.reverse <;> simp [lex?, finish, hword]
  | cons c rest =>
    have hend : endsWord c = true := hrest c rfl
    simp only [lex?_cons, feed, hend, if_true]
    cases wordToken? word.reverse <;> rfl

/-- A run of characters that do not end a word is one word. -/
theorem lex?_word {word rest : List Char} (hne : word ≠ []) (hword : ∀ c ∈ word, endsWord c = false)
    (hrest : ∀ c ∈ rest.head?, endsWord c = true) :
    lex? ⟨.gap, read⟩ (word ++ rest) =
      (wordToken? word).bind fun token => lex? ⟨.gap, token :: read⟩ rest := by
  obtain ⟨first, more, rfl⟩ := List.exists_cons_of_ne_nil hne
  obtain ⟨hfirst, hmore⟩ := List.forall_mem_cons.mp hword
  have hgrow (done : List Char) :
      more.foldlM feed ⟨.word done, read⟩ = some ⟨.word (more.reverse ++ done), read⟩ := by
    clear hne hword
    induction more generalizing done with
    | nil => rfl
    | cons c more ih =>
      obtain ⟨hc, hmore⟩ := List.forall_mem_cons.mp hmore
      have hfeed : feed ⟨.word done, read⟩ c = some ⟨.word (c :: done), read⟩ := by
        simp only [feed, hc, Bool.false_eq_true, if_false]
      rw [List.foldlM_cons, hfeed, Option.bind_eq_bind, Option.bind_some, ih hmore, List.reverse_cons,
        List.append_assoc]
      rfl
  have hstart : feed ⟨.gap, read⟩ first = some ⟨.word [first], read⟩ := by
    simp only [endsWord, Bool.or_eq_false_iff, beq_eq_false_iff_ne, Option.isSome_eq_false_iff,
      Option.isNone_iff_eq_none] at hfirst
    simp [feed, start, hfirst]
  rw [List.cons_append, lex?_cons, hstart, Option.bind_some, lex?_append, hgrow, Option.bind_some,
    lex?_endWord _ _ hrest, List.reverse_append, List.reverse_reverse]
  rfl

/-- A quoted text is one token, with the text itself or, for a key that is no text, without one. -/
theorem lex?_quoted (key : Option String) (rest : List Char) :
    lex? ⟨.gap, read⟩ (quoted key ++ rest) = lex? ⟨.gap, .text key :: read⟩ rest := by
  cases key with
  | none => rfl
  | some s =>
    have hend : feed ⟨.quoted ((Escape.escape s.toList).reverse ++ []) false, read⟩ '"' =
        some ⟨.gap, .text (some s) :: read⟩ := by
      rw [List.append_nil]
      simp only [feed, if_true, List.reverse_reverse, textToken?_escape, String.ofList_toList, Option.map_some]
    have hopen : feed ⟨.gap, read⟩ '"' = some ⟨.quoted [] false, read⟩ := rfl
    rw [quoted, List.append_assoc, List.cons_append, List.cons_append, List.nil_append, lex?_cons, hopen,
      Option.bind_some, lex?_append, feed_escape, Option.bind_some, lex?_cons, hend, Option.bind_some]

/-- No character of a number ends a word, so a number is one word. -/
theorem endsWord_of_mem_write {n : NumberText} (h : n.Formed) : ∀ c ∈ n.write, endsWord c = false := by
  intro c hc
  rcases NumberText.mem_write h c hc with hdigit | hmark
  · have hrange : 48 ≤ c.toNat ∧ c.toNat ≤ 57 := Char.isDigit_iff_toNat.mp hdigit
    have hne (d : Char) (hd : d.toNat < 48 ∨ 57 < d.toNat) : c ≠ d := by
      rintro rfl
      omega
    simp [endsWord, isGap, punctuation?, hne]
  · simp only [List.mem_cons, List.not_mem_nil, or_false] at hmark
    rcases hmark with rfl | rfl | rfl | rfl <;> rfl

/-- The literals have letters in them that no number has. -/
theorem write_ne {n : NumberText} (h : n.Formed) {c : Char} {word : List Char} (hc : c ∈ word)
    (hletter : ¬(c.isDigit = true ∨ c ∈ ['-', '+', '.', 'e'])) : n.write ≠ word := by
  rintro rfl
  exact hletter (NumberText.mem_write h c hc)

/-- The word of a number is read as that number. -/
theorem wordToken?_write {n : NumberText} (h : n.Formed) :
    wordToken? n.write = some (.scalar (.number n)) := by
  have hnull : n.write ≠ ['n', 'u', 'l', 'l'] := write_ne h (c := 'n') (by simp) (by decide)
  have htrue : n.write ≠ ['t', 'r', 'u', 'e'] := write_ne h (c := 't') (by simp) (by decide)
  have hfalse : n.write ≠ ['f', 'a', 'l', 's', 'e'] := write_ne h (c := 'f') (by simp) (by decide)
  rw [wordToken?, if_neg hnull, if_neg htrue, if_neg hfalse, NumberText.read?_write h, Option.map_some]

mutual

/-- The text of a value is cut into its tokens. -/
theorem lex?_compact : ∀ (value : Json), value.Formed → ∀ (read : List Token) (rest : List Char),
    (∀ c ∈ rest.head?, endsWord c = true) →
      lex? ⟨.gap, read⟩ (compactChars value ++ rest) = lex? ⟨.gap, value.tokens.reverse ++ read⟩ rest
  | .null, _, read, _, hrest =>
    lex?_word read (by decide) (by simp [compactChars, endsWord, isGap, punctuation?]) hrest
  | .bool true, _, read, _, hrest =>
    lex?_word read (by decide) (by simp [compactChars, endsWord, isGap, punctuation?]) hrest
  | .bool false, _, read, _, hrest =>
    lex?_word read (by decide) (by simp [compactChars, endsWord, isGap, punctuation?]) hrest
  | .number n, h, read, _, hrest => by
    have hword := lex?_word read (NumberText.write_ne_nil h) (endsWord_of_mem_write h) hrest
    rw [wordToken?_write h] at hword
    exact hword
  | .string s, _, read, rest, _ => lex?_quoted read (some s) rest
  | .garbled, _, read, rest, _ => lex?_quoted read none rest
  | .array items, h, read, rest, _ => by
    rw [compactChars, List.append_assoc, List.cons_append]
    have hitems := lex?_compactItems items h (.openArray :: read) (']' :: rest) (by rintro c ⟨⟩; rfl)
    change lex? ⟨.gap, .openArray :: read⟩ (compactItems items ++ ']' :: rest) = _
    rw [hitems]
    change lex? ⟨.gap, .closeArray :: ((itemTokens items).reverse ++ .openArray :: read)⟩ rest = _
    rw [Json.tokens]
    simp
  | .object fields, h, read, rest, _ => by
    rw [compactChars, List.append_assoc, List.cons_append]
    have hfields := lex?_compactFields fields h (.openObject :: read) ('\x7d' :: rest)
      (by rintro c ⟨⟩; rfl)
    change lex? ⟨.gap, .openObject :: read⟩ (compactFields fields ++ '\x7d' :: rest) = _
    rw [hfields]
    change lex? ⟨.gap, .closeObject :: ((fieldTokens fields).reverse ++ .openObject :: read)⟩ rest = _
    rw [Json.tokens]
    simp

/-- The elements of an array have their own tokens with commas between them, whatever comes behind. -/
theorem lex?_compactItems : ∀ (items : List Json), ItemsFormed items →
    ∀ (read : List Token) (rest : List Char), (∀ c ∈ rest.head?, endsWord c = true) →
      lex? ⟨.gap, read⟩ (compactItems items ++ rest) = lex? ⟨.gap, (itemTokens items).reverse ++ read⟩ rest
  | [], _, _, _, _ => rfl
  | [value], h, read, _, hrest => lex?_compact value h.1 read _ hrest
  | value :: next :: more, h, read, rest, hrest => by
    have hvalue := lex?_compact value h.1 read (',' :: (compactItems (next :: more) ++ rest))
      (by rintro c ⟨⟩; rfl)
    have hmore := lex?_compactItems (next :: more) h.2 (.comma :: (value.tokens.reverse ++ read)) rest hrest
    rw [compactItems, List.append_assoc, List.cons_append, hvalue]
    change lex? ⟨.gap, .comma :: (value.tokens.reverse ++ read)⟩ (compactItems (next :: more) ++ rest) = _
    rw [hmore]
    simp [itemTokens]

/-- The fields of an object have their own tokens with commas between them, whatever comes behind. -/
theorem lex?_compactFields : ∀ (fields : List (Option String × Json)), FieldsFormed fields →
    ∀ (read : List Token) (rest : List Char), (∀ c ∈ rest.head?, endsWord c = true) →
      lex? ⟨.gap, read⟩ (compactFields fields ++ rest) = lex? ⟨.gap, (fieldTokens fields).reverse ++ read⟩ rest
  | [], _, _, _, _ => rfl
  | [(key, value)], h, read, rest, hrest => by
    have hvalue := lex?_compact value h.1 (.colon :: .text key :: read) rest hrest
    rw [compactFields, List.append_assoc, List.cons_append, lex?_quoted]
    change lex? ⟨.gap, .colon :: .text key :: read⟩ (compactChars value ++ rest) = _
    rw [hvalue]
    simp [fieldTokens]
  | (key, value) :: next :: more, h, read, rest, hrest => by
    have hvalue := lex?_compact value h.1 (.colon :: .text key :: read)
      (',' :: (compactFields (next :: more) ++ rest)) (by rintro c ⟨⟩; rfl)
    have hmore := lex?_compactFields (next :: more) h.2
      (.comma :: (value.tokens.reverse ++ .colon :: .text key :: read)) rest hrest
    rw [compactFields, List.append_assoc, List.append_assoc, List.cons_append, List.cons_append, lex?_quoted]
    change lex? ⟨.gap, .colon :: .text key :: read⟩
      (compactChars value ++ ',' :: (compactFields (next :: more) ++ rest)) = _
    rw [hvalue]
    change lex? ⟨.gap, .comma :: (value.tokens.reverse ++ .colon :: .text key :: read)⟩
      (compactFields (next :: more) ++ rest) = _
    rw [hmore]
    simp [fieldTokens]

end

end LexState

namespace ReadState

/-- A key is followed by a colon. -/
theorem feed_key (mayClose : Bool) (key : Option String) (fields : List (Option String × Json))
    (stack : List Opened) :
    feed ⟨.key mayClose, .object fields :: stack⟩ (.text key) = some ⟨.colon key, .object fields :: stack⟩ := by
  cases mayClose <;> rfl

mutual

/-- A reader that is fed with the tokens of a value completes the value. -/
theorem feed_tokens : ∀ (value : Json) (mayClose : Bool) (stack : List Opened),
    value.tokens.foldlM feed ⟨.value mayClose, stack⟩ = complete value stack
  | .null, mayClose, stack | .bool _, mayClose, stack | .number _, mayClose, stack
  | .string _, mayClose, stack | .garbled, mayClose, stack => by
    cases mayClose <;> simp [tokens, feed, startValue]
  | .array items, mayClose, stack => by
    have hopen : feed ⟨.value mayClose, stack⟩ .openArray = some ⟨.value true, .array [] :: stack⟩ := by
      cases mayClose <;> rfl
    rw [tokens, List.foldlM_cons, hopen, Option.bind_eq_bind, Option.bind_some, List.foldlM_append]
    cases items with
    | nil => simp [itemTokens, feed, endArray]
    | cons value rest =>
      rw [feed_itemTokens (value :: rest) (List.cons_ne_nil _ _) true [] stack]
      simp [feed, endArray]
  | .object fields, mayClose, stack => by
    have hopen : feed ⟨.value mayClose, stack⟩ .openObject = some ⟨.key true, .object [] :: stack⟩ := by
      cases mayClose <;> rfl
    rw [tokens, List.foldlM_cons, hopen, Option.bind_eq_bind, Option.bind_some, List.foldlM_append]
    cases fields with
    | nil => simp [fieldTokens, feed, endObject]
    | cons field rest =>
      rw [feed_fieldTokens (field :: rest) (List.cons_ne_nil _ _) true [] stack]
      simp [feed, endObject]

/-- Fed with the tokens of elements, a reader inside of an array adds them to it. -/
theorem feed_itemTokens : ∀ (items : List Json), items ≠ [] → ∀ (mayClose : Bool) (done : List Json)
    (stack : List Opened),
    (itemTokens items).foldlM feed ⟨.value mayClose, .array done :: stack⟩ =
      some ⟨.separator, .array (items.reverse ++ done) :: stack⟩
  | [], h, _, _, _ => absurd rfl h
  | [value], _, mayClose, done, stack => by
    rw [itemTokens, feed_tokens value mayClose]
    rfl
  | value :: next :: rest, _, mayClose, done, stack => by
    rw [itemTokens, List.foldlM_append, feed_tokens value mayClose, complete, Option.bind_eq_bind,
      Option.bind_some, List.foldlM_cons]
    change (itemTokens (next :: rest)).foldlM feed ⟨.value false, .array (value :: done) :: stack⟩ = _
    rw [feed_itemTokens (next :: rest) (List.cons_ne_nil _ _)]
    simp

/-- Fed with the tokens of fields, a reader inside of an object adds them to it. -/
theorem feed_fieldTokens : ∀ (fields : List (Option String × Json)), fields ≠ [] → ∀ (mayClose : Bool)
    (done : List (Option String × Json)) (stack : List Opened),
    (fieldTokens fields).foldlM feed ⟨.key mayClose, .object done :: stack⟩ =
      some ⟨.separator, .object (fields.reverse ++ done) :: stack⟩
  | [], h, _, _, _ => absurd rfl h
  | [(key, value)], _, mayClose, done, stack => by
    rw [fieldTokens, List.foldlM_cons, feed_key, Option.bind_eq_bind, Option.bind_some, List.foldlM_cons]
    change value.tokens.foldlM feed ⟨.value false, .field done key :: stack⟩ = _
    rw [feed_tokens value]
    rfl
  | (key, value) :: next :: rest, _, mayClose, done, stack => by
    rw [fieldTokens, List.foldlM_cons, feed_key, Option.bind_eq_bind, Option.bind_some, List.foldlM_cons]
    change (value.tokens ++ .comma :: fieldTokens (next :: rest)).foldlM feed
      ⟨.value false, .field done key :: stack⟩ = _
    rw [List.foldlM_append, feed_tokens value, complete, Option.bind_eq_bind, Option.bind_some,
      List.foldlM_cons]
    change (fieldTokens (next :: rest)).foldlM feed ⟨.key false, .object ((key, value) :: done) :: stack⟩ = _
    rw [feed_fieldTokens (next :: rest) (List.cons_ne_nil _ _)]
    simp

end

end ReadState

/-- A value whose numbers are written as they should be is read back from its text. -/
theorem read?_compact {value : Json} (h : value.Formed) : read? value.compact = some value := by
  have htokens : tokens? value.compact.toList = some value.tokens := by
    have hlex := LexState.lex?_compact value h [] [] (by simp)
    rw [List.append_nil, List.append_nil] at hlex
    rw [compact, String.toList_ofList, tokens?, ← LexState.lex?, hlex]
    simp [LexState.lex?, LexState.finish]
  rw [read?, htokens, Option.bind_some, ReadState.start, ReadState.feed_tokens]
  rfl

/-- A quoted text is on one line. -/
theorem not_mem_quoted (key : Option String) : '\n' ∉ quoted key := by
  cases key with
  | none => decide
  | some s => simp [quoted, Escape.not_mem_escape]

mutual

/-- The text of a value is a single line. -/
theorem not_mem_compactChars : ∀ value : Json, value.Formed → '\n' ∉ compactChars value
  | .null, _ => by decide
  | .bool true, _ => by decide
  | .bool false, _ => by decide
  | .number n, h => by
    intro hmem
    rcases NumberText.mem_write h '\n' hmem with hdigit | hmark
    · cases hdigit
    · revert hmark
      decide
  | .string s, _ => not_mem_quoted (some s)
  | .garbled, _ => not_mem_quoted none
  | .array items, h => by simp [compactChars, not_mem_compactItems items h]
  | .object fields, h => by simp [compactChars, not_mem_compactFields fields h]

/-- Elements are on one line. -/
theorem not_mem_compactItems : ∀ items : List Json, ItemsFormed items → '\n' ∉ compactItems items
  | [], _ => by simp [compactItems]
  | [value], h => not_mem_compactChars value h.1
  | value :: next :: rest, h => by
    simp [compactItems, not_mem_compactChars value h.1, not_mem_compactItems (next :: rest) h.2]

/-- Fields are on one line. -/
theorem not_mem_compactFields : ∀ fields : List (Option String × Json), FieldsFormed fields →
    '\n' ∉ compactFields fields
  | [], _ => by simp [compactFields]
  | [(key, value)], h => by
    simp [compactFields, not_mem_quoted key, not_mem_compactChars value h.1]
  | (key, value) :: next :: rest, h => by
    simp [compactFields, not_mem_quoted key, not_mem_compactChars value h.1,
      not_mem_compactFields (next :: rest) h.2]

end

end TouchScript.Json
