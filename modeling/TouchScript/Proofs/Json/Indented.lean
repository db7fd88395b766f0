import TouchScript.Proofs.Json.RoundTrip

namespace TouchScript.Json

namespace LexState

/-- White space after a token is passed over. -/
theorem lex?_gap {gap : List Char} (hgap : ∀ c ∈ gap, isGap c = true) (read : List Token) (rest : List Char) :
    lex? ⟨.gap, read⟩ (gap ++ rest) = lex? ⟨.gap, read⟩ rest := by
  induction gap with
  | nil => rfl
  | cons c more ih =>
    obtain ⟨hc, hmore⟩ := List.forall_mem_cons.mp hgap
    have hfeed : feed ⟨.gap, read⟩ c = some ⟨.gap, read⟩ := by
      rw [feed, start, if_pos hc]
    rw [List.cons_append, lex?_cons, hfeed, Option.bind_some, ih hmore]

/-- A line break and the indentation behind it are white space. -/
theorem isGap_newLine (depth : Nat) : ∀ c ∈ newLine depth, isGap c = true := by
  intro c hc
  rcases List.mem_cons.mp hc with rfl | hspace
  · rfl
  · rw [List.eq_of_mem_replicate hspace]
    rfl

/-- A line break ends a word. -/
theorem endsWord_newLine (depth : Nat) (rest : List Char) : ∀ c ∈ (newLine depth ++ rest).head?, endsWord c = true := by
  rintro c ⟨⟩
  rfl

mutual

/-- The indented text of a value is cut into its tokens. -/
theorem lex?_indented : ∀ (value : Json), value.Formed → ∀ (depth : Nat) (read : List Token) (rest : List Char),
    (∀ c ∈ rest.head?, endsWord c = true) →
      lex? ⟨.gap, read⟩ (indentedChars depth value ++ rest) = lex? ⟨.gap, value.tokens.reverse ++ read⟩ rest
  | .null, h, _, read, rest, hrest | .number _, h, _, read, rest, hrest | .string _, h, _, read, rest, hrest
  | .garbled, h, _, read, rest, hrest | .bool true, h, _, read, rest, hrest | .bool false, h, _, read, rest, hrest
  | .array [], h, _, read, rest, hrest | .object [], h, _, read, rest, hrest =>
    lex?_compact _ h read rest hrest
  | .array (value :: more), h, depth, read, rest, _ => by
    have hitems := lex?_indentedItems (value :: more) h (depth + 1) (.openArray :: read)
      (newLine depth ++ ']' :: rest) (endsWord_newLine depth _)
    have htext : indentedChars depth (.array (value :: more)) ++ rest =
        '[' :: (indentedItems (depth + 1) (value :: more) ++ (newLine depth ++ ']' :: rest)) := by
      simp [indentedChars]
    rw [htext]
    change lex? ⟨.gap, .openArray :: read⟩ _ = _
    rw [hitems, lex?_gap (isGap_newLine depth)]
    change lex? ⟨.gap, .closeArray :: ((itemTokens (value :: more)).reverse ++ .openArray :: read)⟩ rest = _
    rw [Json.tokens]
    simp
  | .object (field :: more), h, depth, read, rest, _ => by
    have hfields := lex?_indentedFields (field :: more) h (depth + 1) (.openObject :: read)
      (newLine depth ++ '\x7d' :: rest) (endsWord_newLine depth _)
    have htext : indentedChars depth (.object (field :: more)) ++ rest =
        '\x7b' :: (indentedFields (depth + 1) (field :: more) ++ (newLine depth ++ '\x7d' :: rest)) := by
      simp [indentedChars]
    rw [htext]
    change lex? ⟨.gap, .openObject :: read⟩ _ = _
    rw [hfields, lex?_gap (isGap_newLine depth)]
    change lex? ⟨.gap, .closeObject :: ((fieldTokens (field :: more)).reverse ++ .openObject :: read)⟩ rest = _
    rw [Json.tokens]
    simp

/-- Indented elements have the tokens of the elements, whatever comes behind them. -/
theorem lex?_indentedItems : ∀ (items : List Json), ItemsFormed items →
    ∀ (depth : Nat) (read : List Token) (rest : List Char), (∀ c ∈ rest.head?, endsWord c = true) →
      lex? ⟨.gap, read⟩ (indentedItems depth items ++ rest) = lex? ⟨.gap, (itemTokens items).reverse ++ read⟩ rest
  | [], _, _, _, _, _ => rfl
  | [value], h, depth, read, rest, hrest => by
    rw [indentedItems, List.append_assoc, lex?_gap (isGap_newLine depth)]
    exact lex?_indented value h.1 depth read rest hrest
  | value :: next :: more, h, depth, read, rest, hrest => by
    have hvalue := lex?_indented value h.1 depth read (',' :: (indentedItems depth (next :: more) ++ rest))
      (by rintro c ⟨⟩; rfl)
    have hmore := lex?_indentedItems (next :: more) h.2 depth (.comma :: (value.tokens.reverse ++ read)) rest hrest
    rw [indentedItems, List.append_assoc, List.append_assoc, List.cons_append, lex?_gap (isGap_newLine depth),
      hvalue]
    change lex? ⟨.gap, .comma :: (value.tokens.reverse ++ read)⟩ (indentedItems depth (next :: more) ++ rest) = _
    rw [hmore]
    simp [itemTokens]

/-- Indented fields have the tokens of the fields, whatever comes behind them. -/
theorem lex?_indentedFields : ∀ (fields : List (Option String × Json)), FieldsFormed fields →
    ∀ (depth : Nat) (read : List Token) (rest : List Char), (∀ c ∈ rest.head?, endsWord c = true) →
      lex? ⟨.gap, read⟩ (indentedFields depth fields ++ rest) =
        lex? ⟨.gap, (fieldTokens fields).reverse ++ read⟩ rest
  | [], _, _, _, _, _ => rfl
  | [(key, value)], h, depth, read, rest, hrest => by
    have hvalue := lex?_indented value h.1 depth (.colon :: .text key :: read) rest hrest
    rw [indentedFields, List.append_assoc, List.append_assoc, lex?_gap (isGap_newLine depth), lex?_quoted]
    change lex? ⟨.gap, .colon :: .text key :: read⟩ (indentedChars depth value ++ rest) = _
    rw [hvalue]
    simp [fieldTokens]
  | (key, value) :: next :: more, h, depth, read, rest, hrest => by
    have hvalue := lex?_indented value h.1 depth (.colon :: .text key :: read)
      (',' :: (indentedFields depth (next :: more) ++ rest)) (by rintro c ⟨⟩; rfl)
    have hmore := lex?_indentedFields (next :: more) h.2 depth
      (.comma :: (value.tokens.reverse ++ .colon :: .text key :: read)) rest hrest
    have htext : indentedFields depth ((key, value) :: next :: more) ++ rest =
        newLine depth ++ (quoted key ++ ':' :: ' ' ::
          (indentedChars depth value ++ ',' :: (indentedFields depth (next :: more) ++ rest))) := by
      simp [indentedFields]
    rw [htext, lex?_gap (isGap_newLine depth), lex?_quoted]
    change lex? ⟨.gap, .colon :: .text key :: read⟩
      (indentedChars depth value ++ ',' :: (indentedFields depth (next :: more) ++ rest)) = _
    rw [hvalue]
    change lex? ⟨.gap, .comma :: (value.tokens.reverse ++ .colon :: .text key :: read)⟩
      (indentedFields depth (next :: more) ++ rest) = _
    rw [hmore]
    simp [fieldTokens]

end

end LexState

/-- A value whose numbers are written as they should be is read back from its indented text. -/
theorem read?_indented {value : Json} (h : value.Formed) : read? value.indented = some value := by
  have htokens : tokens? value.indented.toList = some value.tokens := by
    have hlex := LexState.lex?_indented value h 0 [] [] (by simp)
    rw [List.append_nil, List.append_nil] at hlex
    rw [indented, String.toList_ofList, tokens?, ← LexState.lex?, hlex]
    simp [LexState.lex?, LexState.finish]
  rw [read?, htokens, Option.bind_some, ReadState.start, ReadState.feed_tokens]
  rfl

end TouchScript.Json
