import TouchScript.Json.Token
import TouchScript.Json.Writer

namespace TouchScript.Json

namespace Escape

/-- The hexadecimal digits are read back. -/
theorem hexValue?_hexDigit : ∀ n < 16, hexValue? (hexDigit n) = some n := by
  decide

/-- A hexadecimal digit is neither a quote nor a backslash nor a line feed. -/
theorem hexDigit_plain : ∀ n < 16, hexDigit n ≠ '"' ∧ hexDigit n ≠ '\\' ∧ hexDigit n ≠ '\n' := by
  decide

/-- A character is written after a backslash by one letter or by its code, or it stands for itself. -/
theorem escapeChar_cases (c : Char) :
    (∃ e, escapeChar c = ['\\', e] ∧ shortEscape? e = some c ∧ e ≠ 'u' ∧ e ≠ '\n') ∨
    (c.toNat < 0x20 ∧
      escapeChar c = ['\\', 'u', '0', '0', hexDigit (c.toNat / 16), hexDigit (c.toNat % 16)]) ∨
    (escapeChar c = [c] ∧ c ≠ '"' ∧ c ≠ '\\' ∧ 0x20 ≤ c.toNat) := by
  have hshort (e : Char) (hwritten : escapeChar c = ['\\', e])
      (he : shortEscape? e = some c ∧ e ≠ 'u' ∧ e ≠ '\n') :
      ∃ e, escapeChar c = ['\\', e] ∧ shortEscape? e = some c ∧ e ≠ 'u' ∧ e ≠ '\n' :=
    ⟨e, hwritten, he⟩
  by_cases hquote : c = '"'
  · subst hquote
    exact .inl (hshort '"' rfl (by decide))
  by_cases hslash : c = '\\'
  · subst hslash
    exact .inl (hshort '\\' rfl (by decide))
  by_cases hback : c = '\x08'
  · subst hback
    exact .inl (hshort 'b' rfl (by decide))
  by_cases htab : c = '\t'
  · subst htab
    exact .inl (hshort 't' rfl (by decide))
  by_cases hfeed : c = '\n'
  · subst hfeed
    exact .inl (hshort 'n' rfl (by decide))
  by_cases hform : c = '\x0c'
  · subst hform
    exact .inl (hshort 'f' rfl (by decide))
  by_cases hreturn : c = '\r'
  · subst hreturn
    exact .inl (hshort 'r' rfl (by decide))
  unfold escapeChar
  rw [if_neg hquote, if_neg hslash, if_neg hback, if_neg htab, if_neg hfeed, if_neg hform, if_neg hreturn]
  by_cases hcontrol : c.toNat < 0x20
  · exact .inr (.inl ⟨hcontrol, if_pos hcontrol⟩)
  · exact .inr (.inr ⟨if_neg hcontrol, hquote, hslash, by omega⟩)

/-- A code below the surrogates is its own character. -/
theorem assemble?_code {n : Nat} (hn : n < 0x20) (units : List TextUnit) :
    assemble? (.code n :: units) = (assemble? units).map (Char.ofNat n :: ·) := by
  have hhigh : isHigh n = false := by simp [isHigh]; omega
  have hlow : isLow n = false := by simp [isLow]; omega
  cases units with
  | nil => simp [assemble?, hhigh, hlow]
  | cons unit rest => cases unit <;> simp [assemble?, hhigh, hlow]

/-- The code of a control character is read back from its four digits. -/
theorem codeOf?_hexDigits {n : Nat} (hn : n < 0x20) :
    codeOf? '0' '0' (hexDigit (n / 16)) (hexDigit (n % 16)) = some n := by
  have hhigh := hexValue?_hexDigit (n / 16) (by omega)
  have hlow := hexValue?_hexDigit (n % 16) (by omega)
  have hzero : hexValue? '0' = some 0 := by decide
  simp only [codeOf?, hhigh, hlow, hzero]
  exact congrArg some (by omega : ((0 * 16 + 0) * 16 + n / 16) * 16 + n % 16 = n)

/-- A written character is one unit, which stands for the character. -/
theorem exists_unit (c : Char) :
    ∃ unit, (∀ s, units? (escapeChar c ++ s) = (units? s).map (unit :: ·)) ∧
      ∀ units, assemble? (unit :: units) = (assemble? units).map (c :: ·) := by
  rcases escapeChar_cases c with
    ⟨e, hwritten, he, hu, _⟩ | ⟨hcontrol, hwritten⟩ | ⟨hwritten, _, hslash, hspace⟩
  · refine ⟨.plain c, fun s => ?_, fun _ => rfl⟩
    rw [hwritten, List.cons_append, List.cons_append, List.nil_append, units?, he, Option.bind_some]
    rintro _ _ _ _ _ rfl
    exact absurd rfl hu
  · refine ⟨.code c.toNat, fun s => ?_, fun units => ?_⟩
    · rw [hwritten]
      simp only [List.cons_append, List.nil_append, units?, codeOf?_hexDigits hcontrol, Option.bind_some]
    · rw [assemble?_code hcontrol, Char.ofNat_toNat]
  · refine ⟨.plain c, fun s => ?_, fun _ => rfl⟩
    rw [hwritten, List.singleton_append, units?, if_neg]
    · rintro (h | h)
      · exact hslash h
      · omega
    · exact fun _ _ _ _ _ h => absurd h hslash
    · exact fun _ _ h => absurd h hslash

/-- A written text is read back. -/
theorem bind_assemble?_escape (s : List Char) : (units? (escape s)).bind assemble? = some s := by
  induction s with
  | nil => rfl
  | cons c rest ih =>
    obtain ⟨unit, hunits, hassemble⟩ := exists_unit c
    obtain ⟨units, hrest, hread⟩ := Option.bind_eq_some_iff.mp ih
    rw [escape, List.flatMap_cons, hunits, ← escape, hrest, Option.map_some, Option.bind_some, hassemble,
      hread, Option.map_some]

/-- A line feed inside of quotes is escaped. -/
theorem not_mem_escape (s : List Char) : '\n' ∉ escape s := by
  intro hmem
  obtain ⟨c, _, hc⟩ := List.mem_flatMap.mp hmem
  rcases escapeChar_cases c with ⟨e, hwritten, _, _, hfeed⟩ | ⟨hcontrol, hwritten⟩ | ⟨hwritten, _, _, hspace⟩
  · rw [hwritten] at hc
    simp [hfeed.symm] at hc
  · have hhigh := (hexDigit_plain (c.toNat / 16) (by omega)).2.2
    have hlow := (hexDigit_plain (c.toNat % 16) (by omega)).2.2
    rw [hwritten] at hc
    simp [hhigh.symm, hlow.symm] at hc
  · rw [hwritten, List.mem_singleton] at hc
    subst hc
    exact absurd hspace (by decide)

end Escape

open Escape

/-- What is escaped is read back, whatever characters there are. -/
theorem textToken?_escape (s : List Char) :
    textToken? (escape s) = some (.text (some (String.ofList s))) := by
  obtain ⟨units, hunits, hread⟩ := Option.bind_eq_some_iff.mp (bind_assemble?_escape s)
  simp [textToken?, hunits, hread]

namespace LexState

/-- Inside of quotes a plain character is taken as it is. -/
theorem feed_quoted {c : Char} (hquote : c ≠ '"') (hslash : c ≠ '\\') (read : List Char)
    (tokens : List Token) :
    feed ⟨.quoted read false, tokens⟩ c = some ⟨.quoted (c :: read) false, tokens⟩ := by
  simp [feed, hquote, hslash]

/-- Between quotes, a written character does not end the text. -/
theorem feed_escapeChar (read : List Char) (tokens : List Token) (c : Char) :
    (escapeChar c).foldlM feed ⟨.quoted read false, tokens⟩ =
      some ⟨.quoted ((escapeChar c).reverse ++ read) false, tokens⟩ := by
  rcases escapeChar_cases c with ⟨e, hwritten, _⟩ | ⟨hcontrol, hwritten⟩ | ⟨hwritten, hquote, hslash, _⟩
  · rw [hwritten]
    rfl
  · have hhigh := hexDigit_plain (c.toNat / 16) (by omega)
    have hlow := hexDigit_plain (c.toNat % 16) (by omega)
    rw [hwritten]
    change [hexDigit (c.toNat / 16), hexDigit (c.toNat % 16)].foldlM feed
      ⟨.quoted ('0' :: '0' :: 'u' :: '\\' :: read) false, tokens⟩ = _
    rw [List.foldlM_cons, feed_quoted hhigh.1 hhigh.2.1, Option.bind_eq_bind, Option.bind_some,
      List.foldlM_cons, feed_quoted hlow.1 hlow.2.1]
    rfl
  · rw [hwritten, List.foldlM_cons, feed_quoted hquote hslash]
    rfl

/-- An escaped text does not end the quotes that it stands in. -/
theorem feed_escape (read : List Char) (tokens : List Token) (s : List Char) :
    (escape s).foldlM feed ⟨.quoted read false, tokens⟩ =
      some ⟨.quoted ((escape s).reverse ++ read) false, tokens⟩ := by
  induction s generalizing read with
  | nil => rfl
  | cons c rest ih =>
    rw [escape, List.flatMap_cons, List.foldlM_append, feed_escapeChar]
    change (escape rest).foldlM feed ⟨.quoted ((escapeChar c).reverse ++ read) false, tokens⟩ = _
    rw [ih, List.reverse_append, List.append_assoc]
    rfl

end LexState

end TouchScript.Json
