import TouchScript.Proofs.Value.Text

namespace TouchScript

namespace Text

/-- A text that can be compared: not empty, without blanks at its ends, and without the characters that
comparisons are written with. There may be blanks inside. -/
def IsOperand (s : String) : Prop :=
  s ≠ "" ∧ trim s = s ∧ ∀ c ∈ ['=', '!', '<', '>'], c ∉ s.toList

instance (s : String) : Decidable (IsOperand s) :=
  decidable_of_iff (s ≠ "" ∧ trim s = s ∧ ['=', '!', '<', '>'].all fun c => decide (c ∉ s.toList)) (by
    simp [IsOperand])

/-- Nothing but blanks. -/
def IsSpacing (s : String) : Prop :=
  ∀ c ∈ s.toList, Chars.isBlank c = true

instance (s : String) : Decidable (IsSpacing s) :=
  decidable_of_iff (s.toList.all Chars.isBlank) List.all_eq_true

variable {s : String}

/-- An operand has no blanks at its ends. -/
theorem IsOperand.trimmed (h : IsOperand s) : Chars.Trimmed s.toList := by
  obtain ⟨hne, htrim, _⟩ := h
  refine .of_trim_eq (by simpa using hne) ?_
  have hchars := congrArg String.toList htrim
  simpa [trim] using hchars

/-- In an operand no character stands that comparisons are written with. -/
theorem IsOperand.count_eq (h : IsOperand s) {c : Char} (hc : c ∈ ['=', '!', '<', '>']) :
    s.toList.count c = 0 :=
  List.count_eq_zero.mpr (h.2.2 c hc)

/-- In a gap there are only blanks. -/
theorem IsSpacing.count_eq (h : IsSpacing s) {c : Char} (hc : Chars.isBlank c = false) :
    s.toList.count c = 0 := by
  refine List.count_eq_zero.mpr fun hmem => ?_
  rw [h c hmem] at hc
  cases hc

end Text

namespace Comparison

/-- Comparisons are not written with blanks. -/
theorem not_isBlank_of_mem {c : Char} (hc : c ∈ ['=', '!', '<', '>']) : Chars.isBlank c = false := by
  simp only [List.mem_cons, List.not_mem_nil, or_false] at hc
  rcases hc with rfl | rfl | rfl | rfl <;> rfl

variable {a b u v : String}

/-- The characters of comparisons are those of the one comparison that is written between operands. -/
theorem count_between (ha : Text.IsOperand a) (hb : Text.IsOperand b) (hu : Text.IsSpacing u)
    (hv : Text.IsSpacing v) (op : Comparison) {c : Char} (hc : c ∈ ['=', '!', '<', '>']) :
    (a ++ u ++ op.symbol ++ v ++ b).toList.count c = op.symbol.toList.count c := by
  have hblank := not_isBlank_of_mem hc
  simp [ha.count_eq hc, hb.count_eq hc, hu.count_eq hblank, hv.count_eq hblank]

/-- A comparison that has some character more often than the one between the operands is not found. -/
theorem sidesOf_between_eq_none (ha : Text.IsOperand a) (hb : Text.IsOperand b) (hu : Text.IsSpacing u)
    (hv : Text.IsSpacing v) (op other : Comparison) {c : Char} (hc : c ∈ ['=', '!', '<', '>'])
    (hcount : op.symbol.toList.count c < other.symbol.toList.count c) :
    Text.sidesOf other.symbol (a ++ u ++ op.symbol ++ v ++ b) = none := by
  have hne : other.symbol.toList ≠ [] := by simpa using other.isToken_symbol.1
  rw [← count_between ha hb hu hv op hc] at hcount
  rw [Text.sidesOf, Chars.cutAt_eq_none hne (Chars.not_infix_of_count_lt c hcount)]
  rfl

/-- The comparison between two operands is found where it stands. -/
theorem sidesOf_between (ha : Text.IsOperand a) (hb : Text.IsOperand b) (hu : Text.IsSpacing u)
    (hv : Text.IsSpacing v) (op : Comparison) :
    Text.sidesOf op.symbol (a ++ u ++ op.symbol ++ v ++ b) = some (a, b) := by
  have hmark : ∃ first ∈ ['=', '!', '<', '>'], ∃ rest, op.symbol.toList = first :: rest := by
    cases op <;> simp [symbol]
  obtain ⟨first, hfirst, rest, hsymbol⟩ := hmark
  have hbefore : first ∉ a.toList ++ u.toList := by
    refine List.count_eq_zero.mp ?_
    rw [List.count_append, ha.count_eq hfirst, hu.count_eq (not_isBlank_of_mem hfirst)]
  have htext : (a ++ u ++ op.symbol ++ v ++ b).toList =
      (a.toList ++ u.toList) ++ (op.symbol.toList ++ (v.toList ++ b.toList)) := by
    simp
  rw [Text.sidesOf, htext, hsymbol, Chars.cutAt_append_of_not_mem hbefore,
    Chars.cutAt_append (List.cons_ne_nil first rest)]
  simp [ha.trimmed.trim_append hu, Chars.trim_append_of_blank hv, hb.trimmed.trim_eq]

/-- The comparisons that are searched for earlier have some character more often. -/
theorem all_eq_append (op : Comparison) : ∃ earlier later, all = earlier ++ op :: later ∧
    ∀ other ∈ earlier, ∃ c ∈ ['=', '!', '<', '>'],
      op.symbol.toList.count c < other.symbol.toList.count c := by
  cases op with
  | equal => exact ⟨[], _, rfl, by simp [symbol]⟩
  | unequal => exact ⟨[.equal], _, rfl, by simp [symbol]⟩
  | atLeast => exact ⟨[.equal, .unequal], _, rfl, by simp [symbol]⟩
  | atMost => exact ⟨[.equal, .unequal, .atLeast], _, rfl, by simp [symbol]⟩
  | above => exact ⟨[.equal, .unequal, .atLeast, .atMost], _, rfl, by simp [symbol]⟩
  | below => exact ⟨[.equal, .unequal, .atLeast, .atMost, .above], _, rfl, by simp [symbol]⟩

/-- The search ends with the comparison between the operands. -/
theorem findSome?_between (ha : Text.IsOperand a) (hb : Text.IsOperand b) (hu : Text.IsSpacing u)
    (hv : Text.IsSpacing v) (op : Comparison) :
    (all.findSome? fun other =>
      (Text.sidesOf other.symbol (a ++ u ++ op.symbol ++ v ++ b)).map fun p => (other, p)) =
        some (op, a, b) := by
  obtain ⟨earlier, later, hall, hearlier⟩ := op.all_eq_append
  have hnone : (earlier.findSome? fun other =>
      (Text.sidesOf other.symbol (a ++ u ++ op.symbol ++ v ++ b)).map fun p => (other, p)) = none := by
    refine List.findSome?_eq_none_iff.mpr fun other hother => ?_
    obtain ⟨c, hc, hcount⟩ := hearlier other hother
    rw [sidesOf_between_eq_none ha hb hu hv op other hc hcount]
    rfl
  rw [hall, List.findSome?_append, hnone, List.findSome?_cons, sidesOf_between ha hb hu hv op]
  rfl

end Comparison

namespace Condition

variable {a b u v : String}

/-- A comparison of two operands is read as such, whatever blanks are around it. -/
theorem read_between (ha : Text.IsOperand a) (hb : Text.IsOperand b) (hu : Text.IsSpacing u)
    (hv : Text.IsSpacing v) (op : Comparison) :
    read (a ++ u ++ op.symbol ++ v ++ b) = .ok (.compare op a b) := by
  have htrim : Text.trim (a ++ u ++ op.symbol ++ v ++ b) = a ++ u ++ op.symbol ++ v ++ b := by
    have htext : (a ++ u ++ op.symbol ++ v ++ b).toList =
        a.toList ++ ((u.toList ++ op.symbol.toList ++ v.toList) ++ b.toList) := by
      simp
    rw [Text.trim, htext, (ha.trimmed.append hb.trimmed _).trim_eq, ← htext, String.ofList_toList]
  have hne : a ++ u ++ op.symbol ++ v ++ b ≠ "" := by
    intro hempty
    have hchars := congrArg String.toList hempty
    simp [ha.1] at hchars
  have hfound := Comparison.findSome?_between ha hb hu hv op
  unfold read
  rw [htrim]
  dsimp only
  rw [hfound]
  simp [hne, ha.1, hb.1]

/-- A comparison of two operands is decided by the values of the operands. -/
theorem decide?_between (ctx : Context) (ha : Text.IsOperand a) (hb : Text.IsOperand b)
    (hu : Text.IsSpacing u) (hv : Text.IsSpacing v) (op : Comparison) :
    decide? ctx (a ++ u ++ op.symbol ++ v ++ b) = .ok (op.holds (ctx.resolve a) (ctx.resolve b)) := by
  rw [decide?, read_between ha hb hu hv op]
  rfl

/-- What comes out for two operands with each of the six comparisons between them. Equality is that of
the texts and order is that of the numbers, so three of the comparisons are the opposites of the others. -/
structure Compares (ctx : Context) (a b : String) (result : String → Except ConditionError Bool) :
    Prop where
  equal : result "==" = .ok (decide ((ctx.resolve a).toText = (ctx.resolve b).toText))
  unequal : result "!=" = .ok (decide ((ctx.resolve a).toText ≠ (ctx.resolve b).toText))
  atLeast : result ">=" = .ok (decide ((ctx.resolve a).toNumber.val ≥ (ctx.resolve b).toNumber.val))
  atMost : result "<=" = .ok (decide ((ctx.resolve a).toNumber.val ≤ (ctx.resolve b).toNumber.val))
  above : result ">" = .ok (decide ((ctx.resolve a).toNumber.val > (ctx.resolve b).toNumber.val))
  below : result "<" = .ok (decide ((ctx.resolve a).toNumber.val < (ctx.resolve b).toNumber.val))
  not_equal : result "!=" = (result "==").map not
  not_atLeast : result "<" = (result ">=").map not
  not_atMost : result ">" = (result "<=").map not
  atLeast_iff : result ">=" = .ok true ↔
    result ">" = .ok true ∨ (ctx.resolve a).toNumber = (ctx.resolve b).toNumber

/-- Between two operands each of the six comparisons is the one that is found, and decides as it
should, with any gaps around it. -/
theorem compares_between (ctx : Context) (ha : Text.IsOperand a) (hb : Text.IsOperand b)
    (hu : Text.IsSpacing u) (hv : Text.IsSpacing v) :
    Compares ctx a b fun op => decide? ctx (a ++ u ++ op ++ v ++ b) := by
  have hdecide := decide?_between ctx ha hb hu hv
  have hequal := hdecide .equal
  have hunequal := hdecide .unequal
  have hatLeast := hdecide .atLeast
  have hatMost := hdecide .atMost
  have habove := hdecide .above
  have hbelow := hdecide .below
  simp only [Comparison.symbol, Comparison.holds] at hequal hunequal hatLeast hatMost habove hbelow
  exact
    { equal := by rw [hequal, Bool.beq_eq_decide_eq]
      unequal := by rw [hunequal, bne, Bool.beq_eq_decide_eq, decide_not]
      atLeast := hatLeast
      atMost := hatMost
      above := habove
      below := hbelow
      not_equal := by rw [hunequal, hequal]; rfl
      not_atLeast := by rw [hbelow, hatLeast]; simp [Except.map, ← decide_not]
      not_atMost := by rw [habove, hatMost]; simp [Except.map, ← decide_not]
      atLeast_iff := by
        rw [hatLeast, habove]
        simp [Ranged.ext_iff]
        omega }

/-- Comparisons of two operands mean what they say, whatever blanks are around the comparison. Of any
text whatsoever it is settled by the text alone whether it is a condition, and if not what is wrong with
it; a text that is no condition counts as false in every context. -/
theorem comparisons_mean :
    (∀ (ctx : Context) (a u v b : String), Text.IsOperand a → Text.IsOperand b → Text.IsSpacing u →
      Text.IsSpacing v → Compares ctx a b fun op => decide? ctx (a ++ u ++ op ++ v ++ b)) ∧
    ∀ s : String,
      (∃ e, ∀ ctx : Context, decide? ctx s = .error e ∧ isTrue ctx s = false) ∨
      ∀ ctx : Context, ∃ holds, decide? ctx s = .ok holds ∧ isTrue ctx s = holds := by
  refine ⟨fun ctx a u v b ha hb hu hv => compares_between ctx ha hb hu hv, fun s => ?_⟩
  unfold isTrue decide?
  cases read s with
  | error e => exact .inl ⟨e, fun ctx => ⟨rfl, rfl⟩⟩
  | ok condition => exact .inr fun ctx => ⟨condition.holds ctx, rfl, rfl⟩

/-- A text with leading zeros is as great as its number and still not equal to it. -/
theorem paddedSeven_compared :
    let ctx := Context.empty.setVariable "code" (.text "007")
    Text.IsOperand "$code" ∧ Text.IsOperand "7" ∧ Text.IsSpacing "" ∧ Text.IsSpacing " \t" ∧
      decide? ctx "$code>= \t7" = .ok true ∧ decide? ctx "$code> \t7" = .ok false ∧
      decide? ctx "$code== \t7" = .ok false ∧ decide? ctx "$code!= \t7" = .ok true := by
  intro ctx
  have ha : Text.IsOperand "$code" := by decide
  have hb : Text.IsOperand "7" := by decide
  have hu : Text.IsSpacing "" := by decide
  have hv : Text.IsSpacing " \t" := by decide
  have hcompares := comparisons_mean.1 ctx "$code" "" " \t" "7" ha hb hu hv
  refine ⟨ha, hb, hu, hv, ?_, ?_, ?_, ?_⟩
  · exact hcompares.atLeast.trans (congrArg Except.ok (by decide))
  · exact hcompares.above.trans (congrArg Except.ok (by decide))
  · exact hcompares.equal.trans (congrArg Except.ok (by decide))
  · exact hcompares.unequal.trans (congrArg Except.ok (by decide))

end Condition

end TouchScript
