import TokenLint.Proofs.Token.Returns
import TokenLint.Report

/-!
# Where a Reader Looks for a Token

White space that begins with line ends is looked for behind them, and everything
else where it starts. The line ends are counted by the line feeds that the text
begins with, and so the count stops at the first carriage return. In a source
without carriage returns it gives the place where the line ends are over. In the
longer form of that source, with a carriage return in front of each line feed,
it gives nothing: every token is looked for where it starts.

The tokens of the two forms agree in everything else. So the places that a
reader is sent to are the same in both, but for white space that begins with a
line end; `Token.ReadsAs` has both sides of this, for the place as it is and for
the report that it goes into.

## Main definitions

* `Token.OpensWithBreak`: White space that begins with a line end.
* `Token.ReadsAs`: How a token of the longer text compares.

## Theorems

* `Token.leadingBreaks_eq_zero_iff`: Texts that begin with something else.
* `Token.leadingBreaks_withReturns`: Longer line ends are not counted.
* `Token.StandsAt.openLine_breaks`: The place where the line ends are over.
* `Token.StandsAt.readsAs`: One token and its longer form.
* `effectivePlaces_withReturns`: The tokens of a source and of its longer form.
* `effectivePlaces_differ`: A place that depends on the line endings.
-/

namespace TokenLint

namespace Token

/-- White space that begins with a line end. -/
def OpensWithBreak (t : Token) : Prop := t.kind = .whitespace ∧ t.text.head? = some '\n'

instance (t : Token) : Decidable t.OpensWithBreak := inferInstanceAs (Decidable (_ ∧ _))

theorem leadingBreaks_eq_zero_iff (t : Token) :
    t.leadingBreaks = 0 ↔ t.text.head? ≠ some '\n' := by
  rw [leadingBreaks, List.length_eq_zero_iff]
  cases t.text with
  | nil => exact ⟨fun _ h => (nomatch h), fun _ => rfl⟩
  | cons c text =>
      rw [List.head?_cons, ne_eq, Option.some.injEq, List.takeWhile_cons]
      by_cases hc : c = '\n'
      · rw [if_pos (beq_iff_eq.mpr hc)]
        exact ⟨fun h => (nomatch h), fun h => absurd hc h⟩
      · rw [if_neg fun h => hc (beq_iff_eq.mp h)]
        exact ⟨fun _ => hc, fun _ => rfl⟩

/-- In front of the first line feed of the longer text there is a carriage return. -/
theorem leadingBreaks_withReturns (t : Token) : t.withReturns.leadingBreaks = 0 := by
  rw [leadingBreaks_eq_zero_iff]
  change (Text.withReturns t.text).head? ≠ some '\n'
  cases t.text with
  | nil => exact fun h => nomatch h
  | cons c text =>
      by_cases hc : c = '\n'
      · rw [hc, Text.withReturns_newline, List.head?_cons]
        decide
      · rw [Text.withReturns_cons c text hc, List.head?_cons, ne_eq, Option.some.injEq]
        exact hc

/-- A token that begins with no line feed is looked for where it starts. -/
theorem effective_of_leadingBreaks {t : Token} (h : t.leadingBreaks = 0) :
    t.effectiveLine = t.line ∧ t.effectiveColumn = t.column := by
  constructor
  · rw [effectiveLine, h]
    split
    · exact Int.add_zero t.line
    · rfl
  · refine if_neg fun hsort => ?_
    rw [h] at hsort
    rw [Bool.and_eq_true, decide_eq_true_eq] at hsort
    exact Nat.lt_irrefl 0 hsort.2

/-- So is a token that is no white space. -/
theorem effective_of_kind {t : Token} (h : t.kind ≠ .whitespace) :
    t.effectiveLine = t.line ∧ t.effectiveColumn = t.column := by
  have hsort : t.isWhitespace = false := decide_eq_false h
  constructor
  · rw [effectiveLine, hsort]
    rfl
  · rw [effectiveColumn, hsort]
    rfl

/-- Unless it begins with a line end, a token is looked for where it starts. -/
theorem effective_of_not_opensWithBreak {t : Token} (h : ¬ t.OpensWithBreak) :
    t.effectiveLine = t.line ∧ t.effectiveColumn = t.column := by
  by_cases hkind : t.kind = .whitespace
  · exact effective_of_leadingBreaks (t.leadingBreaks_eq_zero_iff.mpr fun hfeed => h ⟨hkind, hfeed⟩)
  · exact effective_of_kind hkind

/-- White space that begins with line ends is looked for that many lines further on. -/
theorem effective_of_opensWithBreak {t : Token} (h : t.OpensWithBreak) :
    t.effectiveLine = t.line + t.leadingBreaks ∧ t.effectiveColumn = 1 ∧ 0 < t.leadingBreaks := by
  have hsort : t.isWhitespace = true := decide_eq_true h.1
  have hpos : 0 < t.leadingBreaks :=
    Nat.pos_of_ne_zero fun hzero => t.leadingBreaks_eq_zero_iff.mp hzero h.2
  refine ⟨if_pos hsort, if_pos ?_, hpos⟩
  rw [Bool.and_eq_true, decide_eq_true_eq]
  exact ⟨hsort, hpos⟩

/-- The line where the line ends are over that a token begins with. -/
theorem StandsAt.openLine_breaks {source before : List Char} {t : Token}
    (h : t.StandsAt source before) :
    Text.openLine (before ++ t.text.takeWhile (· == '\n')) = t.line + t.leadingBreaks := by
  have hcount : Text.breakCount (t.text.takeWhile (· == '\n')) = t.leadingBreaks := by
    rw [Text.breakCount, leadingBreaks, List.count_eq_length]
    intro c hc
    have hall : (t.text.takeWhile (· == '\n')).all (· == '\n') = true := List.all_takeWhile
    exact (beq_iff_eq.mp (List.all_eq_true.mp hall c hc)).symm
  rw [Text.openLine_append, hcount, h.line]

/-- How a token of the longer text compares with the one that it comes of, which stands
    behind a text. It is of the same kind and at the same place. A reader looks for it where
    it starts, and that is where the other one is looked for if and only if this does not
    begin with a line end. If it does, it is looked for where its line ends are over. -/
structure ReadsAs (before : List Char) (t t' : Token) : Prop where
  kind : t'.kind = t.kind
  line : t'.line = t.line
  column : t'.column = t.column
  plain : t'.effectiveLine = t'.line ∧ t'.effectiveColumn = t'.column
  same : (t'.effectiveLine = t.effectiveLine ∧ t'.effectiveColumn = t.effectiveColumn) ↔
    ¬ t.OpensWithBreak
  opened : t.OpensWithBreak →
    t.effectiveLine = Text.openLine (before ++ t.text.takeWhile (· == '\n')) ∧ t.effectiveColumn = 1
  report : ∀ (sink : Sink) (message : String) (severity : Severity),
    sink.tokenDiagnostic t' message severity = sink.tokenDiagnostic t message severity ↔
      ¬ t.OpensWithBreak

/-- A token and its longer form. -/
theorem StandsAt.readsAs {source before : List Char} {t : Token} (h : t.StandsAt source before) :
    ReadsAs before t t.withReturns := by
  have hplain := effective_of_leadingBreaks t.leadingBreaks_withReturns
  have hsame : (t.withReturns.effectiveLine = t.effectiveLine ∧
      t.withReturns.effectiveColumn = t.effectiveColumn) ↔ ¬ t.OpensWithBreak := by
    rw [hplain.1, hplain.2]
    constructor
    · rintro ⟨hline, _⟩ hopens
      rcases effective_of_opensWithBreak hopens with ⟨heffective, _, hpos⟩
      have hline' : t.line = t.effectiveLine := hline
      omega
    · intro hplain'
      rcases effective_of_not_opensWithBreak hplain' with ⟨hline, hcolumn⟩
      exact ⟨hline.symm, hcolumn.symm⟩
  refine ⟨rfl, rfl, rfl, hplain, hsame, fun hopens => ?_, fun sink message severity => ?_⟩
  · rcases effective_of_opensWithBreak hopens with ⟨hline, hcolumn, _⟩
    exact ⟨by rw [hline, h.openLine_breaks], hcolumn⟩
  · rw [← hsame, Sink.tokenDiagnostic, Sink.tokenDiagnostic, Sink.diagnostic, Sink.diagnostic,
      Diagnostic.mk.injEq]
    simp only [true_and, and_true]

end Token

/-- The tokens of a source without carriage returns, and those of its longer form, when the
    outputs of the lexer correspond. There are as many of them, and one by one they are of
    the same kind and at the same place. A reader looks for both at one place, and a report
    on both is the same, if and only if the first is no white space that begins with a line
    end. -/
theorem effectivePlaces_withReturns (path : Path) (source : List Char)
    (lexemes lexemes' : List Lexeme) (hreturn : '\r' ∉ source)
    (h : List.Forall₂ (Lexeme.Corresponds source) lexemes lexemes') :
    ∃ s s', tokenize path source ⟨lexemes, none⟩ = .ok s ∧
      tokenize path (Text.withReturns source) ⟨lexemes', none⟩ = .ok s' ∧ s'.size = s.size ∧
      ∀ (i : Nat) (t t' : Token), s.tokens[i]? = some t → s'.tokens[i]? = some t' →
        Token.ReadsAs ((s.tokens.take i).flatMap (·.text)) t t' := by
  have hplaced := tokenize_placed path source lexemes
  refine ⟨_, _, tokenize_ok path source lexemes,
    tokenize_withReturns path source lexemes lexemes' hreturn h, ?_, fun i t t' ht ht' => ?_⟩
  · simp only [TokenStream.size, TokenStream.ofTokens, List.length_map]
  · simp only [TokenStream.ofTokens] at ht ht' ⊢
    rw [List.getElem?_map, ht, Option.map_some, Option.some.injEq] at ht'
    rcases List.getElem?_eq_some_iff.mp ht with ⟨hi, hget⟩
    -- The token stands behind the text of those in front of it.
    rw [← List.take_append_drop i (tokensFrom path source .origin 0 (spansOf source lexemes)),
      List.drop_eq_getElem_cons hi, hget] at hplaced
    have hstands := hplaced.of_append.standsAt
    rw [List.nil_append] at hstands
    rw [← ht']
    exact hstands.readsAs

/-- What a lexer makes of a bracket with two line ends in it, when lines end with line
    feeds. -/
def openBracket : List Lexeme :=
  [⟨.op, ['('], ⟨1, 0⟩, ⟨1, 1⟩⟩, ⟨.nl, ['\n'], ⟨1, 1⟩, ⟨1, 2⟩⟩, ⟨.nl, ['\n'], ⟨2, 0⟩, ⟨2, 1⟩⟩,
    ⟨.name, ['x'], ⟨3, 0⟩, ⟨3, 1⟩⟩, ⟨.op, [')'], ⟨3, 1⟩, ⟨3, 2⟩⟩,
    ⟨.newline, ['\n'], ⟨3, 2⟩, ⟨3, 3⟩⟩, ⟨.endMarker, [], ⟨4, 0⟩, ⟨4, 0⟩⟩]

/-- The same when there is a carriage return in front of each line feed. -/
def openBracketReturns : List Lexeme :=
  [⟨.op, ['('], ⟨1, 0⟩, ⟨1, 1⟩⟩, ⟨.nl, ['\r', '\n'], ⟨1, 1⟩, ⟨1, 3⟩⟩,
    ⟨.nl, ['\r', '\n'], ⟨2, 0⟩, ⟨2, 2⟩⟩, ⟨.name, ['x'], ⟨3, 0⟩, ⟨3, 1⟩⟩,
    ⟨.op, [')'], ⟨3, 1⟩, ⟨3, 2⟩⟩, ⟨.newline, ['\r', '\n'], ⟨3, 2⟩, ⟨3, 4⟩⟩,
    ⟨.endMarker, [], ⟨4, 0⟩, ⟨4, 0⟩⟩]

theorem effectivePlaces_withReturns_bracket :
    '\r' ∉ "(\n\nx)\n".toList ∧
      List.Forall₂ (Lexeme.Corresponds "(\n\nx)\n".toList) openBracket openBracketReturns ∧
      ∃ s s', tokenize .here "(\n\nx)\n".toList ⟨openBracket, none⟩ = .ok s ∧
        tokenize .here (Text.withReturns "(\n\nx)\n".toList) ⟨openBracketReturns, none⟩ = .ok s' ∧
        s'.size = s.size ∧
        ∀ (i : Nat) (t t' : Token), s.tokens[i]? = some t → s'.tokens[i]? = some t' →
          Token.ReadsAs ((s.tokens.take i).flatMap (·.text)) t t' := by
  have hreturn : '\r' ∉ "(\n\nx)\n".toList := by decide
  have hcorresponds : List.Forall₂ (Lexeme.Corresponds "(\n\nx)\n".toList) openBracket
      openBracketReturns := by decide
  exact ⟨hreturn, hcorresponds,
    effectivePlaces_withReturns .here _ openBracket openBracketReturns hreturn hcorresponds⟩

/-- The line ends in the bracket are looked for behind them in one form, and where they
    start in the other, although the lexers agree on everything. -/
theorem effectivePlaces_differ :
    List.Forall₂ (Lexeme.Corresponds "(\n\nx)\n".toList) openBracket openBracketReturns ∧
      InOrder "(\n\nx)\n".toList 0 openBracket ∧
      InOrder "(\r\n\r\nx)\r\n".toList 0 openBracketReturns ∧
      ∃ s s', tokenize .here "(\n\nx)\n".toList ⟨openBracket, none⟩ = .ok s ∧
        tokenize .here "(\r\n\r\nx)\r\n".toList ⟨openBracketReturns, none⟩ = .ok s' ∧
        (s.tokens[1]?.map fun t => (t.kind, t.line, t.column, t.effectiveLine, t.effectiveColumn)) =
          some (.whitespace, 1, 2, 3, 1) ∧
        (s'.tokens[1]?.map fun t => (t.kind, t.line, t.column, t.effectiveLine, t.effectiveColumn)) =
          some (.whitespace, 1, 2, 1, 2) :=
  ⟨by decide, by decide, by decide, _, _, tokenize_ok .here _ openBracket,
    tokenize_ok .here _ openBracketReturns, by decide, by decide⟩

end TokenLint
