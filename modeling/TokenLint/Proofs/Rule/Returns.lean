import TokenLint.Proofs.Token.Returns
import TokenLint.Rule.BlankLines
import TokenLint.Rule.LineLength
import TokenLint.Rule.Whitespace

/-!
# Rules and Line Endings

The rules that come with the program find the same in a source and in its
longer form, where a carriage return stands in front of each line feed. Each
rule meets these carriage returns in its own way. The rule against blanks at
the end of a line drops one from each line that is ended, the rule against long
lines drops them all, and the other two never look at the end of a line. The
lemmas here say of each rule what it finds in a token with the longer line
endings, and `tokenize_withReturns` says that there are no other changes.

Only the first of them needs to know that the source had no carriage return of
its own: it drops one, and another one would be left.

## Theorems

* `TrailingWhitespace.findingsFrom_withReturns`,
  `TabIndentation.finding?_withReturns`, `BlankLines.finding?_withReturns`,
  `LineLength.findings_withReturns`: What the rules find in longer tokens.
* `rules_findings_withReturns`: What the rules find in the longer text.
-/

namespace TokenLint

namespace Token

theorem hasBreak_withReturns (t : Token) : t.withReturns.hasBreak = t.hasBreak := by
  rw [Bool.eq_iff_iff, hasBreak_iff, hasBreak_iff]
  exact Text.mem_withReturns '\n' t.text (by decide)

theorem breakCount_withReturns (t : Token) : t.withReturns.breakCount = t.breakCount :=
  Text.breakCount_withReturns t.text

/-- A token without line feeds has no line ending to change. -/
theorem withReturns_of_not_hasBreak (t : Token) (h : ¬ t.hasBreak = true) :
    t.withReturns = t := by
  rw [hasBreak_iff] at h
  rw [withReturns, Text.withReturns_of_not_mem t.text h]

end Token

theorem dropReturn_of_not_mem (line : List Char) (h : '\r' ∉ line) :
    Text.dropReturn line = line :=
  if_neg fun hlast => h (List.mem_of_getLast? hlast)

theorem dropReturn_append (line : List Char) : Text.dropReturn (line ++ ['\r']) = line := by
  rw [Text.dropReturn, List.getLast?_concat, if_pos rfl, List.dropLast_concat]

namespace TrailingWhitespace

/-- The one carriage return behind a line that is ended is dropped. -/
theorem pieces_endWithReturn (severity : Severity) (ps : List (List Char)) :
    ∀ (pending : Pending) (line column : Int), (∀ p ∈ ps, '\r' ∉ p) →
      pieces severity pending line column (Text.endWithReturn ps) =
        pieces severity pending line column ps := by
  induction ps with
  | nil =>
      intro pending line column _
      rfl
  | cons piece rest ih =>
      intro pending line column h
      by_cases hrest : rest = []
      · rw [hrest]
        rfl
      · have hmore := ih none (line + 1) 1 fun p hp => h p (List.mem_cons_of_mem piece hp)
        rw [Text.endWithReturn_cons piece rest hrest,
          pieces_cons _ _ _ _ _ _ (Text.endWithReturn_ne_nil rest hrest),
          pieces_cons _ _ _ _ _ _ hrest, hmore, dropReturn_append,
          dropReturn_of_not_mem piece (h piece List.mem_cons_self)]

theorem findingsFrom_withReturns (severity : Severity) (tokens : List Token) :
    ∀ pending : Pending, (∀ t ∈ tokens, '\r' ∉ t.text) →
      findingsFrom severity pending (tokens.map (·.withReturns)) =
        findingsFrom severity pending tokens := by
  induction tokens with
  | nil =>
      intro pending _
      rfl
  | cons t tokens ih =>
      intro pending h
      have hlines : ∀ line ∈ Text.lines t.text, '\r' ∉ line := fun line hline hmem =>
        h t List.mem_cons_self (Text.mem_of_mem_lines hline '\r' hmem).1
      have htail : ∀ u ∈ tokens, '\r' ∉ u.text := fun u hu => h u (List.mem_cons_of_mem t hu)
      have hpieces : pieces severity pending t.withReturns.line t.withReturns.column
          (Text.lines t.withReturns.text) =
            pieces severity pending t.line t.column (Text.lines t.text) := by
        rw [Token.withReturns, Text.lines_withReturns, pieces_endWithReturn severity _ _ _ _ hlines]
      rw [List.map_cons, findingsFrom, findingsFrom, hpieces]
      simp only [ih _ htail]

end TrailingWhitespace

namespace TabIndentation

/-- What indents a line stands behind the line endings of a token. -/
theorem finding?_withReturns (severity : Severity) (t : Token) :
    finding? severity t.withReturns = finding? severity t := by
  by_cases hbreak : t.hasBreak = true
  · have hindentation : indentation t.withReturns = indentation t := by
      rw [indentation, indentation, t.hasBreak_withReturns, if_pos hbreak, if_pos hbreak,
        Token.trailingBlanks, Token.trailingBlanks, t.hasBreak_withReturns, if_pos hbreak,
        if_pos hbreak, t.breakCount_withReturns, Token.withReturns, Text.lastLine_withReturns]
    rw [finding?, finding?, hindentation]
    rfl
  · rw [t.withReturns_of_not_hasBreak hbreak]

end TabIndentation

namespace BlankLines

/-- The line feeds of a token are counted, whatever stands in front of them. -/
theorem finding?_withReturns (severity : Severity) (limit : Int) (t : Token) :
    finding? severity limit t.withReturns = finding? severity limit t := by
  rw [finding?, finding?, t.hasBreak_withReturns, t.breakCount_withReturns]
  rfl

end BlankLines

namespace LineLength

theorem width_append (piece : List Char) : width (piece ++ ['\r']) = width piece := by
  rw [width, width, Text.dropTrailing, Text.dropTrailing, List.reverse_append]
  rfl

/-- A carriage return behind a line that is ended has no width. -/
theorem wholeWidths_endWithReturn (ps : List (List Char)) :
    ∀ n : Int, wholeWidths n (Text.endWithReturn ps) = wholeWidths n ps := by
  induction ps with
  | nil =>
      intro n
      rfl
  | cons piece rest ih =>
      intro n
      by_cases hrest : rest = []
      · rw [hrest]
        rfl
      · rw [Text.endWithReturn_cons piece rest hrest,
          wholeWidths_cons _ _ _ (Text.endWithReturn_ne_nil rest hrest),
          wholeWidths_cons _ _ _ hrest, ih, width_append]

theorem endedWidths_withReturns (t : Token) : endedWidths t.withReturns = endedWidths t := by
  have hlong : Text.lines t.withReturns.text = Text.endWithReturn (Text.lines t.text) :=
    Text.lines_withReturns t.text
  cases hlines : Text.lines t.text with
  | nil => exact absurd hlines (Text.lines_ne_nil t.text)
  | cons first rest =>
      rw [hlines] at hlong
      by_cases hrest : rest = []
      · rw [hrest] at hlines hlong
        rw [endedWidths, endedWidths, hlong, hlines, Text.endWithReturn]
      · rw [Text.endWithReturn_cons first rest hrest] at hlong
        rw [endedWidths_of_lines t first rest hlines hrest,
          endedWidths_of_lines t.withReturns _ _ hlong (Text.endWithReturn_ne_nil rest hrest),
          wholeWidths_endWithReturn, width_append]
        rfl

theorem openWidth?_withReturns (t : Token) : openWidth? t.withReturns = openWidth? t := by
  by_cases hbreak : t.hasBreak = true
  · have hlast : t.withReturns.text.getLast? = t.text.getLast? := Text.getLast?_withReturns t.text
    have hline : Text.lastLine t.withReturns.text = Text.lastLine t.text :=
      Text.lastLine_withReturns t.text
    rw [openWidth?, openWidth?, hlast, hline, t.hasBreak_withReturns, t.breakCount_withReturns,
      if_pos hbreak, if_pos hbreak]
    rfl
  · rw [t.withReturns_of_not_hasBreak hbreak]

theorem findings_withReturns (severity : Severity) (limit : Int) (tokens : List Token) :
    findings severity limit (tokens.map (·.withReturns)) = findings severity limit tokens := by
  rw [findings, findings, List.flatMap_map, List.getLast?_map, Option.bind_map]
  simp only [Function.comp_def, endedWidths_withReturns, openWidth?_withReturns]

end LineLength

/-- The rules that come with the program find the same in a source without
    carriage returns and in its longer form, when the outputs of the lexer
    correspond. -/
theorem rules_findings_withReturns (path : Path) (source : List Char)
    (lexemes lexemes' : List Lexeme) (hreturn : '\r' ∉ source)
    (h : List.Forall₂ (Lexeme.Corresponds source) lexemes lexemes') :
    ∃ s s', tokenize path source ⟨lexemes, none⟩ = .ok s ∧
      tokenize path (Text.withReturns source) ⟨lexemes', none⟩ = .ok s' ∧
      ∀ (severity : Severity) (limit : Int), ∀ rule ∈ [TrailingWhitespace.rule severity,
        TabIndentation.rule severity, LineLength.rule severity limit,
        BlankLines.rule severity limit], (rule.run s').findings = (rule.run s).findings := by
  refine ⟨_, _, tokenize_ok path source lexemes,
    tokenize_withReturns path source lexemes lexemes' hreturn h, ?_⟩
  intro severity limit rule hrule
  have hplain : ∀ t ∈ tokensFrom path source .origin 0 (spansOf source lexemes),
      '\r' ∉ t.text := fun t ht hmem =>
    hreturn (mem_source_of_mem_tokensFrom path source _ _ _ t ht '\r' hmem)
  simp only [List.mem_cons, List.not_mem_nil, or_false] at hrule
  rcases hrule with rfl | rfl | rfl | rfl
  · exact TrailingWhitespace.findingsFrom_withReturns severity _ none hplain
  · simp only [Rule.run, TabIndentation.rule, Rule.ofTokens, TokenStream.rewind,
      TokenStream.ofTokens, TokenStream.remaining, List.drop_zero, List.filterMap_map,
      Function.comp_def, TabIndentation.finding?_withReturns]
  · exact LineLength.findings_withReturns severity limit _
  · simp only [Rule.run, BlankLines.rule, Rule.ofTokens, TokenStream.rewind,
      TokenStream.ofTokens, TokenStream.remaining, List.drop_zero, List.filterMap_map,
      Function.comp_def, BlankLines.finding?_withReturns]

/-- What a lexer makes of a block with a tab and some blanks in it, whose lines
    end with line feeds alone. -/
def plainBlock : List Lexeme :=
  [⟨.name, "if".toList, ⟨1, 0⟩, ⟨1, 2⟩⟩, ⟨.name, ['x'], ⟨1, 3⟩, ⟨1, 4⟩⟩,
    ⟨.op, [':'], ⟨1, 4⟩, ⟨1, 5⟩⟩, ⟨.newline, ['\n'], ⟨1, 5⟩, ⟨1, 6⟩⟩,
    ⟨.indent, ['\t'], ⟨2, 0⟩, ⟨2, 1⟩⟩, ⟨.name, ['y'], ⟨2, 1⟩, ⟨2, 2⟩⟩,
    ⟨.newline, ['\n'], ⟨2, 4⟩, ⟨2, 5⟩⟩, ⟨.nl, ['\n'], ⟨3, 0⟩, ⟨3, 1⟩⟩,
    ⟨.dedent, [], ⟨4, 0⟩, ⟨4, 0⟩⟩, ⟨.name, ['z'], ⟨4, 0⟩, ⟨4, 1⟩⟩,
    ⟨.newline, [], ⟨4, 1⟩, ⟨4, 2⟩⟩, ⟨.endMarker, [], ⟨5, 0⟩, ⟨5, 0⟩⟩]

/-- The same from a lexer that is given the longer text. It starts one line
    ending at its carriage return and the others at their line feeds. -/
def returnBlock : List Lexeme :=
  [⟨.name, "if".toList, ⟨1, 0⟩, ⟨1, 2⟩⟩, ⟨.name, ['x'], ⟨1, 3⟩, ⟨1, 4⟩⟩,
    ⟨.op, [':'], ⟨1, 4⟩, ⟨1, 5⟩⟩, ⟨.newline, ['\r', '\n'], ⟨1, 5⟩, ⟨1, 7⟩⟩,
    ⟨.indent, ['\t'], ⟨2, 0⟩, ⟨2, 1⟩⟩, ⟨.name, ['y'], ⟨2, 1⟩, ⟨2, 2⟩⟩,
    ⟨.newline, ['\n'], ⟨2, 5⟩, ⟨2, 6⟩⟩, ⟨.nl, ['\n'], ⟨3, 1⟩, ⟨3, 2⟩⟩,
    ⟨.dedent, [], ⟨4, 0⟩, ⟨4, 0⟩⟩, ⟨.name, ['z'], ⟨4, 0⟩, ⟨4, 1⟩⟩,
    ⟨.newline, [], ⟨4, 1⟩, ⟨4, 2⟩⟩, ⟨.endMarker, [], ⟨5, 0⟩, ⟨5, 0⟩⟩]

theorem rules_findings_withReturns_block :
    let source := "if x:\n\ty  \n\nz".toList
    '\r' ∉ source ∧ List.Forall₂ (Lexeme.Corresponds source) plainBlock returnBlock ∧
      ∃ s s', tokenize .here source ⟨plainBlock, none⟩ = .ok s ∧
        tokenize .here (Text.withReturns source) ⟨returnBlock, none⟩ = .ok s' ∧
        ∀ (severity : Severity) (limit : Int), ∀ rule ∈ [TrailingWhitespace.rule severity,
          TabIndentation.rule severity, LineLength.rule severity limit,
          BlankLines.rule severity limit], (rule.run s').findings = (rule.run s).findings := by
  have hreturn : '\r' ∉ "if x:\n\ty  \n\nz".toList := by decide
  have hcorresponds : List.Forall₂ (Lexeme.Corresponds "if x:\n\ty  \n\nz".toList) plainBlock
      returnBlock := by decide
  exact ⟨hreturn, hcorresponds,
    rules_findings_withReturns .here _ plainBlock returnBlock hreturn hcorresponds⟩

end TokenLint
