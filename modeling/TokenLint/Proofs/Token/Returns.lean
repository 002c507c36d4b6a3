import TokenLint.Proofs.Token.Agreement
import TokenLint.Proofs.Token.MovedOffset

/-!
# Tokens of the Longer Text

A source whose lines end with line feeds alone, and its longer form with a
carriage return in front of each of them, lead to the same tokens, but for the
line endings inside the tokens. The lexer of the longer text gives the same
rows and columns. It may write line endings into the texts of its lexemes as
it likes, and start the ending of a line at the carriage return or at the line
feed; `Agreement` takes the second back to the first. With that the spans of
the source are carried over by `movedBy`, and `spansFrom_carried` does the
rest.

The text of a lexeme decides between the kinds of names and of operators. No
keyword and no operator has a line ending in it, so two texts that are equal
up to line endings decide alike.

## Main definitions

* `Lexeme.Corresponds`: A lexeme and its like from the longer text.
* `Token.withReturns`: A token with the longer line endings.

## Theorems

* `Kind.ofLexeme_of_universalBreaks`: Line endings do not decide on a kind.
* `Lexeme.Corresponds.follows`: What corresponds covers the same, moved.
* `Place.after_withReturns`: Longer line endings leave places alone.
* `tokenize_withReturns`: The tokens of the longer text.
-/

namespace TokenLint

namespace Text

/-- A text without carriage returns has one form of line ending already. -/
theorem universalBreaks_of_not_mem (cs : List Char) (h : '\r' ∉ cs) :
    universalBreaks cs = cs := by
  fun_induction universalBreaks cs with
  | case1 => rfl
  | case2 cs _ => exact absurd List.mem_cons_self h
  | case3 c cs _ ih =>
      rw [List.mem_cons, not_or] at h
      rw [if_neg fun hc => h.1 hc.symm, ih h.2]

theorem universalBreaks_eq_nil (cs : List Char) : universalBreaks cs = [] ↔ cs = [] := by
  fun_cases universalBreaks cs with
  | case1 => exact Iff.rfl
  | case2 cs => simp only [reduceCtorEq]
  | case3 c cs _ => simp only [reduceCtorEq]

theorem newline_mem_universalBreaks (cs : List Char) :
    '\n' ∈ universalBreaks cs ↔ '\n' ∈ cs ∨ '\r' ∈ cs := by
  fun_induction universalBreaks cs with
  | case1 => simp only [List.not_mem_nil, or_self]
  | case2 cs _ => simp only [List.mem_cons, true_or, or_true]
  | case3 c cs _ ih =>
      simp only [List.mem_cons, ih]
      by_cases hc : c = '\r'
      · simp only [hc, if_true, true_or, or_true]
      · have hc' : ¬ '\r' = c := fun h => hc h.symm
        simp only [if_neg hc, hc', false_or, or_assoc]

end Text

namespace Kind

/-- No keyword and no operator has a line ending in it. -/
theorem ofLexeme_of_mem (kind : Kind) (text : List Char) (h : '\n' ∈ text ∨ '\r' ∈ text) :
    ofLexeme kind text = if kind = .nl then .whitespace else kind := by
  have hword : ∀ words : List String, (∀ w ∈ words, '\n' ∉ w.toList ∧ '\r' ∉ w.toList) →
      ¬ words.contains (String.ofList text) = true := by
    intro words hwords hmem
    have hnone := hwords _ (List.contains_iff_mem.mp hmem)
    rw [String.toList_ofList] at hnone
    exact h.elim hnone.1 hnone.2
  have hoperator : Operator.ofText? text = none := by
    have hall : ∀ o ∈ Operator.all, '\n' ∉ o.text.toList ∧ '\r' ∉ o.text.toList := by decide
    rw [Operator.ofText?, List.find?_eq_none]
    intro o ho heq
    have hnone := hall o ho
    rw [beq_iff_eq.mp heq] at hnone
    exact h.elim hnone.1 hnone.2
  cases kind with
  | name =>
      rw [ofLexeme, if_neg (hword keywords (by decide)), if_neg (hword softKeywords (by decide))]
      rfl
  | op =>
      rw [ofLexeme, hoperator]
      rfl
  | _ => rfl

/-- Line endings do not decide on the kind of a lexeme. -/
theorem ofLexeme_of_universalBreaks (kind : Kind) {text text' : List Char}
    (h : Text.universalBreaks text' = Text.universalBreaks text) :
    ofLexeme kind text' = ofLexeme kind text := by
  have hmem := Text.newline_mem_universalBreaks text
  have hmem' := Text.newline_mem_universalBreaks text'
  by_cases hbreak : '\n' ∈ Text.universalBreaks text
  · rw [ofLexeme_of_mem kind text (hmem.mp hbreak),
      ofLexeme_of_mem kind text' (hmem'.mp (by rw [h]; exact hbreak))]
  · -- Without any line ending the texts are equal as they are.
    have hnone := fun hc => hbreak (hmem.mpr (Or.inr hc))
    have hnone' := fun hc => hbreak (by rw [← h]; exact hmem'.mpr (Or.inr hc))
    rw [Text.universalBreaks_of_not_mem text hnone,
      Text.universalBreaks_of_not_mem text' hnone'] at h
    rw [h]

end Kind

namespace Lexeme

section

variable (source : List Char)

/-- A lexeme of a source, and its like from a lexer that is given the longer
    text. Kind, rows and columns are the same, and the texts are equal up to
    line endings. A line ending may start one character later, at the line
    feed instead of at the carriage return, and may stop anywhere. -/
structure Corresponds (l m : Lexeme) : Prop where
  kind : m.kind = l.kind
  text : Text.universalBreaks m.text = Text.universalBreaks l.text
  fits : l.start.Fits source
  start : m.start = l.start ∨ l.isTerminator = true ∧ source[l.first source]? = some '\n' ∧
    m.start = ⟨l.start.row, l.start.column + 1⟩
  stop : l.isTerminator = true ∨ l.stop.Fits source ∧ m.stop = l.stop

instance (l m : Lexeme) : Decidable (l.Corresponds source m) :=
  decidable_of_iff (m.kind = l.kind ∧ Text.universalBreaks m.text = Text.universalBreaks l.text ∧
      l.start.Fits source ∧
      (m.start = l.start ∨ l.isTerminator = true ∧ source[l.first source]? = some '\n' ∧
        m.start = ⟨l.start.row, l.start.column + 1⟩) ∧
      (l.isTerminator = true ∨ l.stop.Fits source ∧ m.stop = l.stop))
    ⟨fun h => ⟨h.1, h.2.1, h.2.2.1, h.2.2.2.1, h.2.2.2.2⟩,
      fun h => ⟨h.kind, h.text, h.fits, h.start, h.stop⟩⟩

variable {source} {l m : Lexeme}

theorem Corresponds.isTerminator_eq (h : l.Corresponds source m) :
    m.isTerminator = l.isTerminator := by
  have hempty : m.text.isEmpty = l.text.isEmpty := by
    rw [Bool.eq_iff_iff, List.isEmpty_iff, List.isEmpty_iff, ← Text.universalBreaks_eq_nil m.text,
      ← Text.universalBreaks_eq_nil l.text, h.text]
  rw [isTerminator, isTerminator, h.kind, hempty]

/-- From the same start a lexeme covers the same in both texts. -/
theorem Corresponds.bounds_eq (hreturn : '\r' ∉ source) (h : l.Corresponds source m)
    (hstart : m.start = l.start) (cursor : Nat) (hcursor : cursor ≤ source.length) :
    m.bounds (Text.withReturns source) (lineStarts (Text.withReturns source))
        (movedBy source cursor) =
      (movedBy source (l.bounds source (lineStarts source) cursor).1,
        movedBy source (l.bounds source (lineStarts source) cursor).2) := by
  have hoffset := offsetOf_le (lineStarts source) source.length l.start
  have hmax := (carries_withReturns source).max_eq hoffset hcursor
  by_cases hterm : l.isTerminator = true
  · have hterm' : m.isTerminator = true := by rw [h.isTerminator_eq, hterm]
    -- There is no carriage return to step back over in either of the texts.
    have hstep : ∀ start, stepBack source cursor start = start :=
      fun start => if_neg fun hback => hreturn (List.mem_of_getElem? hback.2)
    have hstep' : ∀ start, stepBack (Text.withReturns source) (movedBy source cursor)
        (movedBy source start) = movedBy source start :=
      fun start => if_neg fun hback =>
        getElem?_movedBy_pred source hreturn start (by omega) hback.2
    rw [bounds_terminator _ _ _ m hterm', bounds_terminator _ _ _ l hterm, hstart,
      h.fits.offsetOf_withReturns, (Coordinates.fits_zero source _).offsetOf_withReturns,
      hmax, hstep, hstep']
  · have hterm' : ¬ m.isTerminator = true := by rw [h.isTerminator_eq]; exact hterm
    rcases h.stop.resolve_left hterm with ⟨hfits, hstop⟩
    rw [bounds_other _ _ _ m hterm', bounds_other _ _ _ l hterm, hstart, hstop,
      h.fits.offsetOf_withReturns, hfits.offsetOf_withReturns, hmax]

/-- What corresponds leads to tokens of one kind and covers the same, moved. -/
theorem Corresponds.follows (hreturn : '\r' ∉ source) (h : l.Corresponds source m) :
    Follows source (Text.withReturns source) (lineStarts (Text.unifyReturns source))
      (lineStarts (Text.unifyReturns (Text.withReturns source))) (movedBy source) l m := by
  have hpairs := Text.pairsReturns_withReturns source hreturn
  have hunify := Text.unifyReturns_of_pairsReturns _ hpairs
  have hunify' := Text.unifyReturns_of_not_mem source hreturn
  refine ⟨?_, fun cursor hcursor => ?_⟩
  · rw [h.kind, Kind.ofLexeme_of_universalBreaks l.kind h.text]
  · rw [hunify']
    rcases h.start with hstart | ⟨hterm, hfeed, hstart⟩
    · rw [hunify]
      exact h.bounds_eq hreturn hstart cursor hcursor
    · -- The lexeme that starts at the return instead covers the same.
      have hsame : l.Corresponds source { m with start := l.start } :=
        ⟨h.kind, h.text, h.fits, Or.inl rfl, Or.inl hterm⟩
      have hterm' : m.isTerminator = true := by rw [h.isTerminator_eq, hterm]
      have hbefore : StartsBefore (Text.withReturns source) { m with start := l.start } m := by
        refine ⟨hstart, ?_⟩
        rw [first, hunify'] at hfeed
        rw [first, hunify, h.fits.offsetOf_withReturns]
        exact getElem?_movedBy_newline source hfeed
      have hearly : ({ m with start := l.start } : Lexeme).isTerminator = true := hterm'
      rw [← bounds_of_startsBefore hpairs hearly hterm' hbefore, hunify]
      exact hsame.bounds_eq hreturn rfl cursor hcursor

end

end Lexeme

/-- Longer line endings leave the places behind a text alone. -/
theorem Place.after_withReturns (p : Place) (text : List Char) :
    p.after (Text.withReturns text) = p.after text := by
  by_cases h : '\n' ∈ text
  · have hbreak : text.contains '\n' = true := List.contains_iff_mem.mpr h
    have hbreak' : (Text.withReturns text).contains '\n' = true :=
      List.contains_iff_mem.mpr ((Text.mem_withReturns '\n' text (by decide)).mpr h)
    rw [after, after, if_pos hbreak, if_pos hbreak', Text.breakCount_withReturns,
      Text.lastLine_withReturns]
  · rw [Text.withReturns_of_not_mem text h]

/-- A token with a carriage return put before each of its line feeds. -/
def Token.withReturns (t : Token) : Token := { t with text := Text.withReturns t.text }

/-- The tokens of spans that were carried over, along a tiling. -/
theorem tokensFrom_withReturns (path : Path) (source : List Char) (spans : List Span) :
    ∀ (start stop : Nat) (place : Place) (index : Nat), Tiles start stop spans →
      tokensFrom path (Text.withReturns source) place index (spans.map (·.move (movedBy source))) =
        (tokensFrom path source place index spans).map (·.withReturns) := by
  induction spans with
  | nil =>
      intro start stop place index _
      rfl
  | cons s spans ih =>
      intro start stop place index htiles
      rcases htiles with ⟨_, hlt, hrest⟩
      have hslice := slice_withReturns source (Nat.le_of_lt hlt)
      rw [List.map_cons, tokensFrom, tokensFrom, List.map_cons]
      simp only [Span.move, hslice, Place.after_withReturns]
      exact congrArg _ (ih _ _ _ _ hrest)

/-- The tokens of the longer text are those of the source with the longer line
    endings, when the lexers' outputs correspond. -/
theorem tokenize_withReturns (path : Path) (source : List Char) (lexemes lexemes' : List Lexeme)
    (hreturn : '\r' ∉ source)
    (h : List.Forall₂ (Lexeme.Corresponds source) lexemes lexemes') :
    tokenize path (Text.withReturns source) ⟨lexemes', none⟩ =
      .ok (.ofTokens path ((tokensFrom path source .origin 0 (spansOf source lexemes)).map
        (·.withReturns))) := by
  have hfollows := h.imp fun _ _ hl => hl.follows hreturn
  have hspans := spansFrom_carried source (Text.withReturns source) _ _ (movedBy source)
    (carries_withReturns source) hfollows 0 (Nat.zero_le _)
  rw [movedBy_zero] at hspans
  have hmoved : spansOf (Text.withReturns source) lexemes' =
      (spansOf source lexemes).map (·.move (movedBy source)) := by
    rw [spansOf, hspans, mergeWhitespace_move, spansOf]
  rw [tokenize_ok, hmoved, tokensFrom_withReturns path source _ _ _ _ _
    (spansOf_tiles source lexemes)]

/-- The text of a token has characters of the source only. -/
theorem mem_source_of_mem_tokensFrom (path : Path) (source : List Char) (spans : List Span)
    (place : Place) (index : Nat) (t : Token)
    (ht : t ∈ tokensFrom path source place index spans) : ∀ c ∈ t.text, c ∈ source := by
  intro c hc
  have htext : t.text ∈ spans.map fun s => slice source s.start s.stop := by
    rw [← map_text_tokensFrom path source spans place index]
    exact List.mem_map_of_mem ht
  rcases List.mem_map.mp htext with ⟨s, _, hslice⟩
  rw [← hslice, slice] at hc
  exact List.mem_of_mem_drop (List.mem_of_mem_take hc)

end TokenLint
