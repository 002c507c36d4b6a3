import TokenLint.Proofs.Text.Line
import TokenLint.Token.Tokenize

/-!
# Positions of Tokens

A token's line and column are counted up from token to token, by one of two
rules: a token with a line feed starts the column afresh, any other token
moves it on. `Place.past` says what the two rules amount to: the place after
a text is one more than the number of its line feeds, and one more than the
length of its last line. It looks at the whole text at once and knows nothing
of tokens.

`Place.past_append` is the step that ties the two together, and
`tokensFrom_placed` is the induction over the spans. What it proves is
`Placed`, which follows the list of tokens with the text before it, so that a
law about all tokens of a stream is an induction over the same list. What a
step of such an induction knows of one token is `Token.StandsAt`.

## Main definitions

* `Place.past`: The place after a text that starts at the origin.
* `Placed`: Tokens that stand where the text before them ends.
* `Text.openLine`: The line that is open where a text ends.
* `Token.StandsAt`: A token that a source goes on with.

## Theorems

* `Place.past_append`: Counting on from the end of a text.
* `tokensFrom_placed`: The tokens of spans stand where the text ends.
* `Placed.of_append`: What stands after a part of the tokens.
* `Placed.standsAt`: The first of the tokens that are left.
* `tokenize_positions`: The positions of the tokens of a source.
-/

namespace TokenLint

/-- The place after a text that starts at the origin. -/
def Place.past (text : List Char) : Place :=
  ⟨1 + Text.breakCount text, 1 + (Text.lastLine text).length⟩

theorem Place.past_nil : Place.past [] = Place.origin := rfl

/-- Counting on from the end of a text. The two rules of `Place.after` are the
    two laws of the last line of a text put together from two. -/
theorem Place.past_append (before text : List Char) :
    (Place.past before).after text = Place.past (before ++ text) := by
  by_cases h : '\n' ∈ text
  · -- The column starts afresh, and what it counts is in the text alone.
    have hbreak : text.contains '\n' = true := List.contains_iff_mem.mpr h
    simp only [Place.after, Place.past, hbreak, if_true, Text.breakCount_append,
      Text.lastLine_append_of_mem before text h, Place.mk.injEq]
    omega
  · -- The line goes on, and the column with it.
    have hbreak : ¬ text.contains '\n' = true := fun hc => h (List.contains_iff_mem.mp hc)
    simp only [Place.after, Place.past, if_neg hbreak, Text.breakCount_append,
      Text.breakCount_of_not_mem text h, Text.lastLine_append_of_not_mem before text h,
      List.length_append, Place.mk.injEq]
    omega

/-- Tokens that stand where the text before them ends. -/
def Placed : (before : List Char) → List Token → Prop
  | _, [] => True
  | before, t :: tokens =>
    t.line = (Place.past before).line ∧ t.column = (Place.past before).column ∧
      Placed (before ++ t.text) tokens

theorem tokensFrom_placed (path : Path) (source : List Char) (spans : List Span) :
    ∀ (before : List Char) (index : Nat),
      Placed before (tokensFrom path source (.past before) index spans) := by
  induction spans with
  | nil =>
      intro before index
      exact trivial
  | cons s spans ih =>
      intro before index
      refine ⟨rfl, rfl, ?_⟩
      rw [Place.past_append]
      exact ih _ _

/-- What stands after a part of the tokens stands where that part ends. -/
theorem Placed.of_append {front back : List Token} : ∀ {before : List Char},
    Placed before (front ++ back) → Placed (before ++ front.flatMap (·.text)) back := by
  induction front with
  | nil =>
      intro before h
      rw [List.flatMap_nil, List.append_nil]
      exact h
  | cons t front ih =>
      intro before h
      rw [List.flatMap_cons, ← List.append_assoc]
      exact ih h.2.2

/-- Of two neighbours the second stands on a later line, or further on by the
    length of the first. -/
theorem Placed.neighbours {before : List Char} {a b : Token} {rest : List Token}
    (h : Placed before (a :: b :: rest)) :
    a.line < b.line ∨ a.line = b.line ∧ b.column = a.column + a.length := by
  rcases h with ⟨hline, hcolumn, hline', hcolumn', _⟩
  rw [hline, hline', hcolumn, hcolumn']
  by_cases hbreak : '\n' ∈ a.text
  · left
    have hpos := Text.breakCount_pos a.text hbreak
    simp only [Place.past, Text.breakCount_append]
    omega
  · right
    simp only [Place.past, Text.breakCount_append, Text.breakCount_of_not_mem a.text hbreak,
      Text.lastLine_append_of_not_mem before a.text hbreak, List.length_append, Token.length]
    omega

namespace Text

/-- The line, counted from one, that is open where a text ends. -/
def openLine (before : List Char) : Int := 1 + breakCount before

theorem openLine_append (before text : List Char) :
    openLine (before ++ text) = openLine before + breakCount text := by
  rw [openLine, openLine, breakCount_append]
  omega

theorem openLine_append_of_not_mem (before text : List Char) (h : '\n' ∉ text) :
    openLine (before ++ text) = openLine before := by
  rw [openLine_append, breakCount_of_not_mem text h]
  exact Int.add_zero _

/-- A line feed opens the next line. -/
theorem openLine_append_line (before line : List Char) (h : '\n' ∉ line) :
    openLine (before ++ line ++ ['\n']) = openLine before + 1 := by
  rw [openLine_append, openLine_append_of_not_mem before line h]
  rfl

theorem openLine_pos (before : List Char) : 0 < openLine before := by
  rw [openLine]
  omega

theorem openLine_le (before text : List Char) : openLine before ≤ openLine (before ++ text) := by
  rw [openLine_append]
  omega

end Text

/-- A token that a source goes on with after a text. -/
structure Token.StandsAt (source before : List Char) (t : Token) : Prop where
  text : before ++ t.text <+: source
  line : t.line = Text.openLine before
  column : t.column = 1 + (Text.lastLine before).length

/-- The first of the tokens that the rest of a source is made of. -/
theorem Placed.standsAt {before : List Char} {t : Token} {tokens : List Token}
    (h : Placed before (t :: tokens)) :
    t.StandsAt (before ++ (t :: tokens).flatMap (·.text)) before := by
  refine ⟨?_, ?_, ?_⟩
  · rw [List.flatMap_cons, ← List.append_assoc]
    exact List.prefix_append _ _
  · rw [h.1, Place.past, Text.openLine]
    rfl
  · rw [h.2.1, Place.past]
    rfl

namespace Token.StandsAt

variable {source before : List Char} {t : Token}

/-- The line that a token leaves open. -/
theorem line_add_breakCount (h : t.StandsAt source before) :
    t.line + t.breakCount = Text.openLine (before ++ t.text) := by
  rw [h.line, Text.openLine_append, Token.breakCount]

/-- A token stands at the start of a line if nothing is before it there. -/
theorem column_eq_one (h : t.StandsAt source before) :
    t.column = 1 ↔ Text.lastLine before = [] := by
  rw [h.column, ← List.length_eq_zero_iff]
  omega

end Token.StandsAt

/-- The tokens of a source stand where the text before them ends. -/
theorem tokenize_placed (path : Path) (source : List Char) (lexemes : List Lexeme) :
    Placed [] (tokensFrom path source .origin 0 (spansOf source lexemes)) := by
  rw [← Place.past_nil]
  exact tokensFrom_placed path source _ [] 0

/-- The line of a token is one more than the number of line feeds in the text
    of all tokens before it, and its column is one more than the number of
    characters after the last of them. So a token that does not start a new
    line starts where the one before it ends. -/
theorem tokenize_positions (path : Path) (source : List Char) (lexemes : List Lexeme) :
    ∃ s, tokenize path source ⟨lexemes, none⟩ = .ok s ∧
      (∀ (before : List Token) (t : Token) (rest : List Token), s.tokens = before ++ t :: rest →
        t.line = 1 + Text.breakCount (before.flatMap (·.text)) ∧
        t.column = 1 + (Text.lastLine (before.flatMap (·.text))).length) ∧
      ∀ (before : List Token) (a b : Token) (rest : List Token),
        s.tokens = before ++ a :: b :: rest →
          a.line < b.line ∨ a.line = b.line ∧ b.column = a.column + a.length := by
  have hplaced := tokenize_placed path source lexemes
  refine ⟨_, rfl, ?_, ?_⟩
  · intro before t rest htokens
    simp only [TokenStream.ofTokens] at htokens
    rw [htokens] at hplaced
    rcases hplaced.of_append with ⟨hline, hcolumn, _⟩
    rw [List.nil_append] at hline hcolumn
    simp only [hline, hcolumn, Place.past]
    omega
  · intro before a b rest htokens
    simp only [TokenStream.ofTokens] at htokens
    rw [htokens] at hplaced
    exact hplaced.of_append.neighbours

end TokenLint
