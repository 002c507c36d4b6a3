import TokenLint.Proofs.Text.Returns
import TokenLint.Proofs.Token.Coverage
import TokenLint.Proofs.Token.Transport

/-!
# Agreement of Lexers

Lexers agree on what the pieces of a text are and differ in how they account
for the rest. One says that a line ending starts at its carriage return,
another at its line feed. They give it different texts and let it stop at
different places. They also differ in the lexemes without extent that they
put in, for indentation that ends and for the end of the text. The token
stream does not show any of this.

A lexeme without extent never moves the cursor, so all of them can be taken
out. For a line ending `bounds_of_startsBefore` compares the two starts at
every cursor. Before the carriage return the later start is stepped back onto
it. From the line feed on the cursor hides both. Between the two the earlier
start is moved up to the line feed, and the later one is there already: since
no step is taken when the cursor leaves no room for it, the two agree even
there, and nothing has to be asked of the lexemes in front.

## Main definitions

* `stepBack`: A start moved back over a carriage return.
* `Lexeme.StartsBefore`: A line ending started at its return and at its feed.
* `Lexeme.Agrees`: Lexemes that differ in the account of a line ending only.

## Theorems

* `Lexeme.bounds_terminator`, `Lexeme.bounds_other`: The two kinds of stretch.
* `Lexeme.bounds_of_startsBefore`: Both starts lead to one stretch.
* `Lexeme.Agrees.follows`: Lexemes that agree cover the same.
* `tokenize_agrees`: Lexers that agree lead to one token stream.
-/

namespace TokenLint

/-- The start of a line ending, moved back over a carriage return that is not
    behind the cursor. -/
def stepBack (source : List Char) (cursor start : Nat) : Nat :=
  if cursor < start ∧ source[start - 1]? = some '\r' then start - 1 else start

namespace Lexeme

section

variable (source : List Char) (starts : List Nat) (cursor : Nat) (l : Lexeme)

theorem bounds_terminator (h : l.isTerminator = true) :
    l.bounds source starts cursor =
      (stepBack source cursor (max (offsetOf starts source.length l.start) cursor),
        offsetOf starts source.length ⟨l.start.row + 1, 0⟩) := by
  rw [bounds, if_pos h, stepBack]

theorem bounds_other (h : ¬ l.isTerminator = true) :
    l.bounds source starts cursor = (max (offsetOf starts source.length l.start) cursor,
      offsetOf starts source.length l.stop) := by
  rw [bounds, if_neg h]

end

section

variable (source : List Char)

/-- A line ending that starts at a carriage return, and one that starts at the
    character behind it in the same line. -/
structure StartsBefore (l m : Lexeme) : Prop where
  start : m.start = ⟨l.start.row, l.start.column + 1⟩
  return_ : source[l.first source]? = some '\r'

/-- Two lexemes that are equal, or that are line endings of one kind whose
    starts differ by a carriage return at most. -/
inductive Agrees : Lexeme → Lexeme → Prop
  /-- The same lexeme. -/
  | same (l : Lexeme) : Agrees l l
  /-- A line ending, whatever its texts are and wherever it stops. -/
  | ending {l m : Lexeme} : l.isTerminator = true → m.isTerminator = true → m.kind = l.kind →
      (m.start = l.start ∨ StartsBefore source l m ∨ StartsBefore source m l) → Agrees l m

variable {source}

theorem StartsBefore.first_eq {l m : Lexeme} (h : l.StartsBefore source m) :
    m.first source = l.first source + 1 := by
  have hlt := (List.getElem?_eq_some_iff.mp h.return_).1
  unfold first offsetOf at hlt ⊢
  simp only [h.start]
  -- There is a character at the earlier start, so neither of the two is clamped.
  cases hline : (lineStarts (Text.unifyReturns source))[l.start.row - 1]? with
  | none =>
      simp only [hline] at hlt
      omega
  | some start =>
      simp only [hline] at hlt ⊢
      omega

/-- A line ending covers the same whether it starts at its carriage return or
    at its line feed, wherever the cursor is. -/
theorem bounds_of_startsBefore {l m : Lexeme} (hreturns : Text.PairsReturns source)
    (hl : l.isTerminator = true) (hm : m.isTerminator = true) (h : l.StartsBefore source m)
    (cursor : Nat) :
    l.bounds source (lineStarts (Text.unifyReturns source)) cursor =
      m.bounds source (lineStarts (Text.unifyReturns source)) cursor := by
  have hfirst := h.first_eq
  rw [bounds_terminator source _ cursor l hl, bounds_terminator source _ cursor m hm,
    ← first, ← first, hfirst, h.start]
  by_cases hcursor : cursor ≤ l.first source
  · -- The later start is stepped back. Two returns in a row would not belong to an ending.
    have hearly : stepBack source cursor (l.first source) = l.first source := by
      refine if_neg fun hback => ?_
      have hfeed := hreturns _ hback.2
      rw [Nat.sub_add_cancel (by omega), h.return_] at hfeed
      simp only [Option.some.injEq, Char.reduceEq] at hfeed
    have hlate : stepBack source cursor (l.first source + 1) = l.first source :=
      if_pos ⟨by omega, h.return_⟩
    rw [Nat.max_eq_left hcursor, Nat.max_eq_left (by omega), hearly, hlate]
  · rw [Nat.max_eq_right (by omega), Nat.max_eq_right (by omega)]

/-- Lexemes that agree lead to tokens of one kind and cover the same. -/
theorem Agrees.follows {l m : Lexeme} (hreturns : Text.PairsReturns source)
    (h : l.Agrees source m) : Follows source source (lineStarts (Text.unifyReturns source))
      (lineStarts (Text.unifyReturns source)) id l m := by
  cases h with
  | same => exact ⟨rfl, fun _ _ => rfl⟩
  | ending hl hm hkind hstart =>
      have hlexeme : Kind.ofLexeme m.kind m.text = Kind.ofLexeme l.kind l.text := by
        rw [isTerminator, Bool.and_eq_true, Bool.or_eq_true, decide_eq_true_eq,
          decide_eq_true_eq] at hl
        rw [hkind]
        rcases hl.1 with hnewline | hnl
        · rw [hnewline]
          rfl
        · rw [hnl]
          rfl
      refine ⟨hlexeme, fun cursor _ => ?_⟩
      rcases hstart with hsame | hbefore | hbefore
      · rw [bounds_terminator source _ _ m hm, bounds_terminator source _ _ l hl, hsame]
        rfl
      · exact (bounds_of_startsBefore hreturns hl hm hbefore cursor).symm
      · exact bounds_of_startsBefore hreturns hm hl hbefore cursor

end

end Lexeme

/-- The token stream of a text does not show which of two lexers was at work,
    when all carriage returns of the text belong to line endings and the
    lexers agree, lexemes without extent aside, on everything but the account
    of line endings. -/
theorem tokenize_agrees (path : Path) (source : List Char) (lexemes lexemes' : List Lexeme)
    (hreturns : ∀ i : Nat, source[i]? = some '\r' → source[i + 1]? = some '\n')
    (hagree : List.Forall₂ (Lexeme.Agrees source) (lexemes.filter (!·.isVoid))
      (lexemes'.filter (!·.isVoid))) :
    ∃ s, tokenize path source ⟨lexemes, none⟩ = .ok s ∧
      tokenize path source ⟨lexemes', none⟩ = .ok s := by
  have hfollows := hagree.imp fun _ _ h => h.follows hreturns
  have hspans := spansFrom_carried source source _ _ id (.refl source) hfollows 0 (Nat.zero_le _)
  simp only [id_eq, spansFrom_filter, Span.move_id, List.map_id'] at hspans
  refine ⟨_, rfl, ?_⟩
  rw [tokenize_ok, spansOf, spansOf, hspans]

/-- What a lexer makes of a block with carriage returns in its line endings,
    when it takes an ending to start at its return. -/
def returnLexer : List Lexeme :=
  [⟨.name, "if".toList, ⟨1, 0⟩, ⟨1, 2⟩⟩, ⟨.name, ['x'], ⟨1, 3⟩, ⟨1, 4⟩⟩,
    ⟨.op, [':'], ⟨1, 4⟩, ⟨1, 5⟩⟩, ⟨.newline, ['\r', '\n'], ⟨1, 5⟩, ⟨1, 7⟩⟩,
    ⟨.indent, [' '], ⟨2, 0⟩, ⟨2, 1⟩⟩, ⟨.name, ['y'], ⟨2, 1⟩, ⟨2, 2⟩⟩,
    ⟨.newline, ['\r', '\n'], ⟨2, 2⟩, ⟨2, 4⟩⟩, ⟨.dedent, [], ⟨3, 0⟩, ⟨3, 0⟩⟩,
    ⟨.endMarker, [], ⟨3, 0⟩, ⟨3, 0⟩⟩]

/-- The same from a lexer that takes an ending to start at its line feed. -/
def feedLexer : List Lexeme :=
  [⟨.name, "if".toList, ⟨1, 0⟩, ⟨1, 2⟩⟩, ⟨.name, ['x'], ⟨1, 3⟩, ⟨1, 4⟩⟩,
    ⟨.op, [':'], ⟨1, 4⟩, ⟨1, 5⟩⟩, ⟨.newline, ['\n'], ⟨1, 6⟩, ⟨1, 7⟩⟩,
    ⟨.indent, [' '], ⟨2, 0⟩, ⟨2, 1⟩⟩, ⟨.name, ['y'], ⟨2, 1⟩, ⟨2, 2⟩⟩,
    ⟨.newline, ['\n'], ⟨2, 3⟩, ⟨2, 4⟩⟩, ⟨.newline, [], ⟨3, 0⟩, ⟨3, 0⟩⟩]

theorem tokenize_agrees_block :
    let source := Text.withReturns "if x:\n y\n".toList
    Text.PairsReturns source ∧
      List.Forall₂ (Lexeme.Agrees source) (returnLexer.filter (!·.isVoid))
        (feedLexer.filter (!·.isVoid)) ∧
      ∃ s, tokenize .here source ⟨returnLexer, none⟩ = .ok s ∧
        tokenize .here source ⟨feedLexer, none⟩ = .ok s := by
  have hreturns : Text.PairsReturns (Text.withReturns "if x:\n y\n".toList) :=
    Text.pairsReturns_withReturns _ (by decide)
  have hagree : List.Forall₂ (Lexeme.Agrees (Text.withReturns "if x:\n y\n".toList))
      (returnLexer.filter (!·.isVoid)) (feedLexer.filter (!·.isVoid)) :=
    .cons (.same _) <| .cons (.same _) <| .cons (.same _) <|
      .cons (.ending rfl rfl rfl (Or.inr (Or.inl ⟨rfl, by decide⟩))) <| .cons (.same _) <|
      .cons (.same _) <| .cons (.ending rfl rfl rfl (Or.inr (Or.inl ⟨rfl, by decide⟩))) .nil
  exact ⟨hreturns, hagree, tokenize_agrees .here _ returnLexer feedLexer hreturns hagree⟩

end TokenLint
