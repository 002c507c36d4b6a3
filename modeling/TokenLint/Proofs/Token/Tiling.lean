import TokenLint.Token.Tokenize

/-!
# Tilings of a Source

The spans that come of a lexer's output tile the source: each starts where the
one before it stops, none is empty, the first starts at the start of the
source and the last stops at its end. Cutting the source along a tiling loses
nothing, which is why the tokens put together are the source again.

Nothing is assumed of the lexer. Its coordinates enter through `Lexeme.bounds`
only, and two facts about that are all the loop needs: a lexeme never starts
before the cursor, and it never stops after the end of the source. They hold
whatever the coordinates are, since an offset is clamped to the size of the
source and the step back over a carriage return is taken only when there is
room for it.

Joining white space keeps a tiling, as the joined span starts where the first
of the two starts and stops where the second one stops.

## Main definitions

* `Tiles`: Spans that follow each other from one offset up to another.

## Theorems

* `offsetOf_le`: An offset lies in the source.
* `Lexeme.le_bounds`: A lexeme never starts before the cursor.
* `Lexeme.bounds_le`: A lexeme never stops after the end of the source.
* `spansFrom_tiles`: The spans of a lexer's output tile the rest of the source.
* `mergeWhitespace_tiles`: Joining white space keeps a tiling.
* `spansOf_tiles`: The spans of a source tile it.
* `Tiles.flatMap_slice`: Cutting along a tiling loses nothing.
* `flatMap_text_tokensFrom`: The texts of the tokens, put together.
* `tokenize_lossless`: The tokens put together are the source.
-/

namespace TokenLint

/-- Spans that follow each other without a gap from one offset up to another,
    none of them empty. -/
def Tiles : (start stop : Nat) → List Span → Prop
  | start, stop, [] => start = stop
  | start, stop, s :: spans => s.start = start ∧ s.start < s.stop ∧ Tiles s.stop stop spans

namespace Tiles

theorem le {spans : List Span} : ∀ {start stop : Nat}, Tiles start stop spans → start ≤ stop := by
  induction spans with
  | nil =>
      intro start stop h
      exact Nat.le_of_eq h
  | cons s spans ih =>
      intro start stop h
      rcases h with ⟨hstart, hlt, hrest⟩
      have hle := ih hrest
      omega

/-- Tilings that meet make one. -/
theorem append {front back : List Span} : ∀ {start middle stop : Nat},
    Tiles start middle front → Tiles middle stop back → Tiles start stop (front ++ back) := by
  induction front with
  | nil =>
      intro start middle stop hfront hback
      have heq : start = middle := hfront
      rw [heq, List.nil_append]
      exact hback
  | cons s front ih =>
      intro start middle stop hfront hback
      rcases hfront with ⟨hstart, hlt, hrest⟩
      exact ⟨hstart, hlt, ih hrest hback⟩

/-- A span of a tiling lies between its ends and is not empty. -/
theorem mem {spans : List Span} : ∀ {start stop : Nat} {s : Span}, Tiles start stop spans →
    s ∈ spans → start ≤ s.start ∧ s.start < s.stop ∧ s.stop ≤ stop := by
  induction spans with
  | nil =>
      intro start stop s _ hs
      exact absurd hs List.not_mem_nil
  | cons t spans ih =>
      intro start stop s h hs
      rcases h with ⟨hstart, hlt, hrest⟩
      have hle := le hrest
      rcases List.mem_cons.mp hs with rfl | hs
      · omega
      · rcases ih hrest hs with ⟨h1, h2, h3⟩
        omega

end Tiles

theorem offsetOf_le (starts : List Nat) (size : Nat) (c : Coordinates) :
    offsetOf starts size c ≤ size := by
  unfold offsetOf
  split
  · exact Nat.min_le_right _ _
  · exact Nat.le_refl _

namespace Lexeme

/-- A lexeme never starts before the cursor. The step back over a carriage
    return is taken only from behind the cursor, so it ends there at worst. -/
theorem le_bounds (source : List Char) (starts : List Nat) (cursor : Nat) (l : Lexeme) :
    cursor ≤ (l.bounds source starts cursor).1 := by
  unfold bounds
  simp only []
  split
  · simp only []
    split <;> omega
  · exact Nat.le_max_right _ _

/-- A lexeme never stops after the end of the source. -/
theorem bounds_le (source : List Char) (starts : List Nat) (cursor : Nat) (l : Lexeme) :
    (l.bounds source starts cursor).2 ≤ source.length := by
  unfold bounds
  simp only []
  split
  · exact offsetOf_le _ _ _
  · exact offsetOf_le _ _ _

end Lexeme

theorem gapSpan_tiles (source : List Char) (start stop : Nat) (h : start ≤ stop) :
    Tiles start stop (gapSpan source start stop) := by
  unfold gapSpan
  by_cases hlt : start < stop
  · rw [if_pos hlt]
    exact ⟨rfl, hlt, rfl⟩
  · rw [if_neg hlt]
    exact Nat.le_antisymm h (Nat.le_of_not_lt hlt)

/-- The spans of a lexer's output tile the rest of the source, by induction on
    the output. The cursor is the invariant: all before it is tiled. -/
theorem spansFrom_tiles (source : List Char) (starts : List Nat) (lexemes : List Lexeme) :
    ∀ (cursor : Nat), cursor ≤ source.length →
      Tiles cursor source.length (spansFrom source starts cursor lexemes) := by
  induction lexemes with
  | nil =>
      intro cursor hcursor
      exact gapSpan_tiles source cursor source.length hcursor
  | cons l lexemes ih =>
      intro cursor hcursor
      have hstart := l.le_bounds source starts cursor
      have hstop := l.bounds_le source starts cursor
      rw [spansFrom]
      by_cases hempty : (l.bounds source starts cursor).2 ≤ (l.bounds source starts cursor).1
      · -- A lexeme that covers nothing leaves the cursor where it is.
        simp only [if_pos hempty]
        exact ih cursor hcursor
      · -- Up to the lexeme there is a gap, and behind it the cursor is at its end.
        simp only [if_neg hempty]
        exact (gapSpan_tiles source _ _ hstart).append
          ⟨rfl, Nat.lt_of_not_le hempty, ih _ hstop⟩

/-- Joining white space keeps a tiling. -/
theorem mergeWhitespace_tiles (spans : List Span) : ∀ (start stop : Nat),
    Tiles start stop spans → Tiles start stop (mergeWhitespace spans) := by
  induction spans with
  | nil =>
      intro start stop h
      exact h
  | cons s spans ih =>
      intro start stop h
      rcases h with ⟨hstart, hlt, hrest⟩
      have hmerged := ih s.stop stop hrest
      rw [mergeWhitespace]
      cases hm : mergeWhitespace spans with
      | nil =>
          rw [hm] at hmerged
          exact ⟨hstart, hlt, hmerged⟩
      | cons t rest =>
          rw [hm] at hmerged
          rcases hmerged with ⟨hmeet, hlt', hrest'⟩
          simp only []
          by_cases hws : s.kind = .whitespace ∧ t.kind = .whitespace
          · -- The joined span starts with the one and stops with the other.
            rw [if_pos hws]
            exact ⟨hstart, by simp only []; omega, hrest'⟩
          · rw [if_neg hws]
            exact ⟨hstart, hlt, hmeet, hlt', hrest'⟩

/-- The spans of a source tile it. -/
theorem spansOf_tiles (source : List Char) (lexemes : List Lexeme) :
    Tiles 0 source.length (spansOf source lexemes) :=
  mergeWhitespace_tiles _ _ _ (spansFrom_tiles source _ lexemes 0 (Nat.zero_le _))

theorem length_slice (source : List Char) (start stop : Nat) (h : stop ≤ source.length) :
    (slice source start stop).length = stop - start := by
  rw [slice, List.length_take, List.length_drop]
  omega

theorem slice_self (source : List Char) (place : Nat) : slice source place place = [] := by
  rw [slice, Nat.sub_self, List.take_zero]

theorem slice_all (source : List Char) : slice source 0 source.length = source := by
  rw [slice, List.drop_zero, Nat.sub_zero, List.take_length]

/-- Slices that meet make one. -/
theorem slice_append (source : List Char) (start middle stop : Nat) (h1 : start ≤ middle)
    (h2 : middle ≤ stop) :
    slice source start middle ++ slice source middle stop = slice source start stop := by
  have hsplit : stop - start = (middle - start) + (stop - middle) := by omega
  have hdrop : source.drop middle = (source.drop start).drop (middle - start) := by
    rw [List.drop_drop, Nat.add_sub_cancel' h1]
  rw [slice, slice, slice, hsplit, List.take_add, hdrop]

/-- Between two offsets there is a slice. -/
theorem take_append_slice (source : List Char) {start stop : Nat} (h : start ≤ stop) :
    source.take start ++ slice source start stop = source.take stop := by
  have hjoin := slice_append source 0 start stop (Nat.zero_le _) h
  simp only [slice, List.drop_zero, Nat.sub_zero] at hjoin
  exact hjoin

/-- Cutting a source along a tiling loses nothing. -/
theorem Tiles.flatMap_slice (source : List Char) {spans : List Span} :
    ∀ {start stop : Nat}, Tiles start stop spans →
      spans.flatMap (fun s => slice source s.start s.stop) = slice source start stop := by
  induction spans with
  | nil =>
      intro start stop h
      have heq : start = stop := h
      rw [heq, slice_self, List.flatMap_nil]
  | cons s spans ih =>
      intro start stop h
      rcases h with ⟨hstart, hlt, hrest⟩
      rw [List.flatMap_cons, ih hrest, hstart,
        slice_append source start s.stop stop (by omega) hrest.le]

section TokensFrom

variable (path : Path) (source : List Char)

theorem map_text_tokensFrom (spans : List Span) : ∀ (place : Place) (index : Nat),
    (tokensFrom path source place index spans).map (·.text) =
      spans.map fun s => slice source s.start s.stop := by
  induction spans with
  | nil =>
      intro place index
      rfl
  | cons s spans ih =>
      intro place index
      simp only [tokensFrom, List.map_cons, ih]

theorem map_kind_tokensFrom (spans : List Span) : ∀ (place : Place) (index : Nat),
    (tokensFrom path source place index spans).map (·.kind) = spans.map (·.kind) := by
  induction spans with
  | nil =>
      intro place index
      rfl
  | cons s spans ih =>
      intro place index
      simp only [tokensFrom, List.map_cons, ih]

theorem path_of_mem_tokensFrom (spans : List Span) : ∀ (place : Place) (index : Nat),
    ∀ t ∈ tokensFrom path source place index spans, t.path = path := by
  induction spans with
  | nil =>
      intro place index t ht
      exact absurd ht List.not_mem_nil
  | cons s spans ih =>
      intro place index t ht
      rcases List.mem_cons.mp ht with rfl | ht
      · rfl
      · exact ih _ _ t ht

theorem index_tokensFrom (spans : List Span) : ∀ (place : Place) (index i : Nat) (t : Token),
    (tokensFrom path source place index spans)[i]? = some t → t.index = (index + i : Nat) := by
  induction spans with
  | nil =>
      intro place index i t ht
      simp only [tokensFrom, List.getElem?_nil, reduceCtorEq] at ht
  | cons s spans ih =>
      intro place index i t ht
      cases i with
      | zero =>
          simp only [tokensFrom, List.getElem?_cons_zero, Option.some.injEq] at ht
          rw [← ht, Nat.add_zero]
      | succ i =>
          simp only [tokensFrom, List.getElem?_cons_succ] at ht
          rw [ih _ _ i t ht]
          omega

end TokensFrom

/-- A lexer that does not give up leads to a token stream. -/
theorem tokenize_ok (path : Path) (source : List Char) (lexemes : List Lexeme) :
    tokenize path source ⟨lexemes, none⟩ =
      .ok (.ofTokens path (tokensFrom path source .origin 0 (spansOf source lexemes))) := rfl

/-- The texts of the tokens, put together. -/
theorem flatMap_text_tokensFrom (path : Path) (source : List Char) (lexemes : List Lexeme) :
    (tokensFrom path source .origin 0 (spansOf source lexemes)).flatMap (·.text) = source := by
  rw [List.flatMap_def, map_text_tokensFrom, ← List.flatMap_def,
    (spansOf_tiles source lexemes).flatMap_slice, slice_all]

/-- Tokenizing is lossless, whatever the lexer says: the tokens put together
    are the source, none of them is empty, and each has its number in the
    stream and the path of the file. -/
theorem tokenize_lossless (path : Path) (source : List Char) (lexemes : List Lexeme) :
    ∃ s, tokenize path source ⟨lexemes, none⟩ = .ok s ∧ s.text = source ∧
      (∀ t ∈ s.tokens, t.text ≠ []) ∧
      (∀ (i : Nat) (t : Token), s.tokens[i]? = some t → t.index = i) ∧
      ∀ t ∈ s.tokens, t.path = path := by
  have htiles := spansOf_tiles source lexemes
  refine ⟨_, tokenize_ok path source lexemes, ?_, ?_, ?_, ?_⟩
  · rw [TokenStream.text, TokenStream.ofTokens, List.flatMap_def, map_text_tokensFrom,
      ← List.flatMap_def, htiles.flatMap_slice, slice_all]
  · intro t ht hempty
    have htext : t.text ∈ (spansOf source lexemes).map fun s => slice source s.start s.stop := by
      rw [← map_text_tokensFrom path source _ .origin 0]
      exact List.mem_map_of_mem ht
    rcases List.mem_map.mp htext with ⟨s, hs, hslice⟩
    rcases htiles.mem hs with ⟨_, hlt, hstop⟩
    -- The span is not empty, so neither is the text cut along it.
    have hlen := length_slice source s.start s.stop hstop
    rw [hslice, hempty, List.length_nil] at hlen
    omega
  · intro i t ht
    rw [index_tokensFrom path source _ _ _ i t ht, Nat.zero_add]
  · exact path_of_mem_tokensFrom path source _ _ _

end TokenLint
