import Mathlib.Data.List.Chain
import TokenLint.Proofs.Token.Offset
import TokenLint.Proofs.Token.Tiling

/-!
# What Becomes of Lexemes

A lexer whose output is in order loses nothing on the way to the token
stream. Each lexeme that covers a character, line ends that end no statement
aside, is one token, with its kind and with exactly the text that it covers.
The tokens of the lexemes come in the order of the lexemes, and what stands
between them is white space, a line join, or text that is no token.

`InOrder` is what is asked of the lexer. It is stated over the offsets of the
lexemes, clamped to the source, where a line ending that is there in the
source is taken to stop at the start of the next line. The lexer may say of
such an ending what it likes: its own end is never looked at.

`Interspersed` is how the two sequences are compared: every element of the
first has its partner in the second, in order, and every other element of the
second is an extra one. The comparison is carried through the three passes
over the spans. The pass that joins white space can only touch extra spans,
since no lexeme that is told apart becomes white space.

A carriage return may stand in front of a line ending and be covered by no
lexeme. The ending takes it in. So the token of an ending can start one
character early, and an ending that covers nothing of its own can still
become a token, whose text is the carriage return alone. The second case is
an extra token that is neither white space nor a join nor an error, and
`bareReturn_not_filler` shows that it does come up.

## Main definitions

* `Lexeme.first`, `Lexeme.last`: The stretch that the coordinates name.
* `InOrder`: Lexemes that stand one after the other.
* `Interspersed`: Two lists in step, but for extra elements of the second.
* `IsAhead`: No lexeme behind the cursor covers what is in front of it.
* `Lexeme.FollowsReturn`: A line ending behind a return that no lexeme covers.
* `Lexeme.StandsAs`: What is asked of the token of a lexeme.
* `Token.IsFiller`, `IsBareReturn`: What else is in the stream.
* `located`: Tokens with the number of characters before them.

## Theorems

* `Lexeme.bounds_of_le`: In order, the cursor does not clip a lexeme.
* `spansFrom_interspersed`: The spans of lexemes in order.
* `mergeWhitespace_interspersed`: Joining white space touches extra spans only.
* `mergeWhitespace_isChain`: No two spans of white space are left to join.
* `tokenize_keeps_lexemes`: What becomes of lexemes in order.
-/

namespace TokenLint

namespace Lexeme

/-- The offset at which a lexeme starts, by its coordinates. -/
def first (source : List Char) (l : Lexeme) : Nat :=
  offsetOf (lineStarts (Text.unifyReturns source)) source.length l.start

/-- The offset at which a lexeme stops, by its coordinates. A line ending that
    is there in the source stops at the start of the next line. -/
def last (source : List Char) (l : Lexeme) : Nat :=
  offsetOf (lineStarts (Text.unifyReturns source)) source.length
    (if l.isTerminator then ⟨l.start.row + 1, 0⟩ else l.stop)

/-- A lexeme that covers the character at an offset. -/
def Covers (source : List Char) (l : Lexeme) (i : Nat) : Prop :=
  l.first source ≤ i ∧ i < l.last source

/-- Whether a lexeme is to be seen in the token stream: it covers a character
    and is no line end that counts as white space. -/
def isShown (source : List Char) (l : Lexeme) : Bool :=
  l.kind ≠ .nl && l.first source < l.last source

end Lexeme

/-- Lexemes that stand one after the other, the first not before an offset. -/
def InOrder (source : List Char) : (place : Nat) → List Lexeme → Prop
  | _, [] => True
  | place, l :: lexemes =>
    place ≤ l.first source ∧ l.first source ≤ l.last source ∧
      InOrder source (l.last source) lexemes

/-- Two lists in step, but for extra elements of the second. -/
inductive Interspersed {α β : Type} (R : α → β → Prop) (E : β → Prop) :
    List α → List β → Prop
  /-- Nothing is left. -/
  | nil : Interspersed R E [] []
  /-- An element and its partner. -/
  | pair {a : α} {b : β} {as : List α} {bs : List β} :
      R a b → Interspersed R E as bs → Interspersed R E (a :: as) (b :: bs)
  /-- An extra element of the second list. -/
  | extra {b : β} {as : List α} {bs : List β} :
      E b → Interspersed R E as bs → Interspersed R E as (b :: bs)

/-- Tokens with the number of characters before them. -/
def located : (place : Nat) → List Token → List (Nat × Token)
  | _, [] => []
  | place, t :: tokens => (place, t) :: located (place + t.length) tokens

/-- White space with line joins in it, and with nothing else. -/
def IsJoin (text : List Char) : Prop :=
  (∀ c ∈ text, Text.isBlank c ∨ c = '\\') ∧ '\\' ∈ text

/-- A token of text that the lexer passed over, or of a line end that counts
    as white space. -/
def Token.IsFiller (t : Token) : Prop :=
  t.kind = .whitespace ∨ t.kind = .continuation ∧ IsJoin t.text ∨ t.kind = .errorToken

section

variable (source : List Char) (all : List Lexeme)

/-- The end of a statement's line right behind a carriage return, at an
    offset, that no lexeme covers. -/
structure Lexeme.FollowsReturn (l : Lexeme) (i : Nat) : Prop where
  kind : l.kind = .newline
  text : l.text ≠ []
  first : l.first source = i + 1
  return_ : source[i]? = some '\r'
  free : ∀ m ∈ all, ¬ m.Covers source i

/-- What is asked of the token of a lexeme, with the number of characters
    before it: the lexeme's kind, and the text that the lexeme covers. Only a
    carriage return that no lexeme covers can be in front of that. In a source
    without carriage returns the token is where the lexer says. -/
structure Lexeme.StandsAs (l : Lexeme) (p : Nat × Token) : Prop where
  kind : p.2.kind = Kind.ofLexeme l.kind l.text
  text : p.2.text = slice source p.1 (l.last source)
  place : p.1 = l.first source ∨ l.FollowsReturn source all p.1
  position : '\r' ∉ source → l.start.Inside source →
    p.2.line = l.start.row ∧ p.2.column = l.start.column + 1

/-- A token that is one carriage return, taken in by a line ending that
    covers nothing itself. -/
def IsBareReturn (p : Nat × Token) : Prop :=
  p.2.kind = .newline ∧ p.2.text = ['\r'] ∧
    ∃ l ∈ all, l.first source = l.last source ∧ l.FollowsReturn source all p.1

end

theorem InOrder.mem {source : List Char} {lexemes : List Lexeme} {m : Lexeme} :
    ∀ {place : Nat}, InOrder source place lexemes → m ∈ lexemes → place ≤ m.first source := by
  induction lexemes with
  | nil =>
      intro place _ hm
      exact absurd hm List.not_mem_nil
  | cons l lexemes ih =>
      intro place h hm
      rcases h with ⟨hplace, hle, hrest⟩
      rcases List.mem_cons.mp hm with rfl | hm
      · exact hplace
      · have hnext := ih hrest hm
        omega

/-- A cursor further back is as good. -/
theorem InOrder.mono {source : List Char} {lexemes : List Lexeme} {place place' : Nat}
    (h : InOrder source place lexemes) (hle : place' ≤ place) :
    InOrder source place' lexemes := by
  cases lexemes with
  | nil => exact trivial
  | cons l lexemes => exact ⟨Nat.le_trans hle h.1, h.2⟩

/-- In order, the cursor does not clip a lexeme: it starts where its
    coordinates say, or one character before that on a carriage return. -/
theorem Lexeme.bounds_of_le (source : List Char) (cursor : Nat) (l : Lexeme)
    (h : cursor ≤ l.first source) :
    l.bounds source (lineStarts (Text.unifyReturns source)) cursor =
        (l.first source, l.last source) ∨
      ∃ i, cursor ≤ i ∧ l.first source = i + 1 ∧ l.isTerminator = true ∧
        source[i]? = some '\r' ∧
        l.bounds source (lineStarts (Text.unifyReturns source)) cursor =
          (i, l.last source) := by
  have hmax : max (l.first source) cursor = l.first source := Nat.max_eq_left h
  unfold first at hmax h
  by_cases hterm : l.isTerminator = true
  · by_cases hback : cursor < l.first source ∧ source[l.first source - 1]? = some '\r'
    · right
      refine ⟨l.first source - 1, by omega, by omega, hterm, hback.2, ?_⟩
      unfold first at hback
      simp only [bounds, hmax, if_pos hterm, if_pos hback, last, first]
    · left
      unfold first at hback
      simp only [bounds, hmax, if_pos hterm, if_neg hback, last, first]
  · left
    simp only [bounds, hmax, if_neg hterm, last, first]

/-- A lexeme of one of the lexer's own kinds becomes white space only if it is
    a line end that ends no statement. -/
theorem Kind.ofLexeme_ne_whitespace (kind : Kind) (text : List Char)
    (hlex : kind.isLexical = true) (hnl : kind ≠ .nl) :
    Kind.ofLexeme kind text ≠ .whitespace := by
  intro h
  unfold ofLexeme at h
  split at h
  · split at h
    · simp only [reduceCtorEq] at h
    · split at h <;> simp only [reduceCtorEq] at h
  · split at h <;> simp only [reduceCtorEq] at h
  · exact hnl rfl
  · rw [h] at hlex
    simp only [isLexical, Bool.false_eq_true] at hlex

/-- Text that the lexer passed over is white space, a join, or an error. -/
theorem Kind.ofGap_cases (text : List Char) :
    Kind.ofGap text = .whitespace ∨ Kind.ofGap text = .continuation ∧ IsJoin text ∨
      Kind.ofGap text = .errorToken := by
  unfold ofGap
  by_cases hblank : Text.allBlank text = true
  · exact Or.inl (if_pos hblank)
  · rw [if_neg hblank]
    by_cases hrest : Text.allBlank (text.filter (· != '\\')) = true
    · right
      left
      rw [if_pos hrest]
      rw [Text.allBlank, Bool.and_eq_true, List.all_eq_true] at hrest
      refine ⟨rfl, ?_, ?_⟩
      · intro c hc
        by_cases hback : c = '\\'
        · exact Or.inr hback
        · exact Or.inl (hrest.2 c (List.mem_filter.mpr ⟨hc, bne_iff_ne.mpr hback⟩))
      · -- Without a backslash nothing is taken out, and the text is blank itself.
        by_contra hnone
        have hself : text.filter (· != '\\') = text := by
          rw [List.filter_eq_self]
          intro c hc
          rw [bne_iff_ne]
          rintro rfl
          exact hnone hc
        rw [hself] at hrest
        rw [Text.allBlank, Bool.and_eq_true, List.all_eq_true] at hblank
        exact hblank hrest
    · right
      right
      rw [if_neg hrest]

namespace Interspersed

variable {α β : Type} {R : α → β → Prop} {E : β → Prop}

/-- Extra elements may stand in front. -/
theorem append_left {as : List α} {bs : List β} (h : Interspersed R E as bs) (front : List β)
    (hfront : ∀ b ∈ front, E b) : Interspersed R E as (front ++ bs) := by
  induction front with
  | nil => exact h
  | cons b front ih =>
      exact .extra (hfront b List.mem_cons_self)
        (ih fun c hc => hfront c (List.mem_cons_of_mem b hc))

end Interspersed

section Spans

variable (source : List Char) (all : List Lexeme)

/-- What is asked of the span of a lexeme. It is no white space, so that the
    pass that joins white space leaves it alone. -/
structure Lexeme.Fills (l : Lexeme) (s : Span) : Prop where
  kind : s.kind = Kind.ofLexeme l.kind l.text
  shown : s.kind ≠ .whitespace
  stop : s.stop = l.last source
  place : s.start = l.first source ∨ l.FollowsReturn source all s.start

/-- A span that is one carriage return, taken in by a line ending that covers
    nothing itself. -/
def Span.IsBareReturn (s : Span) : Prop :=
  s.kind = .newline ∧ s.stop = s.start + 1 ∧
    ∃ l ∈ all, l.first source = l.last source ∧ l.FollowsReturn source all s.start

/-- What else is among the spans. -/
def Span.IsExtra (s : Span) : Prop :=
  (s.kind = .whitespace ∨ s.kind = .continuation ∧ IsJoin (slice source s.start s.stop) ∨
    s.kind = .errorToken) ∨ s.IsBareReturn source all

theorem isExtra_of_mem_gapSpan (start stop : Nat) (s : Span)
    (h : s ∈ gapSpan source start stop) : s.IsExtra source all := by
  unfold gapSpan at h
  split at h
  · rw [List.mem_singleton] at h
    subst h
    exact Or.inl (Kind.ofGap_cases _)
  · exact absurd h List.not_mem_nil

/-- What covers a character from the cursor on is still to come. -/
def IsAhead (cursor : Nat) (lexemes : List Lexeme) : Prop :=
  ∀ m ∈ all, ∀ i, cursor ≤ i → m.Covers source i → m ∈ lexemes

/-- The cursor moves on, behind a lexeme that is done with. -/
theorem IsAhead.tail {cursor cursor' : Nat} {l : Lexeme} {lexemes : List Lexeme}
    (h : IsAhead source all cursor (l :: lexemes)) (hle : cursor ≤ cursor')
    (hdone : ∀ i, cursor' ≤ i → ¬ l.Covers source i) : IsAhead source all cursor' lexemes := by
  intro m hm i hi hcov
  rcases List.mem_cons.mp (h m hm i (Nat.le_trans hle hi) hcov) with rfl | hm'
  · exact absurd hcov (hdone i hi)
  · exact hm'

/-- In order a lexeme starts where its coordinates say, or on a carriage return
    right before that. A return behind the cursor is covered by nobody: not by
    a lexeme to come, since those start later. -/
theorem exists_bounds (l : Lexeme) (lexemes : List Lexeme) (cursor : Nat)
    (hord : InOrder source cursor (l :: lexemes))
    (hahead : IsAhead source all cursor (l :: lexemes)) :
    ∃ start, cursor ≤ start ∧
      l.bounds source (lineStarts (Text.unifyReturns source)) cursor = (start, l.last source) ∧
      (start = l.first source ∨
        start + 1 = l.first source ∧ (l.kind = .nl ∨ l.FollowsReturn source all start)) := by
  rcases hord with ⟨hcursor, hle, hord⟩
  rcases l.bounds_of_le source cursor hcursor with hb | ⟨i, hi, hfirst, hterm, hret, hb⟩
  · exact ⟨l.first source, hcursor, hb, Or.inl rfl⟩
  · refine ⟨i, hi, hb, Or.inr ⟨hfirst.symm, ?_⟩⟩
    rw [Lexeme.isTerminator, Bool.and_eq_true, Bool.or_eq_true, decide_eq_true_eq,
      decide_eq_true_eq, Bool.not_eq_true', List.isEmpty_eq_false_iff] at hterm
    rcases hterm with ⟨hkind | hkind, htext⟩
    · refine Or.inr ⟨hkind, htext, hfirst, hret, fun m hm hcov => ?_⟩
      have hge : m.first source ≤ i := hcov.1
      rcases List.mem_cons.mp (hahead m hm i hi hcov) with rfl | hm'
      · omega
      · have hnext := hord.mem hm'
        omega
    · exact Or.inl hkind

theorem isShown_iff (l : Lexeme) :
    l.isShown source = true ↔ l.kind ≠ .nl ∧ l.first source < l.last source := by
  rw [Lexeme.isShown, Bool.and_eq_true, decide_eq_true_eq, decide_eq_true_eq]

/-- The span of a lexeme goes in front of the spans after it: as its partner if
    the lexeme is shown, and else as an extra one. -/
theorem interspersed_cons_span (l : Lexeme) (lexemes : List Lexeme) (spans : List Span)
    (start : Nat) (hmem : l ∈ all) (hlex : l.kind.isLexical = true)
    (hle : l.first source ≤ l.last source) (hlt : start < l.last source)
    (hplace : start = l.first source ∨
      start + 1 = l.first source ∧ (l.kind = .nl ∨ l.FollowsReturn source all start))
    (h : Interspersed (Lexeme.Fills source all) (Span.IsExtra source all)
      (lexemes.filter (·.isShown source)) spans) :
    Interspersed (Lexeme.Fills source all) (Span.IsExtra source all)
      ((l :: lexemes).filter (·.isShown source))
      (⟨Kind.ofLexeme l.kind l.text, start, l.last source⟩ :: spans) := by
  by_cases hnl : l.kind = .nl
  · -- A line end that ends no statement is white space.
    rw [List.filter_cons_of_neg fun hs => ((isShown_iff source l).mp hs).1 hnl]
    refine .extra (Or.inl (Or.inl ?_)) h
    simp only [hnl, Kind.ofLexeme]
  · have hkind := Kind.ofLexeme_ne_whitespace l.kind l.text hlex hnl
    have hplace' : start = l.first source ∨ l.FollowsReturn source all start := by
      rcases hplace with heq | ⟨_, hkind' | hret⟩
      · exact Or.inl heq
      · exact absurd hkind' hnl
      · exact Or.inr hret
    by_cases hcovers : l.first source < l.last source
    · rw [List.filter_cons_of_pos ((isShown_iff source l).mpr ⟨hnl, hcovers⟩)]
      exact .pair ⟨rfl, hkind, rfl, hplace'⟩ h
    · -- Only the carriage return is left for the span.
      rw [List.filter_cons_of_neg fun hs => hcovers ((isShown_iff source l).mp hs).2]
      rcases hplace' with heq | hret
      · omega
      · have hfirst := hret.first
        refine .extra (Or.inr ⟨?_, by simp only []; omega, l, hmem, by omega, hret⟩) h
        simp only [hret.kind, Kind.ofLexeme]

/-- The spans of lexemes in order, by induction on the lexemes. -/
theorem spansFrom_interspersed (hlex : ∀ l ∈ all, l.kind.isLexical = true)
    (lexemes : List Lexeme) : ∀ (cursor : Nat), (∀ l ∈ lexemes, l ∈ all) →
      InOrder source cursor lexemes → IsAhead source all cursor lexemes →
      Interspersed (Lexeme.Fills source all) (Span.IsExtra source all)
        (lexemes.filter (·.isShown source))
        (spansFrom source (lineStarts (Text.unifyReturns source)) cursor lexemes) := by
  induction lexemes with
  | nil =>
      intro cursor _ _ _
      rw [spansFrom, List.filter_nil, ← List.append_nil (gapSpan _ _ _)]
      exact Interspersed.nil.append_left _ (isExtra_of_mem_gapSpan source all cursor source.length)
  | cons l lexemes ih =>
      intro cursor hsub hord hahead
      have hmem : l ∈ all := hsub l List.mem_cons_self
      have hsub' : ∀ m ∈ lexemes, m ∈ all := fun m hm => hsub m (List.mem_cons_of_mem l hm)
      have hle : l.first source ≤ l.last source := hord.2.1
      rcases exists_bounds source all l lexemes cursor hord hahead with
        ⟨start, hstart, hb, hplace⟩
      rw [spansFrom]
      simp only [hb]
      by_cases hempty : l.last source ≤ start
      · -- Nothing is covered: no span comes of the lexeme, and it is not shown.
        have hfirst : ¬ l.first source < l.last source := by omega
        rw [if_pos hempty,
          List.filter_cons_of_neg fun hs => hfirst ((isShown_iff source l).mp hs).2]
        have hdone : ∀ i, cursor ≤ i → ¬ l.Covers source i := by
          intro i _ hcov
          have hlow : l.first source ≤ i := hcov.1
          have hhigh : i < l.last source := hcov.2
          omega
        exact ih cursor hsub' (hord.2.2.mono (by omega))
          (hahead.tail source all (Nat.le_refl cursor) hdone)
      · rw [if_neg hempty]
        refine Interspersed.append_left ?_ _ (isExtra_of_mem_gapSpan source all cursor start)
        refine interspersed_cons_span source all l lexemes _ start hmem (hlex l hmem) hle
          (Nat.lt_of_not_le hempty) hplace ?_
        have hdone : ∀ i, l.last source ≤ i → ¬ l.Covers source i := fun i hi hcov =>
          Nat.not_lt.mpr hi hcov.2
        exact ih (l.last source) hsub' hord.2.2 (hahead.tail source all (by omega) hdone)

end Spans

section Merge

variable {R : Lexeme → Span → Prop} {E : Span → Prop}

/-- Joining white space touches extra spans only, as long as no partner of a
    lexeme is white space and all white space counts as extra. -/
theorem mergeWhitespace_interspersed (hR : ∀ l s, R l s → s.kind ≠ .whitespace)
    (hE : ∀ s : Span, s.kind = .whitespace → E s) {lexemes : List Lexeme} {spans : List Span}
    (h : Interspersed R E lexemes spans) :
    Interspersed R E lexemes (mergeWhitespace spans) := by
  induction h with
  | nil => exact .nil
  | @pair l s lexemes spans hrel _ ih =>
      have hkind := hR l s hrel
      rw [mergeWhitespace]
      cases hm : mergeWhitespace spans with
      | nil =>
          rw [hm] at ih
          exact .pair hrel ih
      | cons t rest =>
          rw [hm] at ih
          simp only []
          rw [if_neg fun hws => hkind hws.1]
          exact .pair hrel ih
  | @extra s lexemes spans hextra _ ih =>
      rw [mergeWhitespace]
      cases hm : mergeWhitespace spans with
      | nil =>
          rw [hm] at ih
          exact .extra hextra ih
      | cons t rest =>
          rw [hm] at ih
          simp only []
          by_cases hws : s.kind = .whitespace ∧ t.kind = .whitespace
          · rw [if_pos hws]
            -- The span that is joined on is white space, so no lexeme's partner.
            cases ih with
            | pair hrel _ => exact absurd hws.2 (hR _ t hrel)
            | extra _ hrest => exact .extra (hE _ rfl) hrest
          · rw [if_neg hws]
            exact .extra hextra ih

/-- After the pass no two spans of white space are left to join. -/
theorem mergeWhitespace_isChain (spans : List Span) :
    ((mergeWhitespace spans).map (·.kind)).IsChain
      fun a b => ¬ (a = .whitespace ∧ b = .whitespace) := by
  induction spans with
  | nil => exact List.IsChain.nil
  | cons s spans ih =>
      rw [mergeWhitespace]
      cases hm : mergeWhitespace spans with
      | nil => exact List.IsChain.singleton _
      | cons t rest =>
          rw [hm, List.map_cons] at ih
          simp only []
          by_cases hws : s.kind = .whitespace ∧ t.kind = .whitespace
          · rw [if_pos hws, List.map_cons]
            simp only [hws.2] at ih
            exact ih
          · rw [if_neg hws, List.map_cons, List.map_cons]
            exact List.IsChain.cons_cons hws ih

end Merge

section Tokens

variable (path : Path) (source : List Char)

/-- The token of a span, at the place that is counted over the text before. -/
def Span.token (index : Nat) (s : Span) : Token where
  kind := s.kind
  text := slice source s.start s.stop
  line := (Place.past (source.take s.start)).line
  column := (Place.past (source.take s.start)).column
  index := index
  path := path

/-- Along a tiling the number of characters before a token is the offset at
    which its span starts. -/
theorem located_tokensFrom_cons (s : Span) (spans : List Span) (start stop index : Nat)
    (h : Tiles start stop (s :: spans)) (hstop : stop ≤ source.length) :
    located start (tokensFrom path source (.past (source.take start)) index (s :: spans)) =
      (s.start, s.token path source index) :: located s.stop
        (tokensFrom path source (.past (source.take s.stop)) (index + 1) spans) := by
  rcases h with ⟨rfl, hlt, hrest⟩
  have hle := hrest.le
  have hlen := length_slice source s.start s.stop (by omega)
  have htake : source.take s.start ++ slice source s.start s.stop = source.take s.stop := by
    have hsplit := slice_append source 0 s.start s.stop (Nat.zero_le _) (by omega)
    simp only [slice, List.drop_zero, Nat.sub_zero] at hsplit
    rw [slice]
    exact hsplit
  rw [tokensFrom, located, Place.past_append, htake]
  simp only [Token.length, hlen]
  rw [Nat.add_sub_cancel' (Nat.le_of_lt hlt)]
  rfl

/-- What holds of the spans of a tiling holds of their tokens. -/
theorem Interspersed.located {all : List Lexeme} {lexemes : List Lexeme} {spans : List Span}
    (h : Interspersed (Lexeme.Fills source all) (Span.IsExtra source all) lexemes spans) :
    ∀ (start stop index : Nat), Tiles start stop spans → stop ≤ source.length →
      Interspersed (Lexeme.StandsAs source all)
        (fun p => p.2.IsFiller ∨ IsBareReturn source all p) lexemes
        (located start (tokensFrom path source (.past (source.take start)) index spans)) := by
  induction h with
  | nil =>
      intro start stop index _ _
      exact .nil
  | @pair l s lexemes spans hfills _ ih =>
      intro start stop index htiles hstop
      rw [located_tokensFrom_cons path source s spans start stop index htiles hstop]
      refine .pair ⟨hfills.kind, ?_, hfills.place, ?_⟩ (ih _ stop _ htiles.2.2 hstop)
      · rw [← hfills.stop]
        rfl
      · intro hreturn hinside
        -- Without carriage returns the span starts at the lexeme's coordinates.
        have hstart : s.start = l.first source := by
          rcases hfills.place with heq | hret
          · exact heq
          · exact absurd (List.mem_of_getElem? hret.return_) hreturn
        have hpast := hinside.past
        rw [Lexeme.first, Text.unifyReturns_of_not_mem source hreturn] at hstart
        rw [← hstart] at hpast
        simp only [Span.token, hpast, true_and]
        omega
  | @extra s lexemes spans hextra _ ih =>
      intro start stop index htiles hstop
      rw [located_tokensFrom_cons path source s spans start stop index htiles hstop]
      refine .extra ?_ (ih _ stop _ htiles.2.2 hstop)
      rcases hextra with hfiller | ⟨hkind, hone, l, hl, hempty, hret⟩
      · exact Or.inl hfiller
      · refine Or.inr ⟨hkind, ?_, l, hl, hempty, hret⟩
        rcases List.getElem?_eq_some_iff.mp hret.return_ with ⟨hlt, hchar⟩
        simp only [Span.token, slice, hone, Nat.add_sub_cancel_left]
        rw [List.drop_eq_getElem_cons hlt, hchar, List.take_succ_cons, List.take_zero]

end Tokens

/-- The tokens of a source, compared with the lexemes of a lexer whose output
    is in order: the shown lexemes have their tokens, in order, and what else
    is in the stream is filler or a bare return. -/
theorem tokenize_keeps_lexemes (path : Path) (source : List Char) (lexemes : List Lexeme)
    (hlex : ∀ l ∈ lexemes, l.kind.isLexical = true) (hord : InOrder source 0 lexemes) :
    ∃ s, tokenize path source ⟨lexemes, none⟩ = .ok s ∧
      Interspersed (Lexeme.StandsAs source lexemes)
        (fun p => p.2.IsFiller ∨ IsBareReturn source lexemes p)
        (lexemes.filter (·.isShown source)) (located 0 s.tokens) ∧
      (s.tokens.map (·.kind)).IsChain fun a b => ¬ (a = .whitespace ∧ b = .whitespace) := by
  refine ⟨_, tokenize_ok path source lexemes, ?_, ?_⟩
  · have hspans := spansFrom_interspersed source lexemes hlex lexemes 0 (fun _ h => h) hord
      (fun m hm _ _ _ => hm)
    have hmerged := mergeWhitespace_interspersed (fun _ _ h => h.shown)
      (fun _ h => Or.inl (Or.inl h)) hspans
    exact hmerged.located path source 0 source.length 0 (spansOf_tiles source lexemes)
      (Nat.le_refl _)
  · rw [TokenStream.ofTokens, map_kind_tokensFrom]
    exact mergeWhitespace_isChain _

instance decidableInOrder (source : List Char) :
    ∀ (place : Nat) (lexemes : List Lexeme), Decidable (InOrder source place lexemes)
  | _, [] => .isTrue trivial
  | place, l :: lexemes =>
    have := decidableInOrder source (l.last source) lexemes
    inferInstanceAs (Decidable (place ≤ l.first source ∧ l.first source ≤ l.last source ∧
      InOrder source (l.last source) lexemes))

/-- A joined statement whose line ends with a carriage return that the lexer
    leaves out. -/
def joinedLexemes : List Lexeme :=
  [⟨.name, ['x'], ⟨1, 0⟩, ⟨1, 1⟩⟩, ⟨.op, ['='], ⟨2, 1⟩, ⟨2, 2⟩⟩,
    ⟨.number, ['1'], ⟨2, 3⟩, ⟨2, 4⟩⟩, ⟨.newline, ['\n'], ⟨2, 5⟩, ⟨2, 6⟩⟩]

theorem tokenize_keeps_joined :
    let source := "x \\\n = 1\r\n".toList
    (∀ l ∈ joinedLexemes, l.kind.isLexical = true) ∧ InOrder source 0 joinedLexemes ∧
      ∃ s, tokenize .here source ⟨joinedLexemes, none⟩ = .ok s ∧
        Interspersed (Lexeme.StandsAs source joinedLexemes)
          (fun p => p.2.IsFiller ∨ IsBareReturn source joinedLexemes p)
          (joinedLexemes.filter (·.isShown source)) (located 0 s.tokens) ∧
        (s.tokens.map (·.kind)).IsChain fun a b => ¬ (a = .whitespace ∧ b = .whitespace) :=
  ⟨by decide, by decide, tokenize_keeps_lexemes .here _ joinedLexemes (by decide) (by decide)⟩

/-- A lexer's output that puts the ending of a line behind the lone carriage
    return that it stands for. -/
def lateEnding : List Lexeme :=
  [⟨.name, ['a'], ⟨1, 0⟩, ⟨1, 1⟩⟩, ⟨.newline, ['\n'], ⟨1, 2⟩, ⟨1, 3⟩⟩]

/-- A bare return is no filler: without it the tokens of a lexer whose output
    is in order are not accounted for. -/
theorem bareReturn_not_filler :
    (∀ l ∈ lateEnding, l.kind.isLexical = true) ∧ InOrder ['a', '\r'] 0 lateEnding ∧
      ¬ ∃ s, tokenize .here ['a', '\r'] ⟨lateEnding, none⟩ = .ok s ∧
        Interspersed (Lexeme.StandsAs ['a', '\r'] lateEnding) (fun p => p.2.IsFiller)
          (lateEnding.filter (·.isShown ['a', '\r'])) (located 0 s.tokens) := by
  refine ⟨by decide, by decide, ?_⟩
  rintro ⟨s, hs, h⟩
  have htokens : s = .ofTokens .here [⟨.name, ['a'], 1, 1, 0, .here⟩,
      ⟨.newline, ['\r'], 1, 2, 1, .here⟩] := by
    rw [tokenize_ok, Except.ok.injEq] at hs
    rw [← hs]
    rfl
  have hshown : lateEnding.filter (·.isShown ['a', '\r']) =
      [⟨.name, ['a'], ⟨1, 0⟩, ⟨1, 1⟩⟩] := by decide
  rw [htokens, hshown] at h
  cases h with
  | pair _ hrest =>
      cases hrest with
      | extra hfiller _ =>
          simp only [Token.IsFiller, reduceCtorEq, false_and, or_self] at hfiller
  | extra hfiller _ =>
      simp only [Token.IsFiller, reduceCtorEq, false_and, or_self] at hfiller

end TokenLint
