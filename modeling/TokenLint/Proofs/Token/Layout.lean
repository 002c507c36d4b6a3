import TokenLint.Proofs.Text.LineStart
import TokenLint.Proofs.Token.Coverage

/-!
# What a Token Stream Shows of a Layout

A lexer that is in order says of every character whether a lexeme covers it.
What it passes over is white space, and now and then a line join. Line ends
that end no statement count as white space too. From this a character of the
source can be told to be white space or not without any token: `IsWhite` is
about the lexemes alone.

In the stream the white space comes in tokens, one for each stretch of it.
`isWhite_iff` says that the tokens of white space have the white characters and
no others, and `isWhite_borders` that a token of white space cannot be made any
longer. Between the two there is nothing left to know of how spans are cut and
joined, and a rule about white space can be read off the source.

Text that the lexer passes over is all white or not white at all. A single
backslash makes all of it a line join, from the lexeme in front of it to the
lexeme behind it, blank lines and indentation included.

## Main definitions

* `IsSkipped`: A character that no lexeme covers.
* `IsJoined`: A character in text with a line join that no lexeme covers.
* `IsWhite`: A character that counts as white space.
* `Lexeme.IsTidy`: A lexeme that covers what it should.
* `LaidOut`: What is asked of a lexer.
* `Span.Shows`: What the spans of a source can be.

## Theorems

* `InOrder.eq_of_covers`: A character is covered once.
* `gapSpan_shows`, `spansFrom_shows`, `spansOf_shows`: The spans of a source.
* `IsWhite.isBlank`, `IsWhite.kind_eq`: What a white character can be.
* `isWhite_iff`: The spans of white space have the white characters.
* `isWhite_borders`: A span of white space ends where the white space does.
* `tokensFrom_cons`: The tokens of spans, one by one.
-/

namespace TokenLint

section Characters

-- There are finitely many characters, and these instances keep a question about those of a
-- text from being answered by a try of each one.
variable (p : Char → Prop) [DecidablePred p]

instance decidableForallMemText (cs : List Char) : Decidable (∀ c ∈ cs, p c) :=
  List.decidableBAll p cs

instance decidableExistsMemText (cs : List Char) : Decidable (∃ c ∈ cs, p c) :=
  List.decidableBEx p cs

instance decidableExistsMemOption (c? : Option Char) : Decidable (∃ c ∈ c?, p c) :=
  Option.decidableExistsMem c?

end Characters

section Definitions

variable (source : List Char) (lexemes : List Lexeme)

/-- A character that no lexeme covers. -/
def IsSkipped (i : Nat) : Prop := ∀ l ∈ lexemes, ¬ l.Covers source i

/-- A character in text with a backslash in it that no lexeme covers. -/
def IsJoined (i : Nat) : Prop :=
  ∃ j < source.length, source[j]? = some '\\' ∧
    ∀ k ≤ max i j, min i j ≤ k → IsSkipped source lexemes k

/-- A character that counts as white space: it is in text without a backslash that no
    lexeme covers, or ends a line but no statement. -/
def IsWhite (i : Nat) : Prop :=
  IsSkipped source lexemes i ∧ ¬ IsJoined source lexemes i ∨
    ∃ l ∈ lexemes, l.kind = .nl ∧ l.Covers source i

/-- A lexeme that covers what it should. The ending of a line covers the line feed, and
    indentation covers all blanks in front of a line. Anything else begins with a
    character that is not blank, and is neither white space nor a line end without text. -/
structure Lexeme.IsTidy (l : Lexeme) : Prop where
  ending : l.isTerminator = true →
    source[l.first source]? = some '\n' ∧ l.last source = l.first source + 1
  indent : l.kind = .indent → l.first source ∈ lineStarts source ∧ l.last source =
    l.first source + (Text.indentation (Text.lineFrom source (l.first source))).length
  other : l.isTerminator = false → l.kind ≠ .indent →
    l.kind ≠ .whitespace ∧ l.kind ≠ .nl ∧ ∃ c ∈ source[l.first source]?, Text.isBlank c = false

/-- What is asked of a lexer: that its lexemes stand one after the other, that those which
    cover something are tidy, and that it passes over nothing but blanks and backslashes. -/
structure LaidOut : Prop where
  order : InOrder source 0 lexemes
  tidy : ∀ l ∈ lexemes, l.first source < l.last source → l.IsTidy source
  skipped : ∀ i < source.length, IsSkipped source lexemes i →
    ∃ c ∈ source[i]?, Text.isBlank c = true ∨ c = '\\'

/-- What the spans of a source can be. -/
inductive Span.Shows : Span → Prop
  /-- White space. -/
  | white {start stop : Nat} (h : ∀ i, start ≤ i → i < stop → IsWhite source lexemes i) :
      Shows ⟨.whitespace, start, stop⟩
  /-- Text with a line join in it. -/
  | joined {kind : Kind} {start stop : Nat} (hkind : kind = .continuation ∨ kind = .errorToken)
      (h : ∀ i, start ≤ i → i < stop → IsJoined source lexemes i) : Shows ⟨kind, start, stop⟩
  /-- A lexeme. -/
  | lexeme {l : Lexeme} (hl : l ∈ lexemes) (hlt : l.first source < l.last source)
      (hend : l.kind ≠ .nl) (hwhite : l.kind ≠ .whitespace) :
      Shows ⟨Kind.ofLexeme l.kind l.text, l.first source, l.last source⟩

instance (l : Lexeme) (i : Nat) : Decidable (l.Covers source i) :=
  inferInstanceAs (Decidable (_ ∧ _))

instance (i : Nat) : Decidable (IsSkipped source lexemes i) :=
  inferInstanceAs (Decidable (∀ l ∈ lexemes, _))

instance (i : Nat) : Decidable (IsJoined source lexemes i) :=
  inferInstanceAs (Decidable (∃ j < source.length, _ ∧ ∀ k ≤ max i j, _ → _))

instance (l : Lexeme) : Decidable (l.IsTidy source) :=
  decidable_of_iff ((l.isTerminator = true →
        source[l.first source]? = some '\n' ∧ l.last source = l.first source + 1) ∧
      (l.kind = .indent → l.first source ∈ lineStarts source ∧ l.last source =
        l.first source + (Text.indentation (Text.lineFrom source (l.first source))).length) ∧
      (l.isTerminator = false → l.kind ≠ .indent →
        l.kind ≠ .whitespace ∧ l.kind ≠ .nl ∧ ∃ c ∈ source[l.first source]?, Text.isBlank c = false))
    ⟨fun h => ⟨h.1, h.2.1, h.2.2⟩, fun h => ⟨h.ending, h.indent, h.other⟩⟩

instance : Decidable (LaidOut source lexemes) :=
  decidable_of_iff (InOrder source 0 lexemes ∧
      (∀ l ∈ lexemes, l.first source < l.last source → l.IsTidy source) ∧
      ∀ i < source.length, IsSkipped source lexemes i →
        ∃ c ∈ source[i]?, Text.isBlank c = true ∨ c = '\\')
    ⟨fun h => ⟨h.1, h.2.1, h.2.2⟩, fun h => ⟨h.order, h.tidy, h.skipped⟩⟩

end Definitions

theorem Lexeme.kind_of_isTerminator {l : Lexeme} (h : l.isTerminator = true) :
    l.kind = .newline ∨ l.kind = .nl := by
  rw [isTerminator, Bool.and_eq_true, Bool.or_eq_true, decide_eq_true_eq, decide_eq_true_eq] at h
  exact h.1

/-- In order, a character is covered once. -/
theorem InOrder.eq_of_covers {source : List Char} {lexemes : List Lexeme} {l m : Lexeme} {i : Nat} :
    ∀ {place : Nat}, InOrder source place lexemes → l ∈ lexemes → m ∈ lexemes →
      l.Covers source i → m.Covers source i → l = m := by
  induction lexemes with
  | nil =>
      intro place _ hl
      exact absurd hl List.not_mem_nil
  | cons first rest ih =>
      intro place h hl hm hcovers hcovers'
      rcases h with ⟨_, _, hrest⟩
      -- What comes later starts where the first one stops.
      have hlater : ∀ n ∈ rest, first.Covers source i → ¬ n.Covers source i := by
        intro n hn hfirst hnext
        have hle := hrest.mem hn
        have hlow := hnext.1
        have hhigh := hfirst.2
        omega
      rcases List.mem_cons.mp hl with rfl | hl' <;> rcases List.mem_cons.mp hm with rfl | hm'
      · rfl
      · exact absurd hcovers' (hlater m hm' hcovers)
      · exact absurd hcovers (hlater l hl' hcovers')
      · exact ih hrest hl' hm' hcovers hcovers'

namespace Kind

theorem ofGap_eq_whitespace_iff (text : List Char) :
    ofGap text = .whitespace ↔ Text.allBlank text = true := by
  unfold ofGap
  by_cases hblank : Text.allBlank text = true
  · rw [if_pos hblank]
    exact ⟨fun _ => hblank, fun _ => rfl⟩
  · rw [if_neg hblank]
    refine ⟨fun h => ?_, fun h => absurd h hblank⟩
    split at h <;> cases h

/-- White space comes of white space and of line ends. -/
theorem eq_of_ofLexeme_eq_whitespace {kind : Kind} {text : List Char}
    (h : ofLexeme kind text = .whitespace) : kind = .nl ∨ kind = .whitespace := by
  unfold ofLexeme at h
  split at h
  · split at h
    · cases h
    · split at h <;> cases h
  · split at h <;> cases h
  · exact .inl rfl
  · exact .inr h

/-- Indentation comes of indentation. -/
theorem eq_of_ofLexeme_eq_indent {kind : Kind} {text : List Char}
    (h : ofLexeme kind text = .indent) : kind = .indent := by
  unfold ofLexeme at h
  split at h
  · split at h
    · cases h
    · split at h <;> cases h
  · split at h <;> cases h
  · cases h
  · exact h

end Kind

section Spans

variable {source : List Char} {lexemes : List Lexeme}

/-- What is between two lexemes is white space, or a line join if there is a backslash
    in it. The lexemes on both sides keep other backslashes off. -/
theorem gapSpan_shows {start stop : Nat} (hstop : stop ≤ source.length)
    (hskipped : ∀ i < source.length, IsSkipped source lexemes i →
      ∃ c ∈ source[i]?, Text.isBlank c = true ∨ c = '\\')
    (hgap : ∀ i, start ≤ i → i < stop → IsSkipped source lexemes i)
    (hleft : start = 0 ∨ ¬ IsSkipped source lexemes (start - 1))
    (hright : stop = source.length ∨ ¬ IsSkipped source lexemes stop) (s : Span)
    (hs : s ∈ gapSpan source start stop) : s.Shows source lexemes := by
  unfold gapSpan at hs
  split at hs
  · rename_i hlt
    rw [List.mem_singleton] at hs
    subst hs
    by_cases hback : '\\' ∈ slice source start stop
    · -- The backslash is in the same text as everything else here.
      rcases mem_slice.mp hback with ⟨j, hlow, hhigh, hj⟩
      refine .joined ?_ fun i hi hi' => ⟨j, by omega, hj, fun k hk hk' => hgap k (by omega) (by omega)⟩
      rcases Kind.ofGap_cases (slice source start stop) with hblank | hjoin | herror
      · rw [Kind.ofGap_eq_whitespace_iff, Text.allBlank, Bool.and_eq_true, List.all_eq_true] at hblank
        exact absurd (hblank.2 _ hback) (by decide)
      · exact .inl hjoin.1
      · exact .inr herror
    · have hblank : ∀ c ∈ slice source start stop, Text.isBlank c = true := by
        intro c hc
        rcases mem_slice.mp hc with ⟨i, hlow, hhigh, hi⟩
        rcases hskipped i (by omega) (hgap i hlow hhigh) with ⟨d, hd, hsort⟩
        rw [Option.mem_def, hi, Option.some.injEq] at hd
        rw [← hd] at hsort
        exact hsort.resolve_right fun heq => hback (heq ▸ hc)
      have hkind : Kind.ofGap (slice source start stop) = .whitespace := by
        have hlength := length_slice source start stop hstop
        rw [Kind.ofGap_eq_whitespace_iff, Text.allBlank, Bool.and_eq_true, List.all_eq_true,
          Bool.not_eq_true', List.isEmpty_eq_false_iff, ← List.length_pos_iff]
        exact ⟨by omega, hblank⟩
      rw [hkind]
      refine .white fun i hi hi' => .inl ⟨hgap i hi hi', ?_⟩
      rintro ⟨j, hj, hchar, hbetween⟩
      by_cases hbefore : j < start
      · have hmiss := hleft.resolve_left (by omega)
        exact hmiss (hbetween (start - 1) (by omega) (by omega))
      · by_cases hbehind : j < stop
        · exact hback (mem_slice.mpr ⟨j, by omega, hbehind, hchar⟩)
        · have hmiss := hright.resolve_left (by omega)
          exact hmiss (hbetween stop (by omega) (by omega))
  · exact absurd hs List.not_mem_nil

/-- The spans of lexemes, by induction on the lexemes. All in front of the cursor is done
    with, and a lexeme is directly in front of it. -/
theorem spansFrom_shows (hreturn : '\r' ∉ source) (hlaid : LaidOut source lexemes)
    (rest : List Lexeme) : ∀ cursor : Nat, (∀ l ∈ rest, l ∈ lexemes) → InOrder source cursor rest →
      IsAhead source lexemes cursor rest →
      (cursor = 0 ∨ ¬ IsSkipped source lexemes (cursor - 1)) →
      ∀ s ∈ spansFrom source (lineStarts (Text.unifyReturns source)) cursor rest,
        s.Shows source lexemes := by
  induction rest with
  | nil =>
      intro cursor _ _ hahead hleft
      refine gapSpan_shows (Nat.le_refl _) hlaid.skipped (fun i hi _ l hl hcovers => ?_) hleft
        (.inl rfl)
      exact absurd (hahead l hl i hi hcovers) List.not_mem_nil
  | cons l rest ih =>
      intro cursor hsub hord hahead hleft s hs
      have hl : l ∈ lexemes := hsub l List.mem_cons_self
      have hsub' : ∀ m ∈ rest, m ∈ lexemes := fun m hm => hsub m (List.mem_cons_of_mem l hm)
      rcases hord with ⟨hcursor, hle, hrest⟩
      have hbounds : l.bounds source (lineStarts (Text.unifyReturns source)) cursor =
          (l.first source, l.last source) := by
        rcases l.bounds_of_le source cursor hcursor with hb | ⟨i, _, _, _, hchar, _⟩
        · exact hb
        · exact absurd (List.mem_of_getElem? hchar) hreturn
      have hsize := l.bounds_le source (lineStarts (Text.unifyReturns source)) cursor
      rw [spansFrom] at hs
      rw [hbounds] at hs hsize
      simp only [] at hs hsize
      split at hs
      · -- Nothing is covered, and the cursor stays where it is.
        rename_i hempty
        refine ih cursor hsub' (hrest.mono (by omega))
          (hahead.tail source lexemes (Nat.le_refl cursor) fun i _ hcovers => ?_) hleft s hs
        have hlow := hcovers.1
        have hhigh := hcovers.2
        omega
      · rename_i hfull
        have hlt : l.first source < l.last source := Nat.lt_of_not_le hfull
        rcases List.mem_append.mp hs with hs | hs
        · refine gapSpan_shows (by omega) hlaid.skipped (fun i hi hi' m hm hcovers => ?_) hleft
            (.inr fun hskip => hskip l hl ⟨Nat.le_refl _, hlt⟩) s hs
          -- What covers something from the cursor on starts with the lexeme at the earliest.
          have hlow := hcovers.1
          rcases List.mem_cons.mp (hahead m hm i hi hcovers) with rfl | hm'
          · omega
          · have hnext := hrest.mem hm'
            omega
        · rcases List.mem_cons.mp hs with rfl | hs
          · have htidy := hlaid.tidy l hl hlt
            by_cases hend : l.kind = .nl
            · have hkind : Kind.ofLexeme l.kind l.text = .whitespace := by rw [hend]; rfl
              rw [hkind]
              exact .white fun i hi hi' => .inr ⟨l, hl, hend, hi, hi'⟩
            · refine .lexeme hl hlt hend fun hwhite => ?_
              have hother := htidy.other (by rw [Lexeme.isTerminator, hwhite]; rfl)
                (by rw [hwhite]; decide)
              exact hother.1 hwhite
          · refine ih (l.last source) hsub' hrest
              (hahead.tail source lexemes (by omega) fun i hi hcovers => ?_)
              (.inr fun hskip => hskip l hl ⟨by omega, by omega⟩) s hs
            exact absurd hcovers.2 (Nat.not_lt.mpr hi)

/-- What holds of all spans of a tiling still does when white space is joined, if it does
    of two spans that are joined. -/
theorem forall_mem_mergeWhitespace {P : Span → Prop}
    (hjoin : ∀ s t : Span, P s → P t → s.kind = .whitespace → t.kind = .whitespace →
      s.stop = t.start → P ⟨.whitespace, s.start, t.stop⟩) (spans : List Span) :
    ∀ start stop : Nat, Tiles start stop spans → (∀ s ∈ spans, P s) →
      ∀ s ∈ mergeWhitespace spans, P s := by
  induction spans with
  | nil =>
      intro start stop _ _ s hs
      exact absurd hs List.not_mem_nil
  | cons s spans ih =>
      intro start stop htiles h
      rcases List.forall_mem_cons.mp h with ⟨hs, hspans⟩
      have hmerged := ih s.stop stop htiles.2.2 hspans
      have htiles' := mergeWhitespace_tiles spans _ _ htiles.2.2
      rw [mergeWhitespace]
      cases hm : mergeWhitespace spans with
      | nil => exact List.forall_mem_cons.mpr ⟨hs, fun _ hnil => absurd hnil List.not_mem_nil⟩
      | cons t rest =>
          rw [hm] at hmerged htiles'
          rcases List.forall_mem_cons.mp hmerged with ⟨ht, hrest⟩
          simp only []
          split
          · rename_i hws
            exact List.forall_mem_cons.mpr ⟨hjoin s t hs ht hws.1 hws.2 htiles'.1.symm, hrest⟩
          · exact List.forall_mem_cons.mpr ⟨hs, hmerged⟩

namespace Span.Shows

/-- A span of white space has white characters, and any other span has none. -/
theorem isWhite_iff (hord : InOrder source 0 lexemes) {s : Span} (h : s.Shows source lexemes)
    {i : Nat} (hlow : s.start ≤ i) (hhigh : i < s.stop) :
    IsWhite source lexemes i ↔ s.kind = .whitespace := by
  cases h with
  | white h => exact ⟨fun _ => rfl, fun _ => h i hlow hhigh⟩
  | joined hkind h =>
      have hjoined := h i hlow hhigh
      rcases hjoined with ⟨j, hj, hchar, hbetween⟩
      have hskipped := hbetween i (by omega) (by omega)
      refine ⟨fun hwhite => ?_, fun hws => ?_⟩
      · rcases hwhite with ⟨_, hfree⟩ | ⟨l, hl, _, hcovers⟩
        · exact absurd ⟨j, hj, hchar, hbetween⟩ hfree
        · exact absurd hcovers (hskipped l hl)
      · rcases hkind with rfl | rfl <;> cases hws
  | @lexeme l hl hlt hend hwhite =>
      refine ⟨fun hwhite' => ?_, fun hws => ?_⟩
      · rcases hwhite' with ⟨hskipped, _⟩ | ⟨m, hm, hkind, hcovers⟩
        · exact absurd ⟨hlow, hhigh⟩ (hskipped l hl)
        · rw [hord.eq_of_covers hm hl hcovers ⟨hlow, hhigh⟩] at hkind
          exact absurd hkind hend
      · rcases Kind.eq_of_ofLexeme_eq_whitespace hws with h | h
        · exact absurd h hend
        · exact absurd h hwhite

end Span.Shows

/-- The spans of a source are white space, line joins and lexemes. -/
theorem spansOf_shows (hreturn : '\r' ∉ source) (hlaid : LaidOut source lexemes) :
    ∀ s ∈ spansOf source lexemes, s.Shows source lexemes := by
  refine forall_mem_mergeWhitespace (fun s t hs ht hs' ht' hmeet => ?_) _ 0 source.length
    (spansFrom_tiles source _ lexemes 0 (Nat.zero_le _))
    (spansFrom_shows hreturn hlaid lexemes 0 (fun _ hl => hl) hlaid.order (fun _ hm _ _ _ => hm)
      (.inl rfl))
  refine .white fun i hi hi' => ?_
  by_cases hfirst : i < s.stop
  · exact (hs.isWhite_iff hlaid.order hi hfirst).mpr hs'
  · exact (ht.isWhite_iff hlaid.order (by omega) hi').mpr ht'

end Spans

/-- Text with a line join in it is text that no lexeme covers. -/
theorem IsJoined.isSkipped {source : List Char} {lexemes : List Lexeme} {i : Nat}
    (h : IsJoined source lexemes i) : IsSkipped source lexemes i := by
  rcases h with ⟨j, _, _, hbetween⟩
  exact hbetween i (Nat.le_max_left i j) (Nat.min_le_left i j)

/-- A backslash that no lexeme covers is a line join itself. -/
theorem IsSkipped.isJoined {source : List Char} {lexemes : List Lexeme} {i : Nat}
    (h : IsSkipped source lexemes i) (hchar : source[i]? = some '\\') :
    IsJoined source lexemes i := by
  refine ⟨i, (List.getElem?_eq_some_iff.mp hchar).1, hchar, fun k hk hk' => ?_⟩
  have heq : k = i := by omega
  rw [heq]
  exact h

namespace LaidOut

variable {source : List Char} {lexemes : List Lexeme} (h : LaidOut source lexemes) {l : Lexeme}
  (hl : l ∈ lexemes) {i : Nat}

include h hl

/-- A lexeme that covers something is tidy. -/
theorem isTidy (hcovers : l.Covers source i) : l.IsTidy source :=
  h.tidy l hl (Nat.lt_of_le_of_lt hcovers.1 hcovers.2)

/-- A line end that covers something has a text. -/
theorem isTerminator_of_nl (hkind : l.kind = .nl) (hcovers : l.Covers source i) :
    l.isTerminator = true := by
  rw [← Bool.not_eq_false]
  intro hempty
  exact ((h.isTidy hl hcovers).other hempty (by rw [hkind]; decide)).2.1 hkind

/-- The ending of a line covers its line feed only. -/
theorem eq_first_of_isTerminator (hend : l.isTerminator = true) (hcovers : l.Covers source i) :
    i = l.first source ∧ source[i]? = some '\n' := by
  rcases (h.isTidy hl hcovers).ending hend with ⟨hfeed, hlast⟩
  have hlow := hcovers.1
  have hhigh := hcovers.2
  have heq : i = l.first source := by omega
  exact ⟨heq, heq ▸ hfeed⟩

/-- Indentation is what it covers. -/
theorem slice_of_indent (hlt : l.first source < l.last source)
    (hkind : l.kind = .indent) : slice source (l.first source) (l.last source) =
      Text.indentation (Text.lineFrom source (l.first source)) := by
  have hlast := ((h.tidy l hl hlt).indent hkind).2
  have hprefix : Text.indentation (Text.lineFrom source (l.first source)) <+:
      source.drop (l.first source) :=
    (List.takeWhile_prefix _).trans (List.takeWhile_prefix _)
  rw [slice, hlast, Nat.add_sub_cancel_left]
  exact (List.prefix_iff_eq_take.mp hprefix).symm

/-- There is no line feed in indentation. -/
theorem newline_not_mem_indent (hlt : l.first source < l.last source) (hkind : l.kind = .indent) :
    '\n' ∉ slice source (l.first source) (l.last source) := by
  rw [h.slice_of_indent hl hlt hkind]
  exact fun hmem => Text.newline_not_mem_lineFrom source _ ((List.takeWhile_sublist _).mem hmem)

end LaidOut

namespace IsWhite

variable {source : List Char} {lexemes : List Lexeme} {i : Nat} (h : IsWhite source lexemes i)

include h

theorem not_isJoined : ¬ IsJoined source lexemes i := by
  intro hjoined
  rcases h with ⟨_, hfree⟩ | ⟨l, hl, _, hcovers⟩
  · exact hfree hjoined
  · exact hjoined.isSkipped l hl hcovers

/-- What covers white space is a line end. -/
theorem kind_eq (hlaid : LaidOut source lexemes) {l : Lexeme} (hl : l ∈ lexemes)
    (hcovers : l.Covers source i) : l.kind = .nl := by
  rcases h with ⟨hskipped, _⟩ | ⟨m, hm, hkind, hcovers'⟩
  · exact absurd hcovers (hskipped l hl)
  · rw [hlaid.order.eq_of_covers hl hm hcovers hcovers', hkind]

/-- White space other than line feeds is in no lexeme. -/
theorem isSkipped (hlaid : LaidOut source lexemes) (hchar : source[i]? ≠ some '\n') :
    IsSkipped source lexemes i := by
  rcases h with ⟨hskipped, _⟩ | ⟨l, hl, hkind, hcovers⟩
  · exact hskipped
  · have hend := hlaid.isTerminator_of_nl hl hkind hcovers
    exact absurd (hlaid.eq_first_of_isTerminator hl hend hcovers).2 hchar

/-- White space is blank. -/
theorem isBlank (hlaid : LaidOut source lexemes) {c : Char} (hchar : source[i]? = some c) :
    Text.isBlank c = true := by
  by_cases hfeed : c = '\n'
  · rw [hfeed]
    decide
  · have hskipped := h.isSkipped hlaid fun heq => hfeed (Option.some.inj (hchar.symm.trans heq))
    rcases hlaid.skipped i (List.getElem?_eq_some_iff.mp hchar).1 hskipped with ⟨d, hd, hsort⟩
    rw [Option.mem_def, hchar, Option.some.injEq] at hd
    rw [← hd] at hsort
    exact hsort.resolve_right fun hback => h.not_isJoined (hskipped.isJoined (hback ▸ hchar))

end IsWhite

/-- A character between the ends of a tiling is in one of its spans. -/
theorem Tiles.exists_mem {spans : List Span} : ∀ {start stop i : Nat}, Tiles start stop spans →
    start ≤ i → i < stop → ∃ s ∈ spans, s.start ≤ i ∧ i < s.stop := by
  induction spans with
  | nil =>
      intro start stop i h hlow hhigh
      have heq : start = stop := h
      omega
  | cons s spans ih =>
      intro start stop i h hlow hhigh
      rcases h with ⟨hstart, _, hrest⟩
      by_cases hfirst : i < s.stop
      · exact ⟨s, List.mem_cons_self, by omega, hfirst⟩
      · rcases ih hrest (Nat.le_of_not_lt hfirst) hhigh with ⟨t, ht, hi⟩
        exact ⟨t, List.mem_cons_of_mem s ht, hi⟩

/-- The neighbours of a span of white space are something else, once white space is joined. -/
theorem Tiles.neighbours {spans : List Span} {s : Span} (hkind : s.kind = .whitespace) :
    ∀ {start stop : Nat}, Tiles start stop spans →
      (spans.map (·.kind)).IsChain (fun a b => ¬ (a = .whitespace ∧ b = .whitespace)) → s ∈ spans →
        (s.start = start ∨ ∃ t ∈ spans, t.kind ≠ .whitespace ∧ t.start < t.stop ∧
          t.stop = s.start) ∧
        (s.stop = stop ∨ ∃ t ∈ spans, t.kind ≠ .whitespace ∧ t.start < t.stop ∧
          t.start = s.stop) := by
  induction spans with
  | nil =>
      intro start stop _ _ hs
      exact absurd hs List.not_mem_nil
  | cons first rest ih =>
      intro start stop htiles hchain hs
      rcases htiles with ⟨hstart, hlt, hrest⟩
      cases rest with
      | nil =>
          rw [List.mem_singleton] at hs
          subst hs
          exact ⟨.inl hstart, .inl hrest⟩
      | cons second others =>
          rw [List.map_cons, List.map_cons, List.isChain_cons_cons, ← List.map_cons] at hchain
          rcases hchain with ⟨hpair, hchain⟩
          rcases List.mem_cons.mp hs with rfl | hs
          · refine ⟨.inl hstart, .inr ⟨second, List.mem_cons_of_mem _ List.mem_cons_self, ?_, ?_⟩⟩
            · exact fun hsecond => hpair ⟨hkind, hsecond⟩
            · exact ⟨hrest.2.1, hrest.1⟩
          · rcases ih hrest hchain hs with ⟨hleft, hright⟩
            refine ⟨.inr ?_, hright.imp_right ?_⟩
            · rcases hleft with hmeet | ⟨t, ht, hsort⟩
              · -- Only the second span starts where the first one stops.
                refine ⟨first, List.mem_cons_self, fun hfirst => ?_, hlt, hmeet.symm⟩
                rcases List.mem_cons.mp hs with rfl | hs
                · exact hpair ⟨hfirst, hkind⟩
                · have hlater := (hrest.2.2.mem hs).1
                  have hsecond := hrest.2.1
                  have hmeet' := hrest.1
                  omega
              · exact ⟨t, List.mem_cons_of_mem first ht, hsort⟩
            · rintro ⟨t, ht, hsort⟩
              exact ⟨t, List.mem_cons_of_mem first ht, hsort⟩

section Stretches

variable {source : List Char} {lexemes : List Lexeme} (hreturn : '\r' ∉ source)
  (hlaid : LaidOut source lexemes)

include hreturn hlaid

/-- The spans of white space have the white characters. -/
theorem isWhite_iff {s : Span} (hs : s ∈ spansOf source lexemes) {i : Nat} (hlow : s.start ≤ i)
    (hhigh : i < s.stop) : IsWhite source lexemes i ↔ s.kind = .whitespace :=
  (spansOf_shows hreturn hlaid s hs).isWhite_iff hlaid.order hlow hhigh

/-- A span of white space ends, on both sides, where the white space does. -/
theorem isWhite_borders {s : Span} (hs : s ∈ spansOf source lexemes) (hkind : s.kind = .whitespace) :
    (s.start = 0 ∨ ¬ IsWhite source lexemes (s.start - 1)) ∧
      (s.stop = source.length ∨ ¬ IsWhite source lexemes s.stop) := by
  rcases (spansOf_tiles source lexemes).neighbours hkind (mergeWhitespace_isChain _) hs with
    ⟨hleft, hright⟩
  refine ⟨hleft.imp_right ?_, hright.imp_right ?_⟩
  · rintro ⟨t, ht, hother, hlt, hmeet⟩ hwhite
    exact hother ((isWhite_iff hreturn hlaid ht (by omega) (by omega)).mp hwhite)
  · rintro ⟨t, ht, hother, hlt, hmeet⟩ hwhite
    exact hother ((isWhite_iff hreturn hlaid ht (by omega) (by omega)).mp hwhite)

/-- Each white character is in a span of white space. -/
theorem exists_span_of_isWhite {i : Nat} (hi : i < source.length)
    (hwhite : IsWhite source lexemes i) :
    ∃ s ∈ spansOf source lexemes, s.kind = .whitespace ∧ s.start ≤ i ∧ i < s.stop := by
  rcases (spansOf_tiles source lexemes).exists_mem (Nat.zero_le i) hi with ⟨s, hs, hlow, hhigh⟩
  exact ⟨s, hs, (isWhite_iff hreturn hlaid hs hlow hhigh).mp hwhite, hlow, hhigh⟩

end Stretches

section Tokens

variable (path : Path) (source : List Char)

/-- Along a tiling each token is that of its span. -/
theorem tokensFrom_cons (s : Span) (spans : List Span) {start stop : Nat} (index : Nat)
    (h : Tiles start stop (s :: spans)) :
    tokensFrom path source (.past (source.take start)) index (s :: spans) =
      s.token path source index ::
        tokensFrom path source (.past (source.take s.stop)) (index + 1) spans := by
  rcases h with ⟨rfl, hlt, _⟩
  rw [tokensFrom, Place.past_append, take_append_slice source (Nat.le_of_lt hlt)]
  rfl

theorem Span.standsAt_token (index : Nat) {s : Span} (h : s.start ≤ s.stop) :
    (s.token path source index).StandsAt source (source.take s.start) := by
  refine ⟨?_, ?_, ?_⟩
  · have htake : source.take s.start ++ (s.token path source index).text = source.take s.stop :=
      take_append_slice source h
    rw [htake]
    exact List.take_prefix _ _
  · rw [Span.token, Place.past, Text.openLine]
    rfl
  · rw [Span.token, Place.past]
    rfl

variable {path source}

theorem exists_span_of_mem {spans : List Span} {t : Token} : ∀ {start stop index : Nat},
    Tiles start stop spans →
      t ∈ tokensFrom path source (.past (source.take start)) index spans →
        ∃ s ∈ spans, ∃ i : Nat, t = s.token path source i := by
  induction spans with
  | nil =>
      intro start stop index _ ht
      exact absurd ht List.not_mem_nil
  | cons s spans ih =>
      intro start stop index htiles ht
      rw [tokensFrom_cons path source s spans index htiles] at ht
      rcases List.mem_cons.mp ht with rfl | ht
      · exact ⟨s, List.mem_cons_self, index, rfl⟩
      · rcases ih htiles.2.2 ht with ⟨s', hs', hi⟩
        exact ⟨s', List.mem_cons_of_mem s hs', hi⟩

theorem exists_token_of_mem {spans : List Span} {s : Span} : ∀ {start stop index : Nat},
    Tiles start stop spans → s ∈ spans → ∃ i : Nat,
      s.token path source i ∈ tokensFrom path source (.past (source.take start)) index spans := by
  induction spans with
  | nil =>
      intro start stop index _ hs
      exact absurd hs List.not_mem_nil
  | cons first spans ih =>
      intro start stop index htiles hs
      rw [tokensFrom_cons path source first spans index htiles]
      rcases List.mem_cons.mp hs with rfl | hs
      · exact ⟨index, List.mem_cons_self⟩
      · rcases ih htiles.2.2 hs with ⟨i, hi⟩
        exact ⟨i, List.mem_cons_of_mem _ hi⟩

end Tokens

end TokenLint
