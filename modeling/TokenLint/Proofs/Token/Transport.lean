import Mathlib.Data.List.Forall2
import TokenLint.Proofs.Token.Tiling

/-!
# Spans Carried Over

Two lexers, or one lexer at work on two forms of a text, give outputs that
differ in small ways and yet lead to the same tokens. What they have in
common is a map of offsets that carries the spans of the one to the spans of
the other. The map is the identity when the text is the same, and moves what
follows a line ending when its form changes.

`Carries` is what is asked of such a map: it keeps the order of offsets and
the kind of what is between two of them. `Lexeme.Follows` is what is asked of
a pair of lexemes: they lead to tokens of one kind, and whenever the cursors
correspond, so do the stretches that the lexemes cover. It speaks of every
cursor, so the induction in `spansFrom_carried` needs no more than the pairs.

Lexemes that cover nothing wherever the cursor is are another matter. They
have no partner; `spansFrom_filter` takes them out first.

## Main definitions

* `Span.move`: A span with its offsets mapped.
* `Carries`: A map of offsets that keeps order and the kinds of gaps.
* `Lexeme.Follows`: A lexeme whose stretches are carried to another's.
* `Lexeme.isVoid`: A lexeme without text that starts where it stops.

## Theorems

* `spansFrom_carried`: The spans of one output are carried to the other's.
* `mergeWhitespace_move`: Joining white space looks at kinds only.
* `spansFrom_filter`: Lexemes without extent make no difference.
-/

namespace TokenLint

/-- A span with its offsets mapped. -/
def Span.move (f : Nat → Nat) (s : Span) : Span := ⟨s.kind, f s.start, f s.stop⟩

@[simp] theorem Span.move_id (s : Span) : s.move id = s := rfl

/-- A map from the offsets of one source to those of another. It keeps their
    order, carries the end to the end, and what lies between two offsets makes
    a gap of one kind in both. -/
structure Carries (source source' : List Char) (f : Nat → Nat) : Prop where
  lt_iff : ∀ a b, a ≤ source.length → b ≤ source.length → (f a < f b ↔ a < b)
  gap : ∀ a b, a < b → b ≤ source.length →
    Kind.ofGap (slice source' (f a) (f b)) = Kind.ofGap (slice source a b)
  size : f source.length = source'.length

theorem Carries.refl (source : List Char) : Carries source source id :=
  ⟨fun _ _ _ _ => Iff.rfl, fun _ _ _ _ => rfl, rfl⟩

namespace Carries

variable {source source' : List Char} {f : Nat → Nat}

theorem le_iff (h : Carries source source' f) {a b : Nat} (ha : a ≤ source.length)
    (hb : b ≤ source.length) : f a ≤ f b ↔ a ≤ b := by
  rw [← Nat.not_lt, h.lt_iff b a hb ha, Nat.not_lt]

theorem max_eq (h : Carries source source' f) {a b : Nat} (ha : a ≤ source.length)
    (hb : b ≤ source.length) : max (f a) (f b) = f (max a b) := by
  by_cases hle : a ≤ b
  · rw [Nat.max_eq_right hle, Nat.max_eq_right ((h.le_iff ha hb).mpr hle)]
  · have hge : b ≤ a := Nat.le_of_not_le hle
    rw [Nat.max_eq_left hge, Nat.max_eq_left ((h.le_iff hb ha).mpr hge)]

theorem gapSpan_eq (h : Carries source source' f) {start stop : Nat}
    (hle : start ≤ stop) (hstop : stop ≤ source.length) :
    gapSpan source' (f start) (f stop) = (gapSpan source start stop).map (·.move f) := by
  by_cases hlt : start < stop
  · rw [gapSpan, gapSpan, if_pos ((h.lt_iff start stop (by omega) hstop).mpr hlt), if_pos hlt,
      h.gap start stop hlt hstop]
    rfl
  · have heq : start = stop := by omega
    rw [gapSpan, gapSpan, heq, if_neg (Nat.lt_irrefl _), if_neg (Nat.lt_irrefl _), List.map_nil]

end Carries

section Spans

variable (source source' : List Char) (starts starts' : List Nat) (f : Nat → Nat)

/-- A lexeme of one output whose partner in another has its kind and, for
    cursors that correspond, a stretch that corresponds to its own. -/
structure Lexeme.Follows (l m : Lexeme) : Prop where
  kind : Kind.ofLexeme m.kind m.text = Kind.ofLexeme l.kind l.text
  bounds : ∀ cursor ≤ source.length, m.bounds source' starts' (f cursor) =
    (f (l.bounds source starts cursor).1, f (l.bounds source starts cursor).2)

/-- A lexeme never starts after the end of the source. -/
theorem Lexeme.bounds_start_le (l : Lexeme) (cursor : Nat) (hcursor : cursor ≤ source.length) :
    (l.bounds source starts cursor).1 ≤ source.length := by
  have hoffset := offsetOf_le starts source.length l.start
  unfold bounds
  simp only []
  split
  · simp only []
    split <;> omega
  · simp only []
    omega

/-- The spans of one output are carried to those of the other, by induction on
    the pairs of lexemes. That the cursors correspond is the invariant. -/
theorem spansFrom_carried (hf : Carries source source' f) {lexemes lexemes' : List Lexeme}
    (h : List.Forall₂ (Lexeme.Follows source source' starts starts' f) lexemes lexemes') :
    ∀ cursor ≤ source.length, spansFrom source' starts' (f cursor) lexemes' =
      (spansFrom source starts cursor lexemes).map (·.move f) := by
  induction h with
  | nil =>
      intro cursor hcursor
      rw [spansFrom, spansFrom, ← hf.size, hf.gapSpan_eq hcursor (Nat.le_refl _)]
  | @cons l m lexemes lexemes' hfollows _ ih =>
      intro cursor hcursor
      have hstart := l.bounds_start_le source starts cursor hcursor
      have hstop := l.bounds_le source starts cursor
      rw [spansFrom, spansFrom, hfollows.bounds cursor hcursor]
      by_cases hempty : (l.bounds source starts cursor).2 ≤ (l.bounds source starts cursor).1
      · -- Both lexemes cover nothing, and the cursors stay where they are.
        simp only [if_pos hempty, if_pos ((hf.le_iff hstop hstart).mpr hempty)]
        exact ih cursor hcursor
      · simp only [if_neg hempty, if_neg fun hc => hempty ((hf.le_iff hstop hstart).mp hc),
          hfollows.kind, ih _ hstop, List.map_append, List.map_cons,
          hf.gapSpan_eq (l.le_bounds source starts cursor) hstart]
        rfl

end Spans

/-- Joining white space looks at kinds only. -/
theorem mergeWhitespace_move (f : Nat → Nat) (spans : List Span) :
    mergeWhitespace (spans.map (·.move f)) = (mergeWhitespace spans).map (·.move f) := by
  induction spans with
  | nil => rfl
  | cons s spans ih =>
      rw [List.map_cons, mergeWhitespace, mergeWhitespace, ih]
      cases mergeWhitespace spans with
      | nil => rfl
      | cons t rest =>
          simp only [List.map_cons]
          by_cases hws : s.kind = .whitespace ∧ t.kind = .whitespace
          · have hmoved : (s.move f).kind = .whitespace ∧ (t.move f).kind = .whitespace := hws
            rw [if_pos hws, if_pos hmoved]
            rfl
          · have hmoved : ¬ ((s.move f).kind = .whitespace ∧ (t.move f).kind = .whitespace) := hws
            rw [if_neg hws, if_neg hmoved]
            rfl

/-- A lexeme without text that starts where it stops. -/
def Lexeme.isVoid (l : Lexeme) : Bool := l.text.isEmpty && l.start = l.stop

/-- A lexeme without extent covers nothing, wherever the cursor is. -/
theorem Lexeme.bounds_of_isVoid (source : List Char) (starts : List Nat) (cursor : Nat)
    (l : Lexeme) (h : l.isVoid = true) :
    (l.bounds source starts cursor).2 ≤ (l.bounds source starts cursor).1 := by
  rw [isVoid, Bool.and_eq_true, decide_eq_true_eq] at h
  have hterm : ¬ l.isTerminator = true := by
    rw [isTerminator, h.1, Bool.not_true, Bool.and_false]
    exact Bool.false_ne_true
  rw [bounds, if_neg hterm, h.2]
  exact Nat.le_max_left _ _

/-- Lexemes without extent make no difference. -/
theorem spansFrom_filter (source : List Char) (starts : List Nat) (lexemes : List Lexeme) :
    ∀ cursor, spansFrom source starts cursor (lexemes.filter (!·.isVoid)) =
      spansFrom source starts cursor lexemes := by
  induction lexemes with
  | nil =>
      intro cursor
      rfl
  | cons l lexemes ih =>
      intro cursor
      by_cases hvoid : l.isVoid = true
      · have hempty := l.bounds_of_isVoid source starts cursor hvoid
        rw [List.filter_cons_of_neg (by rw [hvoid]; exact Bool.false_ne_true), ih, spansFrom]
        simp only [if_pos hempty]
      · rw [List.filter_cons_of_pos (by rw [Bool.eq_false_iff.mpr hvoid]; rfl), spansFrom,
          spansFrom]
        simp only [ih]

end TokenLint
