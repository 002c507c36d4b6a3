import TokenLint.Proofs.Token.Position
import TokenLint.Rule.Basic

/-!
# Findings on Rising Lines

A rule that reports at most one thing in a line, and the lines in their order,
leaves a list of findings whose lines rise. `Rising` keeps the findings of a
part of a source between two bounds, so that the findings of two parts in a row
go together as the parts do. `rising_flatMap` does this for the parts that are
tokens, with a bound that is computed from the text that was read.

A finding is good for something if its place is there. Its line and column are
counted from one, and the lines are those between the line feeds of the text.
The place is looked up in the source as a whole, while a rule only knows what
it has read. What was read last begins a line of the source, and so the place
is known to be there before the rest of the line is.

## Main definitions

* `Finding.IsAt`: A finding at a character of a text.
* `Finding.StartsEndedLine`: A finding at the start of a line that is ended.
* `Anchored`: Findings of one sort on lines that rise.
* `Rising`: The same between two bounds.

## Theorems

* `Finding.isAt_of_prefix`: A place in what was read so far.
* `Rising.append`: Findings between bounds that meet.
* `rising_flatMap`: From the findings in a token to those in all of them.
-/

namespace TokenLint

/-- What is made of the first of several elements comes first. -/
theorem filterMap_cons_toList {α β : Type} (f : α → Option β) (x : α) (xs : List α) :
    (x :: xs).filterMap f = (f x).toList ++ xs.filterMap f := by
  rw [List.filterMap_cons]
  cases f x <;> rfl

namespace Finding

/-- A finding whose line and column, counted from one, name a character of a
    text, one of a certain sort. -/
def IsAt (text : List Char) (sort : Char → Prop) (f : Finding) : Prop :=
  ∃ (row place : Nat) (content : List Char) (c : Char), f.line = row + 1 ∧
    f.column = place + 1 ∧ (Text.lines text)[row]? = some content ∧ content[place]? = some c ∧
    sort c

/-- A finding whose line and column name the start of a line of a text that
    ends with a line feed. -/
def StartsEndedLine (text : List Char) (f : Finding) : Prop :=
  ∃ row : Nat, f.line = row + 1 ∧ f.column = 1 ∧ row + 1 < (Text.lines text).length

/-- A character of the last line of what was read so far. -/
theorem isAt_of_prefix {source before : List Char} {sort : Char → Prop} {f : Finding}
    (hbefore : before <+: source) (hline : f.line = Text.openLine before) (place : Nat)
    (hcolumn : f.column = place + 1) (c : Char) (hchar : (Text.lastLine before)[place]? = some c)
    (hsort : sort c) : f.IsAt source sort := by
  rcases Text.exists_line_of_prefix hbefore with ⟨more, hlines⟩
  rw [Text.openLine] at hline
  refine ⟨Text.breakCount before, place, _, c, by omega, hcolumn, hlines, ?_, hsort⟩
  rw [List.getElem?_append_left (List.getElem?_eq_some_iff.mp hchar).1, hchar]

end Finding

/-- Findings of one sort, each on a later line than the one before it. -/
def Anchored (sort : Finding → Prop) (fs : List Finding) : Prop :=
  fs.Pairwise (fun f g => f.line < g.line) ∧ ∀ f ∈ fs, sort f

/-- Findings of one sort whose lines rise from one bound on and stay below
    another. -/
structure Rising (sort : Finding → Prop) (low high : Int) (fs : List Finding) : Prop where
  bounds : low ≤ high
  rises : fs.Pairwise fun f g => f.line < g.line
  within : ∀ f ∈ fs, low ≤ f.line ∧ f.line < high
  sort : ∀ f ∈ fs, sort f

namespace Rising

variable {sort : Finding → Prop} {low middle high : Int}

theorem nil (h : low ≤ high) : Rising sort low high [] :=
  ⟨h, .nil, fun _ hf => absurd hf List.not_mem_nil, fun _ hf => absurd hf List.not_mem_nil⟩

/-- Findings between bounds that meet. -/
theorem append {fs gs : List Finding} (hfs : Rising sort low middle fs)
    (hgs : Rising sort middle high gs) : Rising sort low high (fs ++ gs) := by
  have hlow := hfs.bounds
  have hhigh := hgs.bounds
  refine ⟨by omega, ?_, ?_, ?_⟩
  · rw [List.pairwise_append]
    refine ⟨hfs.rises, hgs.rises, fun f hf g hg => ?_⟩
    have hf := hfs.within f hf
    have hg := hgs.within g hg
    omega
  · intro f hf
    rcases List.mem_append.mp hf with hf | hf
    · have hf := hfs.within f hf
      omega
    · have hf := hgs.within f hf
      omega
  · intro f hf
    rcases List.mem_append.mp hf with hf | hf
    · exact hfs.sort f hf
    · exact hgs.sort f hf

theorem toList {o : Option Finding} (hbounds : low ≤ high)
    (h : ∀ f, o = some f → low ≤ f.line ∧ f.line < high ∧ sort f) :
    Rising sort low high o.toList := by
  refine ⟨hbounds, ?_, ?_, ?_⟩
  · cases o with
    | none => exact .nil
    | some f => exact List.pairwise_singleton _ f
  · intro f hf
    have hf := h f (Option.mem_toList.mp hf)
    exact ⟨hf.1, hf.2.1⟩
  · intro f hf
    exact (h f (Option.mem_toList.mp hf)).2.2

theorem anchored {fs : List Finding} (h : Rising sort low high fs) : Anchored sort fs :=
  ⟨h.rises, h.sort⟩

end Rising

/-- From the findings in a token to those in all tokens that the rest of a
    source is made of. A bound goes with the text that was read. -/
theorem rising_flatMap {sort : Finding → Prop} (bound : List Char → Int)
    (found : Token → List Finding) (tokens : List Token) : ∀ before : List Char,
    (∀ (front : List Char) (t : Token), t.StandsAt (before ++ tokens.flatMap (·.text)) front →
      Rising sort (bound front) (bound (front ++ t.text)) (found t)) →
    Placed before tokens →
      Rising sort (bound before) (bound (before ++ tokens.flatMap (·.text)))
        (tokens.flatMap found) := by
  induction tokens with
  | nil =>
      intro before _ _
      rw [List.flatMap_nil, List.flatMap_nil, List.append_nil]
      exact .nil (Int.le_refl _)
  | cons t tokens ih =>
      intro before hfound hplaced
      have hfirst := hfound before t hplaced.standsAt
      have hrest := ih (before ++ t.text)
      rw [List.append_assoc, ← List.flatMap_cons] at hrest
      rw [List.flatMap_cons (f := found)]
      exact hfirst.append (hrest hfound hplaced.2.2)

end TokenLint
