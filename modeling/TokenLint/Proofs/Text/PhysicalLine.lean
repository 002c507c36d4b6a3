import TokenLint.Proofs.Token.Position

/-!
# Physical Lines

The lines of a text as somebody counts them who has the whole text: numbered
from one, each with what stands on it, and each but the last ended by a line
feed. A rule never has the whole text. It reads on from some place, and a line
that ends in what it reads may have begun long before.

`endedIn` is what such a reader can know. It follows the text character by
character, with the text in front of it at hand, and lists the lines that end.
It adds up over a text that is cut into two anywhere, which `lines` does not,
and `physicalLines_eq` says that nothing is missing from it but the line that
is still open at the end.

A carriage return in front of a line feed belongs to the end of the line, and a
cut between the two hides that from whoever reads the second part alone.
`Uncut` says of tokens that no boundary is such a cut.

## Main definitions

* `PhysicalLine`: A line with its number.
* `physicalLines`: The lines of a text, numbered.
* `endedIn`: The lines that end in a text behind another one.
* `Uncut`: Tokens that keep carriage returns with what follows them.
* `TokenStream.KeepsPairs`, `TokenStream.KeepsRuns`: Tokens that keep the last
  carriage return of a line, or all at its end, with the line feed.

## Theorems

* `endedIn_append`: The ended lines of a text that is cut in two.
* `endedIn_piece`: A piece of a line and the line feed behind it.
* `physicalLines_eq`: The ended lines of a text, and the open one.
* `Uncut.head`, `Uncut.tail`: The boundary in front, and the others.
-/

namespace TokenLint

namespace Text

/-- A line of a text. -/
structure PhysicalLine where
  /-- Its number, counted from one. -/
  number : Int
  /-- What stands on it, a line feed at its end aside. -/
  content : List Char
  /-- Whether a line feed ends it. -/
  isEnded : Bool
deriving DecidableEq, Repr

/-- Lines numbered from `n` on. All but the last are ended. -/
def numberFrom (n : Int) : List (List Char) → List PhysicalLine
  | [] => []
  | [content] => [⟨n, content, false⟩]
  | content :: rest => ⟨n, content, true⟩ :: numberFrom (n + 1) rest

/-- The lines of a text, numbered from one. -/
def physicalLines (cs : List Char) : List PhysicalLine := numberFrom 1 (lines cs)

/-- A line that others follow is ended. -/
theorem numberFrom_cons (n : Int) (content : List Char) {rest : List (List Char)} (h : rest ≠ []) :
    numberFrom n (content :: rest) = ⟨n, content, true⟩ :: numberFrom (n + 1) rest := by
  cases rest with
  | nil => exact absurd rfl h
  | cons next rest => rw [numberFrom]; exact List.cons_ne_nil next rest

/-- The line that a line feed behind a text ends. -/
def endedLine (before : List Char) : PhysicalLine := ⟨openLine before, lastLine before, true⟩

/-- The lines that end in a text behind another one. The first of them may have begun
    before. -/
def endedIn : (before : List Char) → List Char → List PhysicalLine
  | _, [] => []
  | before, c :: cs =>
    if c = '\n' then endedLine before :: endedIn (before ++ ['\n']) cs
    else endedIn (before ++ [c]) cs

theorem endedIn_newline (before cs : List Char) :
    endedIn before ('\n' :: cs) = endedLine before :: endedIn (before ++ ['\n']) cs := by
  rw [endedIn, if_pos rfl]

theorem endedIn_append (text more : List Char) : ∀ before : List Char,
    endedIn before (text ++ more) = endedIn before text ++ endedIn (before ++ text) more := by
  induction text with
  | nil =>
      intro before
      rw [List.append_nil]
      rfl
  | cons c text ih =>
      intro before
      have hbefore : ∀ d : Char, before ++ d :: text = before ++ [d] ++ text := fun d => by
        rw [List.append_assoc, List.singleton_append]
      by_cases hc : c = '\n'
      · rw [hc, List.cons_append, endedIn_newline, endedIn_newline, ih, hbefore, List.cons_append]
      · rw [List.cons_append, endedIn, if_neg hc, endedIn, if_neg hc, ih, hbefore]

theorem endedIn_of_not_mem (text : List Char) (h : '\n' ∉ text) : ∀ before : List Char,
    endedIn before text = [] := by
  induction text with
  | nil =>
      intro before
      rfl
  | cons c text ih =>
      intro before
      rw [List.mem_cons, not_or] at h
      rw [endedIn, if_neg fun hc => h.1 hc.symm, ih h.2]

/-- A piece of a line and the line feed behind it. -/
theorem endedIn_piece (before piece more : List Char) (h : '\n' ∉ piece) :
    endedIn before (piece ++ ['\n'] ++ more) =
      endedLine (before ++ piece) :: endedIn (before ++ piece ++ ['\n']) more := by
  rw [List.append_assoc, endedIn_append, endedIn_of_not_mem piece h, List.nil_append,
    List.singleton_append, endedIn_newline]

/-- The lines that a text goes on with behind another one. -/
theorem numberFrom_lines (text : List Char) : ∀ before : List Char,
    numberFrom (openLine before) ((lines text).modifyHead (lastLine before ++ ·)) =
      endedIn before text ++ [⟨openLine (before ++ text), lastLine (before ++ text), false⟩] := by
  induction text with
  | nil =>
      intro before
      rw [List.append_nil]
      change [PhysicalLine.mk _ (lastLine before ++ []) false] = _
      rw [List.append_nil]
      rfl
  | cons c text ih =>
      intro before
      have hbefore : before ++ c :: text = before ++ [c] ++ text := by
        rw [List.append_assoc, List.singleton_append]
      have hrest := ih (before ++ [c])
      by_cases hc : c = '\n'
      · -- The line feed ends the open line, and what follows starts afresh.
        have hopen := openLine_append_line before [] List.not_mem_nil
        rw [List.append_nil] at hopen
        have hhead : (lines text).modifyHead ([] ++ ·) = lines text := by
          cases lines text <;> rfl
        rw [hc, hopen, lastLine_append_singleton, hhead] at hrest
        rw [hc] at hbefore
        rw [hc, lines_newline, List.modifyHead_cons, List.append_nil,
          numberFrom_cons _ _ (lines_ne_nil text), hrest, endedIn_newline, hbefore]
        rfl
      · have hmem : '\n' ∉ [c] := fun h => hc (List.mem_singleton.mp h).symm
        rcases exists_lines_cons c text hc with ⟨line, rest, htext, hcons⟩
        rw [openLine_append_of_not_mem before [c] hmem, lastLine_append_of_not_mem before [c] hmem,
          htext, List.modifyHead_cons, List.append_assoc, List.singleton_append] at hrest
        rw [hcons, List.modifyHead_cons, hrest, endedIn, if_neg hc, hbefore]

/-- The lines of a text are those that end in it, and the one that is open at its end. -/
theorem physicalLines_eq (cs : List Char) :
    physicalLines cs = endedIn [] cs ++ [⟨openLine cs, lastLine cs, false⟩] := by
  have h := numberFrom_lines cs []
  have hhead : (lines cs).modifyHead (lastLine [] ++ ·) = lines cs := by
    cases lines cs <;> rfl
  rw [hhead, List.nil_append] at h
  exact h

/-- Whether a text begins with a line feed. -/
def beginsWithFeed (cs : List Char) : Bool := cs.head? = some '\n'

theorem beginsWithFeed_newline (cs : List Char) : beginsWithFeed ('\n' :: cs) = true := rfl

/-- Whether a text begins with a line feed, some carriage returns in front of it aside. -/
def beginsWithEnding (cs : List Char) : Bool := beginsWithFeed (cs.dropWhile (· == '\r'))

end Text

/-- Tokens behind a text of which no boundary, the one in front of the first included, stands
    between a carriage return and a text of a certain sort. -/
def Uncut (sort : List Char → Bool) (before : List Char) (tokens : List Token) : Prop :=
  ∀ i < tokens.length, (before ++ (tokens.take i).flatMap (·.text)).getLast? = some '\r' →
    sort ((tokens.drop i).flatMap (·.text)) = false

instance (sort : List Char → Bool) (before : List Char) (tokens : List Token) :
    Decidable (Uncut sort before tokens) :=
  inferInstanceAs (Decidable (∀ i < tokens.length, _ → _))

namespace Uncut

variable {sort : List Char → Bool} {before : List Char} {t : Token} {tokens : List Token}

theorem head (h : Uncut sort before (t :: tokens)) (hlast : before.getLast? = some '\r') :
    sort (t.text ++ tokens.flatMap (·.text)) = false := by
  refine h 0 (Nat.succ_pos _) ?_
  rw [List.take_zero, List.flatMap_nil, List.append_nil]
  exact hlast

theorem tail (h : Uncut sort before (t :: tokens)) : Uncut sort (before ++ t.text) tokens := by
  intro i hi hlast
  refine h (i + 1) (Nat.succ_lt_succ hi) ?_
  rw [List.take_succ_cons, List.flatMap_cons, ← List.append_assoc]
  exact hlast

end Uncut

namespace TokenStream

/-- No boundary between tokens stands between a carriage return and a line feed directly
    behind it. -/
def KeepsPairs (s : TokenStream) : Prop := Uncut Text.beginsWithFeed [] s.tokens

/-- The carriage returns directly before a line feed are in one token with it: no boundary
    between tokens stands between one of them and what follows it. -/
def KeepsRuns (s : TokenStream) : Prop := Uncut Text.beginsWithEnding [] s.tokens

instance (s : TokenStream) : Decidable s.KeepsPairs := inferInstanceAs (Decidable (Uncut ..))

instance (s : TokenStream) : Decidable s.KeepsRuns := inferInstanceAs (Decidable (Uncut ..))

end TokenStream

end TokenLint
