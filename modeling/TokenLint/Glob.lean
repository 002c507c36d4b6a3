/-!
# Globs

Patterns for names: a star stands for any characters, a question mark for any one, a bracketed set for
one character of the set, and everything else for itself. The slash is an ordinary character. A set may
hold ranges and is the complement if it starts with an exclamation mark; a closing bracket that comes
first in a set belongs to it; a bracket that no other closes stands for itself. A range whose ends are
the wrong way round holds nothing.

## Main definitions

* `Glob.CharSet`: A bracketed set.
* `Glob.Piece`: One element of a pattern.
* `Glob.ofString`: The pattern that a text spells.
* `Glob.accepts`: Whether a pattern stands for a text.
* `Glob.answers`: The same for all tails of a text at once, in as many steps as pattern and text allow.
* `Glob.matchesText`: Whether a spelled pattern stands for a text.

## Main statements

* `Glob.answers_eq_map`: The answers for all tails are those that the tails have one by one.
-/

namespace TokenLint

namespace Glob

/-- A set of characters: those in one of the ranges, or all the others. -/
structure CharSet where
  /-- Whether the set is the complement of the ranges. -/
  negated : Bool
  /-- The ranges, ends included. -/
  ranges : List (Char × Char)
deriving DecidableEq, Repr

/-- Whether a character is in a set. -/
def CharSet.holds (s : CharSet) (c : Char) : Bool :=
  s.negated != s.ranges.any fun (low, high) => low ≤ c && c ≤ high

/-- One element of a pattern. -/
inductive Piece where
  /-- Any characters, or none. -/
  | anyText
  /-- Any one character. -/
  | anyChar
  /-- One character of a set. -/
  | oneOf (set : CharSet)
  /-- The character itself. -/
  | literal (c : Char)
deriving DecidableEq, Repr

/-- The ranges that the inside of a set spells. A hyphen between two characters makes them the ends of a
range; at either end of the inside it stands for itself. -/
def rangesOf : List Char → List (Char × Char)
  | a :: '-' :: b :: cs => (a, b) :: rangesOf cs
  | a :: cs => (a, a) :: rangesOf cs
  | [] => []

/-- What stands before and after the first closing bracket. -/
def splitClose : List Char → Option (List Char × List Char)
  | [] => none
  | c :: cs =>
    if c = ']' then some ([], cs)
    else (splitClose cs).map fun (inside, rest) => (c :: inside, rest)

/-- The inside of a set and what follows its closing bracket. The first character of the inside may be
that bracket itself. -/
def splitSet : List Char → Option (List Char × List Char)
  | '!' :: ']' :: cs => (splitClose cs).map fun (inside, rest) => ('!' :: ']' :: inside, rest)
  | ']' :: cs => (splitClose cs).map fun (inside, rest) => (']' :: inside, rest)
  | cs => splitClose cs

/-- The inside of a set without the ranges at its front that hold nothing. -/
def dropEmptyRanges : List Char → List Char
  | a :: '-' :: b :: cs => if b < a then dropEmptyRanges cs else a :: '-' :: b :: cs
  | cs => cs

/-- The set that an inside spells. Ranges that hold nothing are gone before the front of the inside is
looked at, so an exclamation mark behind them makes a complement too; one that was the lower end of a
range then leaves the hyphen and the upper end of it to the set. -/
def setOf : List Char → CharSet
  | '!' :: cs => ⟨true, rangesOf cs⟩
  | cs =>
    match dropEmptyRanges cs with
    | '!' :: '-' :: b :: cs => ⟨true, ('-', '-') :: (b, b) :: rangesOf cs⟩
    | '!' :: cs => ⟨true, rangesOf cs⟩
    | cs => ⟨false, rangesOf cs⟩

/-- The closing bracket is not part of what follows it. -/
theorem length_of_splitClose {cs inside rest : List Char} (h : splitClose cs = some (inside, rest)) :
    rest.length < cs.length := by
  induction cs generalizing inside with
  | nil => simp [splitClose] at h
  | cons c cs ih =>
    by_cases hc : c = ']'
    · simp only [splitClose, hc, if_true, Option.some.injEq, Prod.mk.injEq] at h
      simp [← h.2]
    · simp only [splitClose, hc, if_false, Option.map_eq_some_iff, Prod.mk.injEq, Prod.exists] at h
      obtain ⟨i, r, hr, -, rfl⟩ := h
      have := ih hr
      simp only [List.length_cons]
      omega

/-- What follows a set is shorter than the set and what follows it. -/
theorem length_of_splitSet {cs inside rest : List Char} (h : splitSet cs = some (inside, rest)) :
    rest.length < cs.length := by
  unfold splitSet at h
  split at h
  · obtain ⟨⟨i, r⟩, hr, hp⟩ := Option.map_eq_some_iff.1 h
    obtain ⟨-, rfl⟩ := Prod.mk.inj hp
    have := length_of_splitClose hr
    simp only [List.length_cons]
    omega
  · obtain ⟨⟨i, r⟩, hr, hp⟩ := Option.map_eq_some_iff.1 h
    obtain ⟨-, rfl⟩ := Prod.mk.inj hp
    have := length_of_splitClose hr
    simp only [List.length_cons]
    omega
  · exact length_of_splitClose h

/-- The pieces that a text spells. -/
def piecesOf : List Char → List Piece
  | [] => []
  | '*' :: cs => .anyText :: piecesOf cs
  | '?' :: cs => .anyChar :: piecesOf cs
  | '[' :: cs =>
    match h : splitSet cs with
    | some (inside, rest) =>
      have := length_of_splitSet h
      .oneOf (setOf inside) :: piecesOf rest
    | none => .literal '[' :: piecesOf cs
  | c :: cs => .literal c :: piecesOf cs
termination_by cs => cs.length

/-- The pattern that a text spells. -/
def ofString (s : String) : List Piece := piecesOf s.toList

/-- Whether pieces stand for a text. -/
def accepts : List Piece → List Char → Bool
  | [], cs => cs.isEmpty
  | .anyText :: ps, [] => accepts ps []
  | .anyText :: ps, c :: cs => accepts ps (c :: cs) || accepts (.anyText :: ps) cs
  | .anyChar :: ps, _ :: cs => accepts ps cs
  | .oneOf set :: ps, c :: cs => set.holds c && accepts ps cs
  | .literal l :: ps, c :: cs => l == c && accepts ps cs
  | _ :: _, [] => false
termination_by ps cs => (ps.length, cs.length)

/-- Whether a piece stands for a character by itself. -/
def Piece.holds : Piece → Char → Bool
  | anyText, _ => false
  | anyChar, _ => true
  | oneOf set, c => set.holds c
  | literal l, c => l == c

/-- The tails of a text, from the whole of it down to the empty one. -/
def tails : List Char → List (List Char)
  | [] => [[]]
  | c :: cs => (c :: cs) :: tails cs

/-- For each tail whether one of the answers from there on is positive. -/
def orLater : List Bool → List Bool
  | [] => []
  | b :: bs =>
    let later := orLater bs
    (b || later.headD false) :: later

/-- For each tail of a text whether its first character passes a test and the answer for what follows is
positive. -/
def andNext (test : Char → Bool) : List Char → List Bool → List Bool
  | c :: cs, _ :: bs => (test c && bs.headD false) :: andNext test cs bs
  | _, _ => [false]

/-- For each tail of a text whether pieces stand for it. -/
def answers (cs : List Char) : List Piece → List Bool
  | [] => (tails cs).map (·.isEmpty)
  | .anyText :: ps => orLater (answers cs ps)
  | p :: ps => andNext p.holds cs (answers cs ps)

/-- The first tail is the whole text. -/
theorem headD_map_tails (f : List Char → Bool) (cs : List Char) :
    ((tails cs).map f).headD false = f cs := by
  cases cs <;> rfl

/-- A star stands for the characters in front of any later tail. -/
theorem orLater_map (ps : List Piece) (cs : List Char) :
    orLater ((tails cs).map (accepts ps)) = (tails cs).map (accepts (.anyText :: ps)) := by
  induction cs with
  | nil => simp [tails, orLater, accepts]
  | cons c cs ih =>
    have hd := headD_map_tails (accepts (.anyText :: ps)) cs
    simp only [tails, List.map_cons, orLater, ih, hd, accepts]

/-- Any other piece stands for the first character of a tail. -/
theorem andNext_map {p : Piece} (hp : p ≠ .anyText) (ps : List Piece) (cs : List Char) :
    andNext p.holds cs ((tails cs).map (accepts ps)) = (tails cs).map (accepts (p :: ps)) := by
  induction cs with
  | nil => cases p <;> simp_all [tails, andNext, accepts]
  | cons c cs ih =>
    have hd := headD_map_tails (accepts ps) cs
    simp only [tails, List.map_cons, andNext, ih, hd]
    cases p <;> simp_all [accepts, Piece.holds]

/-- The answers for all tails are those that the tails have one by one. -/
theorem answers_eq_map (ps : List Piece) (cs : List Char) :
    answers cs ps = (tails cs).map (accepts ps) := by
  induction ps with
  | nil => simp [answers, accepts]
  | cons p ps ih =>
    by_cases hp : p = .anyText
    · subst hp
      rw [answers, ih, orLater_map]
    · rw [answers.eq_3 _ _ _ hp, ih, andNext_map hp]

/-- Whether a spelled pattern stands for a text. -/
def matchesText (pattern text : String) : Bool :=
  (answers text.toList (ofString pattern)).headD false

/-- The answer for the first tail is the one for the text. -/
theorem matchesText_eq_accepts (pattern text : String) :
    matchesText pattern text = accepts (ofString pattern) text.toList := by
  rw [matchesText, answers_eq_map, headD_map_tails]

end Glob

end TokenLint
