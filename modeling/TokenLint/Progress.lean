import TokenLint.Vocabulary

/-!
# Progress

While a run goes on, one sign is written for every file that is finished. A line is full after so many
signs; the line end is written before the next sign, so that no line is empty.

## Main definitions

* `Progress`: How far a line is filled.
* `Progress.glyph`: One more sign.
* `Progress.glyphs`: Several more signs.
-/

namespace TokenLint

/-- How far a line is filled, and how many signs have been written in all. -/
structure Progress where
  /-- The number of signs in a full line. -/
  width : Int
  /-- The number of signs in this line. -/
  column : Nat
  /-- The number of signs in all. -/
  count : Nat
deriving DecidableEq, Repr

namespace Progress

/-- The number of signs in a full line unless another is asked for. -/
def defaultWidth : Int := 59

/-- The state before the first sign. -/
def start (width : Int) : Progress := ⟨width, 0, 0⟩

/-- What is written for one more sign, and the state after it. -/
def glyph (p : Progress) (sign : String) : List String × Progress :=
  if p.width ≤ p.column then (["\n", sign], ⟨p.width, 1, p.count + 1⟩)
  else ([sign], ⟨p.width, p.column + 1, p.count + 1⟩)

/-- What is written for several more signs, and the state after them. -/
def glyphs (p : Progress) : List String → List String × Progress
  | [] => ([], p)
  | sign :: signs =>
    let (now, p) := p.glyph sign
    let (later, p) := p.glyphs signs
    (now ++ later, p)

end Progress

end TokenLint
