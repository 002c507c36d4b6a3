import TokenLint.Ordered

/-!
# Patterns of a shell

A pattern is a row of characters, each of which stands for itself if it is quoted. Of the others, a star
stands for any text, a question mark for any character, and brackets for one of the characters in them.

## Main definitions

* `Pattern`: A pattern.
* `Pattern.accepts`: Whether a text is one that the pattern stands for.
* `Pattern.trim`: A text less a part at one end that the pattern stands for.
-/

namespace TokenLint

namespace Shell

/-- A pattern: characters, and whether they are quoted. -/
abbrev Pattern := List (Char × Bool)

namespace Pattern

/-- Classes of characters that brackets may name. -/
def classes : List (String × (Char → Bool)) := [
  ("alpha", Char.isAlpha), ("digit", Char.isDigit), ("alnum", Char.isAlphanum), ("upper", Char.isUpper),
  ("lower", Char.isLower), ("space", fun c => c == ' ' || ('\t' ≤ c && c ≤ '\r')),
  ("blank", fun c => c == ' ' || c == '\t'),
  ("xdigit", fun c => c.isDigit || "abcdefABCDEF".toList.contains c),
  ("punct", fun c => '!' ≤ c && c ≤ '~' && !c.isAlphanum)]

/-- Whether a character is in brackets, and what follows these, if they are closed. -/
def bracket (c : Char) : (fuel : Nat) → (first found : Bool) → Pattern → Option (Bool × Pattern)
  | 0, _, _, _ => none
  | _, _, _, [] => none
  | fuel + 1, first, found, (d, quoted) :: rest =>
    if d = ']' ∧ !quoted ∧ !first then some (found, rest)
    else if d = '[' ∧ !quoted ∧ rest.head?.map (·.1) = some ':' then
      let name := ((rest.drop 1).map (·.1)).takeWhile (· != ':')
      match Ordered.get? (String.ofList name) classes with
      | some holds => bracket c fuel false (found || holds c) (rest.drop (name.length + 3))
      | none => bracket c fuel false (found || c = d) rest
    else match rest with
      | ('-', false) :: (e, q) :: more =>
        if e = ']' ∧ !q then bracket c fuel false (found || c = d) rest
        else bracket c fuel false (found || (d ≤ c && c ≤ e)) more
      | _ => bracket c fuel false (found || c = d) rest

/-- Whether a character is one of those in brackets that start here, and what follows the brackets. -/
def inBrackets (c : Char) (p : Pattern) : Option (Bool × Pattern) :=
  match p with
  | ('!', false) :: rest | ('^', false) :: rest =>
    (bracket c (rest.length + 1) true false rest).map fun (found, rest) => (!found, rest)
  | _ => bracket c (p.length + 1) true false p

/-- Whether a text is one that a pattern stands for. -/
def acceptsFrom : (fuel : Nat) → Pattern → List Char → Bool
  | 0, _, _ => false
  | _, [], cs => cs.isEmpty
  | fuel + 1, (d, quoted) :: rest, cs =>
    if d = '*' ∧ !quoted then
      acceptsFrom fuel rest cs || (match cs with
        | [] => false
        | _ :: more => acceptsFrom fuel ((d, quoted) :: rest) more)
    else match cs with
      | [] => false
      | c :: more =>
        if quoted then c = d && acceptsFrom fuel rest more
        else if d = '?' then acceptsFrom fuel rest more
        else if d = '[' then
          match inBrackets c rest with
          | some (found, after) => found && acceptsFrom fuel after more
          | none => c = d && acceptsFrom fuel rest more
        else c = d && acceptsFrom fuel rest more

/-- Whether a text is one that the pattern stands for. -/
def accepts (p : Pattern) (cs : List Char) : Bool := acceptsFrom (p.length + cs.length + 1) p cs

/-- A text less a part at one end that the pattern stands for. -/
def trim (p : Pattern) (atEnd longest : Bool) (cs : List Char) : List Char :=
  let sizes := List.range (cs.length + 1)
  let sizes := if longest then sizes.reverse else sizes
  let parts (n : Nat) : List Char × List Char :=
    if atEnd then (cs.drop (cs.length - n), cs.take (cs.length - n)) else (cs.take n, cs.drop n)
  match sizes.find? fun n => p.accepts (parts n).1 with
  | some n => (parts n).2
  | none => cs

/-- Whether there is a character in the pattern that stands for others. -/
def isOpen (p : Pattern) : Bool := p.any fun (c, quoted) => !quoted && "*?[".toList.contains c

end Pattern

end Shell

end TokenLint
