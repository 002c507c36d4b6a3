import TokenLint.Token.Basic

/-!
# Token streams

The tokens of one file with a cursor. The tokens never change; reading moves the cursor on by one until
none is left, and rewinding moves it back to the first. Everything else only looks.

## Main definitions

* `TokenStream`: The tokens of a file and a cursor.
* `TokenStream.read`: The token under the cursor, and the stream after it.
* `TokenStream.peek`: The token at a distance from the cursor.
* `TokenStream.at?`: The token with a number, counted from the end if negative.
* `TokenStream.items`: The tokens one by one.
* `TokenStream.slice?`: The tokens at regular distances between two bounds.
* `TokenStream.previous`, `TokenStream.following`: The neighbours of a token.
* `TokenStream.Call`, `TokenStream.Answer`, `TokenStream.step`: A call on a stream, its answer, and the
  stream after it.
-/

namespace TokenLint

/-- The tokens of a file and a cursor. -/
structure TokenStream where
  /-- The file. -/
  path : Path
  /-- The tokens, in order. -/
  tokens : List Token
  /-- How many tokens lie before the cursor. -/
  position : Nat
deriving Repr

/-- Why a look-up in a stream fails. -/
inductive StreamFault where
  /-- There is no token with the number. -/
  | outOfRange
  /-- The number does not fit 64 bits. -/
  | tooLarge
  /-- A slice cannot take steps of length zero. -/
  | zeroStep
  /-- No token is equal to the given one. -/
  | absent
deriving DecidableEq, Repr

/-- How the fault reads. -/
def StreamFault.message : StreamFault → String
  | outOfRange => "tuple index out of range"
  | tooLarge => "cannot fit 'int' into an index-sized integer"
  | zeroStep => "slice step cannot be zero"
  | absent => ""

namespace TokenStream

/-- A stream with the cursor at its first token. -/
def ofTokens (path : Path) (tokens : List Token) : TokenStream := ⟨path, tokens, 0⟩

/-- The number of tokens. -/
def size (s : TokenStream) : Nat := s.tokens.length

/-- Whether no token is left to read. -/
def atEnd (s : TokenStream) : Bool := s.size ≤ s.position

/-- The text of all tokens. -/
def text (s : TokenStream) : List Char := s.tokens.flatMap (·.text)

/-- The stream with the cursor at its first token. -/
def rewind (s : TokenStream) : TokenStream := { s with position := 0 }

/-- The tokens that are left to read. -/
def remaining (s : TokenStream) : List Token := s.tokens.drop s.position

/-- The stream with nothing left to read. -/
def finish (s : TokenStream) : TokenStream := { s with position := max s.position s.size }

/-- The token under the cursor, and the stream with the cursor after it. -/
def read (s : TokenStream) : Option Token × TokenStream :=
  match s.tokens[s.position]? with
  | some t => (some t, { s with position := s.position + 1 })
  | none => (none, s)

/-- The stream after a number of reads. -/
def skip (s : TokenStream) : Nat → TokenStream
  | 0 => s
  | n + 1 => s.read.2.skip n

/-- The token at a place, if the place is in the stream. -/
def token? (s : TokenStream) (place : Int) : Option Token :=
  if place < 0 then none else s.tokens[place.toNat]?

/-- The token at a distance from the cursor. -/
def peek (s : TokenStream) (offset : Int) : Option Token := s.token? (s.position + offset)

/-- The token with a number. A negative number counts from the end. -/
def at? (s : TokenStream) (number : Int) : Except StreamFault Token :=
  match s.token? (if number < 0 then number + s.size else number) with
  | some t => .ok t
  -- No stream has so many tokens that a number beyond 64 bits could be one of theirs.
  | none => .error (if number < -9223372036854775808 ∨ 9223372036854775807 < number then .tooLarge
      else .outOfRange)

theorem at?_eq_ok_iff (s : TokenStream) (number : Nat) (t : Token) :
    s.at? number = .ok t ↔ s.tokens[number]? = some t := by
  have hnumber : ¬ (number : Int) < 0 := Int.not_lt.mpr (Int.natCast_nonneg number)
  rw [at?, if_neg hnumber, token?, if_neg hnumber, Int.toNat_natCast]
  cases s.tokens[number]? with
  | none => simp only [reduceCtorEq]
  | some u => simp only [Except.ok.injEq, Option.some.injEq]

/-- A token is found under a number only if the stream is long enough. -/
theorem lt_size_of_at? {s : TokenStream} {number : Nat} {t : Token} (h : s.at? number = .ok t) :
    number < s.size :=
  (List.getElem?_eq_some_iff.mp ((at?_eq_ok_iff s number t).mp h)).1

/-- The tokens under a number and those after it, up to the first number without one. -/
def itemsFrom (s : TokenStream) (number : Nat) : List Token :=
  match h : s.at? number with
  | .ok t =>
    have := lt_size_of_at? h
    t :: s.itemsFrom (number + 1)
  | .error _ => []
termination_by s.size - number

/-- The tokens one by one. -/
def items (s : TokenStream) : List Token := s.itemsFrom 0

/-- The token before the one with the number of `t`. The first has none. -/
def previous (s : TokenStream) (t : Token) : Except StreamFault (Option Token) :=
  if t.index - 1 < 0 then .ok none else (s.at? (t.index - 1)).map some

/-- The token after the one with the number of `t`. The last has none. -/
def following (s : TokenStream) (t : Token) : Except StreamFault (Option Token) :=
  if t.index + 1 < s.size then (s.at? (t.index + 1)).map some else .ok none

/-- A bound of a slice as a place: counted from the end if negative, then held between two limits. -/
def bound (size low high : Int) : Option Int → Int → Int
  | none, default => default
  | some b, _ => max low (min high (if b < 0 then b + size else b))

/-- The places of a slice: those from `start` on in steps of `step` that lie before `stop`. -/
def slicePlaces (size : Nat) (start stop : Option Int) (step : Int) : List Nat :=
  let n : Int := size
  let (first, last) :=
    if 0 < step then (bound n 0 n start 0, bound n 0 n stop n)
    else (bound n (-1) (n - 1) start (n - 1), bound n (-1) (n - 1) stop (-1))
  let count := if 0 < step then (last - first + step - 1) / step else (first - last - step - 1) / (-step)
  (List.range count.toNat).map fun (i : Nat) => (first + i * step).toNat

/-- The tokens at regular distances between two bounds. -/
def slice? (s : TokenStream) (start stop step : Option Int) : Except StreamFault (List Token) :=
  match step with
  | some 0 => .error .zeroStep
  | step => .ok ((slicePlaces s.size start stop (step.getD 1)).filterMap (s.tokens[·]?))

/-- Whether an equal token is in the stream. -/
def contains (s : TokenStream) (t : Token) : Bool := s.tokens.any (t.agrees ·)

/-- The place of the first equal token. -/
def indexOf? (s : TokenStream) (t : Token) : Except StreamFault Nat :=
  match s.tokens.findIdx? (t.agrees ·) with
  | some i => .ok i
  | none => .error .absent

/-- The number of equal tokens. -/
def count (s : TokenStream) (t : Token) : Nat := s.tokens.countP (t.agrees ·)

/-- A short account of a stream. -/
def describe (s : TokenStream) : String :=
  s!"TokenStream(path={s.path}, tokens={s.size}, position={s.position})"

/-- A call on a stream. -/
inductive Call where
  /-- The token under the cursor is asked for, and the cursor moved on. -/
  | read
  /-- The token at a distance from the cursor is asked for. -/
  | peek (offset : Int)
  /-- The cursor is moved to the first token. -/
  | rewind
  /-- The token with a number is asked for. -/
  | item (number : Int)
  /-- The tokens between two bounds are asked for. -/
  | slice (start stop step : Option Int)
  /-- The tokens are asked for one by one. -/
  | iterate
  /-- The token before one is asked for. -/
  | previous (t : Token)
  /-- The token after one is asked for. -/
  | following (t : Token)
deriving DecidableEq, Repr

/-- What a call is answered with. -/
inductive Answer where
  /-- Nothing. -/
  | nothing
  /-- A token, or that there is none. -/
  | token (t : Option Token)
  /-- Several tokens. -/
  | tokens (ts : List Token)
deriving DecidableEq, Repr

/-- The stream after a call, and the answer or the failure. -/
def step (s : TokenStream) : Call → TokenStream × Except StreamFault Answer
  | .read => (s.read.2, .ok (.token s.read.1))
  | .peek offset => (s, .ok (.token (s.peek offset)))
  | .rewind => (s.rewind, .ok .nothing)
  | .item number => (s, (s.at? number).map fun t => .token (some t))
  | .slice start stop step => (s, (s.slice? start stop step).map .tokens)
  | .iterate => (s, .ok (.tokens s.items))
  | .previous t => (s, (s.previous t).map .token)
  | .following t => (s, (s.following t).map .token)

end TokenStream

end TokenLint
