import Mathlib.Data.List.Induction
import TokenLint.Proofs.Token.Tiling

/-!
# Streams by Their History

A stream is handed from rule to rule, and each of them reads, looks around and
starts over as it likes. What a call answers then depends on all the calls
before it, but on very little of them: the tokens stay as they are, so all that
is left of a history is the number of reads since the last rewind.

`run_eq` says so. It is proved call by call, and `step_eq` is the one call: a
read adds one to the number, a rewind sets it back, and nothing else changes
it. The cursor does not go past the last token, so it stands at the smaller of
the number of reads and the number of tokens, and reading at either of the two
gives the same.

A token finds its neighbours by the number that it carries and not by where it
was found, so that only the tokens of a source know theirs: their numbers are
their places.

## Main definitions

* `TokenStream.run`: The stream after calls.
* `TokenStream.reads`: The number of reads since the last rewind.
* `TokenStream.IsCursor`: A stream as a list of tokens with a cursor.
* `TokenStream.KnowsNeighbours`: What a stream answers about the neighbours of
  a token.

## Theorems

* `TokenStream.items_eq`: One by one, the tokens are all of them.
* `TokenStream.lt_of_mem_slicePlaces`, `TokenStream.slice?_eq`: A slice keeps to
  the stream.
* `TokenStream.reads_append_singleton`: One call more in a history.
* `TokenStream.step_eq`, `TokenStream.run_eq`: A call, and calls in order.
* `TokenStream.isCursor`: What a stream answers after some number of reads.
* `TokenStream.knowsNeighbours`: What it answers about neighbours.
* `TokenStream.run_by_history`: What is answered, told from the calls before.
-/

namespace TokenLint

namespace TokenStream

/-- The stream after calls. One that fails does not end the run. -/
def run (s : TokenStream) (calls : List Call) : TokenStream :=
  calls.foldl (fun s call => (s.step call).1) s

/-- The number of reads since the last rewind, or of all where there is none. -/
def reads (calls : List Call) : Nat := (calls.reverse.takeWhile (· ≠ .rewind)).count .read

/-- The number of reads since the last rewind, with one call more. -/
def Call.counted (n : Nat) : Call → Nat
  | .read => n + 1
  | .rewind => 0
  | _ => n

/-! ### Looking -/

section Looking

variable {s : TokenStream}

/-- The tokens one by one, from a number on. -/
theorem itemsFrom_eq (s : TokenStream) (number : Nat) :
    s.itemsFrom number = s.tokens.drop number := by
  fun_induction itemsFrom s number with
  | case1 number t h _ ih =>
      obtain ⟨hlt, rfl⟩ := List.getElem?_eq_some_iff.mp ((at?_eq_ok_iff s number t).mp h)
      rw [ih, List.drop_eq_getElem_cons hlt]
  | case2 number fault h =>
      refine (List.drop_eq_nil_of_le (Nat.le_of_not_lt fun hlt => ?_)).symm
      have hfound := (at?_eq_ok_iff s number _).mpr (List.getElem?_eq_getElem hlt)
      rw [hfound] at h
      cases h

theorem items_eq (s : TokenStream) : s.items = s.tokens := by
  rw [items, itemsFrom_eq, List.drop_zero]

/-- A number that is counted from the end. -/
theorem at?_sub_size {i : Nat} {t : Token} (h : s.tokens[i]? = some t) :
    s.at? (i - s.size) = .ok t := by
  have hlt : i < s.size := (List.getElem?_eq_some_iff.mp h).1
  have hneg : (i : Int) - s.size < 0 := by omega
  have hplace : (i : Int) - s.size + s.size = i := by omega
  rw [at?, if_pos hneg, hplace, token?, if_neg (Int.not_lt.mpr (Int.natCast_nonneg i)),
    Int.toNat_natCast, h]

/-- A number that is beyond either end. -/
theorem exists_at?_fault {number : Int} (h : number < -s.size ∨ s.size ≤ number) :
    ∃ fault, s.at? number = .error fault := by
  have hnone : s.token? (if number < 0 then number + s.size else number) = none := by
    by_cases hsign : number < 0
    · have hplace : number + s.size < 0 := by omega
      rw [if_pos hsign, token?, if_pos hplace]
    · have hplace : s.size ≤ number.toNat := by omega
      rw [if_neg hsign, token?, if_neg hsign, List.getElem?_eq_none_iff]
      exact hplace
  rw [at?, hnone]
  exact ⟨_, rfl⟩

/-- A bound of a slice keeps between its limits. -/
theorem bound_mem (size : Int) {low high default : Int} (hlow : low ≤ default)
    (hhigh : default ≤ high) (b : Option Int) :
    low ≤ bound size low high b default ∧ bound size low high b default ≤ high := by
  cases b with
  | none => exact ⟨hlow, hhigh⟩
  | some b =>
      rw [bound]
      omega

/-- A slice keeps to the stream, in whichever direction it goes. -/
theorem lt_of_mem_slicePlaces {size : Nat} {start stop : Option Int} {step : Int} (hstep : step ≠ 0) :
    ∀ i ∈ slicePlaces size start stop step, i < size := by
  intro i hi
  rw [slicePlaces] at hi
  -- The number of places bounds how far `k` steps lead away from the first one.
  by_cases hpos : 0 < step
  · simp only [if_pos hpos, List.mem_map, List.mem_range] at hi
    obtain ⟨k, hk, rfl⟩ := hi
    have hfirst := bound_mem size (Int.le_refl 0) (Int.natCast_nonneg size) start
    have hlast := bound_mem size (Int.natCast_nonneg size) (Int.le_refl size) stop
    have hcount : (k : Int) + 1 ≤ _ := Int.add_one_le_iff.mpr (Int.lt_toNat.mp hk)
    have hforth : 0 ≤ (k : Int) * step := Int.mul_nonneg (Int.natCast_nonneg k) (Int.le_of_lt hpos)
    rw [Int.le_ediv_iff_mul_le hpos, Int.add_mul, Int.one_mul] at hcount
    omega
  · have hneg : 0 < -step := by omega
    simp only [if_neg hpos, List.mem_map, List.mem_range] at hi
    obtain ⟨k, hk, rfl⟩ := hi
    have hends : (-1 : Int) ≤ size - 1 := by omega
    have hfirst := bound_mem size hends (Int.le_refl (size - 1)) start
    have hlast := bound_mem size (Int.le_refl (-1)) hends stop
    have hcount : (k : Int) + 1 ≤ _ := Int.add_one_le_iff.mpr (Int.lt_toNat.mp hk)
    have hback : 0 ≤ (k : Int) * -step := Int.mul_nonneg (Int.natCast_nonneg k) (Int.le_of_lt hneg)
    rw [Int.le_ediv_iff_mul_le hneg, Int.add_mul, Int.one_mul] at hcount
    rw [Int.mul_neg] at hcount hback
    omega

/-- What a slice answers has a token for each of its places. -/
theorem slice?_eq (s : TokenStream) (start stop step : Option Int) (hstep : step ≠ some 0) :
    ∃ ts, s.slice? start stop step = .ok ts ∧
      ts.map some = (slicePlaces s.size start stop (step.getD 1)).map (s.tokens[·]?) := by
  have hnonzero : step.getD 1 ≠ 0 := by
    cases step with
    | none => exact Int.one_ne_zero
    | some step => exact fun h => hstep (congrArg some h)
  refine ⟨(slicePlaces s.size start stop (step.getD 1)).filterMap (s.tokens[·]?), ?_, ?_⟩
  · rw [slice?]
    exact hstep
  · -- No place is left out, since there is a token at each of them.
    rw [List.map_filterMap_some_eq_filter_map_isSome, List.filter_eq_self]
    intro found hfound
    obtain ⟨i, hi, rfl⟩ := List.mem_map.mp hfound
    rw [List.getElem?_eq_getElem (lt_of_mem_slicePlaces hnonzero i hi)]
    rfl

end Looking

/-! ### The cursor -/

theorem reads_append_singleton (calls : List Call) (call : Call) :
    reads (calls ++ [call]) = call.counted (reads calls) := by
  rw [reads, List.reverse_append, List.reverse_singleton, List.singleton_append]
  by_cases hrewind : call = .rewind
  · rw [hrewind, List.takeWhile_cons_of_neg (by decide), List.count_nil, Call.counted]
  · have hkeep : decide (call ≠ .rewind) = true := decide_eq_true hrewind
    rw [List.takeWhile_cons_of_pos (p := fun c : Call => decide (c ≠ .rewind)) hkeep,
      List.count_cons, ← reads]
    cases call with
    | read => rfl
    | rewind => exact absurd rfl hrewind
    | _ => rfl

/-- The stream of some tokens after some number of reads. -/
def after (path : Path) (tokens : List Token) (n : Nat) : TokenStream :=
  ⟨path, tokens, min tokens.length n⟩

section Cursor

variable (path : Path) (tokens : List Token)

/-- There is no token where the cursor stops, and none further on. -/
theorem getElem?_position (n : Nat) :
    (after path tokens n).tokens[(after path tokens n).position]? = tokens[n]? := by
  change tokens[min tokens.length n]? = tokens[n]?
  rcases Nat.le_total n tokens.length with hle | hge
  · rw [Nat.min_eq_right hle]
  · rw [Nat.min_eq_left hge, List.getElem?_eq_none hge, List.getElem?_eq_none (Nat.le_refl _)]

/-- All that a call changes is the number of reads. -/
theorem step_eq (n : Nat) (call : Call) :
    ((after path tokens n).step call).1 = after path tokens (call.counted n) := by
  cases call with
  | read =>
      rw [step, read, getElem?_position, Call.counted]
      cases hnext : tokens[n]? with
      | none =>
          have hend := List.getElem?_eq_none_iff.mp hnext
          rw [after, after, Nat.min_eq_left hend, Nat.min_eq_left (Nat.le_succ_of_le hend)]
      | some t =>
          have hlt := (List.getElem?_eq_some_iff.mp hnext).1
          rw [after, after, Nat.min_eq_right (Nat.le_of_lt hlt), Nat.min_eq_right hlt]
  | rewind => rw [step, rewind, Call.counted, after, after, Nat.min_zero]
  | _ => rfl

theorem run_append_singleton (s : TokenStream) (calls : List Call) (call : Call) :
    s.run (calls ++ [call]) = ((s.run calls).step call).1 := List.foldl_append

/-- All that is left of a history is the number of reads since the last rewind. -/
theorem run_eq (calls : List Call) :
    (ofTokens path tokens).run calls = after path tokens (reads calls) := by
  -- The last call is the one that was made last, so the induction takes calls off the end.
  induction calls using List.reverseRecOn with
  | nil =>
      rw [run, List.foldl_nil, after]
      exact congrArg (TokenStream.mk path tokens) (Nat.min_zero _).symm
  | append_singleton calls call ih =>
      rw [run_append_singleton, ih, step_eq, reads_append_singleton]

/-- A stream as a list of tokens with a cursor, after some number of reads. -/
structure IsCursor (s : TokenStream) (tokens : List Token) (n : Nat) : Prop where
  /-- The tokens stay as they are. -/
  tokens_eq : s.tokens = tokens
  /-- The cursor moves with the reads as long as there are tokens. -/
  position_eq : s.position = min tokens.length n
  /-- The next read answers the next token, or that none is left. -/
  read_eq : (s.step .read).2 = .ok (.token tokens[n]?)
  /-- Looking from the cursor in either direction answers the token there, or that there is
      none. -/
  peek_eq : ∀ offset, (s.step (.peek offset)).2 = .ok (.token
    (if 0 ≤ s.position + offset ∧ s.position + offset < tokens.length then
      tokens[(s.position + offset).toNat]? else none))
  /-- A number is counted from the front or from the end. -/
  item_eq : ∀ (i : Nat) (t : Token), tokens[i]? = some t →
    (s.step (.item i)).2 = .ok (.token (some t)) ∧
      (s.step (.item (i - tokens.length))).2 = .ok (.token (some t))
  /-- Any other number is a fault. -/
  item_fault : ∀ number : Int, number < -tokens.length ∨ tokens.length ≤ number →
    ∃ fault, (s.step (.item number)).2 = .error fault
  /-- A slice has a token for each of its places. -/
  slice_eq : ∀ start stop step, step ≠ some 0 →
    ∃ ts, (s.step (.slice start stop step)).2 = .ok (.tokens ts) ∧
      ts.map some = (slicePlaces tokens.length start stop (step.getD 1)).map (tokens[·]?)
  /-- One by one, the tokens are all of them. -/
  iterate_eq : (s.step .iterate).2 = .ok (.tokens tokens)
  /-- Whatever is not a read or a rewind leaves the stream as it is, also where it fails. -/
  still : ∀ call, call ≠ .read → call ≠ .rewind → (s.step call).1 = s

theorem isCursor (n : Nat) : (after path tokens n).IsCursor tokens n where
  tokens_eq := rfl
  position_eq := rfl
  read_eq := by
    rw [step, read, getElem?_position]
    cases tokens[n]? <;> rfl
  peek_eq offset := by
    rw [step, peek, token?]
    by_cases hneg : ((after path tokens n).position : Int) + offset < 0
    · rw [if_pos hneg, if_neg fun h => absurd hneg (Int.not_lt.mpr h.1)]
    · rw [if_neg hneg]
      by_cases hend : ((after path tokens n).position : Int) + offset < tokens.length
      · rw [if_pos ⟨Int.not_lt.mp hneg, hend⟩, after]
      · rw [if_neg fun h => hend h.2, List.getElem?_eq_none]
        change tokens.length ≤ _
        omega
  item_eq i t h := by
    have hfront := (at?_eq_ok_iff (after path tokens n) i t).mpr h
    have hend := at?_sub_size (s := after path tokens n) h
    rw [step, step, hfront]
    exact ⟨rfl, congrArg (Except.map fun t => Answer.token (some t)) hend⟩
  item_fault number h := by
    obtain ⟨fault, hfault⟩ := exists_at?_fault (s := after path tokens n) h
    rw [step, hfault]
    exact ⟨fault, rfl⟩
  slice_eq start stop step hstep := by
    obtain ⟨ts, hts, hplaces⟩ := slice?_eq (after path tokens n) start stop step hstep
    rw [TokenStream.step, hts]
    exact ⟨ts, rfl, hplaces⟩
  iterate_eq := by
    rw [step, items_eq]
    rfl
  still call hread hrewind := by
    cases call with
    | read => exact absurd rfl hread
    | rewind => exact absurd rfl hrewind
    | _ => rfl

end Cursor

/-! ### Neighbours -/

/-- What a stream answers about the neighbours of the token at a place. -/
structure KnowsNeighbours (s : TokenStream) (i : Nat) (t : Token) : Prop where
  /-- The token before it, unless it is the first. -/
  previous_eq : (s.step (.previous t)).2 =
    .ok (.token (if i = 0 then none else s.tokens[i - 1]?))
  /-- The token after it, unless it is the last. -/
  following_eq : (s.step (.following t)).2 =
    .ok (.token (if i + 1 = s.size then none else s.tokens[i + 1]?))
  /-- It comes after the token before it. -/
  following_previous : ∀ u, (s.step (.previous t)).2 = .ok (.token (some u)) →
    (s.step (.following u)).2 = .ok (.token (some t))
  /-- It comes before the token after it. -/
  previous_following : ∀ u, (s.step (.following t)).2 = .ok (.token (some u)) →
    (s.step (.previous u)).2 = .ok (.token (some t))

section Neighbours

variable {s : TokenStream} (hindex : ∀ (i : Nat) (t : Token), s.tokens[i]? = some t → t.index = i)

include hindex

theorem previous_eq {i : Nat} {t : Token} (h : s.tokens[i]? = some t) :
    s.previous t = .ok (if i = 0 then none else s.tokens[i - 1]?) := by
  rw [previous, hindex i t h]
  cases i with
  | zero => rfl
  | succ i =>
      have hplace : ((i + 1 : Nat) : Int) - 1 = i := by omega
      have hlt : i < s.tokens.length := Nat.lt_of_succ_lt (List.getElem?_eq_some_iff.mp h).1
      have hfound := List.getElem?_eq_getElem hlt
      rw [hplace, if_neg (Int.not_lt.mpr (Int.natCast_nonneg i)), if_neg (Nat.succ_ne_zero i),
        Nat.add_sub_cancel, hfound, (at?_eq_ok_iff s i _).mpr hfound]
      rfl

theorem following_eq {i : Nat} {t : Token} (h : s.tokens[i]? = some t) :
    s.following t = .ok s.tokens[i + 1]? := by
  have hplace : (i : Int) + 1 = (i + 1 : Nat) := by omega
  rw [following, hindex i t h, hplace]
  by_cases hlast : i + 1 < s.size
  · have hfound := List.getElem?_eq_getElem hlast
    rw [if_pos (Int.ofNat_lt.mpr hlast), hfound, (at?_eq_ok_iff s (i + 1) _).mpr hfound]
    rfl
  · rw [if_neg fun hlt => hlast (Int.ofNat_lt.mp hlt),
      List.getElem?_eq_none (Nat.le_of_not_lt hlast)]

/-- Where tokens carry their places, going to a neighbour and back is no move. -/
theorem knowsNeighbours {i : Nat} {t : Token} (h : s.tokens[i]? = some t) :
    s.KnowsNeighbours i t where
  previous_eq := by
    rw [step, previous_eq hindex h]
    rfl
  following_eq := by
    rw [step, following_eq hindex h]
    split
    · rename_i hlast
      rw [List.getElem?_eq_none (Nat.le_of_eq hlast.symm)]
      rfl
    · rfl
  following_previous u hu := by
    -- There is one before it only if it is not the first.
    rw [step, previous_eq hindex h] at hu
    cases i with
    | zero => cases hu
    | succ i =>
        rw [if_neg (Nat.succ_ne_zero i), Nat.add_sub_cancel] at hu
        have hplace : s.tokens[i]? = some u := Answer.token.inj (Except.ok.inj hu)
        rw [step, following_eq hindex hplace, h]
        rfl
  previous_following u hu := by
    -- There is one after it only if it is not the last.
    rw [step, following_eq hindex h] at hu
    have hplace : s.tokens[i + 1]? = some u := Answer.token.inj (Except.ok.inj hu)
    rw [step, previous_eq hindex hplace, if_neg (Nat.succ_ne_zero i), Nat.add_sub_cancel, h]
    rfl

end Neighbours

/-- Whatever was asked of a stream before, it is the list of its tokens with a cursor, and the
    cursor has gone as far as there were reads since the last rewind. The tokens of a source
    know their neighbours besides. -/
theorem run_by_history (path : Path) (calls : List Call) :
    (∀ tokens, ((ofTokens path tokens).run calls).IsCursor tokens (reads calls)) ∧
      ∀ source lexemes, ∃ s, tokenize path source ⟨lexemes, none⟩ = .ok s ∧
        (s.run calls).IsCursor s.tokens (reads calls) ∧
        ∀ (i : Nat) (t : Token), s.tokens[i]? = some t → (s.run calls).KnowsNeighbours i t := by
  have hcursor : ∀ tokens, ((ofTokens path tokens).run calls).IsCursor tokens (reads calls) := by
    intro tokens
    rw [run_eq]
    exact isCursor path tokens _
  refine ⟨hcursor, fun source lexemes => ⟨_, tokenize_ok path source lexemes, hcursor _, ?_⟩⟩
  intro i t ht
  rw [run_eq]
  refine knowsNeighbours (fun j u hu => ?_) ht
  rw [index_tokensFrom path source _ _ _ j u hu, Nat.zero_add]

/-- What a lexer makes of two names with a blank between them. -/
def twoNames : List Lexeme :=
  [⟨.name, ['a'], ⟨1, 0⟩, ⟨1, 1⟩⟩, ⟨.name, ['b'], ⟨1, 2⟩, ⟨1, 3⟩⟩]

/-- The blank between the two names. -/
def blankBetween : Token := ⟨.whitespace, [' '], 1, 2, 1, .here⟩

/-- Reads on both sides of a rewind, and calls that fail or find nothing. -/
def restless : List Call :=
  [.read, .read, .peek (-3), .rewind, .item 7, .read, .slice none none (some 0)]

theorem run_by_history_restless :
    ∃ s, tokenize .here "a b".toList ⟨twoNames, none⟩ = .ok s ∧
      s.tokens[1]? = some blankBetween ∧ reads restless = 1 ∧
      (s.run restless).position = 1 ∧
      ((s.run restless).step .read).2 = .ok (.token (some blankBetween)) ∧
      (s.run restless).KnowsNeighbours 1 blankBetween := by
  obtain ⟨s, hs, hcursor, hneighbours⟩ :=
    (run_by_history .here restless).2 "a b".toList twoNames
  rw [tokenize_ok, Except.ok.injEq] at hs
  have hblank : s.tokens[1]? = some blankBetween := by
    rw [← hs]
    decide
  have hreads : reads restless = 1 := by decide
  have hsize : min s.tokens.length 1 = 1 := by
    rw [← hs]
    decide
  rw [hreads] at hcursor
  exact ⟨s, by rw [tokenize_ok, hs], hblank, hreads, hcursor.position_eq.trans hsize,
    by rw [hcursor.read_eq, hblank], hneighbours 1 blankBetween hblank⟩

end TokenStream

end TokenLint
