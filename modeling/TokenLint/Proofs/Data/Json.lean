import TokenLint.Data.Json
import TokenLint.Proofs.Ordered

/-!
# Reading Back JSON

What is written of a value is read as that value, however it is laid out.
Values with numbers that have a fraction or an exponent are left aside: they
are read as the nearest such number, which is a matter of numbers and not of
JSON. An object with a name in it twice is left aside as well, because it is
read as one with the name once.

The writer and the reader are both recursive over the value, so the proof is,
too. A value is followed by something that cannot be taken for more of it:
only a whole number could go on, and not with what separates values.

## Main definitions

* `Json.Plain`: Values without fractions and repeated names.
* `Json.Stops`: A text that no number goes on with.
* `Json.IsSpace`: White space between things.

## Theorems

* `Json.readString?_escape`: What is written of a text is read as the text.
* `Json.readNumber?_toString`: What is written of a whole number is read as it.
* `Json.readValue?_renderAt`: What is written of a value is read as the value.
* `Json.parse?_render`: The same of a text that is nothing else.
-/

namespace TokenLint

namespace Json

mutual

/-- Values without fractions, exponents and repeated names. -/
def Plain : Json → Prop
  | null | bool _ | int _ | string _ => True
  | number _ => False
  | array items => PlainItems items
  | object fields => (fields.map (·.1)).Nodup ∧ PlainFields fields

/-- Several such values. -/
def PlainItems : List Json → Prop
  | [] => True
  | x :: xs => x.Plain ∧ PlainItems xs

/-- Several such values by name. -/
def PlainFields : List (String × Json) → Prop
  | [] => True
  | (_, x) :: fields => x.Plain ∧ PlainFields fields

end

theorem plainFields_iff {fields : List (String × Json)} :
    PlainFields fields ↔ ∀ field ∈ fields, field.2.Plain := by
  induction fields with
  | nil => exact iff_of_true trivial fun _ h => absurd h List.not_mem_nil
  | cons field fields ih => rw [PlainFields, ih, List.forall_mem_cons]

/-- The text starts with nothing that a whole number goes on with. -/
def Stops (rest : List Char) : Prop :=
  ∀ c more, rest = c :: more → c.isDigit = false ∧ c ≠ '.' ∧ c ≠ 'e' ∧ c ≠ 'E'

theorem Stops.cons {c : Char} (h : c.isDigit = false ∧ c ≠ '.' ∧ c ≠ 'e' ∧ c ≠ 'E')
    (more : List Char) : Stops (c :: more) := by
  rintro _ _ ⟨⟩
  exact h

/-- White space that may stand between things. -/
def IsSpace (ws : List Char) : Prop :=
  ∀ c ∈ ws, (c == ' ' || c == '\n' || c == '\r' || c == '\t') = true

/-- White space is passed over, up to what is none. -/
theorem skipSpace_append {ws : List Char} (hws : IsSpace ws) {c : Char}
    (hc : (c == ' ' || c == '\n' || c == '\r' || c == '\t') = false) (rest : List Char) :
    skipSpace (ws ++ c :: rest) = c :: rest := by
  rw [skipSpace, List.dropWhile_append_of_pos hws, List.dropWhile_cons_of_neg (by rw [hc]; decide)]

theorem isSpace_layout (indent : Option Nat) (depth : Nat) {inline : List Char}
    (h : IsSpace inline) : IsSpace (layout indent depth inline) := by
  cases indent with
  | none => exact h
  | some n =>
      intro c hc
      rcases List.mem_cons.mp hc with rfl | hc
      · rfl
      · rw [(List.mem_replicate.mp hc).2]
        rfl

section Strings

/-- Four hexadecimal digits of a control character are read as its number. -/
theorem hexQuad?_hexText : ∀ n < 0x20, ∃ a b c d, Text.hexText 4 n = [a, b, c, d] ∧
    ([a, b, c, d].mapM Text.hexDigit?).map (Text.ofDigits 16) = some n := by
  have hall : ∀ n < 0x20, (Text.hexText 4 n).length = 4 ∧
      ((Text.hexText 4 n).mapM Text.hexDigit?).map (Text.ofDigits 16) = some n := by decide
  intro n hn
  rcases hall n hn with ⟨hlength, hread⟩
  match htext : Text.hexText 4 n, hlength with
  | [a, b, c, d], _ => exact ⟨a, b, c, d, rfl, htext ▸ hread⟩

theorem readEscape?_hexText {n : Nat} (hn : n < 0x20) (rest : List Char) :
    readEscape? ('u' :: Text.hexText 4 n ++ rest) = some (Char.ofNat n, rest) := by
  rcases hexQuad?_hexText n hn with ⟨a, b, c, d, htext, hread⟩
  rw [Option.map_eq_some_iff] at hread
  rcases hread with ⟨digits, hdigits, hvalue⟩
  have hquad : hexQuad? ([a, b, c, d] ++ rest) = some (n, rest) := by
    simp only [List.cons_append, List.nil_append, hexQuad?, hdigits, Option.bind_eq_bind,
      Option.bind_some, hvalue, Option.pure_def]
  simp only [htext, List.cons_append, List.nil_append] at hquad ⊢
  have h1 : ¬(0xD800 ≤ n ∧ n < 0xDC00) := by omega
  have h2 : ¬(0xDC00 ≤ n ∧ n < 0xE000) := by omega
  simp only [readEscape?, hquad, Option.bind_eq_bind, Option.bind_some, if_neg h1, if_neg h2,
    Option.pure_def]

/-- What is written of one character is read as the character. -/
theorem readString?_escape_append (fuel : Nat) (c : Char) (rest : List Char) :
    readString? (fuel + 1) (escape c ++ rest) =
      (readString? fuel rest).map fun p => (c :: p.1, p.2) := by
  -- A character that is escaped is what its escape stands for.
  have hescape : ∀ cs, escape c = '\\' :: cs → readEscape? (cs ++ rest) = some (c, rest) →
      readString? (fuel + 1) (escape c ++ rest) =
        (readString? fuel rest).map fun p => (c :: p.1, p.2) := by
    intro cs hc hread
    rw [hc, List.cons_append, readString?, if_neg (by decide), if_pos rfl, hread]
    simp only [Option.bind_eq_bind, Option.bind_some]
    cases readString? fuel rest <;> rfl
  have hofNat : ∀ n, c.toNat = n → c = Char.ofNat n := by
    rintro n rfl
    exact (Char.ofNat_toNat c).symm
  by_cases hquote : c = '"'
  · subst hquote
    exact hescape ['"'] rfl rfl
  by_cases hslash : c = '\\'
  · subst hslash
    exact hescape ['\\'] rfl rfl
  by_cases hline : c = '\n'
  · subst hline
    exact hescape ['n'] rfl rfl
  by_cases hreturn : c = '\r'
  · subst hreturn
    exact hescape ['r'] rfl rfl
  by_cases htab : c = '\t'
  · subst htab
    exact hescape ['t'] rfl rfl
  have hplain : escape c = if c.toNat = 8 then ['\\', 'b'] else if c.toNat = 12 then ['\\', 'f']
      else if c.toNat < 0x20 then '\\' :: 'u' :: Text.hexText 4 c.toNat else [c] := by
    rw [escape, if_neg hquote, if_neg hslash, if_neg hline, if_neg hreturn, if_neg htab]
  by_cases hback : c.toNat = 8
  · rw [if_pos hback] at hplain
    exact hescape ['b'] hplain (by rw [hofNat 8 hback]; rfl)
  by_cases hfeed : c.toNat = 12
  · rw [if_neg hback, if_pos hfeed] at hplain
    exact hescape ['f'] hplain (by rw [hofNat 12 hfeed]; rfl)
  by_cases hcontrol : c.toNat < 0x20
  · rw [if_neg hback, if_neg hfeed, if_pos hcontrol] at hplain
    refine hescape _ hplain ?_
    rw [readEscape?_hexText hcontrol, Char.ofNat_toNat]
  · rw [if_neg hback, if_neg hfeed, if_neg hcontrol] at hplain
    rw [hplain, List.singleton_append, readString?, if_neg hquote, if_neg hslash, if_neg hcontrol]
    cases readString? fuel rest <;> rfl

/-- What is written of a text is read as the text. -/
theorem readString?_escape (cs : List Char) (fuel : Nat) (rest : List Char)
    (hfuel : cs.length < fuel) :
    readString? fuel (cs.flatMap escape ++ '"' :: rest) = some (cs, rest) := by
  induction cs generalizing fuel with
  | nil =>
      cases fuel with
      | zero => exact absurd hfuel (Nat.not_lt_zero _)
      | succ fuel => rfl
  | cons c cs ih =>
      cases fuel with
      | zero => exact absurd hfuel (Nat.not_lt_zero _)
      | succ fuel =>
          rw [List.flatMap_cons, List.append_assoc, readString?_escape_append,
            ih fuel (Nat.lt_of_succ_lt_succ hfuel)]
          rfl

end Strings

section Numbers

/-- An ASCII digit has a value, by which it is read. -/
theorem asciiDigit?_of_isDigit {c : Char} (h : c.isDigit = true) :
    Text.asciiDigit? c = some (c.toNat - '0'.toNat) := by
  rw [Char.isDigit, Bool.and_eq_true, decide_eq_true_eq, decide_eq_true_eq] at h
  exact if_pos h

/-- A row of digits is read as the number that it writes. -/
theorem ofDigits_filterMap {cs : List Char} (h : ∀ c ∈ cs, c.isDigit = true) :
    Text.ofDigits 10 (cs.filterMap Text.asciiDigit?) = Nat.ofDigitChars 10 cs 0 := by
  have hfrom : ∀ n, (cs.filterMap Text.asciiDigit?).foldl (fun n d => n * 10 + d) n =
      Nat.ofDigitChars 10 cs n := by
    induction cs with
    | nil => exact fun n => Nat.ofDigitChars_nil.symm
    | cons c cs ih =>
        intro n
        rw [List.filterMap_cons, asciiDigit?_of_isDigit (h c List.mem_cons_self), List.foldl_cons,
          Nat.ofDigitChars_cons, ih fun d hd => h d (List.mem_cons_of_mem c hd), Nat.mul_comm]
  exact hfrom 0

/-- The digits of a number that is not zero do not start with a zero. -/
theorem head?_toDigits {n : Nat} (hn : 0 < n) : (Nat.toDigits 10 n).head? ≠ some '0' := by
  induction n using Nat.strongRecOn with
  | ind n ih =>
      rw [Nat.toDigits_eq_if (by decide)]
      split
      · next hlt =>
          rw [List.head?_cons]
          have hall : ∀ m < 10, 0 < m → some m.digitChar ≠ some '0' := by decide
          exact hall n hlt hn
      · next hle =>
          have htail := ih (n / 10) (by omega) (by omega)
          cases hdigits : Nat.toDigits 10 (n / 10) with
          | nil => exact absurd hdigits Nat.toDigits_ne_nil
          | cons d ds =>
              rw [hdigits] at htail
              exact htail

/-- A row of digits that nothing goes on with is read as a whole. -/
theorem spanDigits_append {ds rest : List Char} (hds : ∀ c ∈ ds, c.isDigit = true)
    (hrest : Stops rest) :
    spanDigits (ds ++ rest) = (ds.filterMap Text.asciiDigit?, rest) := by
  have htake : (ds ++ rest).takeWhile Char.isDigit = ds := by
    rw [List.takeWhile_append_of_pos hds]
    cases rest with
    | nil => rw [List.takeWhile_nil, List.append_nil]
    | cons c more =>
        rw [List.takeWhile_cons_of_neg (Bool.eq_false_iff.mp (hrest c more rfl).1), List.append_nil]
  rw [spanDigits, htake, List.drop_left]

/-- What is written of a natural number has a value of its own for each digit. -/
theorem length_filterMap_asciiDigit? {ds : List Char} (hds : ∀ c ∈ ds, c.isDigit = true) :
    (ds.filterMap Text.asciiDigit?).length = ds.length := by
  induction ds with
  | nil => rfl
  | cons c ds ih =>
      rw [List.filterMap_cons, asciiDigit?_of_isDigit (hds c List.mem_cons_self), List.length_cons,
        ih fun d hd => hds d (List.mem_cons_of_mem c hd), List.length_cons]

/-- The text of a whole number is a minus sign or nothing, and the digits. -/
theorem toList_toString (n : Int) :
    (toString n).toList = (if n < 0 then ['-'] else []) ++ Nat.toDigits 10 n.natAbs := by
  cases n with
  | ofNat m =>
      have hnonneg : ¬Int.ofNat m < 0 := Int.not_lt.mpr (Int.natCast_nonneg m)
      rw [if_neg hnonneg, List.nil_append]
      exact Nat.toList_repr
  | negSucc m =>
      rw [if_pos (Int.negSucc_lt_zero m)]
      have htext : toString (Int.negSucc m) = "-" ++ (m + 1).repr := rfl
      rw [htext, String.toList_append, Nat.toList_repr]
      rfl

/-- The digits of a natural number are read as it, where nothing goes on with them. -/
theorem readNumber?_toDigits (cs : List Char) (m : Nat) {rest : List Char} (hrest : Stops rest)
    (negative : Bool) (hcs : cs = (if negative then ['-'] else []) ++ Nat.toDigits 10 m ++ rest) :
    readNumber? cs = some (int (Binary64.signed negative m), rest) := by
  have hdigit : ∀ c ∈ Nat.toDigits 10 m, c.isDigit = true := fun c hc =>
    Nat.isDigit_of_mem_toDigits (by decide) (by decide) hc
  have hspan := spanDigits_append hdigit hrest
  have hvalue : Text.ofDigits 10 ((Nat.toDigits 10 m).filterMap Text.asciiDigit?) = m := by
    rw [ofDigits_filterMap hdigit, Nat.ofDigitChars_toDigits (by decide) (by decide)]
  -- The first digit is no sign.
  have hhead : ∃ d ds, Nat.toDigits 10 m = d :: ds ∧ d ≠ '-' := by
    cases hdigits : Nat.toDigits 10 m with
    | nil => exact absurd hdigits Nat.toDigits_ne_nil
    | cons d ds =>
        refine ⟨d, ds, rfl, ?_⟩
        rintro rfl
        exact absurd (hdigit '-' (hdigits ▸ List.mem_cons_self)) (by decide)
  rcases hhead with ⟨d, ds, hdigits, hd⟩
  have hsign : decide (cs.head? = some '-') = negative ∧
      (if cs.head? = some '-' then cs.drop 1 else cs) = Nat.toDigits 10 m ++ rest := by
    cases negative with
    | true =>
        have hcons : cs = '-' :: (Nat.toDigits 10 m ++ rest) := hcs
        rw [hcons]
        exact ⟨rfl, rfl⟩
    | false =>
        have hcons : cs = Nat.toDigits 10 m ++ rest := hcs
        have hno : cs.head? ≠ some '-' := by
          rw [hcons, hdigits]
          exact fun hc => hd (Option.some.inj hc)
        rw [if_neg hno]
        exact ⟨decide_eq_false hno, hcons⟩
  have hwhole : ¬((((Nat.toDigits 10 m).filterMap Text.asciiDigit?).isEmpty = true) ∨
      ((Nat.toDigits 10 m).filterMap Text.asciiDigit?).head? = some 0 ∧
        1 < ((Nat.toDigits 10 m).filterMap Text.asciiDigit?).length) := by
    rw [length_filterMap_asciiDigit? hdigit, hdigits, List.filterMap_cons,
      asciiDigit?_of_isDigit (hdigit d (hdigits ▸ List.mem_cons_self))]
    rintro (hempty | ⟨hzero, hlong⟩)
    · cases hempty
    · rw [List.head?_cons, Option.some.injEq] at hzero
      have hd0 : d = '0' := by
        have hrange := hdigit d (hdigits ▸ List.mem_cons_self)
        rw [Char.isDigit, Bool.and_eq_true, decide_eq_true_eq] at hrange
        have hnat : d.toNat = 48 := by
          have hle : 48 ≤ d.toNat := hrange.1
          have hsub : d.toNat - 48 = 0 := hzero
          omega
        rw [← Char.ofNat_toNat d, hnat]
      -- A zero in front is all there is of the number.
      by_cases hm : 0 < m
      · exact head?_toDigits hm (by rw [hdigits, hd0]; rfl)
      · rw [Nat.eq_zero_of_not_pos hm, Nat.toDigits_zero, List.cons.injEq] at hdigits
        rw [← hdigits.2] at hlong
        exact absurd hlong (Nat.lt_irrefl 1)
  rw [readNumber?, hsign.2]
  simp only [hspan, if_neg hwhole, hsign.1]
  cases rest with
  | nil => simp only [hvalue]
  | cons c more =>
      rcases hrest c more rfl with ⟨_, hdot, he, hE⟩
      simp [hvalue, hdot, he, hE]

/-- What is written of a whole number is read as it, where nothing goes on with it. -/
theorem readNumber?_toString (n : Int) {rest : List Char} (hrest : Stops rest) :
    readNumber? ((toString n).toList ++ rest) = some (int n, rest) := by
  have hsigned : Binary64.signed (decide (n < 0)) n.natAbs = n := by
    rw [Binary64.signed]
    by_cases hn : n < 0
    · rw [decide_eq_true hn, if_pos rfl]
      omega
    · rw [decide_eq_false hn, if_neg Bool.false_ne_true]
      omega
  have hread := readNumber?_toDigits ((toString n).toList ++ rest) n.natAbs hrest (decide (n < 0))
    (by simp only [toList_toString, decide_eq_true_eq])
  rw [hread, hsigned]

/-- The text of a whole number starts with a digit, or with a minus sign and a digit. -/
theorem exists_toString_cons (n : Int) : ∃ c cs, (toString n).toList = c :: cs ∧
    (c.isDigit = true ∨ c = '-' ∧ ∃ d ds, cs = d :: ds ∧ d.isDigit = true) := by
  rw [toList_toString]
  have hdigits : ∃ d ds, Nat.toDigits 10 n.natAbs = d :: ds ∧ d.isDigit = true := by
    cases h : Nat.toDigits 10 n.natAbs with
    | nil => exact absurd h Nat.toDigits_ne_nil
    | cons d ds =>
        exact ⟨d, ds, rfl, Nat.isDigit_of_mem_toDigits (by decide) (by decide) (h ▸ List.mem_cons_self)⟩
  rcases hdigits with ⟨d, ds, h, hd⟩
  rw [h]
  by_cases hn : n < 0
  · rw [if_pos hn]
    exact ⟨'-', d :: ds, rfl, .inr ⟨rfl, d, ds, rfl, hd⟩⟩
  · rw [if_neg hn]
    exact ⟨d, ds, rfl, .inl hd⟩

/-- The text of a whole number is none of the fixed words. -/
theorem readWord?_toString (n : Int) (rest : List Char) :
    readWord? ((toString n).toList ++ rest) = none := by
  rcases exists_toString_cons n with ⟨c, cs, htext, hc | ⟨rfl, d, ds, rfl, hd⟩⟩
  · have hne : ∀ x : Char, x.isDigit = false → x ≠ c := by
      rintro x hx rfl
      rw [hx] at hc
      cases hc
    rw [htext]
    simp [readWord?, hne 'n' rfl, hne 't' rfl, hne 'f' rfl, hne 'N' rfl, hne 'I' rfl, hne '-' rfl]
  · have hne : 'I' ≠ d := by
      rintro rfl
      exact absurd hd (by decide)
    rw [htext]
    simp [readWord?, hne]

end Numbers

section Values

theorem readWord?_null (rest : List Char) :
    readWord? ("null".toList ++ rest) = some (null, rest) := by
  simp [readWord?]
  rfl

theorem readWord?_true (rest : List Char) :
    readWord? ("true".toList ++ rest) = some (bool true, rest) := by
  simp [readWord?]
  rfl

theorem readWord?_false (rest : List Char) :
    readWord? ("false".toList ++ rest) = some (bool false, rest) := by
  simp [readWord?]
  rfl

theorem length_le_escape (cs : List Char) : cs.length ≤ (cs.flatMap escape).length := by
  induction cs with
  | nil => exact Nat.le_refl 0
  | cons c cs ih =>
      have hpos : 0 < (escape c).length := by
        unfold escape
        repeat' split
        all_goals exact Nat.succ_pos _
      rw [List.flatMap_cons, List.length_append, List.length_cons]
      omega

/-- What is written of a value starts with something that is neither white space nor the
    end of an array. -/
theorem exists_renderAt_cons (indent : Option Nat) (depth : Nat) {x : Json} (h : x.Plain) :
    ∃ c cs, renderAt indent depth x = c :: cs ∧
      (c == ' ' || c == '\n' || c == '\r' || c == '\t') = false ∧ c ≠ ']' := by
  cases x with
  | null => exact ⟨'n', _, rfl, rfl, by decide⟩
  | bool b => cases b with
    | true => exact ⟨'t', _, rfl, rfl, by decide⟩
    | false => exact ⟨'f', _, rfl, rfl, by decide⟩
  | int n =>
      rcases exists_toString_cons n with ⟨c, cs, htext, hc⟩
      refine ⟨c, cs, htext, ?_⟩
      rcases hc with hc | ⟨rfl, _⟩
      · have hne : ∀ y : Char, y.isDigit = false → c ≠ y := by
          rintro y hy rfl
          rw [hy] at hc
          cases hc
        simp [hne ' ' rfl, hne '\n' rfl, hne '\r' rfl, hne '\t' rfl, hne ']' rfl]
      · decide
  | number _ => exact absurd h id
  | string s => exact ⟨'"', _, rfl, rfl, by decide⟩
  | array items => cases items with
    | nil => exact ⟨'[', _, rfl, rfl, by decide⟩
    | cons y ys => exact ⟨'[', _, rfl, rfl, by decide⟩
  | object fields => cases fields with
    | nil => exact ⟨'\x7b', _, rfl, rfl, by decide⟩
    | cons f fs => exact ⟨'\x7b', _, rfl, rfl, by decide⟩

/-- The reading of what follows an item of an array. -/
def itemsTail? (fuel : Nat) (cs : List Char) : Option (List Json × List Char) :=
  match skipSpace cs with
  | ']' :: after => some ([], after)
  | ',' :: rest => readItems? fuel rest
  | _ => none

/-- The reading of what follows a field of an object. -/
def fieldsTail? (fuel : Nat) (cs : List Char) : Option (List (String × Json) × List Char) :=
  match skipSpace cs with
  | '\x7d' :: after => some ([], after)
  | ',' :: rest => readFields? fuel rest
  | _ => none

theorem itemsTail?_of_comma {fuel : Nat} {cs more : List Char} (h : skipSpace cs = ',' :: more) :
    itemsTail? fuel cs = readItems? fuel more := by
  simp only [itemsTail?, h]

theorem itemsTail?_of_ne {fuel : Nat} {cs : List Char}
    (hclose : ∀ after, skipSpace cs = ']' :: after → False)
    (hcomma : ∀ more, skipSpace cs = ',' :: more → False) : itemsTail? fuel cs = none := by
  rw [itemsTail?]
  split
  · next h => exact (hclose _ h).elim
  · next h => exact (hcomma _ h).elim
  · rfl

theorem fieldsTail?_of_comma {fuel : Nat} {cs more : List Char} (h : skipSpace cs = ',' :: more) :
    fieldsTail? fuel cs = readFields? fuel more := by
  simp only [fieldsTail?, h]

theorem fieldsTail?_of_ne {fuel : Nat} {cs : List Char}
    (hclose : ∀ after, skipSpace cs = '\x7d' :: after → False)
    (hcomma : ∀ more, skipSpace cs = ',' :: more → False) : fieldsTail? fuel cs = none := by
  rw [fieldsTail?]
  split
  · next h => exact (hclose _ h).elim
  · next h => exact (hcomma _ h).elim
  · rfl

/-- The items of an array are one item and what follows it. -/
theorem readItems?_succ {fuel : Nat} {cs rest : List Char} {x : Json}
    (h : readValue? fuel cs = some (x, rest)) :
    readItems? (fuel + 1) cs = (itemsTail? fuel rest).map fun p => (x :: p.1, p.2) := by
  rw [readItems?, h]
  simp only [Option.bind_eq_bind, Option.bind_some]
  split
  · next hclose =>
      rw [itemsTail?, hclose]
      rfl
  · next more hcomma =>
      rw [itemsTail?_of_comma hcomma]
      cases readItems? fuel more <;> rfl
  · next hclose hcomma =>
      rw [itemsTail?_of_ne hclose hcomma]
      rfl

/-- The fields of an object are one field and what follows it. -/
theorem readFields?_succ {fuel : Nat} {cs name after rest : List Char} {k : List Char} {x : Json}
    (hspace : skipSpace cs = '"' :: name) (hname : readString? fuel name = some (k, ':' :: after))
    (hvalue : readValue? fuel after = some (x, rest)) :
    readFields? (fuel + 1) cs =
      (fieldsTail? fuel rest).map fun p => ((String.ofList k, x) :: p.1, p.2) := by
  have hcolon : skipSpace (':' :: after) = ':' :: after := rfl
  rw [readFields?, hspace]
  simp only [hname, Option.bind_eq_bind, Option.bind_some, hcolon, hvalue]
  split
  · next hclose =>
      rw [fieldsTail?, hclose]
      rfl
  · next more hcomma =>
      rw [fieldsTail?_of_comma hcomma]
      cases readFields? fuel more <;> rfl
  · next hclose hcomma =>
      rw [fieldsTail?_of_ne hclose hcomma]
      rfl

/-- What is written of a text is read as the text, and what follows is left. -/
theorem readString?_encodeString (s : String) (fuel : Nat) (rest : List Char)
    (hfuel : (encodeString s).length < fuel + 1) :
    readString? fuel (s.toList.flatMap escape ++ '"' :: rest) = some (s.toList, rest) := by
  refine readString?_escape s.toList fuel rest ?_
  have hle := length_le_escape s.toList
  rw [encodeString, List.cons_append, List.length_cons, List.length_append] at hfuel
  omega

/-- A value that is no text, array or object is read as a word or as a number. -/
theorem readValue?_of_head {fuel : Nat} {cs : List Char} {c : Char} {more : List Char}
    (h : skipSpace cs = c :: more) (hc : c ≠ '"' ∧ c ≠ '[' ∧ c ≠ '\x7b') :
    readValue? (fuel + 1) cs = (readWord? (c :: more) <|> readNumber? (c :: more)) := by
  rw [readValue?, h]
  split
  · next heq => exact absurd (List.cons.inj heq).1 hc.1
  · next heq => exact absurd (List.cons.inj heq).1 hc.2.1
  · next heq => exact absurd (List.cons.inj heq).1 hc.2.2
  · rfl

/-- A fixed word is read as the value that it stands for. -/
theorem readValue?_word {word rest : List Char} {x : Json} (fuel : Nat) {ws : List Char}
    (hws : IsSpace ws) (hread : readWord? (word ++ rest) = some (x, rest))
    (hhead : ∃ c more, word = c :: more ∧
      (c == ' ' || c == '\n' || c == '\r' || c == '\t') = false ∧
      c ≠ '"' ∧ c ≠ '[' ∧ c ≠ '\x7b') :
    readValue? (fuel + 1) (ws ++ (word ++ rest)) = some (x, rest) := by
  rcases hhead with ⟨c, more, rfl, hspace, hc⟩
  rw [List.cons_append] at hread ⊢
  rw [readValue?_of_head (skipSpace_append hws hspace (more ++ rest)) hc, hread]
  rfl

/-- A whole number is read as it. -/
theorem readValue?_int (n : Int) (fuel : Nat) {ws rest : List Char} (hws : IsSpace ws)
    (hrest : Stops rest) :
    readValue? (fuel + 1) (ws ++ ((toString n).toList ++ rest)) = some (int n, rest) := by
  have hword := readWord?_toString n rest
  have hnumber := readNumber?_toString n hrest
  rcases exists_toString_cons n with ⟨c, cs, htext, hc⟩
  have hhead : (c == ' ' || c == '\n' || c == '\r' || c == '\t') = false ∧
      c ≠ '"' ∧ c ≠ '[' ∧ c ≠ '\x7b' := by
    rcases hc with hc | ⟨rfl, _⟩
    · have hne : ∀ y : Char, y.isDigit = false → c ≠ y := by
        rintro y hy rfl
        rw [hy] at hc
        cases hc
      simp [hne ' ' rfl, hne '\n' rfl, hne '\r' rfl, hne '\t' rfl, hne '"' rfl, hne '[' rfl,
        hne '\x7b' rfl]
    · decide
  rcases hhead with ⟨hspace, hkind⟩
  rw [htext, List.cons_append] at hword hnumber ⊢
  rw [readValue?_of_head (skipSpace_append hws hspace (cs ++ rest)) hkind, hword, hnumber]
  rfl

/-- A text is read as it. -/
theorem readValue?_string (s : String) (fuel : Nat) {ws rest : List Char} (hws : IsSpace ws)
    (hfuel : (encodeString s).length < fuel + 1) :
    readValue? (fuel + 1) (ws ++ (encodeString s ++ rest)) = some (string s, rest) := by
  have htext : encodeString s ++ rest = '"' :: (s.toList.flatMap escape ++ '"' :: rest) := by
    rw [encodeString, List.cons_append, List.cons_append, List.append_assoc, List.singleton_append]
  have hread := readString?_encodeString s fuel rest hfuel
  rw [htext, readValue?, skipSpace_append hws rfl]
  simp only [hread, Option.bind_eq_bind, Option.bind_some, String.ofList_toList]
  rfl

/-- What starts with a bracket and goes on with an item is read as an array. -/
theorem readValue?_array {fuel : Nat} {ws fill text rest : List Char} {items : List Json}
    (hws : IsSpace ws) (hfill : IsSpace fill) (htext : ∃ c cs, text = c :: cs ∧
      (c == ' ' || c == '\n' || c == '\r' || c == '\t') = false ∧ c ≠ ']')
    (hread : readItems? fuel text = some (items, rest)) :
    readValue? (fuel + 1) (ws ++ '[' :: (fill ++ text)) = some (array items, rest) := by
  rcases htext with ⟨c, cs, rfl, hspace, hc⟩
  rw [readValue?, skipSpace_append hws rfl]
  simp only [skipSpace_append hfill hspace]
  split
  · next heq => exact absurd (List.cons.inj heq).1 hc
  · rw [hread]
    rfl

/-- What starts with a brace and goes on with a field is read as an object. -/
theorem readValue?_object {fuel : Nat} {ws fill text rest : List Char}
    {fields : List (String × Json)} (hws : IsSpace ws) (hfill : IsSpace fill)
    (hkeys : (fields.map (·.1)).Nodup)
    (hread : readFields? fuel ('"' :: text) = some (fields, rest)) :
    readValue? (fuel + 1) (ws ++ '\x7b' :: (fill ++ '"' :: text)) = some (object fields, rest) := by
  rw [readValue?, skipSpace_append hws rfl]
  have hquote : skipSpace (fill ++ '"' :: text) = '"' :: text := skipSpace_append hfill rfl text
  simp only [hquote]
  split
  · next heq => exact absurd (List.cons.inj heq).1 (by decide)
  · rw [hread]
    simp only [Option.bind_eq_bind, Option.bind_some, Ordered.ofPairs_of_nodup fields hkeys]
    rfl

/-- White space is nothing that a number goes on with. -/
theorem Stops.append_space {rest ws : List Char} (h : Stops rest) (hws : IsSpace ws) :
    Stops (ws ++ rest) := by
  cases ws with
  | nil => exact h
  | cons c ws =>
      have hc := hws c List.mem_cons_self
      simp only [Bool.or_eq_true, beq_iff_eq] at hc
      refine Stops.cons ?_ (ws ++ rest)
      rcases hc with ((rfl | rfl) | rfl) | rfl <;> decide

theorem stops_renderItems (indent : Option Nat) (depth : Nat) (xs : List Json) {rest : List Char}
    (h : Stops rest) : Stops (renderItems indent depth xs ++ rest) := by
  cases xs with
  | nil => exact h
  | cons x xs => exact Stops.cons (by decide) _

theorem stops_renderFields (indent : Option Nat) (depth : Nat) (fields : List (String × Json))
    {rest : List Char} (h : Stops rest) : Stops (renderFields indent depth fields ++ rest) := by
  cases fields with
  | nil => exact h
  | cons field fields => exact Stops.cons (by decide) _

theorem isSpace_nil : IsSpace [] := fun _ h => absurd h List.not_mem_nil

theorem isSpace_blank : IsSpace [' '] := by
  intro c hc
  rw [List.mem_singleton.mp hc]
  rfl

/-- A field whose value is read as it, before other fields. -/
theorem readFields?_encodeString (k : String) {fuel : Nat} {ws value after rest : List Char}
    {x : Json} {fields : List (String × Json)} (hws : IsSpace ws)
    (hk : (encodeString k).length < fuel + 1)
    (hfirst : readValue? fuel ([' '] ++ value) = some (x, after))
    (hothers : fieldsTail? fuel after = some (fields, rest)) :
    readFields? (fuel + 1) (ws ++ (encodeString k ++ ':' :: ' ' :: value)) =
      some ((k, x) :: fields, rest) := by
  have htext : encodeString k ++ ':' :: ' ' :: value =
      '"' :: (k.toList.flatMap escape ++ '"' :: ':' :: ([' '] ++ value)) := by
    rw [encodeString, List.cons_append, List.cons_append, List.append_assoc]
    rfl
  have hname := readString?_encodeString k fuel (':' :: ([' '] ++ value)) hk
  have hread := readFields?_succ (skipSpace_append hws rfl _) hname hfirst
  rw [htext, hread, hothers, String.ofList_toList]
  rfl

mutual

/-- What is written of a value is read as the value, where no number goes on with it. -/
theorem readValue?_renderAt (indent : Option Nat) : (x : Json) → x.Plain →
    ∀ (depth fuel : Nat) (ws rest : List Char), IsSpace ws → Stops rest →
      (renderAt indent depth x).length < fuel →
        readValue? fuel (ws ++ (renderAt indent depth x ++ rest)) = some (x, rest)
  | x, hplain, depth, 0, _, _, _, _, hfuel => absurd hfuel (Nat.not_lt_zero _)
  | null, _, _, fuel + 1, _, rest, hws, _, _ =>
      readValue?_word fuel hws (readWord?_null rest) ⟨'n', _, rfl, rfl, by decide⟩
  | bool true, _, _, fuel + 1, _, rest, hws, _, _ =>
      readValue?_word fuel hws (readWord?_true rest) ⟨'t', _, rfl, rfl, by decide⟩
  | bool false, _, _, fuel + 1, _, rest, hws, _, _ =>
      readValue?_word fuel hws (readWord?_false rest) ⟨'f', _, rfl, rfl, by decide⟩
  | int n, _, _, fuel + 1, _, _, hws, hrest, _ => readValue?_int n fuel hws hrest
  | number _, hplain, _, _, _, _, _, _, _ => absurd hplain id
  | string s, _, _, fuel + 1, _, _, hws, _, hfuel => readValue?_string s fuel hws hfuel
  | array [], _, _, fuel + 1, _, rest, hws, _, _ => by
      rw [renderAt, List.cons_append, readValue?, skipSpace_append hws rfl]
      rfl
  | array (x :: xs), hplain, depth, fuel + 1, ws, rest, hws, _, hfuel => by
      simp only [renderAt, List.length_append, List.length_cons, List.length_nil] at hfuel
      cases fuel with
      | zero => omega
      | succ fuel =>
          have hclose : IsSpace (layout indent depth []) :=
            isSpace_layout indent depth isSpace_nil
          have hothers := itemsTail?_renderItems indent xs hplain.2 (depth + 1) fuel _ rest hclose
            (by omega)
          have hstops : Stops (renderItems indent (depth + 1) xs ++
              (layout indent depth [] ++ ']' :: rest)) :=
            stops_renderItems indent _ xs ((Stops.cons (by decide) rest).append_space hclose)
          have hfirst := readValue?_renderAt indent x hplain.1 (depth + 1) fuel [] _ isSpace_nil
            hstops (by omega)
          have hitems := readItems?_succ hfirst
          rw [hothers] at hitems
          have htext : ws ++ (renderAt indent depth (array (x :: xs)) ++ rest) =
              ws ++ '[' :: (layout indent (depth + 1) [] ++ (renderAt indent (depth + 1) x ++
                (renderItems indent (depth + 1) xs ++ (layout indent depth [] ++ ']' :: rest)))) := by
            simp only [renderAt, List.append_assoc, List.cons_append, List.nil_append]
          rcases exists_renderAt_cons indent (depth + 1) hplain.1 with ⟨c, cs, hc, hstart⟩
          rw [htext]
          exact readValue?_array hws
            (isSpace_layout indent _ isSpace_nil)
            ⟨c, _, by rw [hc]; rfl, hstart⟩ hitems
  | object [], _, _, fuel + 1, _, rest, hws, _, _ => by
      rw [renderAt, List.cons_append, readValue?, skipSpace_append hws rfl]
      rfl
  | object ((k, x) :: fields), hplain, depth, fuel + 1, ws, rest, hws, _, hfuel => by
      simp only [renderAt, List.length_append, List.length_cons, List.length_nil] at hfuel
      cases fuel with
      | zero => omega
      | succ fuel =>
          have hclose : IsSpace (layout indent depth []) := isSpace_layout indent depth isSpace_nil
          have hothers := fieldsTail?_renderFields indent fields hplain.2.2 (depth + 1) fuel _ rest
            hclose (by omega)
          have hstops : Stops (renderFields indent (depth + 1) fields ++
              (layout indent depth [] ++ '\x7d' :: rest)) :=
            stops_renderFields indent _ fields ((Stops.cons (by decide) rest).append_space hclose)
          have hfirst := readValue?_renderAt indent x hplain.2.1 (depth + 1) fuel [' '] _
            isSpace_blank hstops (by omega)
          have hfields := readFields?_encodeString k isSpace_nil (by omega) hfirst hothers
          have htext : ws ++ (renderAt indent depth (object ((k, x) :: fields)) ++ rest) =
              ws ++ '\x7b' :: (layout indent (depth + 1) [] ++ (encodeString k ++ ':' :: ' ' ::
                (renderAt indent (depth + 1) x ++ (renderFields indent (depth + 1) fields ++
                  (layout indent depth [] ++ '\x7d' :: rest))))) := by
            simp only [renderAt, List.append_assoc, List.cons_append, List.nil_append]
          rw [htext]
          exact readValue?_object hws (isSpace_layout indent _ isSpace_nil) hplain.1 hfields

/-- What is written of the items after the first is read as these items. -/
theorem itemsTail?_renderItems (indent : Option Nat) : (xs : List Json) → PlainItems xs →
    ∀ (depth fuel : Nat) (ws rest : List Char), IsSpace ws →
      (renderItems indent depth xs).length < fuel →
        itemsTail? fuel (renderItems indent depth xs ++ (ws ++ ']' :: rest)) = some (xs, rest)
  | [], _, _, _, _, rest, hws, _ => by
      rw [renderItems, List.nil_append, itemsTail?, skipSpace_append hws rfl]
      rfl
  | x :: xs, hplain, depth, fuel, ws, rest, hws, hfuel => by
      simp only [renderItems, List.length_append, List.length_cons] at hfuel
      cases fuel with
      | zero => omega
      | succ fuel =>
          have hothers := itemsTail?_renderItems indent xs hplain.2 depth fuel ws rest hws (by omega)
          have hstops : Stops (renderItems indent depth xs ++ (ws ++ ']' :: rest)) :=
            stops_renderItems indent _ xs ((Stops.cons (by decide) rest).append_space hws)
          have hfirst := readValue?_renderAt indent x hplain.1 depth fuel _ _
            (isSpace_layout indent depth isSpace_blank) hstops (by omega)
          have hitems := readItems?_succ hfirst
          rw [hothers] at hitems
          have htext : renderItems indent depth (x :: xs) ++ (ws ++ ']' :: rest) =
              ',' :: (layout indent depth [' '] ++ (renderAt indent depth x ++
                (renderItems indent depth xs ++ (ws ++ ']' :: rest)))) := by
            simp only [renderItems, List.append_assoc, List.cons_append]
          rw [htext]
          exact hitems

/-- What is written of the fields after the first is read as these fields. -/
theorem fieldsTail?_renderFields (indent : Option Nat) : (fields : List (String × Json)) →
    PlainFields fields → ∀ (depth fuel : Nat) (ws rest : List Char), IsSpace ws →
      (renderFields indent depth fields).length < fuel →
        fieldsTail? fuel (renderFields indent depth fields ++ (ws ++ '\x7d' :: rest)) =
          some (fields, rest)
  | [], _, _, _, _, rest, hws, _ => by
      rw [renderFields, List.nil_append, fieldsTail?, skipSpace_append hws rfl]
      rfl
  | (k, x) :: fields, hplain, depth, fuel, ws, rest, hws, hfuel => by
      simp only [renderFields, List.length_append, List.length_cons, List.length_nil] at hfuel
      cases fuel with
      | zero => omega
      | succ fuel =>
          have hothers := fieldsTail?_renderFields indent fields hplain.2 depth fuel ws rest hws
            (by omega)
          have hstops : Stops (renderFields indent depth fields ++ (ws ++ '\x7d' :: rest)) :=
            stops_renderFields indent _ fields ((Stops.cons (by decide) rest).append_space hws)
          have hfirst := readValue?_renderAt indent x hplain.1 depth fuel [' '] _ isSpace_blank
            hstops (by omega)
          have hfields := readFields?_encodeString k (isSpace_layout indent depth isSpace_blank)
            (by omega) hfirst hothers
          have htext : renderFields indent depth ((k, x) :: fields) ++ (ws ++ '\x7d' :: rest) =
              ',' :: (layout indent depth [' '] ++ (encodeString k ++ ':' :: ' ' ::
                (renderAt indent depth x ++ (renderFields indent depth fields ++
                  (ws ++ '\x7d' :: rest))))) := by
            simp only [renderFields, List.append_assoc, List.cons_append, List.nil_append]
          rw [htext]
          exact hfields

end

end Values

/-- What is written of a value is read back as the value, however it is laid out. -/
theorem parse?_render (indent : Option Nat) {x : Json} (h : x.Plain) :
    parse? (x.render indent) = some x := by
  have hread := readValue?_renderAt indent x h 0 ((renderAt indent 0 x).length + 1) [] []
    isSpace_nil (fun _ _ hc => by cases hc) (Nat.lt_succ_self _)
  rw [List.nil_append, List.append_nil] at hread
  rw [parse?, render, String.toList_ofList, hread]
  rfl

end Json

end TokenLint
