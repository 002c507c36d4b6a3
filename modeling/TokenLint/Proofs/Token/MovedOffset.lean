import TokenLint.Proofs.Text.Returns
import TokenLint.Proofs.Token.Offset
import TokenLint.Proofs.Token.Transport

/-!
# Offsets in the Longer Text

A source whose lines end with line feeds alone has a longer form, with a
carriage return in front of each of them. `movedBy` is the map from the
offsets of the one to the offsets of the other. An offset moves by the number
of line feeds before it, so it comes to stand in front of a carriage return
where it stood in front of a line feed, and never between the two.

Rows and columns start afresh on each line and mean the same in both texts, as
long as a column does not reach past the end of its line. `Fits` asks for
that, except on the last line, where all that lies too far to the right is
clamped to the end of the text in both.

## Main definitions

* `movedBy`: The offset in the longer text.
* `Coordinates.Fits`: Coordinates that stay on their line.

## Theorems

* `slice_withReturns`: Slices of the longer text.
* `getElem?_movedBy_newline`: A line feed moves behind its carriage return.
* `getElem?_movedBy_pred`: No offset moves behind a carriage return.
* `Kind.ofGap_withReturns`: A gap has one kind whatever its line endings are.
* `carries_withReturns`: The map keeps what spans depend on.
* `lineStarts_withReturns`: The line starts of the longer text.
* `Coordinates.Fits.offsetOf_withReturns`: Where coordinates move to.
-/

namespace TokenLint

/-- The offset in the text with carriage returns that an offset of a source
    moves to. -/
def movedBy (source : List Char) (offset : Nat) : Nat :=
  (Text.withReturns (source.take offset)).length

section Offsets

variable (source : List Char)

theorem movedBy_zero : movedBy source 0 = 0 := rfl

theorem movedBy_length : movedBy source source.length = (Text.withReturns source).length := by
  rw [movedBy, List.take_length]

theorem movedBy_add {start stop : Nat} (h : start ≤ stop) :
    movedBy source stop =
      movedBy source start + (Text.withReturns (slice source start stop)).length := by
  rw [movedBy, ← take_append_slice source h, Text.withReturns_append, List.length_append, movedBy]

theorem movedBy_mono {start stop : Nat} (h : start ≤ stop) :
    movedBy source start ≤ movedBy source stop := by
  rw [movedBy_add source h]
  exact Nat.le_add_right _ _

/-- A slice of the longer text, between offsets that were moved, is the slice
    of the source with the longer line endings. -/
theorem slice_withReturns {start stop : Nat} (h : start ≤ stop) :
    slice (Text.withReturns source) (movedBy source start) (movedBy source stop) =
      Text.withReturns (slice source start stop) := by
  have hsplit : Text.withReturns source = Text.withReturns (source.take start) ++
      (Text.withReturns (slice source start stop) ++ Text.withReturns (source.drop stop)) := by
    rw [← Text.withReturns_append, ← Text.withReturns_append, ← List.append_assoc,
      take_append_slice source h, List.take_append_drop]
  rw [movedBy_add source h, slice, hsplit, movedBy, List.drop_left, Nat.add_sub_cancel_left,
    List.take_left]

/-- The character at an offset that was moved begins the longer form of the
    character that was there. -/
theorem getElem?_movedBy_newline {offset : Nat} (h : source[offset]? = some '\n') :
    (Text.withReturns source)[movedBy source offset]? = some '\r' := by
  rcases List.getElem?_eq_some_iff.mp h with ⟨hlt, hchar⟩
  have hsplit : Text.withReturns source = Text.withReturns (source.take offset) ++
      '\r' :: '\n' :: Text.withReturns (source.drop (offset + 1)) := by
    rw [← Text.withReturns_newline, ← Text.withReturns_append, ← hchar,
      ← List.drop_eq_getElem_cons hlt, List.take_append_drop]
  rw [hsplit, movedBy, List.getElem?_append_right (Nat.le_refl _), Nat.sub_self]
  rfl

/-- Before an offset that was moved there is no carriage return of the longer
    line endings. -/
theorem getElem?_movedBy_pred (hreturn : '\r' ∉ source) (offset : Nat)
    (hpos : 0 < movedBy source offset) :
    (Text.withReturns source)[movedBy source offset - 1]? ≠ some '\r' := by
  have hsplit : Text.withReturns source = Text.withReturns (source.take offset) ++
      Text.withReturns (source.drop offset) := by
    rw [← Text.withReturns_append, List.take_append_drop]
  have hlast : (Text.withReturns source)[movedBy source offset - 1]? =
      (source.take offset).getLast? := by
    rw [hsplit, movedBy, List.getElem?_append_left (by rw [movedBy] at hpos; omega),
      ← List.getLast?_eq_getElem?, Text.getLast?_withReturns]
  rw [hlast]
  intro h
  exact hreturn (List.mem_of_mem_take (List.mem_of_getLast? h))

end Offsets

theorem allBlank_withReturns (text : List Char) :
    Text.allBlank (Text.withReturns text) = Text.allBlank text := by
  have hall : (Text.withReturns text).all Text.isBlank = text.all Text.isBlank := by
    induction text with
    | nil => rfl
    | cons c text ih =>
        by_cases hc : c = '\n'
        · rw [hc, Text.withReturns_newline]
          simp only [List.all_cons, ih]
          rfl
        · rw [Text.withReturns_cons c text hc, List.all_cons, List.all_cons, ih]
  cases text with
  | nil => rfl
  | cons c text =>
      rw [Text.allBlank, Text.allBlank, hall]
      by_cases hc : c = '\n'
      · rw [hc, Text.withReturns_newline]
        rfl
      · rw [Text.withReturns_cons c text hc]
        rfl

/-- A gap has one kind whatever its line endings are. -/
theorem Kind.ofGap_withReturns (text : List Char) :
    Kind.ofGap (Text.withReturns text) = Kind.ofGap text := by
  have hfilter : (Text.withReturns text).filter (· != '\\') =
      Text.withReturns (text.filter (· != '\\')) := by
    induction text with
    | nil => rfl
    | cons c text ih =>
        by_cases hc : c = '\n'
        · rw [hc, Text.withReturns_newline, List.filter_cons_of_pos (by decide),
            List.filter_cons_of_pos (by decide), List.filter_cons_of_pos (by decide), ih,
            Text.withReturns_newline]
        · rw [Text.withReturns_cons c text hc, List.filter_cons, List.filter_cons, ih]
          split
          · rw [Text.withReturns_cons c _ hc]
          · rfl
  rw [ofGap, ofGap, hfilter, allBlank_withReturns, allBlank_withReturns]

/-- The map between a source and its longer form keeps what spans depend on. -/
theorem carries_withReturns (source : List Char) :
    Carries source (Text.withReturns source) (movedBy source) := by
  refine ⟨fun a b ha hb => ⟨fun h => ?_, fun h => ?_⟩, fun a b h _ => ?_, movedBy_length source⟩
  · by_contra hle
    have hmono := movedBy_mono source (Nat.le_of_not_lt hle)
    omega
  · rw [movedBy_add source (Nat.le_of_lt h), Text.length_withReturns, length_slice source a b hb]
    omega
  · rw [slice_withReturns source (Nat.le_of_lt h), Kind.ofGap_withReturns]

/-- After any text in front, lines of the longer text start where the starts
    of lines move to. -/
theorem startsAfter_withReturns (cs : List Char) : ∀ before : List Char,
    startsAfter (Text.withReturns before).length (Text.withReturns cs) =
      (startsAfter before.length cs).map (movedBy (before ++ cs)) := by
  induction cs with
  | nil =>
      intro before
      rfl
  | cons c cs ih =>
      intro before
      have hnext := ih (before ++ [c])
      rw [List.append_assoc, List.singleton_append, Text.withReturns_append, List.length_append,
        List.length_append, List.length_singleton] at hnext
      by_cases hc : c = '\n'
      · subst hc
        have hhead : movedBy (before ++ '\n' :: cs) (before.length + 1) =
            (Text.withReturns before).length + 2 := by
          rw [movedBy, List.take_length_add_append, Text.withReturns_append, List.length_append]
          rfl
        rw [Text.withReturns_newline, startsAfter, if_neg (by decide), startsAfter, if_pos rfl,
          startsAfter, if_pos rfl, List.map_cons, hhead]
        exact congrArg _ hnext
      · rw [Text.withReturns_cons c [] hc] at hnext
        rw [Text.withReturns_cons c cs hc, startsAfter, if_neg hc, startsAfter, if_neg hc]
        exact hnext

theorem lineStarts_withReturns (source : List Char) :
    lineStarts (Text.withReturns source) = (lineStarts source).map (movedBy source) := by
  rw [lineStarts, lineStarts, List.map_cons, movedBy_zero]
  exact congrArg _ (startsAfter_withReturns source [])

theorem length_lineStarts (source : List Char) :
    (lineStarts source).length = Text.breakCount source + 1 := by
  have hcount : ∀ (cs : List Char) (place : Nat),
      (startsAfter place cs).length = Text.breakCount cs := by
    intro cs
    induction cs with
    | nil =>
        intro place
        rfl
    | cons c cs ih =>
        intro place
        by_cases hc : c = '\n'
        · rw [startsAfter, if_pos hc, List.length_cons, ih, hc, Text.breakCount, Text.breakCount,
            List.count_cons_self]
        · rw [startsAfter, if_neg hc, ih, Text.breakCount, Text.breakCount,
            List.count_cons_of_ne hc]
  rw [lineStarts, List.length_cons, hcount]

namespace Coordinates

/-- Coordinates that lie in a line of a text or directly behind it. On the last
    line, and past it, any column will do. -/
def Fits (source : List Char) (c : Coordinates) : Prop :=
  ∀ line, (Text.lines source)[c.row - 1]? = some line →
    c.column ≤ line.length ∨ c.row = (Text.lines source).length

instance (source : List Char) (c : Coordinates) : Decidable (c.Fits source) :=
  inferInstanceAs (Decidable (∀ line ∈ (Text.lines source)[c.row - 1]?,
    c.column ≤ line.length ∨ c.row = (Text.lines source).length))

theorem fits_zero (source : List Char) (row : Nat) : Fits source ⟨row, 0⟩ :=
  fun _ _ => Or.inl (Nat.zero_le _)

/-- From the start of their line, coordinates that fit pass no line feed. -/
theorem Fits.not_mem_slice {source : List Char} {c : Coordinates} (h : c.Fits source)
    {start : Nat} (hstart : (lineStarts source)[c.row - 1]? = some start) :
    '\n' ∉ slice source start (start + c.column) := by
  have hrow := (List.getElem?_eq_some_iff.mp hstart).1
  rw [length_lineStarts, ← Text.length_lines] at hrow
  have hline := List.getElem?_eq_getElem hrow
  rcases Text.exists_of_line source _ _ hline with
    ⟨before, rest, hsplit, hbefore, hcount, _, hbreak⟩
  rw [hbefore, Option.some.injEq] at hstart
  rw [slice, ← hstart, Nat.add_sub_cancel_left]
  -- The slice is a part of what follows the start, and that is the line and the rest.
  have hdrop : source.drop before.length = (Text.lines source)[c.row - 1] ++ rest := by
    conv_lhs => rw [hsplit]
    rw [List.drop_left]
  rw [hdrop]
  intro hmem
  rcases h _ hline with hcolumn | hlast
  · rw [List.take_append_of_le_length hcolumn] at hmem
    exact hbreak (List.mem_of_mem_take hmem)
  · -- All line feeds of the source are in front of its last line.
    have hall : Text.breakCount source = Text.breakCount before +
        Text.breakCount ((Text.lines source)[c.row - 1] ++ rest) := by
      conv_lhs => rw [hsplit]
      rw [Text.breakCount_append]
    have hpos := Text.breakCount_pos _ (List.mem_of_mem_take hmem)
    rw [Text.length_lines] at hlast
    omega

/-- Coordinates that fit move with the offset that they stand for. -/
theorem Fits.offsetOf_withReturns {source : List Char} {c : Coordinates} (h : c.Fits source) :
    offsetOf (lineStarts (Text.withReturns source)) (Text.withReturns source).length c =
      movedBy source (offsetOf (lineStarts source) source.length c) := by
  rw [offsetOf, offsetOf, lineStarts_withReturns, List.getElem?_map]
  cases hstart : (lineStarts source)[c.row - 1]? with
  | none => exact (movedBy_length source).symm
  | some start =>
      simp only [Option.map_some]
      have hslice := Text.withReturns_of_not_mem _ (h.not_mem_slice hstart)
      have hadd := movedBy_add source (Nat.le_add_right start c.column)
      have hwhole := movedBy_mono source (Nat.min_le_right (start + c.column) source.length)
      rw [hslice, slice, Nat.add_sub_cancel_left, List.length_take, List.length_drop] at hadd
      rw [movedBy_length] at hwhole
      by_cases hle : start + c.column ≤ source.length
      · rw [Nat.min_eq_left hle] at hwhole ⊢
        omega
      · have htake : source.take (start + c.column) = source :=
          List.take_of_length_le (by omega)
        have hend : movedBy source (start + c.column) = (Text.withReturns source).length := by
          rw [movedBy, htake]
        have hmin : min (start + c.column) source.length = source.length := by omega
        rw [hmin, movedBy_length]
        omega

end Coordinates

end TokenLint
