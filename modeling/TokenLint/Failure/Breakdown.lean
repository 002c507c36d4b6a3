import TokenLint.Failure.Basic
import TokenLint.FileTree

/-!
# Breakdowns

What can end an operation: a failure that the program reports by a code, or something that it does not
report and that ends it altogether.

## Main definitions

* `ValueUse`: What a value is used as.
* `Breakdown`: What can end an operation.
* `Breakdown.message`: How it reads.
-/

namespace TokenLint

/-- What a value is used as. -/
inductive ValueUse where
  /-- It is looked up as a path. -/
  | path
  /-- It is read as a word. -/
  | word
  /-- It is compared as a number. -/
  | number
deriving DecidableEq, Repr

/-- How the use of an empty list as a value reads. -/
def ValueUse.complaint : ValueUse → String
  | path => "'list' object has no attribute 'is_file'"
  | word => "'list' object has no attribute 'strip'"
  | number => "'<' not supported between instances of 'list' and 'int'"

/-- What can end an operation. -/
inductive Breakdown where
  /-- A failure with a code. -/
  | failure (f : Failure)
  /-- Bytes that are no text. -/
  | encoding (f : Utf8.Fault)
  /-- A value that is not of the kind that is needed. -/
  | conversion (f : ConversionFault)
  /-- A path that cannot be looked at. -/
  | file (path : Path) (fault : FileFault)
  /-- A word that is not in its vocabulary. -/
  | unknownWord (complaint : String)
  /-- An option without a value where one is used. -/
  | valueless (use : ValueUse)
  /-- Values that are nested too deep to be read. -/
  | tooDeep
deriving Repr

/-- How a breakdown reads. -/
def Breakdown.message (w : Wording) : Breakdown → String
  | failure f => f.message w
  | encoding f => f.message
  | conversion f => f.message
  | file path fault => fault.message path
  | unknownWord complaint => complaint
  | valueless use => use.complaint
  | tooDeep => "maximum recursion depth exceeded"

/-- The breakdown for a source that has no token stream. -/
def TokenizeFault.breakdown : TokenizeFault → Breakdown
  | rejected r => .failure (.tokenizing r)
  | badLine f => .conversion f

end TokenLint
