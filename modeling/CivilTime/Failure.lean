/-
  CivilTime.Failure — the five ways in which a date, a time of day or a moment can fail to exist.
  A failure is a plain value: it can be kept, compared and shown like any other.
-/

namespace CivilTime

/-- Why a date, a time of day or a moment does not exist. -/
inductive Failure where
  | invalidDate
  | invalidTime
  | invalidDateTime
  | ambiguousDate
  | clockBeforeEpoch
  deriving DecidableEq, Repr

namespace Failure

def message : Failure → String
  | invalidDate => "invalid date"
  | invalidTime => "invalid time"
  | invalidDateTime => "invalid date time"
  | ambiguousDate => "tried to operate over ambiguous date"
  | clockBeforeEpoch => "system time before Unix epoch"

def name : Failure → String
  | invalidDate => "INVALID_DATE"
  | invalidTime => "INVALID_TIME"
  | invalidDateTime => "INVALID_DATETIME"
  | ambiguousDate => "AMBIGUOUS_DATE"
  | clockBeforeEpoch => "SYSTEM_TIME_BEFORE_EPOCH"

def all : List Failure :=
  [invalidDate, invalidTime, invalidDateTime, ambiguousDate, clockBeforeEpoch]

def ofName? (s : String) : Option Failure :=
  all.find? (·.name == s)

/-- Different failures have different names, so a name gives its failure back. -/
theorem ofName?_name (f : Failure) : ofName? f.name = some f := by
  cases f <;> decide

end Failure

end CivilTime
