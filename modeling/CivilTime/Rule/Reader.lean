/-
  CivilTime.Rule.Reader — reading a rule from its compact text, such as
  `CET-1CEST,M3.5.0,M10.5.0/3`: the name of standard time and how far it is behind UTC; then, if
  there is daylight saving time, its name, its offset (an hour ahead if left out) and the dates on
  which it starts and stops, each with a time of day (two o'clock if left out).

  A reader takes what it can from the front of a text and hands on the rest.
-/

import CivilTime.Rule.Basic

namespace CivilTime

namespace Rule

abbrev Reader (α : Type) := List Char → Option (α × List Char)

/-- A name: letters, or anything else between angle brackets. -/
def name : Reader String
  | '<' :: cs => some (String.ofList (cs.takeWhile (· != '>')), (cs.dropWhile (· != '>')).drop 1)
  | cs =>
    let letters := cs.takeWhile Char.isAlpha
    if letters.isEmpty then none else some (String.ofList letters, cs.dropWhile Char.isAlpha)

def natural : Reader Int := fun cs =>
  let digits := cs.takeWhile Char.isDigit
  if digits.isEmpty then none
  else some (digits.foldl (fun (n : Int) c => 10 * n + (c.toNat - 48 : Nat)) 0, cs.dropWhile Char.isDigit)

/-- A mark and a number after it, or nothing, which stands for zero. -/
def natural? (mark : Char) : Reader Int := fun cs =>
  match cs with
  | [] => some (0, [])
  | c :: r => if c = mark then natural r else some (0, cs)

def span : Reader Int := fun cs => do
  let (h, cs) ← natural cs
  let (m, cs) ← natural? ':' cs
  let (s, cs) ← natural? ':' cs
  return (h * 3600 + m * 60 + s, cs)

def signedSpan : Reader Int
  | '-' :: cs => (span cs).map fun r => (-r.1, r.2)
  | '+' :: cs => span cs
  | cs => span cs

def ruleDay : Reader RuleDay
  | 'M' :: cs => do
    let (m, cs) ← natural cs
    let (w, cs) ← natural? '.' cs
    let (d, cs) ← natural? '.' cs
    return (.weekdayOfMonth m w d, cs)
  | 'J' :: cs => (natural cs).map fun r => (.withoutLeapDay r.1, r.2)
  | cs => (natural cs).map fun r => (.withLeapDay r.1, r.2)

/-- The day of a change and its time of day, after a comma. -/
def ruleDate : Reader RuleDate
  | ',' :: cs => do
    let (day, cs) ← ruleDay cs
    match cs with
    | '/' :: cs => (signedSpan cs).map fun r => (⟨day, r.1⟩, r.2)
    | cs => return (⟨day, 7200⟩, cs)
  | _ => none

def daylight (standard : Int) : Reader Daylight := fun cs => do
  let (name, cs) ← name cs
  let (offset, cs) ←
    match cs with
    | ',' :: _ => some (standard + 3600, cs)
    | _ => (signedSpan cs).map fun r => (-r.1, r.2)
  let (start, cs) ← ruleDate cs
  let (stop, cs) ← ruleDate cs
  return (⟨name, offset, start, stop⟩, cs)

end Rule

/-- The rule that a text describes, if it describes one and nothing follows. -/
def ZoneRule.ofText? (s : String) : Option ZoneRule := do
  let (name, cs) ← Rule.name s.toList
  let (behind, cs) ← Rule.signedSpan cs
  match cs with
  | [] => return ⟨name, -behind, none⟩
  | cs =>
    let (d, cs) ← Rule.daylight (-behind) cs
    if cs.isEmpty then return ⟨name, -behind, some d⟩ else none

end CivilTime
