/-
  CivilTime.Program.Making — what each maker makes. A number of arguments, or arguments of kinds,
  that a maker is not for are not supported.
-/

import CivilTime.Program.Operation
import CivilTime.Value.Order

namespace CivilTime

/-- The numbers among which every argument counts, if they all count as numbers. -/
def numbers? (args : List Value) : Option (List Int) := args.mapM Value.number?

def weekdayNumber? (name : String) : Option Int :=
  (["MONDAY", "TUESDAY", "WEDNESDAY", "THURSDAY", "FRIDAY", "SATURDAY", "SUNDAY"].idxOf? name).map
    fun (i : Nat) => (i : Int) + 1

namespace Maker

def offset (s : Int) : Traced Value :=
  match Offset.ofSeconds? s with
  | some o => return .zone (.fixed o)
  | none => .fault (.offsetOutOfBounds s)

def offsetOrNone (s : Int) : Value := .ofOption (fun o => .zone (.fixed o)) (Offset.ofSeconds? s)

def ofNumbers (m : Maker) (w : World) (args : List Int) : Traced Value :=
  match m, args with
  | east, [s] => offset s
  | west, [s] => offset (-s)
  | eastOrNone, [s] => return offsetOrNone s
  | westOrNone, [s] => return offsetOrNone (-s)
  | date, [y, m, d] => return .date (← .of (CivilDate.ofYmd y m d))
  | dateOfOrdinal, [y, k] => return .date (← .of (CivilDate.ofOrdinal y k))
  | dateOfWeek, [y, week, d] => return .date (← .of (CivilDate.ofWeek y week d))
  | dateOfPlain, [y, m, d] => return .date (← .lift .field (CivilDate.ofFields y m d))
  | timeOfHms, [h, m, s] => return .clockTime (← .of (ClockTime.ofHms h m s))
  | timeOfHmsMilli, [h, m, s, x] => return .clockTime (← .of (ClockTime.ofHmsMilli h m s x))
  | timeOfHmsMicro, [h, m, s, x] => return .clockTime (← .of (ClockTime.ofHmsMicro h m s x))
  | timeOfHmsNano, [h, m, s, x] => return .clockTime (← .of (ClockTime.ofHmsNano h m s x))
  | time, args =>
    match args ++ List.replicate (4 - args.length) 0 with
    | [h, m, s, x] => return .clockTime (← .of (ClockTime.ofHmsNano h m s x))
    | _ => .fault .unsupported
  | dateTime, y :: mo :: d :: rest =>
    match rest ++ List.replicate (4 - rest.length) 0 with
    | [h, mi, s, x] => return .dateTime (← .of (CivilDateTime.ofFields y mo d h mi s x))
    | _ => .fault .unsupported
  | dateTimeOfTimestamp, [s] => return .dateTime (← .of (CivilDateTime.ofTimestamp s 0))
  | dateTimeOfTimestamp, [s, n] => return .dateTime (← .of (CivilDateTime.ofTimestamp s n))
  | dateTimeOfPlain, [y, mo, d, h, mi, s, us] =>
    return .dateTime (← .lift .field (MicroDateTime.ofFields y mo d h mi s us)).toCivil
  | utcNow, [n] => return .moment (← Zone.now w n)
  | utcToday, [n] => return .zonedDate (← .of (← Zone.now w n).date)
  | systemNow, [n] => return .moment (← (← Zone.now w n).inZone w .system)
  | systemToday, [n] => return .zonedDate (← .of (← (← Zone.now w n).inZone w .system).date)
  | _, _ => .fault .unsupported

/-- Makes a value of arguments that all count as numbers. -/
def ofCounts (m : Maker) (w : World) (args : List Value) : Traced Value :=
  match numbers? args with
  | some ns => m.ofNumbers w ns
  | none => .fault .unsupported

def make (m : Maker) (w : World) (args : List Value) : Traced Value :=
  match m, args with
  | utc, [] => return .zone .utc
  | system, [] => return .zone .system
  | region, [.text key] => return .zone (.region (← .lift .key (w.region key)))
  | regionOffset, [.zone (.fixed o), .text key] => return .regionOffset ⟨o, key, none⟩
  | regionOffset, [.zone (.fixed o), .text key, .null] => return .regionOffset ⟨o, key, none⟩
  | regionOffset, [.zone (.fixed o), .text key, .text a] => return .regionOffset ⟨o, key, some a⟩
  | weekday, [.text name] =>
    match weekdayNumber? name with
    | some n => return .int n
    | none => .fault .unsupported
  | dateTimeOfPlain, [y, mo, d, h, mi, s, us, .text _] => do
    let _ ← dateTimeOfPlain.ofCounts w [y, mo, d, h, mi, s, us]
    .fault .alreadyZoned
  | single, [v] => return .single v
  | ambiguous, [a, b] => return .ambiguous a b
  | failureKind, [.text name] =>
    match Failure.ofName? name with
    | some f => return .failureKind f
    | none => .fault (.noSuchName name)
  | failure, _ => .fault .notConstructible
  | distinct, vs =>
    if vs.all Value.isHashable then return .int (Value.distinct vs).length else .fault .notHashable
  | sorted, vs => return .list (← .lift id (Value.sorted vs))
  | m, args => m.ofCounts w args

end Maker

end CivilTime
