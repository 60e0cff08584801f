/-
  CivilTime.Traced — results that come with notes of what was observed on the way.

  A note is made when the system's clock is read, when a local reading turns out to be skipped or
  ambiguous, and when a zone defined outside the library is asked for something. Notes made before
  a fault are kept.
-/

import CivilTime.Fault

namespace CivilTime

inductive Irregularity where
  | skipped
  | ambiguous
  deriving DecidableEq, Repr

inductive Resolver where
  | localDate
  | localDateTime
  | utcDate
  | utcDateTime
  deriving DecidableEq, Repr

inductive Question where
  | localDate (d : CivilDate)
  | localDateTime (x : CivilDateTime)
  | utcDate (d : CivilDate)
  | utcDateTime (x : CivilDateTime)
  /-- What is the offset of something, with this text, that is no date or no reading? -/
  | unfit (r : Resolver) (text : String)
  /-- Which zone is it that has the offset with this text? -/
  | ofOffset (text : String)
  deriving DecidableEq

inductive Note where
  | clockRead (nanos : Int)
  /-- An irregular local reading, in the region with a key or in the system's zone. -/
  | irregular (x : CivilDateTime) (how : Irregularity) (region : Option String)
  | asked (q : Question)
  deriving DecidableEq

def Irregularity.text : Irregularity → String
  | skipped => "skipped"
  | ambiguous => "ambiguous"

def Resolver.name : Resolver → String
  | localDate => "offset_from_local_date"
  | localDateTime => "offset_from_local_datetime"
  | utcDate => "offset_from_utc_date"
  | utcDateTime => "offset_from_utc_datetime"

def Question.text : Question → String
  | localDate d => s!"{Resolver.localDate.name} {d.text}"
  | localDateTime x => s!"{Resolver.localDateTime.name} {x.text}"
  | utcDate d => s!"{Resolver.utcDate.name} {d.text}"
  | utcDateTime x => s!"{Resolver.utcDateTime.name} {x.text}"
  | unfit r text => s!"{r.name} {text}"
  | ofOffset text => s!"from_offset {text}"

def Note.text : Note → String
  | clockRead nanos => s!"Read system clock: {nanos} ns since epoch"
  | irregular x how none => s!"{x.text} is {how.text} in the system timezone"
  | irregular x how (some key) => s!"{x.text} is {how.text} in timezone {key}"
  | asked q => q.text

theorem except_bind_eq_ok {ε α β : Type} {e : Except ε α} {f : α → Except ε β} {b : β} :
    (e >>= f) = .ok b ↔ ∃ a, e = .ok a ∧ f a = .ok b := by
  cases e with
  | error e => exact ⟨fun h => (by cases h), fun ⟨a, h, _⟩ => (by cases h)⟩
  | ok a => exact ⟨fun h => ⟨a, rfl, h⟩, fun ⟨a', h, h'⟩ => (by cases h; exact h')⟩

/-- A result or a fault, and the notes made until then. -/
structure Traced (α : Type) where
  notes : List Note
  result : Except Fault α

namespace Traced

def ok {α : Type} (a : α) : Traced α := ⟨[], .ok a⟩

def fault {α : Type} (f : Fault) : Traced α := ⟨[], .error f⟩

def fail {α : Type} (f : Failure) : Traced α := fault (.failure f)

def note (n : Note) : Traced Unit := ⟨[n], .ok ()⟩

/-- One step after another. A fault in the first keeps its notes and ends both. -/
def andThen {α β : Type} (m : Traced α) (f : α → Traced β) : Traced β :=
  match m.result with
  | .ok a => ⟨m.notes ++ (f a).notes, (f a).result⟩
  | .error e => ⟨m.notes, .error e⟩

instance : Monad Traced where
  pure := ok
  bind := andThen

/-- A result without notes, with its errors taken for faults. -/
def lift {ε α : Type} (asFault : ε → Fault) : Except ε α → Traced α
  | .ok a => ok a
  | .error e => fault (asFault e)

def of {α : Type} : Except Failure α → Traced α := lift .failure

theorem ext {α : Type} {m n : Traced α} (hn : m.notes = n.notes) (hr : m.result = n.result) : m = n := by
  cases m; cases n; simp_all

@[simp] theorem pure_notes {α : Type} (a : α) : (pure a : Traced α).notes = [] := rfl

@[simp] theorem pure_result {α : Type} (a : α) : (pure a : Traced α).result = .ok a := rfl

theorem bind_of_ok {α β : Type} {m : Traced α} {f : α → Traced β} {a : α} (h : m.result = .ok a) :
    m >>= f = ⟨m.notes ++ (f a).notes, (f a).result⟩ := by
  simp [bind, andThen, h]

theorem bind_of_error {α β : Type} {m : Traced α} {f : α → Traced β} {e : Fault}
    (h : m.result = .error e) : m >>= f = ⟨m.notes, .error e⟩ := by
  simp [bind, andThen, h]

theorem result_bind_of_ok {α β : Type} {m : Traced α} {f : α → Traced β} {a : α} (h : m.result = .ok a) :
    (m >>= f).result = (f a).result := by
  rw [bind_of_ok h]

theorem result_bind_of_error {α β : Type} {m : Traced α} {f : α → Traced β} {e : Fault}
    (h : m.result = .error e) : (m >>= f).result = .error e := by
  rw [bind_of_error h]

/-- Steps taken one after another succeed when each of them does. -/
theorem result_bind_eq_ok {α β : Type} {m : Traced α} {f : α → Traced β} {b : β} :
    (m >>= f).result = .ok b ↔ ∃ a, m.result = .ok a ∧ (f a).result = .ok b := by
  cases h : m.result with
  | ok a => simp [result_bind_of_ok h]
  | error e => simp [bind_of_error h]

/-- A second step that makes no notes leaves those of the first. -/
theorem notes_bind {α β : Type} {m : Traced α} {f : α → Traced β} (silent : ∀ a, (f a).notes = []) :
    (m >>= f).notes = m.notes := by
  cases h : m.result with
  | error e => rw [bind_of_error h]
  | ok a => rw [bind_of_ok h, silent, List.append_nil]

theorem result_bind_pure {α β : Type} (m : Traced α) (f : α → β) : (do return f (← m)).result = m.result.map f := by
  cases h : m.result with
  | error e => rw [result_bind_of_error h]; rfl
  | ok a => rw [result_bind_of_ok h]; rfl

@[simp] theorem note_result (n : Note) : (note n).result = .ok () := rfl

@[simp] theorem fault_result {α : Type} (f : Fault) : (fault f : Traced α).result = .error f := rfl

@[simp] theorem fail_result {α : Type} (f : Failure) : (fail f : Traced α).result = .error (.failure f) := rfl

theorem lift_ok {ε α : Type} {asFault : ε → Fault} {a : α} : lift asFault (.ok a : Except ε α) = pure a := rfl

@[simp] theorem lift_result_eq_ok {ε α : Type} {asFault : ε → Fault} {e : Except ε α} {a : α} :
    (lift asFault e).result = .ok a ↔ e = .ok a := by
  cases e <;> simp [lift, ok, fault]

@[simp] theorem of_result_eq_ok {α : Type} {e : Except Failure α} {a : α} :
    (of e).result = .ok a ↔ e = .ok a := lift_result_eq_ok

theorem of_notes {α : Type} (e : Except Failure α) : (of e).notes = [] := by
  cases e <;> rfl

instance : LawfulMonad Traced := LawfulMonad.mk' Traced
  (fun m => by
    cases h : m.result with
    | ok a => simp only [Functor.map, andThen, h]; exact ext (List.append_nil _) h.symm
    | error e => simp only [Functor.map, andThen, h]; exact ext rfl h.symm)
  (fun _ _ => rfl)
  (fun m f g => by
    cases h : m.result with
    | error e => simp only [bind, andThen, h]
    | ok a =>
      cases k : (f a).result with
      | error e => simp only [bind, andThen, h, k]
      | ok b => simp only [bind, andThen, h, k, List.append_assoc])

end Traced

end CivilTime
