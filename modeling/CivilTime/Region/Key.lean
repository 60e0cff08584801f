/-
  CivilTime.Region.Key — which texts may name a region. A key is a relative path that is already in
  its shortest form and does not leave the place where it starts. Whether a region of that name
  is known is asked last.
-/

namespace CivilTime

inductive KeyFault where
  | absolute (key : String)
  | notNormal (key : String)
  | outside (key : String)
  | unknown (key : String)
  deriving DecidableEq, Repr

def KeyFault.message : KeyFault → String
  | absolute key => s!"ZoneInfo keys may not be absolute paths, got: {key}"
  | notNormal key => s!"ZoneInfo keys must be normalized relative paths, got: {key}"
  | outside key => s!"ZoneInfo keys must refer to subdirectories of TZPATH, got: {key}"
  | unknown key => s!"No time zone found with key {key}"

namespace Key

def segments : List Char → List (List Char)
  | [] => [[]]
  | c :: cs =>
    if c = '/' then [] :: segments cs
    else match segments cs with
      | [] => [[c]]
      | s :: r => (c :: s) :: r

/-- One more part of a path, on top of the parts so far: empty parts and dots stay where they are,
and two dots go back by one part if there is one to leave. -/
def descend (parts : List (List Char)) (s : List Char) : List (List Char) :=
  if s = [] ∨ s = ['.'] then parts
  else if s = ['.', '.'] then
    match parts with
    | top :: rest => if top = ['.', '.'] then s :: parts else rest
    | [] => [s]
  else s :: parts

/-- The shortest form of a relative path; of one that stays where it is, a dot. -/
def normal (path : List Char) : List Char :=
  match ((segments path).foldl descend []).reverse with
  | [] => ['.']
  | parts => (parts.intersperse ['/']).flatten

def check (key : String) : Except KeyFault Unit :=
  let cs := key.toList
  if cs.head? = some '/' then .error (.absolute key)
  else if (normal cs).length ≠ cs.length then .error (.notNormal key)
  else if ¬ ['_', '/'].isPrefixOf (normal ('_' :: '/' :: cs)) then .error (.outside key)
  else .ok ()

end Key

end CivilTime
