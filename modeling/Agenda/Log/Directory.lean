import Agenda.Text.Blank

/-!
Absolute directories as they are spelled. Two spellings name the same directory if their parts
agree: repeated slashes, a slash at the end and parts that are a single dot do not count. Two dots
do, and they lead one part back where a directory is looked up.
-/

namespace Agenda.Log
open Agenda.Text

/-- An absolute directory in some spelling. -/
structure Directory where
  text : String
  absolute : text.toList.head? = some '/'
  deriving DecidableEq

namespace Directory

/-- The directory with a spelling, if it is an absolute one. -/
def ofText? (text : String) : Option Directory :=
  if absolute : text.toList.head? = some '/' then some { text, absolute } else none

/-- The parts of a spelling between its slashes. -/
def parts (d : Directory) : List (List Char) :=
  (pieces (· == '/') d.text.toList).filter fun part => part != ['.']

/-- Whether two spellings name the same directory part by part. -/
def same (d e : Directory) : Bool := d.parts == e.parts

/-- Goes from a place, given by its parts in reverse, to one of its parts or one part back. -/
def enter (place : List (List Char)) (part : List Char) : List (List Char) :=
  if part = ['.', '.'] then place.drop 1 else part :: place

/-- Where a directory is, as the parts from the root without any dots. -/
def location (d : Directory) : List (List Char) := (d.parts.foldl enter []).reverse

/-- The path of a file in a directory. -/
def file (d : Directory) (name : String) : String :=
  String.ofList (d.location.flatMap fun part => '/' :: part) ++ "/" ++ name

end Directory

end Agenda.Log
