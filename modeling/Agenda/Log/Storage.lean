import Agenda.Log.Directory
import Agenda.Text.Utf8

/-!
Starting a log in a directory. The directory is made with all that are missing above it; what stands
in the way is a reason in words. The storage decides, and for the plain one the only thing in the
way is the null device, besides names that no directory can have.
-/

namespace Agenda.Log
open Agenda.Text

/-- Why a log cannot be started in a directory. -/
inductive StartFault where
  | directory (reason : String)
  | backend (reason : String)
  deriving DecidableEq

/-- Tells for each directory what prevents a log in it. -/
abbrev Storage : Type := Directory → Option StartFault

namespace Storage

/-- The places that are files. -/
def files : List (List (List Char)) := [["dev".toList, "null".toList]]

/-- Walks down the parts of a directory; a file on the way is no directory. -/
def obstacle? : (place : List (List Char)) → List (List Char) → Option String
  | place, [] => if place.reverse ∈ files then some "File exists (os error 17)" else none
  | place, part :: rest =>
    if place.reverse ∈ files then some "Not a directory (os error 20)"
    else if 255 < byteLength part then some "File name too long (os error 36)"
    else obstacle? (Directory.enter place part) rest

/-- The storage in which every directory can be made that does not lead through a file. -/
def plain : Storage := fun d =>
  let reason? :=
    if d.text.toList.any fun c => c.toNat = 0 then
      some "file name contained an unexpected NUL byte"
    else obstacle? [] d.parts
  reason?.map .directory

end Storage

end Agenda.Log
