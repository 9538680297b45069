import Agenda.Calendar.Weekday
import Agenda.Text.Blank
import Agenda.Text.Caseless
import Agenda.Text.Utf8
import Agenda.Text.WordChar

/-!
The title of a draft: what is left of a command without its time and its date words. Three kinds of
words go, one kind after the other: day words, weekday names, and the prepositions `at` and `on`
where they stand alone. What is left has single spaces between its words; if nothing is left there
is a default title.
-/

namespace Agenda.Command
open Agenda.Calendar Agenda.Text

namespace Title

/-- The title where a command leaves none. -/
def fallback : String := "New Task"

/-- The day words that are no part of a title. -/
def dayWords : List (List Char) := ["tomorrow".toList, "today".toList, "next week".toList]

/-- The weekday names, which are no part of a title. -/
def weekdayNames : List (List Char) := Weekday.all.map fun day => day.name.toList

/--
Removes words from a text, from left to right, in any letter case and inside longer words as well;
`skip` characters belong to a word that is being removed.
-/
def dropWords (words : List (List Char)) : (skip : Nat) → List Char → List Char
  | _, [] => []
  | skip + 1, _ :: cs => dropWords words skip cs
  | 0, c :: cs =>
    match words.find? fun word => beginsWith word (c :: cs) with
    | some word => dropWords words (word.length - 1) cs
    | none => c :: dropWords words 0 cs

/-- Whether a text begins with `at` or `on` as the end of a word. -/
def beginsWithPreposition (cs : List Char) : Bool :=
  (beginsWith ['a', 't'] cs || beginsWith ['o', 'n'] cs) && endsWord (cs.drop 2)

/--
Removes `at` and `on` where no word character stands directly before or after; `inWord` after a word
character, and `skip` characters belong to a preposition that is being removed.
-/
def dropPrepositions : (skip : Nat) → (inWord : Bool) → List Char → List Char
  | _, _, [] => []
  | skip + 1, _, c :: cs => dropPrepositions skip (isWordChar c) cs
  | 0, inWord, c :: cs =>
    if !inWord && beginsWithPreposition (c :: cs) then dropPrepositions 1 (isWordChar c) cs
    else c :: dropPrepositions 0 (isWordChar c) cs

/-- A text without day words, weekday names and prepositions. -/
def strip (text : List Char) : List Char :=
  dropPrepositions 0 false (dropWords weekdayNames 0 (dropWords dayWords 0 text))

/-- The title that a command without its time leaves. -/
def ofRest (rest : List Char) : String :=
  match unwords (words (strip rest)) with
  | [] => fallback
  | title => String.ofList title

/--
The title of a text without the part between two byte offsets; where the first is the larger one,
the part between them counts twice. None if an offset is not a place between two characters.
-/
def cut? (text : List Char) (first last : Nat) : Option String := do
  let (before, _) ← splitAtByte? first text
  let (_, after) ← splitAtByte? last text
  some (ofRest (before ++ after))

end Title

end Agenda.Command
