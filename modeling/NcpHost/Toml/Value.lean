/-! Values of a TOML document. Tables remember how they came to be, because that
decides what may still be added to them. -/
namespace NcpHost.Toml

/-- How a table came to be. -/
inductive Origin where
  /-- Written between braces; complete. -/
  | inline
  /-- Opened by a header of its own. -/
  | header
  /-- On the way to a table that a header opened. -/
  | implied
  /-- On the way to a value that a dotted key names. -/
  | dotted
  deriving DecidableEq, Repr

inductive Value where
  | text (content : String)
  | integer (number : Int)
  /-- A number with a fraction or an exponent; which one is not kept. -/
  | float
  /-- A date, a time or both; which is not kept. -/
  | moment
  | boolean (flag : Bool)
  | array (elements : List Value)
  | table (origin : Origin) (entries : List (String × Value))
  /-- Tables opened by the same double-bracket header, oldest first. -/
  | tables (elements : List (List (String × Value)))

/-- Keys are distinct and stand in the order of their first appearance. -/
abbrev Entries := List (String × Value)

namespace Entries

def get? (entries : Entries) (key : String) : Option Value := entries.lookup key

/-- Replaces the value of a key, or adds the key at the end. -/
def set (entries : Entries) (key : String) (value : Value) : Entries :=
  if (entries.get? key).isSome then
    entries.map fun entry => if entry.1 = key then (key, value) else entry
  else entries ++ [(key, value)]

/-- Gives a dotted key its value. The tables on the way are created; tables that
a header opened or braces closed are not entered, and the value itself goes only
into the table at hand or into one that dotted keys made. -/
def assign (value : Value) : (path : List String) → (mayHold : Bool) → Entries → Option Entries
  | [], _, _ => none
  | [key], mayHold, entries =>
    if mayHold ∧ (entries.get? key).isNone then some (entries.set key value) else none
  | key :: next :: rest, _, entries =>
    match entries.get? key with
    | none =>
      (assign value (next :: rest) true []).map fun inner =>
        entries.set key (.table .dotted inner)
    | some (.table .dotted inner) =>
      (assign value (next :: rest) true inner).map fun inner =>
        entries.set key (.table .dotted inner)
    | some (.table .implied inner) =>
      (assign value (next :: rest) false inner).map fun inner =>
        entries.set key (.table .implied inner)
    | some (.tables elements) =>
      (assign value (next :: rest) false (elements.getLastD [])).map fun last =>
        entries.set key (.tables (elements.dropLast ++ [last]))
    | some _ => none

/-- Changes the value at the end of a header's path. The tables on the way are
created; of an array of tables the last is meant. -/
def update (change : Option Value → Option Value) :
    (path : List String) → Entries → Option Entries
  | [], _ => none
  | [key], entries => (change (entries.get? key)).map (entries.set key)
  | key :: next :: rest, entries =>
    match entries.get? key with
    | none =>
      (update change (next :: rest) []).map fun inner =>
        entries.set key (.table .implied inner)
    | some (.table .inline _) => none
    | some (.table origin inner) =>
      (update change (next :: rest) inner).map fun inner =>
        entries.set key (.table origin inner)
    | some (.tables elements) =>
      (update change (next :: rest) (elements.getLastD [])).map fun last =>
        entries.set key (.tables (elements.dropLast ++ [last]))
    | some _ => none

/-- Assigns in order; fails with the first assignment that fails. -/
def assignAll (entries : Entries) (assignments : List (List String × Value)) : Option Entries :=
  assignments.foldlM (fun state a => assign a.2 a.1 true state) entries

end Entries
end NcpHost.Toml
