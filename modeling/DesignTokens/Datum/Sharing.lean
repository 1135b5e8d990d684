import DesignTokens.Datum.Basic

/-!
# Sharing

Data that are assembled piece by piece are told by numbers at first, each of which stands for one
datum. A number is only needed for a datum that stands at several places or inside of such a datum;
any other datum is put where its number stands.

## Main Definitions

* `Datum.numbers` — the numbers that occur in a datum
* `Datum.replaced` — a datum with other data in place of its numbers
* `Datum.untangled` — a datum with no more numbers than are needed, and what they stand for
* `Datum.repeatedNumbers` — the numbers of what stands at several places of a datum

## Design Notes

What stands inside of a datum with a number has a number as well, because a copy of the datum that
is made later shares it.
-/

namespace DesignTokens

namespace Datum

mutual

/-- The numbers that occur in a datum, in order. -/
def numbers : Datum → List Nat
  | shared number => [number]
  | list items => numbersOfItems items
  | pair a b => numbers a ++ numbers b
  | mapping entries => numbersOfEntries entries
  | _ => []

/-- The numbers that occur in the items of a list. -/
def numbersOfItems : List Datum → List Nat
  | [] => []
  | item :: rest => numbers item ++ numbersOfItems rest

/-- The numbers that occur in the entries of a mapping. -/
def numbersOfEntries : List (Datum × Datum) → List Nat
  | [] => []
  | (key, value) :: rest => numbers key ++ numbers value ++ numbersOfEntries rest

end

mutual

/-- A datum with other data in place of its numbers. -/
def replaced (meaning : Nat → Datum) : Datum → Datum
  | shared number => meaning number
  | list items => list (replacedItems meaning items)
  | pair a b => pair (replaced meaning a) (replaced meaning b)
  | mapping entries => mapping (replacedEntries meaning entries)
  | other => other

/-- The items of a list with other data in place of their numbers. -/
def replacedItems (meaning : Nat → Datum) : List Datum → List Datum
  | [] => []
  | item :: rest => replaced meaning item :: replacedItems meaning rest

/-- The entries of a mapping with other data in place of their numbers. -/
def replacedEntries (meaning : Nat → Datum) : List (Datum × Datum) → List (Datum × Datum)
  | [] => []
  | (key, value) :: rest =>
    (replaced meaning key, replaced meaning value) :: replacedEntries meaning rest

end

/-- How often each number is come across when what it stands for is looked into the first time. The
first argument bounds the steps. -/
def countNumbers (meaning : Array Datum) : Nat → List Nat → Array Nat → Array Nat
  | 0, _, counts => counts
  | _, [], counts => counts
  | steps + 1, number :: rest, counts =>
    let inside := if counts.getD number 0 = 0 then (meaning.getD number null).numbers else []
    countNumbers meaning steps (inside ++ rest) (counts.modify number (· + 1))

/-- The numbers that are needed for a datum: those that are come across more than once, and those
that occur inside of what such numbers stand for. -/
def neededNumbers (meaning : Array Datum) (datum : Datum) : List Nat :=
  let steps := meaning.foldl (fun n d => n + d.numbers.length) (datum.numbers.length + 1)
  let none := meaning.map fun _ => 0
  let counts := countNumbers meaning steps datum.numbers none
  let repeated := (List.range meaning.size).filter fun n => decide (1 < counts.getD n 0)
  let inside := countNumbers meaning (2 * steps)
    (repeated.flatMap fun n => (meaning.getD n null).numbers) none
  (List.range meaning.size).filter fun n =>
    decide (1 < counts.getD n 0) || decide (0 < inside.getD n 0)

/-- What stands for a number when only some numbers are kept. The first argument bounds the
depth. -/
def meaningOf (meaning : Array Datum) (kept : Nat → Bool) : Nat → Nat → Datum
  | 0, number => shared number
  | depth + 1, number =>
    if kept number then shared number
    else (meaning.getD number null).replaced (meaningOf meaning kept depth)

/-- A datum with no more numbers than are needed, and what they stand for. -/
def untangled (meaning : Array Datum) (datum : Datum) : Datum × SharedData :=
  let needed := neededNumbers meaning datum
  let put := meaningOf meaning needed.contains (meaning.size + 1)
  (datum.replaced put,
   needed.map fun number => (number, (meaning.getD number null).replaced put))

/-- The numbers that are come across again, in the order in which that happens, after those that
were seen before. The first argument bounds the steps. -/
def numbersAgain (sharing : SharedData) : Nat → List Nat → List Nat → List Nat → List Nat
  | 0, _, _, again => again
  | _, [], _, again => again
  | steps + 1, number :: rest, seen, again =>
    if seen.contains number then
      numbersAgain sharing steps rest seen
        (if again.contains number then again else again ++ [number])
    else
      numbersAgain sharing steps (((shared number).opened sharing).numbers ++ rest)
        (number :: seen) again

/-- The numbers that are come across more than once in a datum, in the order of the second time. -/
def repeatedNumbers (sharing : SharedData) (datum : Datum) : List Nat :=
  let steps := sharing.foldl (fun n e => n + e.2.numbers.length) (datum.numbers.length + 1)
  numbersAgain sharing steps datum.numbers [] []

end Datum

end DesignTokens
