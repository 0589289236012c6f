import Stencil.Regex.Interval
import Stencil.Text.Bytes

/-!
How much room the machines for an expression take.  There are two: one reads a text forward and
records groups, the other reads it backward and does not.  Both read the bytes of UTF-8, and every
copy of a part counts.  An expression is accepted only if each of its machines has room.

A machine reads a character class as sequences of ranges of bytes.  Sequences that start alike share
the states for what is alike; forward, those that end alike do so too.
-/

namespace Stencil.Regex
open Text

/-- The direction in which a machine reads a text. -/
inductive Direction where
  | forward
  | backward
  deriving DecidableEq, Repr

/-- The room of a state. -/
def stateRoom : Nat := 32

/-- The room of one way out of a state that has several. -/
def branchRoom : Nat := 4

/-- The room of one range of bytes in a state that has several. -/
def rangeRoom : Nat := 8

/-- A place on the ways of some sequences, given by the sequences that go on from it. -/
abbrev Place := List (List ByteRange)

/-- The ways out of a place: each range, with the place after it. -/
def Place.ways : Place → List (ByteRange × Place)
  | [] => []
  | [] :: rest => Place.ways rest
  | (range :: tail) :: rest =>
    match Place.ways rest with
    | [] => [(range, [tail])]
    | (next, tails) :: others =>
      if range = next then (range, tail :: tails) :: others
      else (range, [tail]) :: (next, tails) :: others

/-- The places from `here` on, before the ends of the sequences, which have at most `length`
ranges. -/
def placesFrom : Nat → Place → List Place
  | 0, _ => []
  | length + 1, here =>
    if here.all (·.isEmpty) then []
    else here :: here.ways.flatMap fun (_, after) => placesFrom length after

/-- The order of ranges: by their first bytes, then by their last. -/
def rangeOrder (a b : ByteRange) : Ordering := (compare a.1 b.1).then (compare a.2 b.2)

/-- Some places, those from which the sequences go on alike only once. -/
def distinctPlaces (places : List Place) : List Place :=
  let order : Place → Place → Ordering := List.compareLex (List.compareLex rangeOrder)
  (places.mergeSort fun a b => (order a b).isLE).eraseReps

/-- The number of ways out of some places. -/
def wayCount (places : List Place) : Nat :=
  places.foldl (fun count place => count + place.ways.length) 0

/-- The room of a class, given by its intervals. -/
def classRoom (direction : Direction) (intervals : List (Nat × Nat)) : Nat :=
  let isAscii := intervals.all (·.2 < 0x80)
  let sequences := intervals.flatMap encodings
  match intervals with
  | [] => stateRoom
  | [(low, high)] =>
    if low = high then stateRoom * (Char.ofNat low).utf8Size
    else if isAscii then 2 * stateRoom
    else several sequences
  | _ => if isAscii then 2 * stateRoom + rangeRoom * intervals.length else several sequences
where
  /-- The room of a class that takes several states. Forward, places from which the sequences go on
  alike are one; backward, every way is a state. -/
  several (sequences : Place) : Nat :=
    let all := placesFrom 4 sequences
    match direction with
    | .forward =>
      let apart := distinctPlaces all
      stateRoom * (1 + apart.length) + rangeRoom * wayCount apart
    | .backward => stateRoom * (2 + wayCount all) + branchRoom * sequences.length

/-- The sets of alternatives that are all characters, or all classes. Such alternatives are one
class. -/
def branchSets? : Regex → Option (List CharSet)
  | .char s => some [s]
  | .either a b => do
    let left ← branchSets? a
    let right ← branchSets? b
    let all := left ++ right
    if all.all (·.isSingle) || all.all (!·.isSingle) then some all else none
  | _ => none

mutual

/-- The room of the machine for an expression. -/
def room (direction : Direction) : Regex → Nat
  | .empty | .assertion _ => stateRoom
  | .char s => classRoom direction s.intervals
  | .concat a b => partRoom direction a + partRoom direction b
  | .either a b =>
    match branchSets? (.either a b) with
    | some sets => classRoom direction (CharSet.unionAll sets).intervals
    | none => 2 * stateRoom + branchesRoom direction a + branchesRoom direction b
  | .repeated r low high =>
    let one := room direction r
    let loop := stateRoom + 2 * branchRoom
    match low, high with
    | 0, some 1 => loop + one + stateRoom
    | 0, none => if r.mayBeEmpty then 2 * loop + one + stateRoom else loop + one
    | low, none => low * one + loop
    | 0, some high => 2 * stateRoom + high * (loop + one)
    | low, some high =>
      if low = high then low * one else low * one + stateRoom + (high - low) * (loop + one)
  | .group r =>
    match direction with
    | .forward => 2 * stateRoom + room direction r
    | .backward => room direction r

/-- The room of a part of a sequence. Nothing is left of an empty part. -/
def partRoom (direction : Direction) : Regex → Nat
  | .empty => 0
  | r => room direction r

/-- The room of alternatives. -/
def branchesRoom (direction : Direction) : Regex → Nat
  | .either a b => branchesRoom direction a + branchesRoom direction b
  | r => branchRoom + room direction r

end

/-- Every match starts at the start of the text. -/
def startsAtStart : Regex → Bool
  | .assertion .textStart => true
  | .empty | .assertion _ | .char _ => false
  | .concat a b => a.startsAtStart || (a.isEmpty && b.startsAtStart)
  | .either a b => a.startsAtStart && b.startsAtStart
  | .repeated r low _ => low != 0 && r.startsAtStart
  | .group r => r.startsAtStart

/-- Every match ends at the end of the text. -/
def endsAtEnd : Regex → Bool
  | .assertion .textEnd => true
  | .empty | .assertion _ | .char _ => false
  | .concat a b => b.endsAtEnd || (b.isEmpty && a.endsAtEnd)
  | .either a b => a.endsAtEnd && b.endsAtEnd
  | .repeated r low _ => low != 0 && r.endsAtEnd
  | .group r => r.endsAtEnd

/-- The room of the part of a machine that finds the place to start from. -/
def searchRoom (fixed : Bool) : Nat :=
  if fixed then stateRoom else 3 * stateRoom + 2 * branchRoom

/-- The room of the whole machine. Forward, the whole match is recorded like a group. -/
def machineRoom (direction : Direction) (r : Regex) : Nat :=
  match direction with
  | .forward => searchRoom r.startsAtStart + 3 * stateRoom + r.room direction
  | .backward => searchRoom r.endsAtEnd + stateRoom + r.room direction

/-- The room that there is for a machine. -/
def maxRoom : Nat := 10485760

/-- There is room for both machines. -/
def fits (r : Regex) : Bool :=
  r.machineRoom .forward ≤ maxRoom && r.machineRoom .backward ≤ maxRoom

end Stencil.Regex
