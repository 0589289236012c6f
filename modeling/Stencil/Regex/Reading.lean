import Stencil.Number.Power
import Stencil.Regex.Bracket
import Stencil.Regex.Size
import Stencil.Text.Alphabet

/-!
Reading a regular expression.  The flags in force decide what a character stands for, so they are
followed from left to right; a group gives back the flags that held before it.  Conditions on what
stands further left or right are refused.  So is an expression whose parts lie too deep within each
other, or one that is too large.
-/

namespace Stencil.Regex
open Text

/-! ## Groups and repetitions -/

/-- The character may stand in the name of a group after the first. -/
def isGroupNameChar (c : Char) : Bool :=
  c = '_' || c = '.' || c = '[' || c = ']' || isAlphanumeric c

/-- A name of a group. -/
def isGroupName (name : List Char) : Bool :=
  match name with
  | [] => false
  | c :: cs => (c = '_' || isAlphabetic c) && cs.all isGroupNameChar

/-- How a group starts. -/
inductive GroupStart where
  /-- Flags for the rest of the enclosing group. -/
  | flags (flags : Flags)
  /-- A group that is not recorded, with the flags inside it. -/
  | plain (flags : Flags)
  /-- A group that is recorded, with its name. -/
  | recorded (name : Option (List Char))

/-- The start of a group after its parenthesis. -/
def groupStart? (flags : Flags) (cs : List Char) : Option (GroupStart × List Char) :=
  let named (rest : List Char) : Option (GroupStart × List Char) :=
    let name := rest.takeWhile (· != '>')
    match rest.dropWhile (· != '>') with
    | [] => none
    | _ :: rest => if isGroupName name then some (.recorded (some name), rest) else none
  match flags.skip cs with
  | '?' :: '=' :: _ | '?' :: '!' :: _ | '?' :: '<' :: '=' :: _ | '?' :: '<' :: '!' :: _ => none
  | '?' :: 'P' :: '<' :: rest | '?' :: '<' :: rest => named rest
  | '?' :: rest => do
    let isLetter (c : Char) : Bool := c != ':' && c != ')'
    let letters := rest.takeWhile isLetter
    let inner ← flags.setAll? true [] letters
    match rest.dropWhile isLetter with
    | ')' :: rest => if letters.isEmpty then none else some (.flags inner, rest)
    | _ :: rest => some (.plain inner, rest)
    | [] => none
  | rest => some (.recorded none, rest)

/-- A count: ASCII digits among blanks. -/
def count? (flags : Flags) (cs : List Char) : Option (Nat × List Char) :=
  let (digits, rest) := flags.takeWhile Char.isDigit cs.length (trimStart cs)
  let n := digits.foldl (fun n c => 10 * n + (c.toNat - '0'.toNat)) 0
  if digits.isEmpty || Number.twoTo 32 ≤ n then none else some (n, trimStart rest)

/-- The bounds of a repetition after an opening brace. -/
def bounds? (flags : Flags) (cs : List Char) : Option (Nat × Option Nat × List Char) := do
  let (low, rest) ← count? flags (flags.skip cs)
  match rest with
  | '\x7d' :: rest => some (low, some low, rest)
  | ',' :: rest =>
    match flags.skip rest with
    | '\x7d' :: rest => some (low, none, rest)
    | rest =>
      let (high, rest) ← count? flags rest
      match rest with
      | '\x7d' :: rest => if low ≤ high then some (low, some high, rest) else none
      | _ => none
  | _ => none

/-- Pass over the mark of a repetition that prefers to be short. -/
def dropLazy : List Char → List Char
  | '?' :: rest => rest
  | rest => rest

/-- A part of an expression and how deep its parts lie within each other. -/
structure Part where
  regex : Regex
  depth : Nat := 0
  /-- The part only sets flags. -/
  isFlags : Bool := false

/-- A repetition of what was read last, which must be there. -/
def repeatLast? (low : Nat) (high : Option Nat) : List Part → Option (List Part)
  | [] => none
  | last :: before =>
    if last.isFlags then none
    else some (⟨last.regex.copies low high, last.depth + 1, false⟩ :: before)

/-- One after the other; the last comes first. -/
def sequenceOf (parts : List Part) : Part :=
  match parts with
  | [] => ⟨.empty, 0, false⟩
  | [part] => part
  | last :: before =>
    ⟨before.foldl (fun after part => .concat part.regex after) last.regex,
      parts.foldl (fun depth part => max depth part.depth) 0 + 1, false⟩

/-- The alternatives so far, whose depth is that of the deepest, and the last one. -/
def joinAlternatives (before : Option Part) (parts : List Part) : Part :=
  let last := sequenceOf parts
  match before with
  | some part => ⟨.either part.regex last.regex, max part.depth last.depth, false⟩
  | none => last

/-- All alternatives. Several alternatives are one level deeper than each. -/
def closeAlternatives (before : Option Part) (parts : List Part) : Part :=
  let all := joinAlternatives before parts
  if before.isSome then { all with depth := all.depth + 1 } else all

/-- What was read: an expression, the names of all groups so far, and what follows. -/
abbrev Progress := Part × List (List Char) × List Char

/-- Alternatives up to a closing parenthesis or the end. `parts` holds what was read of the current
alternative, the last first. -/
def alternatives? : Nat → Flags → List (List Char) → Option Part → List Part → List Char →
    Option Progress
  | 0, _, _, _, _, _ => none
  | fuel + 1, flags, names, before, parts, cs =>
    let add (part : Part) (rest : List Char) : Option Progress :=
      alternatives? fuel flags names before (part :: parts) rest
    let again (low : Nat) (high : Option Nat) (rest : List Char) : Option Progress :=
      (repeatLast? low high parts).bind fun parts =>
        alternatives? fuel flags names before parts rest
    let group (inner : Flags) (names : List (List Char)) (mark : Regex → Regex)
        (rest : List Char) : Option Progress := do
      match ← alternatives? fuel inner names none [] rest with
      | (part, names, ')' :: rest) =>
        let part := ⟨mark part.regex, part.depth + 1, false⟩
        alternatives? fuel flags names before (part :: parts) rest
      | _ => none
    match flags.skip cs with
    | [] => some (closeAlternatives before parts, names, [])
    | ')' :: rest => some (closeAlternatives before parts, names, ')' :: rest)
    | '|' :: rest =>
      alternatives? fuel flags names (some (joinAlternatives before parts)) [] rest
    | '(' :: rest => do
      match ← groupStart? flags rest with
      | (.flags inner, rest) =>
        alternatives? fuel inner names before (⟨.empty, 0, true⟩ :: parts) rest
      | (.plain inner, rest) => group inner names id rest
      | (.recorded none, rest) => group flags names .group rest
      | (.recorded (some name), rest) =>
        if names.contains name then none else group flags (name :: names) .group rest
    | '[' :: rest => do
      let (s, depth, rest) ← class? flags rest
      add ⟨.char s, depth, false⟩ rest
    | '?' :: rest => again 0 (some 1) (dropLazy rest)
    | '*' :: rest => again 0 none (dropLazy rest)
    | '+' :: rest => again 1 none (dropLazy rest)
    | '\x7b' :: rest => do
      let (low, high, rest) ← bounds? flags rest
      again low high (dropLazy (flags.skip rest))
    | '\\' :: rest => do
      match ← escape? flags rest with
      | (.literal c, rest) => add ⟨.char (flags.literal c), 0, false⟩ rest
      | (.set s, rest) => add ⟨.char s, 0, false⟩ rest
      | (.condition a, rest) => add ⟨.assertion a, 0, false⟩ rest
    | '.' :: rest => flags.dot?.bind fun s => add ⟨.char s, 0, false⟩ rest
    | '^' :: rest => add ⟨.assertion flags.start, 0, false⟩ rest
    | '$' :: rest => add ⟨.assertion flags.stop, 0, false⟩ rest
    | c :: rest => add ⟨.char (flags.literal c), 0, false⟩ rest

/-- The greatest depth that is accepted. -/
def maxDepth : Nat := 250

/-- The expression that the text writes, if it is one, and neither too deep nor too large. -/
def read? (flags : Flags) (cs : List Char) : Option Regex := do
  let (part, _, rest) ← alternatives? (cs.length + 1) flags [] none [] cs
  if rest.isEmpty && part.depth ≤ maxDepth && part.regex.fits then some part.regex else none

end Stencil.Regex
