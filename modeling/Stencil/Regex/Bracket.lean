import Stencil.Regex.Escape

/-!
Classes in brackets: members, ranges of members, ASCII classes by name, classes within classes, and
the operators between them.  How deep the parts lie within each other counts, because an expression
may not be too deep.
-/

namespace Stencil.Regex
open Text

/-- The ASCII class of a name between `[:` and `:]`. -/
def asciiClass? : String → Option CharSet
  | "alnum" => some (.ofRanges [('0', '9'), ('A', 'Z'), ('a', 'z')])
  | "alpha" => some (.ofRanges [('A', 'Z'), ('a', 'z')])
  | "ascii" => some (.range 0 0x7F)
  | "blank" => some (.ofRanges [('\t', '\t'), (' ', ' ')])
  | "cntrl" => some (.ofRanges [('\x00', '\x1f'), ('\x7f', '\x7f')])
  | "digit" => some (.ofRanges [('0', '9')])
  | "graph" => some (.ofRanges [('!', '~')])
  | "lower" => some (.ofRanges [('a', 'z')])
  | "print" => some (.ofRanges [(' ', '~')])
  | "punct" => some (.ofRanges [('!', '/'), (':', '@'), ('[', '`'), ('\x7b', '~')])
  | "space" => some (.ofRanges [('\t', '\r'), (' ', ' ')])
  | "upper" => some (.ofRanges [('A', 'Z')])
  | "word" => some (.ofRanges [('0', '9'), ('A', 'Z'), ('_', '_'), ('a', 'z')])
  | "xdigit" => some (.ofRanges [('0', '9'), ('A', 'F'), ('a', 'f')])
  | _ => none

/-- The ASCII class after `[`, written `:name:]` or `:^name:]`: whether it is negated, its set, and
what follows. -/
def posixClass? : List Char → Option (Bool × CharSet × List Char)
  | ':' :: cs =>
    let (negate, cs) := match cs with
      | '^' :: rest => (true, rest)
      | rest => (false, rest)
    match cs.dropWhile (· != ':') with
    | ':' :: ']' :: rest =>
      (asciiClass? (String.ofList (cs.takeWhile (· != ':')))).map fun s => (negate, s, rest)
    | _ => none
  | _ => none

/-- The members of a class that were read so far. -/
structure Members where
  /-- The characters that they stand for. -/
  set : CharSet := .nothing
  count : Nat := 0
  /-- How deep the deepest of them is. -/
  depth : Nat := 0

namespace Members

/-- Add a member of some depth. -/
def add (members : Members) (s : CharSet) (depth : Nat) : Members :=
  ⟨.union members.set s, members.count + 1, max members.depth depth⟩

/-- The depth of all members together. Several members are one level deeper than each. -/
def totalDepth (members : Members) : Nat :=
  if 2 ≤ members.count then members.depth + 1 else members.depth

end Members

/-- What follows the opening bracket of a class before its other members: whether it is negated, and
literals that could not stand elsewhere. -/
def classStart? (flags : Flags) (cs : List Char) : Option (Bool × Members × List Char) :=
  let cs := flags.skip cs
  let (negate, cs) := match cs with
    | '^' :: rest => (true, flags.skip rest)
    | rest => (false, rest)
  let (hyphens, cs) := flags.takeWhile (· = '-') cs.length cs
  let start : Members := hyphens.foldl (fun members c => members.add (.single c) 0) {}
  match hyphens, cs with
  | _, [] => none
  | [], ']' :: rest =>
    match flags.skip rest with
    | [] => none
    | rest => some (negate, start.add (.single ']') 0, rest)
  | _, rest => some (negate, start, rest)

/-- A member of a class: a literal or a set. -/
def classItem? (flags : Flags) (cs : List Char) : Option (Escape × List Char) :=
  let item := match cs with
    | '\\' :: cs => escape? flags cs
    | c :: cs => some (.literal c, cs)
    | [] => none
  item.filter fun
    | (.literal c, _) => flags.admits c
    | _ => true

/-- A literal, a set or a range of literals. -/
def classRange? (flags : Flags) (cs : List Char) : Option (CharSet × List Char) := do
  let (first, cs) ← classItem? flags cs
  let alone (rest : List Char) : Option (CharSet × List Char) :=
    match first with
    | .literal c => some (.single c, rest)
    | .set s => some (s, rest)
    | .condition _ => none
  match flags.skip cs with
  | [] => none
  | '-' :: rest =>
    match flags.ahead? rest with
    | some ']' | some '-' => alone ('-' :: rest)
    | _ =>
      let (last, rest) ← classItem? flags (flags.skip rest)
      match first, last with
      | .literal low, .literal high =>
        if low ≤ high then some (.range low.toNat high.toNat, rest) else none
      | _, _ => none
  | rest => alone rest

/-- The members of a class up to its closing bracket, with their depth. `combine` joins the members
since the last operator with those before it; all operators bind alike, from left to right. -/
def classMembers? (flags : Flags) : Nat → (Members → CharSet × Nat) → Members → List Char →
    Option (CharSet × Nat × List Char)
  | 0, _, _, _ => none
  | fuel + 1, combine, members, cs =>
    let next (op : CharSet → CharSet → CharSet) (rest : List Char) :
        Option (CharSet × Nat × List Char) :=
      let (left, depth) := combine members
      let join (right : Members) : CharSet × Nat :=
        (op (flags.caseless left) (flags.caseless right.set), max depth right.totalDepth + 1)
      classMembers? flags fuel join {} rest
    match flags.skip cs with
    | [] => none
    | ']' :: rest =>
      let (s, depth) := combine members
      some (s, depth, rest)
    | '&' :: '&' :: rest => next .inter rest
    | '-' :: '-' :: rest => next .diff rest
    | '~' :: '~' :: rest => next .symmDiff rest
    | '[' :: rest =>
      match posixClass? rest with
      | some (negate, s, rest) => do
        let s ← flags.close? negate s
        classMembers? flags fuel combine (members.add s 0) rest
      | none => do
        let (negate, start, rest) ← classStart? flags rest
        let alone (inner : Members) : CharSet × Nat := (inner.set, inner.totalDepth)
        let (inner, depth, rest) ← classMembers? flags fuel alone start rest
        let s ← flags.close? negate inner
        classMembers? flags fuel combine (members.add s (depth + 1)) rest
    | cs => do
      let (s, rest) ← classRange? flags cs
      classMembers? flags fuel combine (members.add s 0) rest

/-- The class after an opening bracket, and its depth. -/
def class? (flags : Flags) (cs : List Char) : Option (CharSet × Nat × List Char) := do
  let (negate, start, rest) ← classStart? flags cs
  let alone (members : Members) : CharSet × Nat := (members.set, members.totalDepth)
  let (s, depth, rest) ← classMembers? flags (cs.length + 1) alone start rest
  let s ← flags.close? negate s
  some (s, depth + 1, rest)

end Stencil.Regex
