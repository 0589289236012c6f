import Stencil.Regex.Flags
import Stencil.Regex.Property

/-!
Escapes: what a backslash and the characters after it stand for.  References to earlier groups are
refused, and so is a set that goes beyond ASCII where the flags keep to ASCII.
-/

namespace Stencil.Regex
open Text

/-- What an escape stands for. -/
inductive Escape where
  | literal (c : Char)
  | set (s : CharSet)
  | condition (a : Assertion)

/-- The number that hexadecimal digits write. -/
def hexValueOf? (digits : List Char) : Option Nat :=
  digits.foldl (fun n? c => n?.bind fun n => (hexValue? c).map fun d => 16 * n + d) (some 0)

/-- The character of a fixed number of hexadecimal digits. -/
def hexDigits? (flags : Flags) : Nat → Nat → List Char → Option (Char × List Char)
  | 0, n, cs => (charOf? n).map fun c => (c, flags.skip cs)
  | more + 1, n, cs =>
    match flags.skip cs with
    | [] => none
    | c :: cs => (hexValue? c).bind fun d => hexDigits? flags more (16 * n + d) cs

/-- The character of hexadecimal digits before a closing brace. -/
def bracedHex? (flags : Flags) (cs : List Char) : Option (Char × List Char) := do
  let (digits, rest) ← flags.braced? cs
  let n ← hexValueOf? digits
  if digits.isEmpty then none else (charOf? n).map fun c => (c, flags.skip rest)

/-- The character that hexadecimal digits write, in braces or `width` of them. Two digits write a
byte, which beyond ASCII is a character only if the flags go that far. -/
def hexEscape? (flags : Flags) (width : Nat) (cs : List Char) : Option (Char × List Char) :=
  match flags.skip cs with
  | '\x7b' :: cs => bracedHex? flags cs
  | cs => (hexDigits? flags width 0 cs).filter fun found => width != 2 || flags.admits found.1

/-- The property after `\p`, and whether all other characters are meant: one letter, or a name in
braces. -/
def propertyEscape? (flags : Flags) (cs : List Char) : Option (Bool × CharSet × List Char) :=
  if !flags.unicode then none
  else match flags.skip cs with
  | [] => none
  | '\x7b' :: cs => do
    let (name, rest) ← flags.braced? cs
    let (negate, s) ← property? name
    some (negate, s, rest)
  | c :: cs => (property? [c]).map fun (negate, s) => (negate, s, flags.skip cs)

/-- The word edge of a name in braces after `\b`. -/
def edgeNamed? : String → Option WordEdge
  | "start" => some .start
  | "end" => some .stop
  | "start-half" => some .startHalf
  | "end-half" => some .stopHalf
  | _ => none

/-- The word edge after `\b`. A brace that no letter or hyphen follows belongs to a repetition. -/
def edge? (flags : Flags) (cs : List Char) : Option (WordEdge × List Char) :=
  let inName (c : Char) : Bool := c.isAlpha || c = '-'
  match cs with
  | '\x7b' :: rest =>
    match flags.skip rest with
    | [] => none
    | c :: inner =>
      if inName c then
        match flags.takeWhile inName rest.length (c :: inner) with
        | (name, '\x7d' :: after) => (edgeNamed? (String.ofList name)).map fun edge => (edge, after)
        | _ => none
      else some (.boundary, cs)
  | _ => some (.boundary, cs)

/-- The escape after a backslash, and what follows it. -/
def escape? (flags : Flags) : List Char → Option (Escape × List Char)
  | [] => none
  | c :: cs =>
    let set (negate : Bool) (s : CharSet) : Option (Escape × List Char) :=
      (flags.negated? negate s).map fun s => (.set s, cs)
    let property (negate : Bool) : Option (Escape × List Char) :=
      (propertyEscape? flags cs).bind fun (others, s, rest) =>
        (flags.close? (negate != others) s).map fun s => (.set s, rest)
    let literal (c : Char) : Option (Escape × List Char) := some (.literal c, cs)
    let edge (e : WordEdge) : Escape := .condition (.wordEdge e flags.word)
    match c with
    | 'x' => (hexEscape? flags 2 cs).map fun (c, rest) => (.literal c, rest)
    | 'u' => (hexEscape? flags 4 cs).map fun (c, rest) => (.literal c, rest)
    | 'U' => (hexEscape? flags 8 cs).map fun (c, rest) => (.literal c, rest)
    | 'p' => property false
    | 'P' => property true
    | 'd' => set false flags.digit
    | 'D' => set true flags.digit
    | 's' => set false flags.blank
    | 'S' => set true flags.blank
    | 'w' => set false flags.word
    | 'W' => set true flags.word
    | 'a' => literal '\x07'
    | 'f' => literal '\x0c'
    | 't' => literal '\t'
    | 'n' => literal '\n'
    | 'r' => literal '\r'
    | 'v' => literal '\x0b'
    | 'A' => some (.condition .textStart, cs)
    | 'z' => some (.condition .textEnd, cs)
    | 'b' => (edge? flags cs).map fun (e, rest) => (edge e, rest)
    | 'B' => some (edge .notBoundary, cs)
    | '<' => some (edge .start, cs)
    | '>' => some (edge .stop, cs)
    | c => if c.toNat < 0x80 && !c.isAlphanum then literal c else none

end Stencil.Regex
