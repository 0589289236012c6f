import Stencil.Json.Basic
import Stencil.Number.Reading
import Stencil.Text.Hex

/-!
Reading JSON text.  The grammar is the strict one: no comments, no trailing commas, no leading
zeros, no control characters inside strings, and surrogates only in pairs.  A number outside the
integers of 64 bits is read from its first digits, as many as make an integer of 64 bits, scaled by
one multiplication or division by a power of ten.
-/

namespace Stencil.Json
open Number

/-- Blanks between the parts of a document. -/
def isBlank (c : Char) : Bool := c = ' ' || c = '\n' || c = '\t' || c = '\r'

/-- The text without its leading blanks. -/
def skipBlanks (cs : List Char) : List Char := cs.dropWhile isBlank

/-- The unit that four hexadecimal digits write, and what follows them. -/
def unit? : List Char → Option (Nat × List Char)
  | a :: b :: c :: d :: rest => do
    let a ← Stencil.Text.hexValue? a
    let b ← Stencil.Text.hexValue? b
    let c ← Stencil.Text.hexValue? c
    let d ← Stencil.Text.hexValue? d
    some (((a * 16 + b) * 16 + c) * 16 + d, rest)
  | _ => none

/-- The character after a backslash and `u`: one unit, or a pair of surrogates. -/
def unicodeEscape? (cs : List Char) : Option (Char × List Char) := do
  let (high, rest) ← unit? cs
  if high < 0xD800 || 0xE000 ≤ high then some (Char.ofNat high, rest)
  else if 0xDC00 ≤ high then none
  else match rest with
    | '\\' :: 'u' :: rest =>
      let (low, rest) ← unit? rest
      if 0xDC00 ≤ low && low < 0xE000 then
        some (Char.ofNat (0x10000 + (high - 0xD800) * 0x400 + (low - 0xDC00)), rest)
      else none
    | _ => none

/-- The character that a backslash and a letter stand for. -/
def simpleEscape? : Char → Option Char
  | '"' => some '"'
  | '\\' => some '\\'
  | '/' => some '/'
  | 'b' => some '\x08'
  | 'f' => some '\x0c'
  | 'n' => some '\n'
  | 'r' => some '\r'
  | 't' => some '\t'
  | _ => none

/-- The rest of a string after its opening quote, and what follows the closing one. `done` holds the
characters read so far, last first; each step reads at least one character of `fuel`. -/
def stringRest? (done : List Char) : Nat → List Char → Option (String × List Char)
  | 0, _ => none
  | fuel + 1, cs =>
    match cs with
    | [] => none
    | '"' :: rest => some (String.ofList done.reverse, rest)
    | '\\' :: 'u' :: rest =>
      match unicodeEscape? rest with
      | some (c, rest) => stringRest? (c :: done) fuel rest
      | none => none
    | '\\' :: c :: rest =>
      match simpleEscape? c with
      | some c => stringRest? (c :: done) fuel rest
      | none => none
    | c :: rest =>
      if c.toNat < 0x20 || c = '\\' then none else stringRest? (c :: done) fuel rest

/-- A power of ten as a float. -/
def powerOfTen (k : Nat) : Float := Float.ofScientific 1 false k

/-- Scale by a power of ten: one operation for each 308 powers. A value beyond all floats is no
number. -/
def scale? : Nat → Float → Int → Option Float
  | 0, x, _ => some x
  | fuel + 1, x, exponent =>
    if exponent.natAbs ≤ 308 then
      if 0 ≤ exponent then
        let y := x * powerOfTen exponent.natAbs
        if isFinite y then some y else none
      else some (x / powerOfTen exponent.natAbs)
    else if x == 0.0 then some x
    else if 0 ≤ exponent then none
    else scale? fuel (x / powerOfTen 308) (exponent + 308)

/-- The longest start of the digits whose value is below 2^64, and the digits that are left. -/
def leadingDigits (n : Nat) : List Char → Nat × List Char
  | [] => (n, [])
  | c :: rest =>
    let next := 10 * n + (c.toNat - '0'.toNat)
    if next < twoTo 64 then leadingDigits next rest else (n, c :: rest)

/-- The float written by the digits before and after the point and an exponent. -/
def decimal? (whole fraction : List Char) (exponent : Int) : Option Float :=
  let (significand, left) := leadingDigits 0 whole
  if left.isEmpty then
    let (significand, unread) := leadingDigits significand fraction
    scale? 400 (Float.ofNat significand) (exponent - (fraction.length - unread.length : Nat))
  else scale? 400 (Float.ofNat significand) (exponent + left.length)

/-- The exponent of a number: nothing, or `e` with an optional sign and digits; and what follows. -/
def exponentPart? (cs : List Char) : Option (Option Int × List Char) :=
  match cs with
  | c :: rest =>
    if c = 'e' || c = 'E' then
      let (negative, ds) := match rest with
        | '-' :: ds => (true, ds)
        | '+' :: ds => (false, ds)
        | ds => (false, ds)
      let digits := ds.takeWhile Char.isDigit
      if digits.isEmpty then none
      else
        let value : Int := min (digitsValue digits) (twoTo 31)
        some (some (if negative then -value else value), ds.dropWhile Char.isDigit)
    else some (none, cs)
  | [] => some (none, cs)

/-- A number without its sign. -/
def unsigned? (negative : Bool) (cs : List Char) : Option (Json × List Char) := do
  let whole := cs.takeWhile Char.isDigit
  let rest := cs.dropWhile Char.isDigit
  if whole.isEmpty || (whole.head? = some '0' && 1 < whole.length) then none
  else
    let (fraction, rest) ← match rest with
      | '.' :: tail =>
        let ds := tail.takeWhile Char.isDigit
        if ds.isEmpty then none else some (some ds, tail.dropWhile Char.isDigit)
      | _ => some (none, rest)
    let (exponent, rest) ← exponentPart? rest
    let n := digitsValue whole
    if fraction.isNone && exponent.isNone && !negative && n < twoTo 64 then some (.int n, rest)
    else if fraction.isNone && exponent.isNone && negative && 0 < n && n ≤ twoTo 63 then
      some (.int (-n), rest)
    else
      let x ← decimal? whole (fraction.getD []) (exponent.getD 0)
      some (.float (if negative then Float.neg x else x), rest)

/-- A number. -/
def number? : List Char → Option (Json × List Char)
  | '-' :: rest => unsigned? true rest
  | cs => unsigned? false cs

/-- The document after a word, if the text starts with the word. -/
def literal? (word : String) (value : Json) (cs : List Char) : Option (Json × List Char) :=
  if word.toList.isPrefixOf cs then some (value, cs.drop word.length) else none

mutual

/-- A document at the start of the text and what follows it. `room` is how many more arrays and
objects may be opened inside one another. -/
def value? : Nat → Nat → List Char → Option (Json × List Char)
  | 0, _, _ => none
  | fuel + 1, room, cs =>
    match skipBlanks cs with
    | [] => none
    | '"' :: rest => (stringRest? [] (rest.length + 1) rest).map fun (s, rest) => (.str s, rest)
    | '[' :: rest =>
      match room with
      | 0 => none
      | room + 1 =>
        match skipBlanks rest with
        | ']' :: rest => some (.arr [], rest)
        | rest => items? fuel room [] rest
    | '\x7b' :: rest =>
      match room with
      | 0 => none
      | room + 1 =>
        match skipBlanks rest with
        | '\x7d' :: rest => some (.obj [], rest)
        | rest => members? fuel room [] rest
    | 'n' :: rest => literal? "null" .null ('n' :: rest)
    | 't' :: rest => literal? "true" (.bool true) ('t' :: rest)
    | 'f' :: rest => literal? "false" (.bool false) ('f' :: rest)
    | rest => number? rest

/-- The items of an array from the next one to the closing bracket; `done` holds those before, last
first. -/
def items? : Nat → Nat → List Json → List Char → Option (Json × List Char)
  | 0, _, _, _ => none
  | fuel + 1, room, done, cs =>
    match value? fuel room cs with
    | none => none
    | some (v, rest) =>
      match skipBlanks rest with
      | ',' :: rest => items? fuel room (v :: done) rest
      | ']' :: rest => some (.arr (v :: done).reverse, rest)
      | _ => none

/-- The members of an object from the next one to the closing brace; `done` holds those before, last
first. -/
def members? : Nat → Nat → List (String × Json) → List Char → Option (Json × List Char)
  | 0, _, _, _ => none
  | fuel + 1, room, done, cs =>
    match skipBlanks cs with
    | '"' :: rest =>
      match stringRest? [] (rest.length + 1) rest with
      | none => none
      | some (name, rest) =>
        match skipBlanks rest with
        | ':' :: rest =>
          match value? fuel room rest with
          | none => none
          | some (v, rest) =>
            match skipBlanks rest with
            | ',' :: rest => members? fuel room ((name, v) :: done) rest
            | '\x7d' :: rest => some (.obj ((name, v) :: done).reverse, rest)
            | _ => none
        | _ => none
    | _ => none

end

/-- The document that the text writes, if all of it is one. -/
def read? (cs : List Char) : Option Json :=
  match value? (2 * cs.length + 2) maxDepth cs with
  | some (j, rest) => if (skipBlanks rest).isEmpty then some j else none
  | none => none

end Stencil.Json
