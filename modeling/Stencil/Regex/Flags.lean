import Stencil.Regex.Basic

/-!
The flags of an expression decide what a character of its text stands for, and whether blanks and
comments may stand between its parts.
-/

namespace Stencil.Regex
open Text

/-- The flags of an expression. -/
structure Flags where
  /-- Case is ignored. -/
  ignoreCase : Bool := false
  /-- Start and end conditions hold at every line. -/
  multiLine : Bool := false
  /-- The point also stands for a line feed. -/
  dotAll : Bool := false
  /-- Repetitions prefer to be short; whether there is a match does not depend on it. -/
  swapGreed : Bool := false
  /-- Classes go beyond ASCII. -/
  unicode : Bool := true
  /-- A carriage return ends lines as well. -/
  crlf : Bool := false
  /-- Blanks and comments between the parts are skipped. -/
  extended : Bool := false
  deriving DecidableEq, Repr

/-- Skip blanks, and comments from `#` to the end of the line. -/
def skipSpace (inComment : Bool) : List Char → List Char
  | [] => []
  | c :: cs =>
    if inComment then skipSpace (c != '\n') cs
    else if isBlank c then skipSpace false cs
    else if c = '#' then skipSpace true cs
    else c :: cs

namespace Flags

/-- Skip what the flags allow between the parts. -/
def skip (flags : Flags) (cs : List Char) : List Char :=
  if flags.extended then skipSpace false cs else cs

/-- The character ahead, by which a hyphen in a class is judged. Of a comment only the blanks around
its sign are passed over, so this may be a character of the comment; where nothing but blanks and
the sign are left, the very next character is meant. -/
def ahead? (flags : Flags) (cs : List Char) : Option Char :=
  if flags.extended then
    let past := match trimStart cs with
      | '#' :: rest => trimStart rest
      | rest => rest
    past.head? <|> cs.head?
  else cs.head?

/-- The characters that `stays` admits at the start of the text, with what the flags allow between
them, and what follows. -/
def takeWhile (flags : Flags) (stays : Char → Bool) : Nat → List Char → List Char × List Char
  | 0, cs => ([], cs)
  | fuel + 1, cs =>
    match cs with
    | [] => ([], [])
    | c :: rest =>
      if stays c then
        let (more, after) := flags.takeWhile stays fuel (flags.skip rest)
        (c :: more, after)
      else ([], c :: rest)

/-- The text up to a closing brace, less what the flags allow between its characters, and what
follows the brace. -/
def braced? (flags : Flags) (cs : List Char) : Option (List Char × List Char) :=
  match flags.takeWhile (· != '\x7d') cs.length (flags.skip cs) with
  | (inner, '\x7d' :: rest) => some (inner, rest)
  | _ => none

/-- The word characters under the flags. -/
def word (flags : Flags) : CharSet :=
  if flags.unicode then .word else .ofRanges [('0', '9'), ('A', 'Z'), ('_', '_'), ('a', 'z')]

/-- The digits under the flags. -/
def digit (flags : Flags) : CharSet :=
  if flags.unicode then .digit else .ofRanges [('0', '9')]

/-- The blanks under the flags. -/
def blank (flags : Flags) : CharSet :=
  if flags.unicode then .blank else .ofRanges [('\t', '\r'), (' ', ' ')]

/-- The set with the cases of its members ignored, if the flags say so. Within ASCII, only ASCII
characters are cases of each other. -/
def caseless (flags : Flags) (s : CharSet) : CharSet :=
  if flags.unicode then s.caseless flags.ignoreCase
  else if flags.ignoreCase then .inter (.anyCase s) (.range 0 0x7F)
  else s

/-- The set or its complement. A complement goes beyond ASCII. -/
def negated? (flags : Flags) (negate : Bool) (s : CharSet) : Option CharSet :=
  if negate && !flags.unicode then none else some (s.negated negate)

/-- The set that a bracket or a property stands for under the flags: cases are ignored before the
complement is taken. -/
def close? (flags : Flags) (negate : Bool) (s : CharSet) : Option CharSet :=
  flags.negated? negate (flags.caseless s)

/-- The character may stand for one that is written by its code, or in a class. -/
def admits (flags : Flags) (c : Char) : Bool := flags.unicode || c.toNat < 0x80

/-- The set that a character stands for. -/
def literal (flags : Flags) (c : Char) : CharSet :=
  if flags.admits c then flags.caseless (.single c) else .single c

/-- What the point stands for. -/
def dot? (flags : Flags) : Option CharSet :=
  flags.negated? true <|
    if flags.dotAll then .nothing
    else if flags.crlf then .ofRanges [('\n', '\n'), ('\r', '\r')]
    else .single '\n'

/-- The condition that a circumflex stands for. -/
def start (flags : Flags) : Assertion :=
  if flags.multiLine then .lineStart flags.crlf else .textStart

/-- The condition that a dollar sign stands for. -/
def stop (flags : Flags) : Assertion :=
  if flags.multiLine then .lineEnd flags.crlf else .textEnd

/-- Set a flag. -/
def set? (flags : Flags) (letter : Char) (on : Bool) : Option Flags :=
  match letter with
  | 'i' => some { flags with ignoreCase := on }
  | 'm' => some { flags with multiLine := on }
  | 's' => some { flags with dotAll := on }
  | 'U' => some { flags with swapGreed := on }
  | 'u' => some { flags with unicode := on }
  | 'R' => some { flags with crlf := on }
  | 'x' => some { flags with extended := on }
  | _ => none

/-- Set the flags of a group, none of them twice and with at most one `-`, which some flag has to
follow. -/
def setAll? (flags : Flags) (on : Bool) (seen : List Char) : List Char → Option Flags
  | [] => if !on && seen.head? == some '-' then none else some flags
  | c :: cs =>
    if seen.contains c then none
    else if c = '-' then flags.setAll? false (c :: seen) cs
    else (flags.set? c on).bind fun flags => flags.setAll? on (c :: seen) cs

end Flags
end Stencil.Regex
