import Stencil.Failure
import Stencil.Text.Nesting
import Stencil.Text.Search

/-!
Source tokens: a template is plain text with tags in it.  A tag stands between an opening and a
closing delimiter, and a dash on the inner side of a delimiter takes away the blanks on its outer
side.  Tokens keep the byte at which they start.
-/

namespace Stencil.Source
open Text

/-- On which sides of a tag the blanks of the text around it are taken away. -/
structure Trimming where
  before : Bool
  after : Bool
  deriving DecidableEq, Repr

/-- The kinds of tokens. -/
inductive Kind where
  /-- Plain text. -/
  | raw
  /-- A tag that prints an expression. -/
  | output (trimming : Trimming)
  /-- A tag that controls the render. -/
  | logic (trimming : Trimming)
  | comment
  deriving DecidableEq, Repr

namespace Kind

/-- The tag controls the render. -/
def isLogic : Kind → Bool
  | .logic _ => true
  | _ => false

/-- The text before the tag loses its trailing blanks. -/
def trimsBefore : Kind → Bool
  | .output t | .logic t => t.before
  | .raw | .comment => false

/-- The text after the tag loses its leading blanks. -/
def trimsAfter : Kind → Bool
  | .output t | .logic t => t.after
  | .raw | .comment => false

/-- Quotes inside the tag hide its closing delimiter. -/
def hasStrings : Kind → Bool
  | .output _ | .logic _ => true
  | .raw | .comment => false

end Kind

/-- A piece of a template. -/
structure Token where
  kind : Kind
  value : String
  /-- The byte at which the token starts. -/
  offset : Nat
  deriving DecidableEq, Repr

/-- A pair of delimiters and the kind of tag between them. -/
structure Delimiter where
  kind : Kind
  opener : List Char
  closer : List Char
  deriving DecidableEq, Repr

/-- All delimiters, in the order in which they are considered. -/
def delimiters : List Delimiter :=
  [⟨.raw, "\x7b% raw %\x7d".toList, "\x7b% endraw %\x7d".toList⟩,
    ⟨.raw, "\x7b% verbatim %\x7d".toList, "\x7b% endverbatim %\x7d".toList⟩,
    ⟨.output ⟨true, false⟩, "\x7b\x7b-".toList, "\x7d\x7d".toList⟩,
    ⟨.output ⟨false, true⟩, "\x7b\x7b".toList, "-\x7d\x7d".toList⟩,
    ⟨.output ⟨true, true⟩, "\x7b\x7b-".toList, "-\x7d\x7d".toList⟩,
    ⟨.logic ⟨true, false⟩, "\x7b%-".toList, "%\x7d".toList⟩,
    ⟨.logic ⟨false, true⟩, "\x7b%".toList, "-%\x7d".toList⟩,
    ⟨.logic ⟨true, true⟩, "\x7b%-".toList, "-%\x7d".toList⟩,
    ⟨.output ⟨false, false⟩, "\x7b\x7b".toList, "\x7d\x7d".toList⟩,
    ⟨.logic ⟨false, false⟩, "\x7b%".toList, "%\x7d".toList⟩,
    ⟨.comment, "\x7b#".toList, "#\x7d".toList⟩]

/-- A delimiter whose opener is in the text: where it starts, and where its closer first is. -/
structure Opening where
  delimiter : Delimiter
  start : Nat
  close : Option Nat
  deriving DecidableEq, Repr

/-- The first opening of a delimiter. Delimiters of different lengths need a closer somewhere. -/
def Opening.find? (cs : List Char) (d : Delimiter) : Option Opening :=
  match indexOf? d.opener cs, indexOf? d.closer cs with
  | some start, close =>
    if d.opener.length != d.closer.length && close.isNone then none else some ⟨d, start, close⟩
  | none, _ => none

/-- `b` is preferred to `a`: it starts earlier, or at the same place with a longer opener, or with
one as long and a closer that comes earlier. -/
def Opening.isBeaten (a b : Opening) : Bool :=
  b.start < a.start ||
    (b.start == a.start &&
      (a.delimiter.opener.length < b.delimiter.opener.length ||
        (a.delimiter.opener.length == b.delimiter.opener.length &&
          match b.close, a.close with
          | some closeB, some closeA => closeB < closeA
          | _, _ => false)))

/-- The opening of the next tag. -/
def nextOpening? (cs : List Char) : Option Opening :=
  (delimiters.filterMap (Opening.find? cs)).foldl (fun best o =>
    match best with
    | none => some o
    | some b => if b.isBeaten o then some o else some b) none

/-- An odd number of backslashes stands at the front of `before`, the text read backwards. -/
def isEscaped (before : List Char) : Bool := (before.takeWhile (· = '\\')).length % 2 == 1

/-- What stands before the closer of a tag, and what follows it. Inside a string, `string` holds its
quote and what was read of it, the last first. A string is entered only if a closer follows its
opening quote. -/
def upToCloser (closer : List Char) (offset : Nat) :
    Option (Char × List Char) → List Char → Except Cause (List Char × List Char)
  | none, [] => .error (.unclosedDelimiter (String.ofList closer) offset)
  | some _, [] => .error .unclosedString
  | none, c :: cs =>
    if closer.isPrefixOf (c :: cs) then .ok ([], (c :: cs).drop closer.length)
    else if isQuote c && (indexOf? closer cs).isNone then
      .error (.unclosedDelimiter (String.ofList closer) offset)
    else do
      let (body, rest) ← upToCloser closer offset (if isQuote c then some (c, []) else none) cs
      .ok (c :: body, rest)
  | some (quote, before), c :: cs => do
    let string := if c = quote && !isEscaped before then none else some (quote, c :: before)
    let (body, rest) ← upToCloser closer offset string cs
    .ok (c :: body, rest)

/-- The body of a tag and what follows its closer. -/
def Delimiter.body (d : Delimiter) (offset : Nat) (cs : List Char) :
    Except Cause (List Char × List Char) :=
  if d.kind.hasStrings then upToCloser d.closer offset none cs
  else match indexOf? d.closer cs with
    | some n => .ok (cs.take n, cs.drop (n + d.closer.length))
    | none => .error (.unclosedDelimiter (String.ofList d.closer) offset)

/-- The line break that belongs to a control tag, and what follows it. -/
def lineBreak : List Char → List Char × List Char
  | '\n' :: rest => (['\n'], rest)
  | '\r' :: '\n' :: rest => (['\r', '\n'], rest)
  | cs => ([], cs)

/-- The tokens of a text, and the failure at which reading stopped, if it did. -/
structure Tokens where
  tokens : List Token
  failure : Option Failure := none
  deriving DecidableEq, Repr

namespace Tokens

/-- Put a token in front. -/
def cons (t : Token) (ts : Tokens) : Tokens := { ts with tokens := t :: ts.tokens }

/-- The tokens of the text at byte `offset`. Each step takes at least one character, so `fuel` need
not exceed the length of the text. -/
def readFrom : Nat → Nat → List Char → Tokens
  | 0, _, _ => ⟨[], none⟩
  | fuel + 1, offset, cs =>
    match cs, nextOpening? cs with
    | [], _ => ⟨[], none⟩
    | cs, none => ⟨[⟨.raw, String.ofList cs, offset⟩], none⟩
    | cs, some ⟨d, 0, _⟩ =>
      let inner := cs.drop d.opener.length
      match d.body offset inner with
      | .error cause => ⟨[], some ⟨cause, none⟩⟩
      | .ok (body, rest) =>
        let (newline, rest) := if d.kind.isLogic then lineBreak rest else ([], rest)
        let size := byteLength (d.opener ++ body ++ d.closer ++ newline)
        cons ⟨d.kind, String.ofList (trim body), offset⟩ (readFrom fuel (offset + size) rest)
    | cs, some ⟨_, start, _⟩ =>
      let text := cs.take start
      cons ⟨.raw, String.ofList text, offset⟩
        (readFrom fuel (offset + byteLength text) (cs.drop start))

/-- The tokens of a template. -/
def read (source : String) : Tokens := readFrom (source.length + 1) 0 source.toList

/-- All tokens, if there are no failures. -/
def all (ts : Tokens) : Except Failure (List Token) :=
  match ts.failure with
  | some e => .error e
  | none => .ok ts.tokens

end Tokens
end Stencil.Source
