import Stencil.Expr.Lexeme
import Stencil.Failure
import Stencil.Number.Reading
import Stencil.Text.Nesting
import Stencil.Text.Word

/-!
Reading lexemes.  At each place the kinds are tried in a fixed order, and the first one that is
there and may follow the lexeme before it is taken.  If none may, the message names every kind that
was there.
-/

namespace Stencil.Expr
open Text

/-- A lexeme at the start of a text and the text after it. -/
abbrev Found := Option (Lexeme × List Char)

namespace Found

/-- The words one after the other, with blanks between each and the next. -/
def words? : List (List Char) → List Char → Option (List Char)
  | [], cs => some cs
  | [word], cs => after? word cs
  | word :: more, cs => do
    let rest ← after? word cs
    let rest ← afterBlanks? rest
    words? more rest

/-- A word of the list that ends at the end of a word, and what follows it. -/
def wholeWord? (alternatives : List (List Char)) (cs : List Char) :
    Option (List Char × List Char) :=
  alternatives.findSome? fun word =>
    match after? word cs with
    | some rest => if wordEndsBefore rest then some (word, rest) else none
    | none => none

/-- The name of a test: an identifier, and the word `as` or `by` if it comes next. -/
def testName? (cs : List Char) : Option (List Char × List Char) := do
  let (name, rest) ← name? cs
  let second := (afterBlanks? rest).bind fun tail =>
    ["as".toList, "by".toList].findSome? fun word => (after? word tail).map fun rest => (word, rest)
  match second with
  | some (word, rest) => some (name ++ ' ' :: word, rest)
  | none => some (name, rest)

/-- `is` with a test, negated by `not`. A `not` with no test after it is itself the name. -/
def test? (cs : List Char) : Found := do
  let rest ← (after? "is".toList cs).bind afterBlanks?
  let negated := ((after? "not".toList rest).bind afterBlanks?).bind testName?
  match negated with
  | some (name, rest) => some (.test (String.ofList name) true, rest)
  | none =>
    let (name, rest) ← testName? rest
    some (.test (String.ofList name) false, rest)

/-- One given character. -/
def char? (wanted : Char) (lexeme : Lexeme) (cs : List Char) : Found :=
  match cs with
  | c :: rest => if c = wanted then some (lexeme, rest) else none
  | [] => none

/-- Digits with an optional sign and an optional fraction. Digits of other scripts are taken but
make no number. -/
def number? (cs : List Char) : Found := do
  let (sign, rest) := match cs with
    | '-' :: rest => (['-'], rest)
    | rest => ([], rest)
  let whole := rest.takeWhile isDigit
  let rest := rest.dropWhile isDigit
  if whole.isEmpty then none
  else
    let (fraction, rest) := match rest with
      | '.' :: tail =>
        if (tail.takeWhile isDigit).isEmpty then ([], rest)
        else ('.' :: tail.takeWhile isDigit, tail.dropWhile isDigit)
      | rest => ([], rest)
    let value ← Number.read? (sign ++ whole ++ fraction)
    some (.number value, rest)

/-- The operators that are words. -/
def wordOperators : List (List (List Char)) :=
  [["b-and"], ["b-xor"], ["b-or"], ["not", "in"], ["and"], ["or"], ["in"], ["matches"],
    ["starts", "with"], ["ends", "with"]].map fun words => words.map String.toList

/-- The operators that are symbols; one that starts with another comes before it. -/
def symbolOperators : List (List Char) :=
  ["===", "!==", "??", "?:", "==", "!=", "<=", ">=", "**", "//", "..", "<", ">", "+", "-", "~", "%",
    "?", ":", "*", "/"].map String.toList

/-- An operator that is a word. -/
def wordOperator? (cs : List Char) : Found :=
  wordOperators.findSome? fun words =>
    match words? words cs with
    | some rest =>
      if wordEndsBefore rest then
        some (.binary (String.ofList ([' '].intercalate words)), rest)
      else none
    | none => none

/-- The place after these lexemes, the last one first, is one where a value starts. -/
def expectsValue (before : List Lexeme) : Bool :=
  match before with
  | [] => true
  | prev :: _ => !prev.kind.next.contains .binary

/-- An operator between operands, or a sign where a value is expected. -/
def binary? (before : List Lexeme) (cs : List Char) : Found :=
  match wordOperator? cs with
  | some found => some found
  | none =>
    symbolOperators.findSome? fun symbol => (after? symbol cs).map fun rest =>
      if (symbol = ['-'] || symbol = ['+']) && expectsValue before then
        (.unary (String.ofList symbol), rest)
      else (.binary (String.ofList symbol), rest)

/-- The word `not`. -/
def unary? (cs : List Char) : Found :=
  (wholeWord? ["not".toList] cs).map fun (_, rest) => (.unary "not", rest)

/-- What a backslash and a character stand for inside a string. -/
def unescape (c : Char) : List Char :=
  match c with
  | 'n' => ['\n']
  | 'r' => ['\r']
  | 't' => ['\t']
  | '\\' => ['\\']
  | '"' => ['"']
  | '\'' => ['\'']
  | c => ['\\', c]

/-- The value of a string after its opening quote, and what follows the closing one. -/
def stringRest? (quote : Char) : List Char → Option (List Char × List Char)
  | [] => none
  | '\\' :: c :: rest =>
    (stringRest? quote rest).map fun (value, rest) => (unescape c ++ value, rest)
  | c :: rest =>
    if c = quote then some ([], rest)
    else if c = '\\' then none
    else (stringRest? quote rest).map fun (value, rest) => (c :: value, rest)

/-- A string in either kind of quotes. -/
def string? (cs : List Char) : Found :=
  match cs with
  | c :: rest =>
    if isQuote c then
      (stringRest? c rest).map fun (value, rest) => (.string (String.ofList value), rest)
    else none
  | [] => none

/-- The names in parentheses before an arrow, after the first one. -/
def moreParams : Nat → List Char → List (List Char) × List Char
  | 0, cs => ([], cs)
  | fuel + 1, cs =>
    match trimStart cs with
    | ',' :: rest =>
      match name? (trimStart rest) with
      | some (name, rest) =>
        let (names, rest) := moreParams fuel rest
        (name :: names, rest)
      | none => ([], cs)
    | _ => ([], cs)

/-- The parameters of a function: one name, or a list of names in parentheses. -/
def params? (cs : List Char) : Option (List (List Char) × List Char) :=
  match cs with
  | '(' :: rest =>
    let (names, rest) := match name? (trimStart rest) with
      | some (name, rest) =>
        let (names, rest) := moreParams rest.length rest
        (name :: names, rest)
      | none => ([], rest)
    (after? [')'] (trimStart rest)).map fun rest => (names, rest)
  | cs => (name? cs).map fun (name, rest) => ([name], rest)

/-- A function: parameters, an arrow, and a body up to the next comma or closing bracket. -/
def lambda? (cs : List Char) : Found := do
  let (names, rest) ← params? cs
  let rest ← after? "=>".toList (trimStart rest)
  let (body, rest) := toBoundary true .outside 0 rest
  if (trim body).isEmpty then none
  else some (.lambda (names.map String.ofList) (String.ofList (trim body)), rest)

/-- The kind of the innermost parenthesis that is open after these lexemes, the last one first. -/
def openParen? : Nat → List Lexeme → Option Kind
  | _, [] => none
  | depth, l :: before =>
    match l.kind with
    | .subexprEnd | .paramEnd => openParen? (depth + 1) before
    | .subexprStart | .paramStart =>
      match depth with
      | 0 => some l.kind
      | depth + 1 => openParen? depth before
    | _ => openParen? depth before

/-- A closing parenthesis of the given kind. -/
def close? (opener : Kind) (lexeme : Lexeme) (before : List Lexeme) (cs : List Char) : Found :=
  if openParen? 0 before = some opener then char? ')' lexeme cs else none

/-- An opening parenthesis of arguments: after a lexeme that is no reserved word. -/
def paramStart? (before : List Lexeme) (cs : List Char) : Found :=
  match before with
  | [] => none
  | prev :: _ => if isReserved prev.word then none else char? '(' .paramStart cs

/-- An optional sign and digits: a bound of a slice. One that is no integer of 64 bits counts as not
given. -/
def bound (cs : List Char) : Option Int × List Char :=
  let (sign, rest) := match cs with
    | '-' :: rest => (['-'], rest)
    | rest => ([], rest)
  (Number.readWord? (sign ++ rest.takeWhile isDigit), rest.dropWhile isDigit)

/-- Two bounds with a colon between them, in brackets and without blanks. -/
def slice? (cs : List Char) : Found := do
  let rest ← after? ['['] cs
  let (start, rest) := bound rest
  let rest ← after? [':'] rest
  let (stop, rest) := bound rest
  let rest ← after? [']'] rest
  some (.slice start stop, rest)

/-- A bar and the name of a filter. -/
def filter? (cs : List Char) : Found := do
  let rest ← after? ['|'] cs
  let (name, rest) ← name? (trimStart rest)
  some (.filter (String.ofList name), rest)

/-- A name right before an opening parenthesis, which is left to be read. -/
def function? (cs : List Char) : Found := do
  let (name, rest) ← name? cs
  match trimStart rest with
  | '(' :: tail =>
    if isReserved (String.ofList name) then none
    else some (.function (String.ofList name), '(' :: tail)
  | _ => none

/-- A name. -/
def variableName? (cs : List Char) : Found := do
  let (name, rest) ← name? cs
  if isReserved (String.ofList name) then none else some (.variable (String.ofList name), rest)

/-- A point and a key. -/
def keyPeriod? (cs : List Char) : Found := do
  let rest ← after? ['.'] cs
  let key := rest.takeWhile isWord
  if key.isEmpty then none else some (.keyPeriod (String.ofList key), rest.dropWhile isWord)

/-- A key in brackets. A text with a colon is a key only if it starts with a quote. -/
def keyBrackets? (cs : List Char) : Found := do
  let rest ← after? ['['] cs
  let (inner, rest) := toBoundary false .outside 0 rest
  let rest ← after? [']'] rest
  let key := trim inner
  if key.isEmpty || (key.contains ':' && !key.head?.any isQuote) then none
  else some (.keyBrackets (String.ofList key), rest)

/-- A value that is a word. -/
def constant? (alternatives : List String) (lexeme : Lexeme) (cs : List Char) : Found :=
  (wholeWord? (alternatives.map String.toList) cs).map fun (_, rest) => (lexeme, rest)

/-- A lexeme of the given kind at the start of the text, which comes after the lexemes `before`, the
last one first. -/
def ofKind? (before : List Lexeme) (cs : List Char) : Kind → Found
  | .test => test? cs
  | .comma => char? ',' .comma cs
  | .number => number? cs
  | .binary => binary? before cs
  | .unary => unary? cs
  | .string => string? cs
  | .lambda => lambda? cs
  | .subexprStart => char? '(' .subexprStart cs
  | .subexprEnd => close? .subexprStart .subexprEnd before cs
  | .paramStart => paramStart? before cs
  | .paramEnd => close? .paramStart .paramEnd before cs
  | .slice => slice? cs
  | .arrayStart => char? '[' .arrayStart cs
  | .arrayEnd => char? ']' .arrayEnd cs
  | .objectStart => char? '\x7b' .objectStart cs
  | .objectEnd => char? '\x7d' .objectEnd cs
  | .filter => filter? cs
  | .function => function? cs
  | .variable => variableName? cs
  | .keyPeriod => keyPeriod? cs
  | .keyBrackets => keyBrackets? cs
  | .null => constant? ["null", "NULL", "none", "NONE"] .null cs
  | .context => constant? ["_context"] .context cs
  | .bool =>
    match constant? ["true", "TRUE"] (.bool true) cs with
    | some found => some found
    | none => constant? ["false", "FALSE"] (.bool false) cs

end Found

/-- The kind may come after these lexemes, the last one first. -/
def mayFollow (before : List Lexeme) (kind : Kind) : Bool :=
  match before with
  | [] => true
  | prev :: _ => prev.kind.next.contains kind

/-- The message about a lexeme that may not stand where it does, at byte `offset`. -/
def misplaced (before : List Lexeme) (lexeme : Lexeme) (offset : Nat) (text : List Char) : String :=
  let previous := match before with
    | [] => ""
    | prev :: _ => prev.kind.name
  lexeme.kind.name ++ " cannot follow a " ++ previous ++ " at template:" ++ toString offset
    ++ " near '" ++ String.ofList (text.take 20) ++ "'"

/-- The first lexeme of the text that may stand there, and what follows it; `offset` is where the
text starts. -/
def nextLexeme (before : List Lexeme) (offset : Nat) (cs : List Char) :
    Except Failure (Lexeme × List Char) :=
  let found := Kind.all.filterMap (Found.ofKind? before cs)
  match found.find? fun (lexeme, _) => mayFollow before lexeme.kind with
  | some taken => .ok taken
  | none =>
    let message :=
      if found.isEmpty then
        "Unable to parse '" ++ String.ofList cs ++ "' at template position" ++ toString offset
      else
        " OR ".intercalate <| found.map fun (lexeme, rest) =>
          misplaced before lexeme offset (cs.take (cs.length - rest.length))
    .error ⟨.unparseableExpression message, none⟩

/-- The lexemes of the text at byte `offset`, after those of `before`, the last one first. Each step
takes at least one character, so `fuel` need not exceed the length of the text. -/
def lexemesFrom : Nat → List Lexeme → Nat → List Char → Except Failure (List Lexeme)
  | 0, before, _, _ => .ok before.reverse
  | fuel + 1, before, offset, cs =>
    let rest := trimStart cs
    let offset := offset + byteLength (cs.takeWhile isBlank)
    if rest.isEmpty then .ok before.reverse
    else
      match nextLexeme before offset rest with
      | .error e => .error e
      | .ok (lexeme, after) =>
        lexemesFrom fuel (lexeme :: before)
          (offset + byteLength (rest.take (rest.length - after.length))) after

/-- The lexemes of an expression. -/
def lexemes (cs : List Char) : Except Failure (List Lexeme) :=
  lexemesFrom (cs.length + 1) [] 0 cs

end Stencil.Expr
