import Stencil.Text.Hex

/-!
Escaping text for the place where it is put: the text of a page, an attribute, a script, a style
sheet or an address.  Each strategy replaces the characters that could end or change that place and
leaves a fixed alphabet as it is.
-/

namespace Stencil

/-- A place that text is escaped for. -/
inductive Strategy where
  | html
  | js
  | css
  | url
  | htmlAttr
  deriving DecidableEq, Repr

namespace Strategy
open Text

/-- The name of the strategy in templates and options. -/
def name : Strategy → String
  | .html => "html"
  | .js => "js"
  | .css => "css"
  | .url => "url"
  | .htmlAttr => "html_attr"

/-- All strategies. -/
def all : List Strategy := [.html, .js, .css, .url, .htmlAttr]

/-- The strategy of a name. -/
def ofName? (s : String) : Option Strategy := all.find? fun strategy => strategy.name = s

/-- An ASCII letter or digit. -/
def isPlain (c : Char) : Bool := c.isAlphanum

/-- Characters of a page: the five that can start markup or end a quoted attribute. -/
def htmlChar (c : Char) : List Char :=
  match c with
  | '&' => "&amp;".toList
  | '<' => "&lt;".toList
  | '>' => "&gt;".toList
  | '"' => "&quot;".toList
  | '\'' => "&#x27;".toList
  | c => [c]

/-- Characters of an attribute without quotes: every ASCII character but letters and digits. -/
def htmlAttrChar (c : Char) : List Char :=
  match c with
  | '&' => "&amp;".toList
  | '<' => "&lt;".toList
  | '>' => "&gt;".toList
  | '"' => "&quot;".toList
  | c =>
    if isPlain c || 0x80 ≤ c.toNat then [c]
    else "&#x".toList ++ paddedHex 2 c.toNat ++ [';']

/-- The UTF-16 units of a character. -/
def utf16Units (c : Char) : List Nat :=
  if c.toNat < 0x10000 then [c.toNat]
  else
    let n := c.toNat - 0x10000
    [0xD800 + n / 0x400, 0xDC00 + n % 0x400]

/-- Characters of a script: `\xHH` inside ASCII, a `\uHHHH` for each UTF-16 unit outside. -/
def jsChar (c : Char) : List Char :=
  if isPlain c || c = ',' || c = '.' || c = '_' then [c]
  else if c.toNat < 0x80 then '\\' :: 'x' :: paddedHex 2 c.toNat
  else (utf16Units c).flatMap fun unit => '\\' :: 'u' :: paddedHex 4 unit

/-- Characters of a style sheet: a backslash, the code point and a space that ends it. -/
def cssChar (c : Char) : List Char :=
  if isPlain c then [c] else '\\' :: upperHex c.toNat ++ [' ']

/-- Characters of an address: each byte of their UTF-8 form after a percent sign. -/
def urlChar (c : Char) : List Char :=
  if isPlain c || c = '-' || c = '_' || c = '.' || c = '~' then [c]
  else (String.utf8EncodeChar c).flatMap fun byte => '%' :: paddedHex 2 byte.toNat

/-- What stands for one character. -/
def escapeChar : Strategy → Char → List Char
  | .html => htmlChar
  | .js => jsChar
  | .css => cssChar
  | .url => urlChar
  | .htmlAttr => htmlAttrChar

/-- The text with each character escaped. -/
def escape (strategy : Strategy) (cs : List Char) : List Char := cs.flatMap strategy.escapeChar

/-- `escape` on strings. -/
def escapeString (strategy : Strategy) (s : String) : String :=
  String.ofList (strategy.escape s.toList)

end Strategy
end Stencil
