import Stencil.Expr.Postfix
import Stencil.Locator
import Stencil.Text.Nesting
import Stencil.Tree.Node

/-!
Reading the text of a tag.  The shapes of the tags are tried in a fixed order, and the first that
fits is taken.  Where a shape has words such as `with` or `if` after an expression, the expression
is the shortest start of the text that lets the rest fit; quotes do not hide those words.
-/

namespace Stencil

/-- The kinds of tags, ends of tags included. -/
inductive TagKind where
  | branch
  | elseBranch
  | otherwise
  | endBranch
  | loop
  | endLoop
  | assign
  | capture
  | endCapture
  | block
  | endBlock
  | inherits
  | uses
  | includes
  | embeds
  | endEmbeds
  | imports
  | importsNames
  | macroDef
  | endMacro
  | scoped
  | endScoped
  | spaceless
  | endSpaceless
  | apply
  | endApply
  | filter
  | endFilter
  | autoescape
  | endAutoescape
  | evaluate
  | deprecated
  deriving DecidableEq, Repr

namespace TagKind

/-- The name of the tag in messages. -/
def name : TagKind → String
  | .branch => "if"
  | .elseBranch => "elseif"
  | .otherwise => "else"
  | .endBranch => "endif"
  | .loop => "for"
  | .endLoop => "endfor"
  | .assign => "set"
  | .capture => "setcapture"
  | .endCapture => "endset"
  | .block => "block"
  | .endBlock => "endblock"
  | .inherits => "extends"
  | .uses => "use"
  | .includes => "include"
  | .embeds => "embed"
  | .endEmbeds => "endembed"
  | .imports => "import"
  | .importsNames => "from"
  | .macroDef => "macro"
  | .endMacro => "endmacro"
  | .scoped => "with"
  | .endScoped => "endwith"
  | .spaceless => "spaceless"
  | .endSpaceless => "endspaceless"
  | .apply => "apply"
  | .endApply => "endapply"
  | .filter => "filter"
  | .endFilter => "endfilter"
  | .autoescape => "autoescape"
  | .endAutoescape => "endautoescape"
  | .evaluate => "do"
  | .deprecated => "deprecated"

/-- The tag stands on its own or opens something; the others close or continue a tag. -/
def isOpen : TagKind → Bool
  | .elseBranch | .otherwise | .endBranch | .endLoop | .endCapture | .endBlock | .endEmbeds
  | .endMacro | .endScoped | .endSpaceless | .endApply | .endFilter | .endAutoescape => false
  | _ => true

/-- The tags that may close or continue this one. -/
def next : TagKind → List TagKind
  | .branch => [.elseBranch, .otherwise, .endBranch]
  | .elseBranch => [.otherwise, .elseBranch, .endBranch]
  | .otherwise => [.endBranch, .endLoop]
  | .loop => [.otherwise, .endLoop]
  | .capture => [.endCapture]
  | .block => [.endBlock]
  | .embeds => [.endEmbeds]
  | .macroDef => [.endMacro]
  | .scoped => [.endScoped]
  | .spaceless => [.endSpaceless]
  | .apply => [.endApply]
  | .filter => [.endFilter]
  | .autoescape => [.endAutoescape]
  | _ => []

end TagKind

/-- A tag that was read; ends of tags say nothing more than their kind. -/
structure TagText where
  kind : TagKind
  tag : Option Tag

namespace TagText
open Text

/-- The tags that may close or continue this one. A block with an expression is complete. -/
def next (t : TagText) : List TagKind :=
  match t.tag with
  | some (.block _ (some _)) => []
  | _ => t.kind.next

/-- The text fits no tag. -/
def malformed (text : List Char) : Failure := ⟨.malformedTag (String.ofList text), none⟩

/-- The text, unless it is empty. -/
def nonempty? (cs : List Char) : Option (List Char) := if cs.isEmpty then none else some cs

/-- What follows a word and blanks, if there is something. -/
def argument? (word : String) (cs : List Char) : Option (List Char) :=
  ((after? word.toList cs).bind afterBlanks?).bind nonempty?

/-- What follows blanks and a word. -/
def afterWord? (word : String) (cs : List Char) : Option (List Char) :=
  (afterBlanks? cs).bind (after? word.toList)

/-- What follows a word between blanks, if there is something. -/
def wordArgument? (word : String) (cs : List Char) : Option (List Char) :=
  (afterBlanks? cs).bind (argument? word)

/-- The shortest start of the text, of at least one character, whose rest fits `tail`. -/
def shortest? {α : Type} (tail : List Char → Option α) : List Char → Option (List Char × α)
  | [] => none
  | c :: cs =>
    match tail cs with
    | some a => some ([c], a)
    | none => (shortest? tail cs).map fun (start, a) => (c :: start, a)

/-- The end of the text, or a word and its argument. -/
def orEnd? (word : String) (cs : List Char) : Option (Option (List Char)) :=
  if cs.isEmpty then some none else (wordArgument? word cs).map some

/-- The end of the text, or the word `only` before it. -/
def only? (cs : List Char) : Option Bool :=
  if cs.isEmpty then some false
  else match afterWord? "only" cs with
    | some [] => some true
    | _ => none

/-- A name that is all of the text. -/
def wholeName? (more : Char → Bool) (cs : List Char) : Option String :=
  match nameWith? more cs with
  | some (name, []) => some (String.ofList name)
  | _ => none

/-- Word characters and dashes, which names of blocks may hold. -/
def isBlockWord (c : Char) : Bool := isWord c || c = '-'

/-- Compile the text of an expression without the blanks around it. -/
def expression (cs : List Char) : Except Failure Expr := Expr.compile (String.ofList (trim cs))

/-- Compile an expression that may be missing. -/
def optionalExpression (cs : Option (List Char)) : Except Failure (Option Expr) :=
  match cs with
  | none => .ok none
  | some cs => (expression cs).map some

/-- What a tag says once its shape is known: nothing for an end of a tag, or a failure to read one
of its parts. -/
abbrev Reading := Except Failure (Option Tag)

/-- A tag made of one expression. -/
def ofExpression (tag : Expr → Tag) (cs : List Char) : Reading :=
  (expression cs).map fun e => some (tag e)

/-- Exactly one word. -/
def exactly? (word : String) (reading : Reading) (text : List Char) : Option Reading :=
  if text = word.toList then some reading else none

/-- A word, alone or with a name of the class `more` after it. -/
def endTag? (word : String) (more : Char → Bool) (text : List Char) : Option Reading := do
  let rest ← after? word.toList text
  if rest.isEmpty then some (.ok none)
  else
    let name ← (afterBlanks? rest).bind nonempty?
    if name.all more then some (.ok none) else none

/-- The characters that may stand between `for` and `in`. -/
def isLoopNames (c : Char) : Bool := c.isAlphanum || c = '_' || c = ',' || isBlank c

/-- The key, if there is one, and the value that a loop binds. -/
def loopNames? (cs : List Char) : Option (Option String × String) :=
  match (Locator.splitOn ',' cs).map trim with
  | [value] => if value.isEmpty then none else some (none, String.ofList value)
  | [key, value] =>
    if key.isEmpty || value.isEmpty then none
    else some (some (String.ofList key), String.ofList value)
  | _ => none

/-- `for names in expression if condition`. -/
def loop? (text : List Char) : Option Reading := do
  let rest ← argument? "for" text
  let (names, (subject, condition)) ← shortest? (fun cs =>
    (wordArgument? "in" cs).bind (shortest? (orEnd? "if"))) rest
  if names.all isLoopNames then
    some <| match loopNames? names with
      | none => .error (malformed text)
      | some (key, value) => do
        let subject ← expression subject
        let condition ← optionalExpression condition
        .ok (some (.loop key value subject condition))
  else none

/-- `set name = expression`. -/
def assign? (text : List Char) : Option Reading := do
  let rest ← argument? "set" text
  let (name, rest) ← name? rest
  let rest ← after? ['='] (trimStart rest)
  let value ← nonempty? (trimStart rest)
  some (ofExpression (.assign (String.ofList name)) value)

/-- `set name`. -/
def capture? (text : List Char) : Option Reading := do
  let rest ← argument? "set" text
  let name ← wholeName? isWord rest
  some (.ok (some (.capture name)))

/-- `block name` or `block name expression`. -/
def block? (text : List Char) : Option Reading := do
  let rest ← argument? "block" text
  let (name, rest) ← nameWith? isBlockWord rest
  let body ← if rest.isEmpty then some none
    else ((afterBlanks? rest).bind nonempty?).map some
  some do
    let body ← optionalExpression body
    .ok (some (.block (String.ofList name) body))

/-- A name and the name it is given: `name as alias`. -/
def renaming? (item : List Char) : Option (String × Option String) := do
  let (name, rest) ← nameWith? isBlockWord item
  if rest.isEmpty then some (String.ofList name, none)
  else
    let newName ← (wordArgument? "as" rest).bind (wholeName? isBlockWord)
    some (String.ofList name, some newName)

/-- `use expression with name as alias, ...`. -/
def uses? (text : List Char) : Option Reading := do
  let rest ← argument? "use" text
  let (subject, list) ← shortest? (orEnd? "with") rest
  some do
    let renames ← (arguments (trim (list.getD []))).mapM fun item =>
      match renaming? item with
      | some (name, some newName) => .ok (name, newName)
      | _ => .error (malformed text)
    let subject ← expression subject
    .ok (some (.uses subject renames))

/-- What may follow the expression of an inclusion, after its `ignore missing`. -/
def inclusionEnd? (cs : List Char) : Option (Option (List Char) × Bool) :=
  match wordArgument? "with" cs with
  | some rest => (shortest? only? rest).map fun (bindings, only) => (some bindings, only)
  | none => (only? cs).map fun only => (none, only)

/-- What may follow the expression of an inclusion. -/
def inclusionTail? (cs : List Char) : Option (Bool × Option (List Char) × Bool) :=
  let ignoring := ((afterWord? "ignore" cs).bind (afterWord? "missing")).bind inclusionEnd?
  match ignoring with
  | some (bindings, only) => some (true, bindings, only)
  | none => (inclusionEnd? cs).map fun (bindings, only) => (false, bindings, only)

/-- `include expression ignore missing with variables only`, and the same for `embed`. -/
def inclusion? (word : String) (tag : Inclusion → Tag) (text : List Char) : Option Reading := do
  let rest ← argument? word text
  let (subject, (ignoreMissing, bindings, only)) ← shortest? inclusionTail? rest
  some do
    let subject ← expression subject
    let bindings ← optionalExpression bindings
    .ok (some (tag ⟨subject, bindings, only, ignoreMissing⟩))

/-- `import expression as name`. -/
def imports? (text : List Char) : Option Reading := do
  let rest ← argument? "import" text
  let (subject, name) ← shortest? (fun cs =>
    (wordArgument? "as" cs).bind (wholeName? isWord)) rest
  some (ofExpression (fun e => .imports e name) subject)

/-- `from expression import name as alias, ...`. -/
def importsNames? (text : List Char) : Option Reading := do
  let rest ← argument? "from" text
  let (subject, list) ← shortest? (wordArgument? "import") rest
  some do
    let names ← (arguments (trim list)).mapM fun item =>
      match renaming? item with
      | some (name, newName) => .ok (name, newName.getD name)
      | none => .error (malformed text)
    let subject ← expression subject
    .ok (some (.importsNames subject names))

/-- A parameter of a macro: `name` or `name = default`. -/
def macroParam? (item : List Char) : Option (String × Option (List Char)) := do
  let (name, rest) ← name? item
  match trimStart rest with
  | [] => some (String.ofList name, none)
  | '=' :: rest =>
    let default ← nonempty? (trimStart rest)
    some (String.ofList name, some default)
  | _ => none

/-- `macro name(parameters)`. -/
def macroDef? (text : List Char) : Option Reading := do
  let rest ← argument? "macro" text
  let (name, rest) ← name? rest
  let rest ← after? ['('] (trimStart rest)
  if rest.getLast? = some ')' then
    some do
      let params ← (arguments (trim rest.dropLast)).mapM fun item =>
        match macroParam? item with
        | some (name, default) => (optionalExpression default).map fun e => ⟨name, e⟩
        | none => .error (malformed text)
      .ok (some (.macroDef (String.ofList name) params))
  else none

/-- `with`, `with only`, `with expression` or `with expression only`. -/
def scoped? (text : List Char) : Option Reading := do
  let rest ← after? "with".toList text
  if rest.isEmpty then some (.ok (some (.scoped none false)))
  else
    let (subject, only) ← ((afterBlanks? rest).bind nonempty?).bind (shortest? only?)
    if trim subject = "only".toList && !only then some (.ok (some (.scoped none true)))
    else some (ofExpression (fun e => .scoped (some e) only) subject)

/-- `apply filters`, with or without a bar in front, and the same for `filter`. -/
def applied? (word : String) (text : List Char) : Option Reading := do
  let rest ← argument? word text
  let filters := match trim rest with
    | '|' :: cs => '|' :: cs
    | cs => '|' :: cs
  some (ofExpression .apply filters)

/-- The escaping that a tag asks for: that of a page if it does not say. -/
def strategy? : Option (List Char) → Option Autoescape
  | none => some (some .html)
  | some cs =>
    if cs = "true".toList then some (some .html)
    else if cs = "false".toList then some none
    else match cs with
      | opening :: rest =>
        if isQuote opening && rest.getLast?.any isQuote then
          (Strategy.ofName? (String.ofList rest.dropLast)).map some
        else none
      | [] => none

/-- `autoescape`, alone or with a strategy. -/
def autoescape? (text : List Char) : Option Reading := do
  let rest ← after? "autoescape".toList text
  let strategy ← if rest.isEmpty then some none else ((afterBlanks? rest).bind nonempty?).map some
  some <| match strategy? (strategy.map trim) with
    | some strategy => .ok (some (.autoescape strategy))
    | none => .error (malformed text)

/-- A word and an expression. -/
def keyword? (word : String) (tag : Expr → Tag) (text : List Char) : Option Reading :=
  (argument? word text).map (ofExpression tag)

/-- The shapes of the tags in the order in which they are tried. -/
def shapes : List (TagKind × (List Char → Option Reading)) :=
  [(.branch, keyword? "if" .branch),
    (.elseBranch, keyword? "elseif" .elseBranch),
    (.otherwise, exactly? "else" (.ok (some .otherwise))),
    (.endBranch, exactly? "endif" (.ok none)),
    (.loop, loop?),
    (.endLoop, exactly? "endfor" (.ok none)),
    (.assign, assign?),
    (.capture, capture?),
    (.endCapture, exactly? "endset" (.ok none)),
    (.block, block?),
    (.endBlock, endTag? "endblock" isBlockWord),
    (.inherits, keyword? "extends" .inherits),
    (.uses, uses?),
    (.includes, inclusion? "include" .includes),
    (.embeds, inclusion? "embed" .embeds),
    (.endEmbeds, exactly? "endembed" (.ok none)),
    (.imports, imports?),
    (.importsNames, importsNames?),
    (.macroDef, macroDef?),
    (.endMacro, endTag? "endmacro" isWord),
    (.scoped, scoped?),
    (.endScoped, exactly? "endwith" (.ok none)),
    (.spaceless, exactly? "spaceless" (.ok (some .spaceless))),
    (.endSpaceless, exactly? "endspaceless" (.ok none)),
    (.apply, applied? "apply"),
    (.endApply, exactly? "endapply" (.ok none)),
    (.filter, applied? "filter"),
    (.endFilter, exactly? "endfilter" (.ok none)),
    (.autoescape, autoescape?),
    (.endAutoescape, exactly? "endautoescape" (.ok none)),
    (.evaluate, keyword? "do" .evaluate),
    (.deprecated, keyword? "deprecated" .deprecated)]

/-- The tag that a text, without blanks at its ends, writes. -/
def read (text : String) : Except Failure TagText :=
  let cs := text.toList
  let fitting : Option (TagKind × Reading) :=
    shapes.findSome? fun (kind, shape) => (shape cs).map fun reading => (kind, reading)
  match fitting with
  | some (kind, .ok tag) => .ok ⟨kind, tag⟩
  | some (_, .error e) => .error e
  | none => .error (malformed cs)

end TagText
end Stencil
