import Stencil.Proofs.Dict
import Stencil.Render.Expression
import Stencil.Render.Loop

/-!
# Values under other settings

A value can hold templates: those of the functions and macros that it consists of.  `Value.adjust`
changes the settings of all of them and nothing else.  No operation on values looks at settings, so
that each of them gives the same for adjusted values, or the adjusted result.
-/
namespace Stencil

/-- The settings without strict variables. -/
def Options.lenient (o : Options) : Options := { o with strictVariables := false }

/-- The template with other settings. -/
def Template.adjust (f : Options → Options) (t : Template) : Template :=
  { t with options := f t.options }

/-- The block with other settings of its template. -/
def Block.adjust (f : Options → Options) (b : Block) : Block :=
  { b with template := b.template.adjust f }

namespace Value
variable (f : Options → Options)

mutual

/-- The value with other settings of the templates in it. -/
def adjust : Value → Value
  | .array identity items => .array identity (adjustItems items)
  | .object identity entries => .object identity (adjustEntries entries)
  | .lambda identity params body t context =>
    .lambda identity params body (t.adjust f) (adjustEntries context)
  | .templateMacro t name => .templateMacro (t.adjust f) name
  | v => v
termination_by structural v => v

/-- The items with other settings of the templates in them. -/
def adjustItems : List Value → List Value
  | [] => []
  | v :: rest => adjust v :: adjustItems rest
termination_by structural l => l

/-- The entries with other settings of the templates in them. -/
def adjustEntries : List (String × Value) → List (String × Value)
  | [] => []
  | e :: rest => adjustEntry e :: adjustEntries rest
termination_by structural l => l

/-- The entry with other settings of the templates in it. -/
def adjustEntry : String × Value → String × Value
  | (k, v) => (k, adjust v)
termination_by structural e => e

end

theorem adjustItems_eq (items : List Value) : adjustItems f items = items.map (adjust f) := by
  induction items with
  | nil => rfl
  | cons v rest ih => rw [adjustItems, ih, List.map_cons]

theorem adjustEntries_eq (entries : Dict Value) :
    adjustEntries f entries = Dict.mapValues (adjust f) entries := by
  induction entries with
  | nil => rfl
  | cons e rest ih =>
    obtain ⟨k, v⟩ := e
    rw [adjustEntries, ih]
    rfl

@[simp] theorem adjust_array (identity : Nat) (items : List Value) :
    (Value.array identity items).adjust f = .array identity (items.map (adjust f)) := by
  rw [adjust, adjustItems_eq]

@[simp] theorem adjust_object (identity : Nat) (entries : Dict Value) :
    (Value.object identity entries).adjust f
      = .object identity (Dict.mapValues (adjust f) entries) := by
  rw [adjust, adjustEntries_eq]

@[simp] theorem adjust_lambda (identity : Nat) (params : List String) (body : Expr)
    (t : Template) (context : Context) :
    (Value.lambda identity params body t context).adjust f
      = .lambda identity params body (t.adjust f) (Dict.mapValues (adjust f) context) := by
  rw [adjust, adjustEntries_eq]

@[simp] theorem adjust_bool (b : Bool) : (Value.bool b).adjust f = .bool b := rfl

@[simp] theorem adjust_number (x : Float) : (Value.number x).adjust f = .number x := rfl

/-! ## Questions about a value -/

@[simp] theorem isCallable_adjust (v : Value) : (v.adjust f).isCallable = v.isCallable := by
  cases v <;> rfl

@[simp] theorem isContainer_adjust (v : Value) : (v.adjust f).isContainer = v.isContainer := by
  cases v <;> rfl

@[simp] theorem isNone_adjust (v : Value) : (v.adjust f).isNone = v.isNone := by
  cases v <;> rfl

@[simp] theorem isUndefined_adjust (v : Value) : (v.adjust f).isUndefined = v.isUndefined := by
  cases v <;> rfl

@[simp] theorem string?_adjust (v : Value) : (v.adjust f).string? = v.string? := by
  cases v <;> rfl

@[simp] theorem toNumber_adjust (v : Value) : (v.adjust f).toNumber = v.toNumber := by
  cases v <;> rfl

@[simp] theorem isSafeFor_adjust (v : Value) (strategy : Strategy) :
    (v.adjust f).isSafeFor strategy = v.isSafeFor strategy := by
  cases v <;> rfl

@[simp] theorem isTruthy_adjust (v : Value) : (v.adjust f).isTruthy = v.isTruthy := by
  cases v with
  | array identity items => cases items <;> rfl
  | object identity entries => cases entries <;> rfl
  | _ => rfl

@[simp] theorem isEmpty_adjust (v : Value) : (v.adjust f).isEmpty = v.isEmpty := by
  cases v with
  | array identity items => cases items <;> rfl
  | object identity entries => cases entries <;> rfl
  | _ => rfl

@[simp] theorem isPresent_adjust (v : Value) : (v.adjust f).isPresent = v.isPresent := by
  rw [isPresent, isPresent, isNone_adjust, isContainer_adjust, isEmpty_adjust]

@[simp] theorem keys_adjust (v : Value) : (v.adjust f).keys = v.keys := by
  cases v with
  | array identity items => rw [adjust_array, keys, keys, List.length_map]
  | object identity entries => rw [adjust_object, keys, keys, Dict.keys_mapValues]
  | _ => rfl

mutual

theorem writeTo_adjust (done : String) (v : Value) :
    writeTo done (v.adjust f) = writeTo done v := by
  cases v with
  | array identity items => exact writeItemsTo_adjust done true items
  | object identity entries => exact writeEntriesTo_adjust done true entries
  | _ => rfl
termination_by structural v

theorem writeItemsTo_adjust (done : String) (first : Bool) (items : List Value) :
    writeItemsTo done first (adjustItems f items) = writeItemsTo done first items := by
  cases items with
  | nil => rfl
  | cons v rest =>
    rw [adjustItems, writeItemsTo, writeItemsTo, writeTo_adjust _ v]
    exact writeItemsTo_adjust _ false rest
termination_by structural items

theorem writeEntriesTo_adjust (done : String) (first : Bool) (entries : List (String × Value)) :
    writeEntriesTo done first (adjustEntries f entries) = writeEntriesTo done first entries := by
  cases entries with
  | nil => rfl
  | cons e rest =>
    rw [adjustEntries, writeEntriesTo, writeEntriesTo, writeEntryTo_adjust _ e]
    exact writeEntriesTo_adjust _ false rest
termination_by structural entries

theorem writeEntryTo_adjust (done : String) (e : String × Value) :
    writeEntryTo done (adjustEntry f e) = writeEntryTo done e := by
  obtain ⟨k, v⟩ := e
  exact writeTo_adjust done v
termination_by structural e

end

@[simp] theorem text_adjust (v : Value) : (v.adjust f).text = v.text := writeTo_adjust f "" v

@[simp] theorem output_adjust (autoescape : Autoescape) (v : Value) :
    (v.adjust f).output autoescape = v.output autoescape := by
  cases autoescape with
  | none => exact text_adjust f v
  | some strategy => rw [output, output, isSafeFor_adjust, text_adjust]

theorem escaped_adjust (v : Value) (strategy : Strategy) :
    (v.adjust f).escaped strategy = (v.escaped strategy).adjust f := by
  rw [escaped, escaped, isSafeFor_adjust, text_adjust]
  split <;> rfl

/-! ## Equality and order -/

theorem looseEqSimple_adjust (a b : Value) :
    looseEqSimple (a.adjust f) (b.adjust f) = looseEqSimple a b := by
  cases a <;> cases b <;> rfl

mutual

theorem looseEq_adjust (a b : Value) : (a.adjust f).looseEq (b.adjust f) = a.looseEq b := by
  cases a with
  | array identity items =>
    cases b with
    | array other others => exact looseEqItems_adjust items others
    | _ => exact looseEqSimple_adjust f (.array 0 []) _
  | object identity entries =>
    cases b with
    | object other others =>
      rw [adjust, adjust, looseEq, looseEq, looseEqEntries_adjust entries others,
        adjustEntries_eq, adjustEntries_eq, Dict.length_mapValues, Dict.length_mapValues]
    | _ => exact looseEqSimple_adjust f (.object 0 []) _
  | _ => exact looseEqSimple_adjust f _ b
termination_by structural a

theorem looseEqItems_adjust (items others : List Value) :
    looseEqItems (adjustItems f items) (adjustItems f others) = looseEqItems items others := by
  cases items with
  | nil => cases others <;> rfl
  | cons a rest =>
    cases others with
    | nil => rfl
    | cons b more =>
      rw [adjustItems, adjustItems, looseEqItems, looseEqItems, looseEq_adjust a b,
        looseEqItems_adjust rest more]
termination_by structural items

theorem looseEqEntries_adjust (entries others : List (String × Value)) :
    looseEqEntries (adjustEntries f entries) (adjustEntries f others)
      = looseEqEntries entries others := by
  cases entries with
  | nil => rfl
  | cons e rest =>
    rw [adjustEntries, looseEqEntries, looseEqEntries, looseEqEntry_adjust e others,
      looseEqEntries_adjust rest others]
termination_by structural entries

theorem looseEqEntry_adjust (e : String × Value) (others : List (String × Value)) :
    looseEqEntry (adjustEntry f e) (adjustEntries f others) = looseEqEntry e others := by
  obtain ⟨k, v⟩ := e
  rw [adjustEntry, looseEqEntry, looseEqEntry, adjustEntries_eq, Dict.find?_mapValues]
  cases Dict.find? others k with
  | none => rfl
  | some w => exact looseEq_adjust v w
termination_by structural e

end

@[simp] theorem strictEq_adjust (a b : Value) :
    (a.adjust f).strictEq (b.adjust f) = a.strictEq b := by
  cases a <;> cases b <;> rfl

@[simp] theorem compare?_adjust (a b : Value) :
    compare? (a.adjust f) (b.adjust f) = compare? a b := by
  rw [compare?, compare?, string?_adjust, string?_adjust, toNumber_adjust, toNumber_adjust]

@[simp] theorem holds_adjust (haystack needle : Value) :
    (haystack.adjust f).holds (needle.adjust f) = haystack.holds needle := by
  cases haystack with
  | array identity items =>
    rw [adjust_array, holds, holds, List.any_map]
    exact congrArg (items.any ·) (funext fun v => looseEq_adjust f v needle)
  | object identity entries =>
    rw [adjust_object, holds, holds, Dict.mapValues, List.any_map]
    exact congrArg (entries.any ·) (funext fun e => looseEq_adjust f e.2 needle)
  | string s | markup s safe =>
    show Text.occursIn (needle.adjust f).text s = Text.occursIn needle.text s
    rw [text_adjust]
  | _ => rfl

/-! ## Parts of a value -/

theorem get?_adjust (v : Value) (key : String) :
    (v.adjust f).get? key = (v.get? key).map (adjust f) := by
  cases v with
  | array identity items =>
    rw [adjust_array, get?, get?]
    cases index? key with
    | none => rfl
    | some i => exact List.getElem?_map
  | object identity entries =>
    rw [adjust_object, get?, get?]
    exact Dict.find?_mapValues (adjust f) entries key
  | _ => rfl

theorem lookup?_adjust (v : Value) (key : String) :
    (v.adjust f).lookup? key = (v.lookup? key).map (adjust f) := by
  have haccessor (verb : String) : ((v.adjust f).get? verb).filter isCallable
      = ((v.get? verb).filter isCallable).map (adjust f) := by
    rw [get?_adjust]
    cases v.get? verb with
    | none => rfl
    | some found =>
      rw [Option.map_some, Option.filter_some, Option.filter_some, isCallable_adjust]
      split <;> rfl
  have haccessors (name : String) (verbs : List String) :
      verbs.findSome? (fun verb => ((v.adjust f).get? (verb ++ name)).filter isCallable)
        = (verbs.findSome? fun verb => (v.get? (verb ++ name)).filter isCallable).map
          (adjust f) := by
    induction verbs with
    | nil => rfl
    | cons verb rest ih =>
      rw [List.findSome?_cons, List.findSome?_cons, haccessor, ih]
      cases (v.get? (verb ++ name)).filter isCallable <;> rfl
  rw [lookup?, lookup?, get?_adjust]
  cases v.get? key with
  | some found => rfl
  | none =>
    dsimp only [Option.map_none]
    cases capitalized key with
    | none => rfl
    | some name => exact haccessors name ["get", "is"]

@[simp] theorem missingKey_adjust (v : Value) (key : String) (container : Container) :
    (v.adjust f).missingKey key container = v.missingKey key container := by
  rw [missingKey, missingKey, keys_adjust]

/-- A key and a value with other settings of the templates in them. -/
def adjustPair (pair : Value × Value) : Value × Value := (pair.1.adjust f, pair.2.adjust f)

theorem entries?_adjust (v : Value) :
    (v.adjust f).entries? = v.entries?.map (List.map (adjustPair f)) := by
  cases v with
  | array identity items =>
    rw [adjust_array, entries?, entries?, Option.map_some, List.zipIdx_map, List.map_map,
      List.map_map]
    rfl
  | object identity entries =>
    rw [adjust_object, entries?, entries?, Option.map_some, Dict.mapValues, List.map_map,
      List.map_map]
    rfl
  | _ => rfl

theorem slice_adjust (v : Value) (identity : Nat) (start stop : Option Int) :
    (v.adjust f).slice identity start stop = (v.slice identity start stop).adjust f := by
  cases v with
  | array other items =>
    rw [adjust_array, slice, slice, adjust_array, sliceOf, sliceOf, List.length_map, List.map_drop,
      List.map_take]
  | _ => rfl

theorem macrosOf_adjust (t : Template) (identity : Nat) :
    macrosOf (t.adjust f) identity = (macrosOf t identity).adjust f := by
  rw [macrosOf, macrosOf, adjust_object, Dict.mapValues, List.map_map]
  rfl

end Value

/-! ## Operators -/

namespace Expr
open Value
variable (f : Options → Options)

theorem UnaryOp.apply_adjust (op : UnaryOp) (v : Value) :
    op.apply (v.adjust f) = (op.apply v).adjust f := by
  cases op with
  | not => rw [UnaryOp.apply, UnaryOp.apply, isTruthy_adjust, adjust_bool]
  | neg | pos => rw [UnaryOp.apply, UnaryOp.apply, toNumber_adjust, adjust_number]

theorem singleChar?_adjust (v : Value) : (v.adjust f).singleChar? = v.singleChar? := by
  rw [singleChar?, singleChar?, string?_adjust]

theorem rangeItems_adjust (a b : Value) :
    rangeItems (a.adjust f) (b.adjust f) = rangeItems a b := by
  rw [rangeItems, rangeItems, singleChar?_adjust, singleChar?_adjust, toNumber_adjust,
    toNumber_adjust, text_adjust, text_adjust]

theorem matchesPattern_adjust (a b : Value) :
    matchesPattern (a.adjust f) (b.adjust f) = matchesPattern a b := by
  rw [matchesPattern, matchesPattern, text_adjust, text_adjust]

/-- The items of a range are texts or numbers. -/
theorem rangeItems_plain {a b : Value} {items : List Value} (h : rangeItems a b = .ok items) :
    ∀ v ∈ items, (∃ s, v = .string s) ∨ ∃ x, v = .number x := by
  rw [rangeItems] at h
  dsimp only at h
  intro v hv
  split at h
  · split at h
    · cases h
    · cases h
      obtain ⟨c, -, rfl⟩ := List.mem_map.mp hv
      exact .inl ⟨_, rfl⟩
  · split at h
    · cases h
    · split at h
      · cases h
      · cases h
        obtain ⟨n, -, rfl⟩ := List.mem_map.mp hv
        exact .inr ⟨_, rfl⟩

theorem BinaryOp.apply_adjust (op : BinaryOp) (identity : Nat) (a b : Value) :
    op.apply identity (a.adjust f) (b.adjust f) = (op.apply identity a b).map (adjust f) := by
  have hword (v : Value) : (v.adjust f).toWord = v.toWord := by rw [toWord, toWord, toNumber_adjust]
  cases op with
  | range =>
    rw [BinaryOp.apply, BinaryOp.apply, rangeItems_adjust]
    cases hitems : rangeItems a b with
    | error failure => rfl
    | ok items =>
      have hsame : items.map (adjust f) = items :=
        (List.map_congr_left fun v hv => by
          obtain ⟨s, rfl⟩ | ⟨x, rfl⟩ := rangeItems_plain hitems v hv <;> rfl).trans items.map_id
      show Except.ok (Value.array identity items)
        = Except.ok ((Value.array identity items).adjust f)
      rw [adjust_array, hsame]
  | «matches» =>
    rw [BinaryOp.apply, BinaryOp.apply, matchesPattern_adjust]
    cases matchesPattern a b <;> rfl
  | nullCoalesce =>
    rw [BinaryOp.apply, BinaryOp.apply, isPresent_adjust]
    split <;> rfl
  | elvis | shortConditional =>
    rw [BinaryOp.apply, BinaryOp.apply, isTruthy_adjust]
    split <;> rfl
  | _ =>
    simp only [BinaryOp.apply, toNumber_adjust, text_adjust, looseEq_adjust, strictEq_adjust,
      compare?_adjust, holds_adjust, isTruthy_adjust, hword]
    rfl

end Expr
end Stencil
