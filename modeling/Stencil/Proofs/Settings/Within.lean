import Stencil.Proofs.Settings.Adjust

/-!
# What values are made of

A vocabulary says of which functions, macros and pieces of markup values may be made.  The
operations on values make none of these, but for escaping, so that their results are within a
vocabulary if their operands are.
-/
namespace Stencil

/-- What values may be made of, besides scalars and containers. -/
structure Vocabulary where
  /-- The texts that may be marked as safe. -/
  markup : String → Prop
  /-- There may be functions of the host. -/
  host : Prop
  /-- The functions that may be written in a template, by their body and their template. -/
  lambda : Expr → Template → Prop
  templateMacro : Template → Prop

/-- The vocabulary leaves nothing out. -/
structure Vocabulary.Full (V : Vocabulary) : Prop where
  markup : ∀ s, V.markup s
  host : V.host
  lambda : ∀ body t, V.lambda body t
  templateMacro : ∀ t, V.templateMacro t

namespace Value

section
variable (V : Vocabulary)

mutual

/-- The value is made of what the vocabulary has. -/
def Within : Value → Prop
  | .markup s _ => V.markup s
  | .array _ items => itemsWithin items
  | .object _ entries => entriesWithin entries
  | .hostFunction _ => V.host
  | .lambda _ _ body t context => V.lambda body t ∧ entriesWithin context
  | .templateMacro t _ => V.templateMacro t
  | _ => True
termination_by structural v => v

/-- All items of a list are. -/
def itemsWithin : List Value → Prop
  | [] => True
  | v :: rest => v.Within ∧ itemsWithin rest
termination_by structural l => l

/-- The values of all entries are. -/
def entriesWithin : List (String × Value) → Prop
  | [] => True
  | e :: rest => entryWithin e ∧ entriesWithin rest
termination_by structural l => l

/-- The value of the entry is. -/
def entryWithin : String × Value → Prop
  | (_, v) => v.Within
termination_by structural e => e

end
end

section
variable {V : Vocabulary}

theorem itemsWithin_iff {items : List Value} : itemsWithin V items ↔ ∀ v ∈ items, v.Within V := by
  induction items with
  | nil => exact iff_of_true trivial (List.forall_mem_nil _)
  | cons v rest ih => rw [itemsWithin, ih, List.forall_mem_cons]

theorem entriesWithin_iff {entries : Dict Value} :
    entriesWithin V entries ↔ entries.All (Within V) := by
  induction entries with
  | nil => exact iff_of_true trivial Dict.all_nil
  | cons e rest ih => rw [entriesWithin, ih, Dict.all_cons, entryWithin]

theorem within_array {identity : Nat} {items : List Value} :
    (Value.array identity items).Within V ↔ ∀ v ∈ items, v.Within V := by
  rw [Within, itemsWithin_iff]

theorem within_object {identity : Nat} {entries : Dict Value} :
    (Value.object identity entries).Within V ↔ entries.All (Within V) := by
  rw [Within, entriesWithin_iff]

theorem within_lambda {identity : Nat} {params : List String} {body : Expr} {t : Template}
    {context : Context} : (Value.lambda identity params body t context).Within V
      ↔ V.lambda body t ∧ context.All (Within V) := by
  rw [Within, entriesWithin_iff]

/-! ## Other vocabularies -/

section
variable {W : Vocabulary}

mutual

theorem Within.mono (hmarkup : ∀ s, V.markup s → W.markup s) (hhost : V.host → W.host)
    (hlambda : ∀ body t, V.lambda body t → W.lambda body t)
    (hmade : ∀ t, V.templateMacro t → W.templateMacro t) {v : Value} (h : v.Within V) :
    v.Within W := by
  cases v with
  | markup s safe => exact hmarkup s h
  | array identity items => exact itemsWithin.mono hmarkup hhost hlambda hmade h
  | object identity entries => exact entriesWithin.mono hmarkup hhost hlambda hmade h
  | hostFunction identity => exact hhost h
  | lambda identity params body t context =>
    exact ⟨hlambda body t h.1, entriesWithin.mono hmarkup hhost hlambda hmade h.2⟩
  | templateMacro t name => exact hmade t h
  | _ => trivial
termination_by structural v

theorem itemsWithin.mono (hmarkup : ∀ s, V.markup s → W.markup s) (hhost : V.host → W.host)
    (hlambda : ∀ body t, V.lambda body t → W.lambda body t)
    (hmade : ∀ t, V.templateMacro t → W.templateMacro t) {items : List Value}
    (h : itemsWithin V items) : itemsWithin W items := by
  cases items with
  | nil => trivial
  | cons v rest =>
    exact ⟨Within.mono hmarkup hhost hlambda hmade h.1,
      itemsWithin.mono hmarkup hhost hlambda hmade h.2⟩
termination_by structural items

theorem entriesWithin.mono (hmarkup : ∀ s, V.markup s → W.markup s) (hhost : V.host → W.host)
    (hlambda : ∀ body t, V.lambda body t → W.lambda body t)
    (hmade : ∀ t, V.templateMacro t → W.templateMacro t) {entries : List (String × Value)}
    (h : entriesWithin V entries) : entriesWithin W entries := by
  cases entries with
  | nil => trivial
  | cons e rest =>
    exact ⟨entryWithin.mono hmarkup hhost hlambda hmade h.1,
      entriesWithin.mono hmarkup hhost hlambda hmade h.2⟩
termination_by structural entries

theorem entryWithin.mono (hmarkup : ∀ s, V.markup s → W.markup s) (hhost : V.host → W.host)
    (hlambda : ∀ body t, V.lambda body t → W.lambda body t)
    (hmade : ∀ t, V.templateMacro t → W.templateMacro t) {e : String × Value}
    (h : entryWithin V e) : entryWithin W e := by
  obtain ⟨k, v⟩ := e
  exact Within.mono (v := v) hmarkup hhost hlambda hmade h
termination_by structural e

end
end

/-! ## Full vocabularies -/

mutual

/-- Every value is within a vocabulary that leaves nothing out. -/
theorem within_of_full (hV : V.Full) (v : Value) : v.Within V := by
  cases v with
  | markup s safe => exact hV.markup s
  | array identity items => exact itemsWithin_of_full hV items
  | object identity entries => exact entriesWithin_of_full hV entries
  | hostFunction identity => exact hV.host
  | lambda identity params body t context =>
    exact ⟨hV.lambda body t, entriesWithin_of_full hV context⟩
  | templateMacro t name => exact hV.templateMacro t
  | _ => trivial
termination_by structural v

theorem itemsWithin_of_full (hV : V.Full) (items : List Value) : itemsWithin V items := by
  cases items with
  | nil => trivial
  | cons v rest => exact ⟨within_of_full hV v, itemsWithin_of_full hV rest⟩
termination_by structural items

theorem entriesWithin_of_full (hV : V.Full) (entries : List (String × Value)) :
    entriesWithin V entries := by
  cases entries with
  | nil => trivial
  | cons e rest => exact ⟨entryWithin_of_full hV e, entriesWithin_of_full hV rest⟩
termination_by structural entries

theorem entryWithin_of_full (hV : V.Full) (e : String × Value) : entryWithin V e := by
  obtain ⟨k, v⟩ := e
  exact within_of_full hV v
termination_by structural e

end

/-! ## Parts and results -/

theorem Within.get? {v : Value} (h : v.Within V) {key : String} {found : Value}
    (hfound : v.get? key = some found) : found.Within V := by
  cases v with
  | object identity entries => exact (within_object.mp h).find? hfound
  | array identity items =>
    obtain ⟨i, -, hi⟩ := Option.bind_eq_some_iff.mp hfound
    exact within_array.mp h found (List.mem_of_getElem? hi)
  | _ => cases hfound

theorem Within.lookup? {v : Value} (h : v.Within V) {key : String} {found : Value}
    (hfound : v.lookup? key = some found) : found.Within V := by
  rw [Value.lookup?] at hfound
  split at hfound
  · next hget =>
    obtain rfl := Option.some.inj hfound
    exact h.get? hget
  · obtain ⟨name, -, haccessor⟩ := Option.bind_eq_some_iff.mp hfound
    obtain ⟨verb, -, hfilter⟩ := List.exists_of_findSome?_eq_some haccessor
    exact h.get? (Option.filter_eq_some_iff.mp hfilter).1

theorem Within.entries? {v : Value} (h : v.Within V) {entries : List (Value × Value)}
    (hentries : v.entries? = some entries) :
    ∀ entry ∈ entries, entry.1.Within V ∧ entry.2.Within V := by
  cases v with
  | array identity items =>
    obtain rfl := Option.some.inj hentries
    intro entry hentry
    obtain ⟨⟨v, i⟩, hv, rfl⟩ := List.mem_map.mp hentry
    exact ⟨trivial, within_array.mp h v (List.fst_mem_of_mem_zipIdx hv)⟩
  | object identity other =>
    obtain rfl := Option.some.inj hentries
    intro entry hentry
    obtain ⟨⟨k, v⟩, hv, rfl⟩ := List.mem_map.mp hentry
    exact ⟨trivial, within_object.mp h (k, v) hv⟩
  | _ => cases hentries

theorem Within.slice {v : Value} (h : v.Within V) (identity : Nat) (start stop : Option Int) :
    (v.slice identity start stop).Within V := by
  cases v with
  | array other items =>
    exact within_array.mpr fun v hv =>
      within_array.mp h v (List.mem_of_mem_take (List.mem_of_mem_drop hv))
  | _ => trivial

theorem within_macrosOf {t : Template} (h : V.templateMacro t) (identity : Nat) :
    (macrosOf t identity).Within V := by
  refine within_object.mpr fun entry hentry => ?_
  obtain ⟨⟨name, m⟩, -, rfl⟩ := List.mem_map.mp hentry
  exact h

theorem Within.escaped {v : Value} (h : v.Within V) {strategy : Strategy}
    (hmarkup : V.markup (strategy.escapeString v.text)) : (v.escaped strategy).Within V := by
  rw [Value.escaped]
  split
  · exact h
  · exact hmarkup

end
end Value

/-! ## Operators -/

namespace Expr
open Value
variable {V : Vocabulary}

theorem UnaryOp.within_apply (op : UnaryOp) (v : Value) : (op.apply v).Within V := by
  cases op <;> trivial

theorem BinaryOp.within_apply {op : BinaryOp} {identity : Nat} {a b v : Value} (ha : a.Within V)
    (hb : b.Within V) (h : op.apply identity a b = .ok v) : v.Within V := by
  cases op with
  | range =>
    rw [BinaryOp.apply] at h
    cases hitems : rangeItems a b with
    | error failure =>
      rw [hitems] at h
      cases h
    | ok items =>
      rw [hitems] at h
      cases h
      refine within_array.mpr fun v hv => ?_
      obtain ⟨s, rfl⟩ | ⟨x, rfl⟩ := rangeItems_plain hitems v hv <;> trivial
  | «matches» =>
    rw [BinaryOp.apply] at h
    cases hfound : matchesPattern a b with
    | error failure =>
      rw [hfound] at h
      cases h
    | ok found =>
      rw [hfound] at h
      cases h
      trivial
  | nullCoalesce | elvis =>
    obtain rfl := Except.ok.inj h
    split
    · exact ha
    · exact hb
  | shortConditional =>
    obtain rfl := Except.ok.inj h
    split
    · exact hb
    · trivial
  | conditional => cases h
  | _ =>
    obtain rfl := Except.ok.inj h
    trivial

end Expr

/-! ## Values of the host -/

/-- The vocabulary of a host, which has no templates to make functions of. -/
def Vocabulary.foreign : Vocabulary := ⟨fun _ => True, True, fun _ _ => False, fun _ => False⟩

namespace Value

/-- A host can have made the value: there is no template in it. -/
def Foreign (v : Value) : Prop := v.Within .foreign

mutual

/-- Values without templates have no settings. -/
theorem Foreign.adjust {v : Value} (h : v.Within .foreign) (f : Options → Options) :
    v.adjust f = v := by
  cases v with
  | array identity items => exact congrArg (Value.array identity) (adjustItems_foreign h f)
  | object identity entries => exact congrArg (Value.object identity) (adjustEntries_foreign h f)
  | lambda identity params body t context => exact h.1.elim
  | templateMacro t name => exact h.elim
  | _ => rfl
termination_by structural v

theorem adjustItems_foreign {items : List Value} (h : itemsWithin .foreign items)
    (f : Options → Options) : adjustItems f items = items := by
  cases items with
  | nil => rfl
  | cons v rest => rw [adjustItems, Foreign.adjust h.1 f, adjustItems_foreign h.2 f]
termination_by structural items

theorem adjustEntries_foreign {entries : List (String × Value)} (h : entriesWithin .foreign entries)
    (f : Options → Options) : adjustEntries f entries = entries := by
  cases entries with
  | nil => rfl
  | cons e rest => rw [adjustEntries, adjustEntry_foreign h.1 f, adjustEntries_foreign h.2 f]
termination_by structural entries

theorem adjustEntry_foreign {e : String × Value} (h : entryWithin .foreign e)
    (f : Options → Options) : adjustEntry f e = e := by
  obtain ⟨k, v⟩ := e
  exact congrArg (Prod.mk k) (Foreign.adjust h f)
termination_by structural e

end

theorem map_adjust_foreign {items : List Value} (h : ∀ v ∈ items, v.Foreign)
    (f : Options → Options) : items.map (Value.adjust f) = items :=
  (List.map_congr_left fun v hv => Foreign.adjust (h v hv) f).trans (List.map_id' items)

theorem optionMap_adjust_foreign {v : Option Value} (h : ∀ found ∈ v, found.Foreign)
    (f : Options → Options) : v.map (Value.adjust f) = v := by
  cases v with
  | none => rfl
  | some v => exact congrArg some (Foreign.adjust (h v rfl) f)

/-- A value of a host is within every vocabulary that has functions of the host and all markup. -/
theorem Foreign.within {V : Vocabulary} (hmarkup : ∀ s, V.markup s) (hhost : V.host) {v : Value}
    (h : v.Foreign) : v.Within V :=
  h.mono (fun s _ => hmarkup s) (fun _ => hhost) (fun _ _ => False.elim) fun _ => False.elim

end Value
end Stencil
