import Mathlib.Data.List.Forall2
import Stencil.Proofs.Text.Items
import Stencil.Proofs.Tree.Keywords

/-!
# Lists in tags

The parameters of a macro, the names of an import and the renames of a use are lists.  What an item
of such a list writes is said without the splitting (`WritesParam`, `WritesRenaming`), and a list
that was joined from items is read as what they write, one after the other (`read_joined`).
-/
namespace Stencil.TagText
open Text

/-! ## Names in front of a text -/

section Names
variable {more : Char → Bool} {name rest : List Char}

/-- What is read as a name stands in front of the rest, and is a name by itself. -/
theorem nameWith?_eq_some {cs : List Char} (h : nameWith? more cs = some (name, rest)) :
    ∃ s : String, name = s.toList ∧ cs = s.toList ++ rest ∧
      wholeName? more s.toList = some s := by
  refine ⟨String.ofList name, String.toList_ofList.symm, ?_⟩
  rw [String.toList_ofList]
  cases cs with
  | nil => cases h
  | cons c cs =>
    rw [nameWith?] at h
    split at h
    · next hstart =>
      obtain ⟨rfl, rfl⟩ := Prod.mk.inj (Option.some.inj h)
      have hall : ∀ d ∈ cs.takeWhile more, more d = true := fun d hd =>
        List.all_eq_true.mp List.all_takeWhile d hd
      refine ⟨?_, ?_⟩
      · rw [List.cons_append, List.takeWhile_append_dropWhile]
      · rw [wholeName?, nameWith?, if_pos hstart, List.takeWhile_eq_self_iff.mpr hall,
          List.dropWhile_eq_nil_iff.mpr hall]
    · cases h

theorem wholeName?_eq_some {cs : List Char} {s : String} (h : wholeName? more cs = some s) :
    cs = s.toList := (nameWith?_whole (nameWith?_of_wholeName? h)).1.symm

theorem bare_of_wholeName? {s : String} (hmore : ∀ {c}, more c = true → isBlank c = false)
    (h : wholeName? more s.toList = some s) : Bare s.toList ∧ s.toList ≠ [] := by
  obtain ⟨-, hne, hall⟩ := nameWith?_whole (nameWith?_of_wholeName? h)
  refine ⟨Solid.bare fun c hc => ?_, hne⟩
  exact (hall c hc).elim (fun hc => isBlank_of_isWord (isWord_of_isNameStart hc)) hmore

end Names

theorem isBlank_of_isBlockWord {c : Char} (h : isBlockWord c = true) : isBlank c = false :=
  (isBlockWord_plain h).1

/-! ## What an item writes -/

/-- The item writes the parameter: its name, alone or with `=` and the text of its default behind
it. -/
inductive WritesParam : List Char → MacroParam → Prop where
  | plain {name : String} (hname : wholeName? isWord name.toList = some name) :
    WritesParam name.toList ⟨name, none⟩
  | default {name : String} (hname : wholeName? isWord name.toList = some name)
    {before after text : List Char} (hbefore : ∀ c ∈ before, isBlank c = true)
    (hafter : ∀ c ∈ after, isBlank c = true) (hbare : Bare text) (hne : text ≠ []) {x : Expr}
    (hx : Expr.compile (String.ofList text) = .ok x) :
    WritesParam (name.toList ++ (before ++ '=' :: (after ++ text))) ⟨name, some x⟩

/-- The item writes the name, alone or with `as` and another name behind it. -/
inductive WritesRenaming : List Char → String → Option String → Prop where
  | plain {name : String} (hname : wholeName? isBlockWord name.toList = some name) :
    WritesRenaming name.toList name none
  | renamed {name newName : String} (hname : wholeName? isBlockWord name.toList = some name)
    (hnew : wholeName? isBlockWord newName.toList = some newName) {before after : List Char}
    (hbefore : before ≠ [] ∧ ∀ c ∈ before, isBlank c = true)
    (hafter : after ≠ [] ∧ ∀ c ∈ after, isBlank c = true) :
    WritesRenaming (name.toList ++ (before ++ ("as".toList ++ (after ++ newName.toList)))) name
      (some newName)

/-- What is read as a parameter is a name, alone or with `=` and a default behind it. -/
theorem macroParam?_eq_some {item : List Char} {name : String} {default : Option (List Char)}
    (h : macroParam? item = some (name, default)) :
    ∃ rest, item = name.toList ++ rest ∧ wholeName? isWord name.toList = some name ∧
      (default = none ∧ trimStart rest = [] ∨ ∃ after, trimStart rest = '=' :: after ∧
        default = some (trimStart after) ∧ trimStart after ≠ []) := by
  obtain ⟨⟨found, rest⟩, hfound, hrest⟩ := Option.bind_eq_some_iff.mp h
  obtain ⟨name, rfl, rfl, hname⟩ := nameWith?_eq_some hfound
  refine ⟨rest, ?_⟩
  simp only [String.ofList_toList] at hrest
  split at hrest
  · next hblank =>
    obtain ⟨rfl, rfl⟩ := Prod.mk.inj (Option.some.inj hrest)
    exact ⟨rfl, hname, .inl ⟨rfl, hblank⟩⟩
  · next after hafter =>
    obtain ⟨text, htext, hwritten⟩ := Option.bind_eq_some_iff.mp hrest
    obtain ⟨rfl, rfl⟩ := Prod.mk.inj (Option.some.inj hwritten)
    obtain ⟨rfl, hne⟩ := nonempty?_eq_some.mp htext
    exact ⟨rfl, hname, .inr ⟨after, hafter, rfl, hne⟩⟩
  · cases hrest

/-- The name of a parameter is read up to the blanks or the `=` behind it. -/
theorem macroParam?_default {name : String} (hname : wholeName? isWord name.toList = some name)
    {before after text : List Char} (hbefore : ∀ c ∈ before, isBlank c = true)
    (hafter : ∀ c ∈ after, isBlank c = true) (hbare : Bare text) (hne : text ≠ []) :
    macroParam? (name.toList ++ (before ++ '=' :: (after ++ text))) = some (name, some text) := by
  have hstops : ∀ c ∈ (before ++ '=' :: (after ++ text)).head?, isWord c = false := by
    intro c hc
    cases before with
    | nil =>
      cases hc
      decide
    | cons b before =>
      cases hc
      exact stops_of_blank isBlank_of_isWord (hbefore _ List.mem_cons_self)
  have hequals : trimStart (before ++ '=' :: (after ++ text)) = '=' :: (after ++ text) :=
    trimStart_append hbefore fun _ hc => by cases hc; decide
  rw [macroParam?, name?, nameWith?_append (nameWith?_of_wholeName? hname) hstops]
  simp only [Option.bind_eq_bind, Option.bind_some, hequals, trimStart_append hafter hbare.1,
    nonempty?_eq_some.mpr ⟨rfl, hne⟩, String.ofList_toList]

/-- An item is read as a parameter exactly if it writes it. -/
theorem param_iff {item : List Char} (hitem : Bare item) (failure : Failure) (p : MacroParam) :
    (match macroParam? item with
      | some (name, default) => (optionalExpression default).map fun e => ⟨name, e⟩
      | none => .error failure) = Except.ok p ↔ WritesParam item p := by
  constructor
  · intro h
    split at h
    · next name default hread =>
      obtain ⟨rest, rfl, hname, hdefault⟩ := macroParam?_eq_some hread
      have hlast {back : List Char} (hback : back <:+ name.toList ++ rest) (hne : back ≠ []) :
          ∀ c ∈ back.getLast?, isBlank c = false := by
        obtain ⟨front, hfront⟩ := hback
        rw [← List.getLast?_append_of_ne_nil front hne, hfront]
        exact hitem.2
      obtain ⟨rfl, hblank⟩ | ⟨after, hequals, rfl, hne⟩ := hdefault
      -- an item does not end in blanks, so nothing stands behind the name
      · have hnil : rest = [] := by
          by_contra hne
          exact trimStart_ne_nil (hlast (List.suffix_append ..) hne) hne hblank
        obtain rfl := Except.ok.inj h
        rw [hnil, List.append_nil]
        exact .plain hname
      · obtain ⟨before, hbefore, hrest⟩ := trimStart_spec rest
        obtain ⟨blanks, hblanks, hafter⟩ := trimStart_spec after
        rw [hequals, hafter] at hrest
        have hbare : Bare (trimStart after) := by
          refine ⟨isBlank_head_trimStart, hlast ?_ hne⟩
          rw [hrest]
          exact ⟨name.toList ++ (before ++ '=' :: blanks), by simp only [List.append_assoc,
            List.cons_append]⟩
        rw [optionalExpression, expression, trim_of_bare_self hbare hne] at h
        cases hx : Expr.compile (String.ofList (trimStart after)) with
        | error e =>
          rw [hx] at h
          cases h
        | ok x =>
          rw [hx] at h
          obtain rfl := Except.ok.inj h
          rw [hrest]
          exact .default hname hbefore hblanks hbare hne hx
    · cases h
  · intro h
    cases h with
    | @plain name hname =>
      have hread : macroParam? name.toList = some (name, none) := by
        rw [macroParam?, name?, nameWith?_of_wholeName? hname]
        simp only [Option.bind_eq_bind, Option.bind_some, trimStart, List.dropWhile_nil,
          String.ofList_toList]
      rw [hread]
      rfl
    | default hname hbefore hafter hbare hne hx =>
      rw [macroParam?_default hname hbefore hafter hbare hne]
      simp only [optionalExpression, expression, trim_of_bare_self hbare hne, hx]
      rfl

/-- A text is read as a name and another exactly if it writes them. -/
theorem renaming?_iff {item : List Char} {name : String} {newName : Option String} :
    renaming? item = some (name, newName) ↔ WritesRenaming item name newName := by
  constructor
  · intro h
    obtain ⟨⟨found, rest⟩, hfound, hrest⟩ := Option.bind_eq_some_iff.mp h
    obtain ⟨name, rfl, rfl, hname⟩ := nameWith?_eq_some hfound
    simp only [String.ofList_toList] at hrest
    split at hrest
    · next hnil =>
      obtain ⟨rfl, rfl⟩ := Prod.mk.inj (Option.some.inj hrest)
      rw [List.isEmpty_iff.mp hnil, List.append_nil]
      exact .plain hname
    · obtain ⟨newName, hread, hwritten⟩ := Option.bind_eq_some_iff.mp hrest
      obtain ⟨rfl, rfl⟩ := Prod.mk.inj (Option.some.inj hwritten)
      obtain ⟨arg, harg, hnew⟩ := Option.bind_eq_some_iff.mp hread
      obtain ⟨tail, htail, hblanks, -⟩ := wordArgument?_eq_some.mp harg
      obtain ⟨mid, hmid, hword⟩ := Option.bind_eq_some_iff.mp htail
      obtain ⟨before, hbefore_ne, hbefore, rfl⟩ := afterBlanks?_eq_some hmid
      obtain ⟨after, hafter_ne, hafter, rfl⟩ := afterBlanks?_eq_some hblanks
      obtain rfl := wholeName?_eq_some hnew
      rw [after?_eq_some hword]
      exact .renamed hname hnew ⟨hbefore_ne, hbefore⟩ ⟨hafter_ne, hafter⟩
  · intro h
    cases h with
    | plain hname => exact renaming?_name hname
    | @renamed name newName hname hnew before after hbefore hafter =>
      obtain ⟨hbefore_ne, hbefore⟩ := hbefore
      obtain ⟨hafter_ne, hafter⟩ := hafter
      obtain ⟨b, after, rfl⟩ := List.exists_cons_of_ne_nil hafter_ne
      obtain ⟨hb, hafter⟩ := List.forall_mem_cons.mp hafter
      obtain ⟨hbare, hne⟩ := bare_of_wholeName? isBlank_of_isBlockWord hnew
      have hstart : trimStart (after ++ newName.toList) = newName.toList :=
        trimStart_append hafter hbare.1
      have hstops : ∀ c ∈ (before ++ ("as".toList ++ b :: (after ++ newName.toList))).head?,
          isBlockWord c = false := by
        intro c hc
        rw [List.head?_append_of_ne_nil _ hbefore_ne] at hc
        exact stops_of_blank isBlank_of_isBlockWord (hbefore c (List.mem_of_mem_head? hc))
      have hargument := @wordArgument?_append "as" (by decide) (by decide) before hbefore
        hbefore_ne b hb (after ++ newName.toList) (by rwa [hstart])
      rw [renaming?, List.cons_append, nameWith?_append (nameWith?_of_wholeName? hname) hstops]
      simp only [Option.bind_eq_bind, Option.bind_some, hargument, hstart, hnew,
        String.ofList_toList]
      rw [if_neg (by simp [hbefore_ne])]

/-- A text with its name and the name it is given, exactly if it writes them. -/
theorem importedName_iff {item : List Char} (failure : Failure) (name : String × String) :
    (match renaming? item with
      | some (name, newName) => .ok (name, newName.getD name)
      | none => .error failure) = Except.ok name ↔
        ∃ newName, WritesRenaming item name.1 newName ∧ name.2 = newName.getD name.1 := by
  simp only [← renaming?_iff]
  constructor
  · intro h
    split at h
    · next found newName hread =>
      obtain rfl := Except.ok.inj h
      exact ⟨newName, hread, rfl⟩
    · cases h
  · rintro ⟨newName, hread, hname⟩
    rw [hread]
    exact congrArg Except.ok (Prod.ext rfl hname.symm)

theorem rename_iff {item : List Char} (failure : Failure) (rename : String × String) :
    (match renaming? item with
      | some (name, some newName) => .ok (name, newName)
      | _ => .error failure) = Except.ok rename ↔
        WritesRenaming item rename.1 (some rename.2) := by
  rw [← renaming?_iff]
  constructor
  · intro h
    split at h
    · next name newName hread =>
      obtain rfl := Except.ok.inj h
      exact hread
    · cases h
  · intro hread
    rw [hread]

/-! ## Tags with lists -/

/-- A list is read exactly if each of its items is, in order. -/
theorem mapM_eq_ok_iff {α β ε : Type} {f : α → Except ε β} {R : α → β → Prop} {items : List α}
    (h : ∀ item ∈ items, ∀ b, f item = .ok b ↔ R item b) {found : List β} :
    items.mapM f = .ok found ↔ List.Forall₂ R items found := by
  induction items generalizing found with
  | nil =>
    rw [List.mapM_nil, List.forall₂_nil_left_iff]
    exact ⟨fun h => (Except.ok.inj h).symm, fun h => congrArg Except.ok h.symm⟩
  | cons item items ih =>
    obtain ⟨hitem, hitems⟩ := List.forall_mem_cons.mp h
    have hrest {found : List β} := @ih hitems found
    rw [List.mapM_cons, List.forall₂_cons_left_iff]
    constructor
    · intro hread
      cases hf : f item with
      | error e =>
        rw [hf] at hread
        cases hread
      | ok b =>
        cases hfs : items.mapM f with
        | error e =>
          rw [hf, hfs] at hread
          cases hread
        | ok bs =>
          rw [hf, hfs] at hread
          exact ⟨b, bs, (hitem b).mp hf, hrest.mp hfs, (Except.ok.inj hread).symm⟩
    · rintro ⟨b, bs, hb, hbs, rfl⟩
      rw [(hitem b).mpr hb, hrest.mpr hbs]
      rfl

/-- The text of a macro with its list of parameters. -/
def macroText (name : String) (list : List Char) : String :=
  String.ofList ("macro".toList ++ ' ' :: (name.toList ++ '(' :: (list ++ [')'])))

/-- No earlier shape fits the text of a macro. -/
theorem shapes_macroDef (rest : List Char) :
    ((shapes.take 18).all fun s => (s.2 ("macro".toList ++ ' ' :: rest)).isNone) = true := rfl

/-- Nor does one fit an import of names. -/
theorem shapes_importsNames (rest : List Char) :
    ((shapes.take 17).all fun s => (s.2 ("from".toList ++ ' ' :: rest)).isNone) = true := rfl

theorem shapes_uses (rest : List Char) :
    ((shapes.take 12).all fun s => (s.2 ("use".toList ++ ' ' :: rest)).isNone) = true := rfl

/-- A reading succeeds if its first part does and the rest with what that gives. -/
theorem map_bind_eq_ok_iff {α : Type} {first : Except Failure α} {rest : α → Reading}
    {kind : TagKind} {t : TagText} :
    (first >>= rest).map (TagText.mk kind) = .ok t ↔
      ∃ a, first = .ok a ∧ (rest a).map (TagText.mk kind) = .ok t := by
  cases first with
  | error e => exact ⟨nofun, nofun⟩
  | ok a => exact ⟨fun h => ⟨a, rfl, h⟩, fun ⟨_, ha, h⟩ => Except.ok.inj ha ▸ h⟩

theorem map_ok_eq_ok_iff {tag : Tag} {kind : TagKind} {t : TagText} :
    (Except.ok (some tag) : Reading).map (TagText.mk kind) = .ok t ↔ t = ⟨kind, some tag⟩ :=
  ⟨fun h => (Except.ok.inj h).symm, fun h => congrArg Except.ok h.symm⟩

section
variable {items : List (List Char)} {list : List Char} (hlist : arguments list = items)
include hlist

/-- A macro is read with one parameter for each item of its list, the one that the item writes. -/
theorem read_macroText (hbare : ∀ item ∈ items, Bare item) {name : String}
    (hname : wholeName? isWord name.toList = some name) {t : TagText} :
    TagText.read (macroText name list) = .ok t ↔
      ∃ params, t = ⟨.macroDef, some (.macroDef name params)⟩ ∧
        List.Forall₂ WritesParam items params := by
  obtain ⟨hname_bare, hne⟩ := bare_of_wholeName? isBlank_of_isWord hname
  have hargument := @argument?_append "macro" [] (name.toList ++ '(' :: (list ++ [')']))
    (List.forall_mem_nil _) (by
      rw [List.head?_append_of_ne_nil _ hne]
      exact hname_bare.1) (by simp)
  have hread : name? (name.toList ++ '(' :: (list ++ [')'])) = some (name.toList, _) :=
    nameWith?_append (nameWith?_of_wholeName? hname) fun _ hc => by cases hc; decide
  have hopening : after? ['('] (trimStart ('(' :: (list ++ [')']))) = some (list ++ [')']) := rfl
  have hshape (text : List Char) (htext : text = "macro".toList ++ ' ' ::
      (name.toList ++ '(' :: (list ++ [')']))) : macroDef? text = some (do
        let params ← items.mapM fun item =>
          match macroParam? item with
          | some (name, default) => (optionalExpression default).map fun e => ⟨name, e⟩
          | none => .error (malformed text)
        .ok (some (.macroDef name params))) := by
    subst htext
    rw [List.nil_append] at hargument
    generalize hreading : macroDef? _ = reading
    rw [macroDef?] at hreading
    simp only [Option.bind_eq_bind, Option.bind_some, hargument, hread, hopening,
      String.ofList_toList, List.getLast?_concat, List.dropLast_concat, arguments_trim, hlist,
      if_true] at hreading
    exact hreading.symm
  have hshapes : shapes = shapes.take 18 ++ (.macroDef, macroDef?) :: shapes.drop 19 := rfl
  have htext : TagText.read (macroText name list) = _ :=
    read_of_fits hshapes (shapes_macroDef _) (hshape _ rfl)
  rw [htext]
  refine map_bind_eq_ok_iff.trans (exists_congr fun params => ?_)
  rw [mapM_eq_ok_iff fun item hitem => param_iff (hbare item hitem) _, and_comm]
  exact and_congr_left' map_ok_eq_ok_iff

end

/-! ### Lists behind an expression -/

/-- The text of a tag that starts with the word `first` and has a list behind an expression and the
word `word`. -/
def listText (first word : String) (e list : List Char) : String :=
  String.ofList (first.toList ++ ' ' :: (e ++ ' ' :: (word.toList ++ ' ' :: list)))

/-- The text of an expression that has no blanks at its ends, and does not have the word with blanks
around it, even with a blank behind the expression. -/
structure Precedes (word : String) (e : List Char) : Prop where
  bare : Bare e
  nonempty : e ≠ []
  unread : ¬Between word.toList (e ++ [' '])

namespace Precedes
variable {word : String} {e : List Char} (h : Precedes word e)
include h

theorem argument?_eq (first : String) (rest : List Char) :
    argument? first (first.toList ++ ' ' :: (e ++ rest)) = some (e ++ rest) := by
  refine @argument?_append first [] (e ++ rest) (List.forall_mem_nil _) ?_ (by simp [h.nonempty])
  rw [List.head?_append_of_ne_nil _ h.nonempty]
  exact h.bare.1

theorem expression_eq : expression e = Expr.compile (String.ofList e) := by
  rw [expression, trim_of_bare_self h.bare h.nonempty]

theorem shortest?_eq {α : Type} {tail : List Char → Option α} {behind : List Char} {whole : α}
    (hword : Solid word.toList) (hbehind : ∀ c ∈ behind.head?, isBlank c = true)
    (hlast : tail behind = some whole)
    (htail : ∀ {cs a}, cs ≠ [] → tail cs = some a → ∃ arg, wordArgument? word cs = some arg) :
    shortest? tail (e ++ behind) = some (e, whole) := by
  refine shortest?_whole hlast h.nonempty fun s t hsplit _ ht => ?_
  cases hfit : tail (t ++ behind) with
  | none => rfl
  | some a =>
    obtain ⟨arg, harg⟩ := htail (by simp [ht]) hfit
    obtain ⟨rest, hrest, hblank, -⟩ := wordArgument?_eq_some.mp harg
    have hends : ∀ c ∈ t.getLast?, isBlank c = false := by
      rw [← List.getLast?_append_of_ne_nil s ht, ← hsplit]
      exact h.bare.2
    obtain ⟨blanks, after, hne, hblanks, rfl, rfl⟩ :=
      word_of_afterBlanks? hends ht hbehind hword hrest
    obtain ⟨init, last, rfl⟩ := List.eq_nil_or_concat blanks |>.resolve_left hne
    have hafter : ∃ b rest, isBlank b = true ∧ after ++ [' '] = b :: rest := by
      cases after with
      | nil => exact ⟨' ', [], by decide, rfl⟩
      | cons b after =>
        obtain ⟨_ | ⟨d, more⟩, hmore, hall, heq⟩ := afterBlanks?_eq_some hblank
        · exact absurd rfl hmore
        · obtain ⟨rfl, -⟩ := List.cons.inj heq
          exact ⟨b, after ++ [' '], hall b List.mem_cons_self, rfl⟩
    -- had an earlier place fitted, the word would stand in the expression
    obtain ⟨b, rest, hb, hafter⟩ := hafter
    refine absurd (between_iff.mpr ⟨s ++ init, last, b, rest, hblanks last (by simp), hb, ?_⟩)
      h.unread
    rw [hsplit, ← hafter]
    simp

/-- The list is read first, and then the expression. -/
theorem reading_iff {α : Type} {f : List Char → Except Failure α} {R : List Char → α → Prop}
    (hf : ∀ item a, f item = .ok a ↔ R item a) {items : List (List Char)} {kind : TagKind}
    {tag : Expr → List α → Tag} {t : TagText} :
    (do
      let found ← items.mapM f
      let x ← expression e
      .ok (some (tag x found)) : Reading).map (TagText.mk kind) = .ok t ↔
        ∃ x found, t = ⟨kind, some (tag x found)⟩ ∧ Expr.compile (String.ofList e) = .ok x ∧
          List.Forall₂ R items found := by
  rw [h.expression_eq, map_bind_eq_ok_iff]
  simp only [map_bind_eq_ok_iff, map_ok_eq_ok_iff, mapM_eq_ok_iff fun item _ => hf item]
  constructor
  · rintro ⟨found, hfound, x, hx, rfl⟩
    exact ⟨x, found, rfl, hx, hfound⟩
  · rintro ⟨x, found, rfl, hx, hfound⟩
    exact ⟨found, hfound, x, hx, rfl⟩

end Precedes

section Behind
variable {items : List (List Char)} {list e : List Char}

/-- An expression and the list behind it are read apart. -/
theorem shortest?_list {α : Type} (tail : List Char → Option α) {word : String}
    (hword : word ∈ keywords) (he : Precedes word e) (hlist : trimStart list ≠ []) {whole : α}
    (hlast : ∀ cs, wordArgument? word cs = some (trimStart list) → tail cs = some whole)
    (htail : ∀ cs a, cs ≠ [] → tail cs = some a → ∃ arg, wordArgument? word cs = some arg) :
    shortest? tail (e ++ ' ' :: (word.toList ++ ' ' :: list)) = some (e, whole) := by
  obtain ⟨hne, hsolid, -⟩ := keyword_spec word hword
  refine he.shortest?_eq hsolid (fun _ hc => by cases hc; decide) (hlast _ ?_) (htail _ _)
  exact @wordArgument?_append word hsolid hne [' '] (List.forall_mem_singleton.mpr (by decide))
    (List.cons_ne_nil _ _) ' ' (by decide) list hlist

theorem arguments_trimStart (list : List Char) :
    arguments (trim (trimStart list)) = arguments list := by
  rw [trim, trimStart_trimStart, ← trim, arguments_trim]

/-- An import is read with a name and the name it is given for each item of its list. -/
theorem read_importText (hitems : arguments list = items) (hlist : trimStart list ≠ [])
    (he : Precedes "import" e) {t : TagText} :
    TagText.read (listText "from" "import" e list) = .ok t ↔
      ∃ x names, t = ⟨.importsNames, some (.importsNames x names)⟩ ∧
        Expr.compile (String.ofList e) = .ok x ∧
        List.Forall₂ (fun item name => ∃ newName, WritesRenaming item name.1 newName ∧
          name.2 = newName.getD name.1) items names := by
  have hshape (text : List Char) (htext : text = "from".toList ++ ' ' ::
      (e ++ ' ' :: ("import".toList ++ ' ' :: list))) : importsNames? text = some (do
        let names ← items.mapM fun item =>
          match renaming? item with
          | some (name, newName) => .ok (name, newName.getD name)
          | none => .error (malformed text)
        let x ← expression e
        .ok (some (.importsNames x names))) := by
    have hshortest := shortest?_list _ (by decide) he hlist (fun _ h => h) fun _ a _ h => ⟨a, h⟩
    subst htext
    generalize hreading : importsNames? _ = reading
    rw [importsNames?, he.argument?_eq] at hreading
    simp only [Option.bind_eq_bind, Option.bind_some, hshortest, arguments_trimStart, hitems]
      at hreading
    exact hreading.symm
  have hshapes : shapes = shapes.take 17 ++ (.importsNames, importsNames?) :: shapes.drop 18 := rfl
  have htext : TagText.read (listText "from" "import" e list) = _ :=
    read_of_fits hshapes (shapes_importsNames _) (hshape _ rfl)
  rw [htext]
  exact he.reading_iff fun _ => importedName_iff _

/-- A use is read with a rename for each item of its list, the one that the item writes. -/
theorem read_useText (hitems : arguments list = items) (hlist : trimStart list ≠ [])
    (he : Precedes "with" e) {t : TagText} :
    TagText.read (listText "use" "with" e list) = .ok t ↔
      ∃ x renames, t = ⟨.uses, some (.uses x renames)⟩ ∧
        Expr.compile (String.ofList e) = .ok x ∧
        List.Forall₂ (fun item rename => WritesRenaming item rename.1 (some rename.2)) items
          renames := by
  have hword {cs : List Char} (hne : cs ≠ []) :
      orEnd? "with" cs = (wordArgument? "with" cs).map some :=
    if_neg (by simpa using hne)
  have hshape (text : List Char) (htext : text = "use".toList ++ ' ' ::
      (e ++ ' ' :: ("with".toList ++ ' ' :: list))) : uses? text = some (do
        let renames ← items.mapM fun item =>
          match renaming? item with
          | some (name, some newName) => .ok (name, newName)
          | _ => .error (malformed text)
        let x ← expression e
        .ok (some (.uses x renames))) := by
    have hshortest := shortest?_list (orEnd? "with") (by decide) he hlist
      (fun cs h => by
        have hne : cs ≠ [] := by
          rintro rfl
          cases h
        rw [hword hne, h]
        rfl) (fun cs a hne h => by
        rw [hword hne] at h
        obtain ⟨arg, harg, -⟩ := Option.map_eq_some_iff.mp h
        exact ⟨arg, harg⟩)
    subst htext
    generalize hreading : uses? _ = reading
    rw [uses?, he.argument?_eq] at hreading
    simp only [Option.bind_eq_bind, Option.bind_some, hshortest, Option.getD_some,
      arguments_trimStart, hitems] at hreading
    exact hreading.symm
  have hshapes : shapes = shapes.take 12 ++ (.uses, uses?) :: shapes.drop 13 := rfl
  have htext : TagText.read (listText "use" "with" e list) = _ :=
    read_of_fits hshapes (shapes_uses _) (hshape _ rfl)
  rw [htext]
  exact he.reading_iff fun _ => rename_iff _

end Behind

/-- A list that was joined from items, with blanks around them, is split into those items, and a tag
with that list is read with what each of them writes, one after the other; the tag is not read if
one of them writes nothing that belongs there. -/
theorem read_joined {items : List (List Char)} {list : List Char} (hne : items ≠ [])
    (hitems : ∀ item ∈ items, IsItem item) (hjoined : Joined items list) :
    arguments list = items ∧
    (∀ name t, wholeName? isWord name.toList = some name →
      (TagText.read (macroText name list) = .ok t ↔
        ∃ params, t = ⟨.macroDef, some (.macroDef name params)⟩ ∧
          List.Forall₂ WritesParam items params)) ∧
    (∀ e t, Precedes "import" e →
      (TagText.read (listText "from" "import" e list) = .ok t ↔
        ∃ x names, t = ⟨.importsNames, some (.importsNames x names)⟩ ∧
          Expr.compile (String.ofList e) = .ok x ∧
          List.Forall₂ (fun item name => ∃ newName, WritesRenaming item name.1 newName ∧
            name.2 = newName.getD name.1) items names)) ∧
    (∀ e t, Precedes "with" e →
      (TagText.read (listText "use" "with" e list) = .ok t ↔
        ∃ x renames, t = ⟨.uses, some (.uses x renames)⟩ ∧
          Expr.compile (String.ofList e) = .ok x ∧
          List.Forall₂ (fun item rename => WritesRenaming item rename.1 (some rename.2)) items
            renames)) := by
  have hsplit := hjoined.arguments_eq hne hitems
  have hnonblank : trimStart list ≠ [] := by
    intro hblank
    rw [← arguments_trim, trim, hblank] at hsplit
    exact hne hsplit.symm
  refine ⟨hsplit, fun name t hname => ?_, fun e t he => ?_, fun e t he => ?_⟩
  · exact read_macroText hsplit (fun item hitem => (hitems item hitem).bare) hname
  · exact read_importText hsplit hnonblank he
  · exact read_useText hsplit hnonblank he

/-- Brackets, commas and quotes in the defaults of a macro. -/
theorem read_joined_defaults :
    arguments "a , b=['x, y', (c)], d = 'it\\'s, (ok'".toList
        = ["a".toList, "b=['x, y', (c)]".toList, "d = 'it\\'s, (ok'".toList] ∧
      TagText.read "macro m(a , b=['x, y', (c)], d = 'it\\'s, (ok')"
        = .ok ⟨.macroDef, some (.macroDef "m" [⟨"a", none⟩,
          ⟨"b", some [.arrayStart, .string "x, y", .comma, .group [.variable "c"] false,
            .arrayEnd]⟩,
          ⟨"d", some [.string "it's, (ok"]⟩])⟩ := by
  have hnone : ∀ c ∈ ([] : List Char), isBlank c = true := List.forall_mem_nil _
  have hblank : ∀ c ∈ [' '], isBlank c = true := List.forall_mem_singleton.mpr (by decide)
  have hjoined : Joined ["a".toList, "b=['x, y', (c)]".toList, "d = 'it\\'s, (ok'".toList]
      "a , b=['x, y', (c)], d = 'it\\'s, (ok'".toList :=
    ⟨["a ".toList, " b=['x, y', (c)]".toList, " d = 'it\\'s, (ok'".toList],
      .cons ⟨[], [' '], hnone, hblank, rfl⟩ (.cons ⟨[' '], [], hblank, hnone, rfl⟩
        (.cons ⟨[' '], [], hblank, hnone, rfl⟩ .nil)), rfl⟩
  obtain ⟨hsplit, hread, -⟩ := read_joined (by decide) (by decide) hjoined
  refine ⟨hsplit, (hread "m" _ rfl).mpr ⟨_, rfl, ?_⟩⟩
  refine .cons (.plain rfl) (.cons ?_ (.cons ?_ .nil))
  · exact @WritesParam.default "b" rfl [] [] "['x, y', (c)]".toList hnone hnone
      (by decide) (by decide) _ rfl
  · exact @WritesParam.default "d" rfl [' '] [' '] "'it\\'s, (ok'".toList hblank hblank
      (by decide) (by decide) _ rfl

end Stencil.TagText
