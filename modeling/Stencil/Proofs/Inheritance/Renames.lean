import Mathlib.Data.List.Nodup
import Stencil.Proofs.Inheritance.Frame
import Stencil.Proofs.Inheritance.Imports
import Stencil.Proofs.Inheritance.Uses

/-!
# The names that imported blocks get

A `use` tag imports the blocks that another template has to offer, in the order in which they are
offered, each under its new name if the tag renames it and under its own name if not.  Two of them
may arrive under one name: the one that is renamed to it and the one that has it.  Then the one that
comes later counts, so that it depends on the order of the blocks which of them is found
(`Environment.imports_of_use`, `Environment.text_renamed`).
-/
namespace Stencil
open Rendering

/-! ## Names that are bound once -/

namespace Dict
variable {α : Type} {d : Dict α}

theorem Distinct.of_append {d e : Dict α} (h : Distinct (d ++ e)) : d.Distinct ∧ e.Distinct := by
  rw [Distinct, keys, List.map_append] at h
  exact ⟨(List.nodup_append.mp h).1, (List.nodup_append.mp h).2.1⟩

/-- If each name is bound once, what is bound first is what is bound last. -/
theorem Distinct.find?_reverse (h : d.Distinct) (name : String) :
    (d.reverse.find? fun entry => entry.1 = name).map Prod.snd = d.find? name := by
  have hmerge := find?_merge h [] name
  have hfold := find?_foldl_insert Prod.fst Prod.snd d [] name
  rw [find?, Option.or_none] at hmerge hfold
  exact hfold.symm.trans hmerge

end Dict

/-! ## Renaming -/

namespace BlockImport
variable {i : BlockImport} {d : Dict Block} {blocks : List (String × Block)} {name new : String}

theorem rename_eq (i : BlockImport) (name : String) :
    i.rename name = (Dict.find? i.renames name).getD name := by
  have hfind (pairs : List (String × String)) :
      (pairs.find? fun pair => pair.1 = name).map Prod.snd = Dict.find? pairs name := by
    induction pairs with
    | nil => rfl
    | cons pair rest ih =>
      rw [List.find?_cons, Dict.find?]
      by_cases h : pair.1 = name
      · rw [if_pos h, decide_eq_true h]
        rfl
      · rw [if_neg h, decide_eq_false h]
        exact ih
  rw [rename, ← hfind]
  cases i.renames.find? fun pair => pair.1 = name <;> rfl

theorem rename_of_mem (hsources : Dict.Distinct i.renames) (h : (name, new) ∈ i.renames) :
    i.rename name = new := by
  rw [rename_eq, hsources.find?_of_mem h]
  rfl

/-- A block arrives under a new name if it is the one that is renamed to it, or if it has that name
and keeps it. -/
theorem rename_eq_new_iff (hsources : Dict.Distinct i.renames)
    (hnames : (Dict.values i.renames).Nodup) (h : (name, new) ∈ i.renames) (other : String) :
    i.rename other = new ↔
      other = name ∨ other = new ∧ Dict.contains i.renames new = false := by
  constructor
  · intro hother
    rw [rename_eq] at hother
    cases hfound : Dict.find? i.renames other with
    | some other' =>
      rw [hfound] at hother
      obtain rfl : other' = new := hother
      have hsame := List.inj_on_of_nodup_map hnames (Dict.mem_of_find? hfound) h rfl
      exact .inl (congrArg Prod.fst hsame)
    | none =>
      rw [hfound] at hother
      obtain rfl : other = new := hother
      refine .inr ⟨rfl, ?_⟩
      rw [Dict.contains, hfound]
      rfl
  · rintro (rfl | ⟨rfl, hkept⟩)
    · exact rename_of_mem hsources h
    · rw [rename_eq, Option.not_isSome_iff_eq_none.mp (Bool.eq_false_iff.mp hkept)]
      rfl

/-- Under a name that is none of the new ones only the block arrives that has it and keeps it. -/
theorem rename_eq_iff (hkept : Dict.contains i.renames name = false)
    (hnew : name ∉ Dict.values i.renames) (other : String) :
    i.rename other = name ↔ other = name := by
  rw [rename_eq]
  cases hfound : Dict.find? i.renames other with
  | some new =>
    have hmem := Dict.mem_of_find? hfound
    constructor
    · rintro rfl
      exact absurd (List.mem_map_of_mem hmem) hnew
    · rintro rfl
      rw [Dict.contains, hfound] at hkept
      cases hkept
  | none => exact Iff.rfl

/-! ## Importing -/

/-- The last block that arrives under a name is imported under it. -/
theorem find?_importInto (i : BlockImport) (d : Dict Block) (blocks : List (String × Block))
    (name : String) :
    (i.importInto d blocks).find? name
      = ((blocks.reverse.find? fun entry => i.rename entry.1 = name).map Prod.snd).or
          (d.find? name) :=
  Dict.find?_foldl_insert (fun entry : String × Block => i.rename entry.1) Prod.snd blocks d name

/-- The last of the blocks that has a name and arrives under it. -/
theorem find?_reverse_rename (hblocks : Dict.Distinct blocks)
    (h : ∀ entry ∈ blocks, (i.rename entry.1 = name ↔ entry.1 = name)) :
    (blocks.reverse.find? fun entry => i.rename entry.1 = name).map Prod.snd
      = Dict.find? blocks name := by
  rw [← hblocks.find?_reverse name]
  rw [← List.head?_filter, ← List.head?_filter]
  refine congrArg _ (congrArg _ (List.filter_congr fun entry hentry => ?_))
  exact decide_eq_decide.mpr (h entry (List.mem_reverse.mp hentry))

/-- A block that is renamed arrives under its new name. It is what is found there, unless one comes
behind it that has that name and keeps it. -/
theorem find?_renamed (hsources : Dict.Distinct i.renames)
    (hnames : (Dict.values i.renames).Nodup) (h : (name, new) ∈ i.renames)
    {before behind : List (String × Block)} {b : Block}
    (hblocks : Dict.Distinct (before ++ (name, b) :: behind)) :
    (i.importInto d (before ++ (name, b) :: behind)).find? new
      = some ((if Dict.contains i.renames new then none
          else Dict.find? behind new).getD b) := by
  obtain ⟨hname, hbehind⟩ := List.nodup_cons.mp hblocks.of_append.2
  have hlater : (behind.reverse.find? fun entry => i.rename entry.1 = new).map Prod.snd
      = if Dict.contains i.renames new then none else Dict.find? behind new := by
    have hother : ∀ entry ∈ behind, entry.1 ≠ name := fun entry hentry heq =>
      hname (heq ▸ (List.mem_map_of_mem hentry : entry.1 ∈ behind.map Prod.fst))
    split
    · next hrenamed =>
      refine Option.map_eq_none_iff.mpr (List.find?_eq_none.mpr fun entry hentry harrives => ?_)
      rcases (rename_eq_new_iff hsources hnames h entry.1).mp (of_decide_eq_true harrives) with
        heq | ⟨-, hkept⟩
      · exact hother entry (List.mem_reverse.mp hentry) heq
      · rw [hrenamed] at hkept
        cases hkept
    · next hkept =>
      refine find?_reverse_rename hbehind fun entry hentry => ?_
      rw [rename_eq_new_iff hsources hnames h]
      exact ⟨fun harrives => (harrives.resolve_left (hother entry hentry)).1,
        fun heq => .inr ⟨heq, Bool.eq_false_iff.mpr hkept⟩⟩
  rw [find?_importInto, List.reverse_append, List.reverse_cons, List.append_assoc,
    List.find?_append, List.singleton_append, List.find?_cons,
    decide_eq_true (rename_of_mem hsources h)]
  dsimp only
  rw [Option.map_or, hlater]
  cases (if Dict.contains i.renames new then none else Dict.find? behind new) <;> rfl

/-- A block that keeps its name is found under it, unless the name is a new one. -/
theorem find?_kept (hblocks : Dict.Distinct blocks) (hkept : Dict.contains i.renames name = false)
    (hnew : name ∉ Dict.values i.renames) :
    (i.importInto d blocks).find? name = (Dict.find? blocks name).or (d.find? name) := by
  rw [find?_importInto]
  rw [find?_reverse_rename hblocks fun entry _ => rename_eq_iff hkept hnew entry.1]

/-- Under other names there is what was there before. -/
theorem find?_untouched (h : ∀ entry ∈ blocks, i.rename entry.1 ≠ name) :
    (i.importInto d blocks).find? name = d.find? name := by
  have hnone : (blocks.reverse.find? fun entry => i.rename entry.1 = name) = none :=
    List.find?_eq_none.mpr fun entry hentry harrives =>
      h entry (List.mem_reverse.mp hentry) (of_decide_eq_true harrives)
  rw [find?_importInto, hnone]
  rfl

end BlockImport

/-! ## The imports of templates -/

/-- The imports of each template have distinct names. -/
def World.ImportsDistinct (w : World) : Prop := ∀ t : Template, (w.linksOf t).imported.Distinct

theorem World.ImportsDistinct.modify {w : World} (h : w.ImportsDistinct) (t : Template)
    {change : Links → Links}
    (hchange : ∀ l, l.imported.Distinct → (change l).imported.Distinct) :
    (w.modifyLinks t change).ImportsDistinct := by
  intro u
  rw [w.linksOf_modifyLinks]
  split
  · exact hchange _ (h u)
  · exact h u

/-- Where the `use` tags of a template start to be resolved: they are claimed. -/
def World.claiming (w : World) (t : Template) : World :=
  w.modifyLinks t fun l => { l with claimed := true }

/-- The template that a `use` tag names. -/
def Rendering.sourceOf (i : BlockImport) : Rendering Template :=
  Expr.evaluate i.expression >>= findTemplate

theorem Template.mergeEach_cons (t : Template) (i : BlockImport) (rest : List BlockImport) :
    t.mergeEach (i :: rest) = sourceOf i >>= fun source => (do
      settle (← ask (.mergeImports source (← context)))
      let links ← ask (.links source)
      Rendering.lift (t.importBlocks i (links.imported.merge source.definedBlocks))
      t.mergeEach rest : Rendering Unit) :=
  (bind_assoc _ _ _).symm

namespace Environment
variable {env : Environment} {patience : Patience} {depth : Nat}

/-- Imports have distinct names, whatever anybody does. -/
theorem upholds_importsDistinct (env : Environment) :
    env.Upholds .any (fun _ => True) World.ImportsDistinct where
  errand _ e _ _ := e.program.meets_any
  onTheSpot patience r w he _ _ hw := by
    cases r with
    | claimImports t =>
      rw [env.answer_claimImports]
      split
      · exact ⟨trivial, hw.modify t fun _ h => h⟩
      · exact ⟨trivial, hw⟩
    | importBlock t name b => exact ⟨trivial, hw.modify t fun _ h => h.insert name b⟩
    | setParent t parent | releaseImports t => exact ⟨trivial, hw.modify t fun _ h => h⟩
    | _ =>
      refine .of_all ((env.answer_frame patience he w).mono fun after h => ?_) fun _ => trivial
      intro t
      rw [World.linksOf_congr (h.1 id)]
      exact hw t

theorem importsDistinct_of_run {α : Type} {p : Program α} {w after : World} {a : α}
    (hw : w.ImportsDistinct) (hrun : env.run patience depth p w = .done a after) :
    after.ImportsDistinct := by
  have hleaves := run_leaves env.upholds_importsDistinct patience depth p.meets_any hw
    fun _ _ => trivial
  rw [hrun] at hleaves
  exact hleaves.2

/-- The template that a `use` tag names is found, and its own `use` tags are resolved. -/
def Consults (env : Environment) (patience : Patience) (depth : Nat) (t : Template) (c : Context)
    (i : BlockImport) (w : World) (source : Template) (between : World) : Prop :=
  ∃ scope found,
    env.run patience depth (sourceOf i (Scope.start t c)) w = .done (.ok source, scope) found ∧
      env.answer patience depth (.mergeImports source scope.context) found
        = .done (.ok ()) between

theorem Consults.importsDistinct {t source : Template} {c : Context} {i : BlockImport}
    {w between : World} (h : env.Consults patience depth t c i w source between)
    (hw : w.ImportsDistinct) : between.ImportsDistinct := by
  obtain ⟨scope, found, hfound, hmerged⟩ := h
  exact importsDistinct_of_run (importsDistinct_of_run hw hfound)
    ((env.run_request patience depth _ found).trans hmerged)

/-- The blocks that a template offers are imported. -/
theorem imports_of_run {t source : Template} {i : BlockImport} {scope scope' : Scope}
    {between after : World}
    (h : env.run patience depth ((do
        let links ← ask (.links source)
        Rendering.lift (t.importBlocks i (links.imported.merge source.definedBlocks))
        t.mergeEach [] : Rendering Unit) scope) between = .done (.ok (), scope') after) :
    between.Imports t (i.importInto (between.linksOf t).imported
      ((between.linksOf source).imported.merge source.definedBlocks)) after := by
  let offered := (between.linksOf source).imported.merge source.definedBlocks
  have himports : ((Rendering.lift (t.importBlocks i offered) >>= fun _ =>
      t.mergeEach []) scope).runWith (env.answer patience depth) between
      = .done (.ok (), scope') after :=
    (env.run_ask_done patience depth (env.answer_links patience depth source between)).symm.trans h
  rcases run_bind_iff.mp himports with ⟨_, _, ⟨⟩⟩ | ⟨_, mid, last, hlift, ⟨⟩⟩
  obtain ⟨_, _, himport, ⟨⟩⟩ := Program.runWith_bind_eq_done.mp hlift
  have hends : (env.run patience depth (t.importBlocks i offered) between).Ends _
      (fun _ => False) False := run_importBlocks t i offered between
  rw [run, himport] at hends
  exact hends

/-- A single `use` tag is resolved: its template is found, and then the blocks are imported. -/
theorem run_mergeImports_single {t : Template} {i : BlockImport} (huse : t.blockImports = [i])
    {c : Context} {w after : World} (hopen : w.isUnresolved t = true)
    (hrun : env.run patience depth (t.mergeImports c).run w = .done (.ok ()) after) :
    ∃ source between, env.Consults patience depth t c i (w.claiming t) source between ∧
      between.Imports t (i.importInto (between.linksOf t).imported
        ((between.linksOf source).imported.merge source.definedBlocks)) after := by
  rw [env.run_mergeImports_unresolved hopen, huse] at hrun
  obtain ⟨merged, last, hmerge, hend⟩ := Outcome.bind_eq_done.mp hrun
  obtain ⟨⟨ended, scope'⟩, last', hsteps, ⟨⟩⟩ := Program.runWith_bind_eq_done.mp hmerge
  cases ended with
  | error failure => cases hend
  | ok _ =>
    cases hend
    rw [Template.mergeEach_cons] at hsteps
    rcases run_bind_iff.mp hsteps with ⟨_, _, ⟨⟩⟩ | ⟨source, scope, found, hfound, hrest⟩
    change (Program.ask (.mergeImports source scope.context) _).runWith _ found = _ at hrest
    rw [Program.runWith] at hrest
    cases hmerged : env.answer patience depth (.mergeImports source scope.context) found with
    | pending between | tooDeep =>
      rw [hmerged] at hrest
      cases hrest
    | done result between =>
      rw [hmerged] at hrest
      cases result with
      | error failure => cases hrest
      | ok _ => exact ⟨source, between, ⟨scope, found, hfound, hmerged⟩, imports_of_run hrest⟩

/-- **Under which names blocks arrive.**  Let a template have one `use` tag, which renames blocks to
different names and each of them once, and let a run resolve it.  Then the template that the tag
names has been found, with its own `use` tags resolved, and nothing but the imports has changed
since.  A block that is renamed is imported under its new name, unless a block of that name is
offered behind it and keeps it: then it is that one.  A block that keeps its name is imported under
it, unless that is a new name.  Under other names there is what was there before. -/
theorem imports_of_use {t : Template} {i : BlockImport} (huse : t.blockImports = [i])
    (hsources : Dict.Distinct i.renames) (hnames : (Dict.values i.renames).Nodup) {c : Context}
    {w after : World} (hw : w.ImportsDistinct) (hopen : w.isUnresolved t = true)
    (hrun : env.run patience depth (t.mergeImports c).run w = .done (.ok ()) after) :
    ∃ source between, env.Consults patience depth t c i (w.claiming t) source between ∧
      let offered := (between.linksOf source).imported.merge source.definedBlocks
      let imported := (after.linksOf t).imported
      between.Imports t imported after ∧ after.ImportsDistinct ∧
        (∀ name new, (name, new) ∈ i.renames → ∀ before b behind,
          offered = before ++ (name, b) :: behind →
          imported.find? new = some
            ((if Dict.contains i.renames new then none else Dict.find? behind new).getD b)) ∧
        (∀ name b, offered.find? name = some b → Dict.contains i.renames name = false →
          name ∉ Dict.values i.renames → imported.find? name = some b) ∧
        ∀ name, (∀ entry ∈ offered, i.rename entry.1 ≠ name) →
          imported.find? name = (between.linksOf t).imported.find? name := by
  obtain ⟨source, between, hconsults, himports⟩ := run_mergeImports_single huse hopen hrun
  have hbetween := hconsults.importsDistinct (hw.modify t fun _ h => h)
  have hoffered : Dict.Distinct ((between.linksOf source).imported.merge source.definedBlocks) :=
    (hbetween source).merge _
  refine ⟨source, between, hconsults, ?_⟩
  intro offered imported
  have himported : imported = i.importInto (between.linksOf t).imported offered :=
    himports.imported
  refine ⟨himported ▸ himports, importsDistinct_of_run hw hrun, ?_, ?_, ?_⟩
  · intro name new hmem before b behind hsplit
    rw [himported, hsplit]
    exact BlockImport.find?_renamed hsources hnames hmem (hsplit ▸ hoffered)
  · intro name b hfound hkept hnew
    rw [himported, BlockImport.find?_kept hoffered hkept hnew, hfound]
    rfl
  · intro name hnone
    rw [himported, BlockImport.find?_untouched hnone]

/-! A template with two blocks, in the one order or in the other, and a page that renames the one to
the name of the other. -/

/-- The template. -/
def twoBlocks (renamedFirst : Bool) : Template where
  number := 0
  id := some "s"
  base := some "s"
  nodes :=
    let a : Node := .logic (.block "a" none) [.raw "A"]
    let b : Node := .logic (.block "b" none) [.raw "B"]
    if renamedFirst then [a, b] else [b, a]
  options := { rethrow := true }

/-- The page. -/
def renamed : Template where
  number := 1
  id := none
  base := none
  nodes := [.logic (.uses [.string "s"] [("a", "b")]) [],
    .output [.function "block" (some [.string "b"])]]
  options := { rethrow := true }

/-- A state in which the template is stored. -/
def Renamed.stored (renamedFirst : Bool) : World :=
  { next := 2, store := [("s", twoBlocks renamedFirst)] }

/-- The block that comes later and keeps its name is imported under it. -/
theorem imports_of_use_renamed :
    ∃ after, ({} : Environment).run .patient 9 (renamed.mergeImports []).run (Renamed.stored true)
        = .done (.ok ()) after ∧
      (after.linksOf renamed).imported.find? "b" = (twoBlocks true).block? "b" := by
  have hrun : ∃ after, ({} : Environment).run .patient 9 (renamed.mergeImports []).run
      (Renamed.stored true) = .done (.ok ()) after := ⟨_, rfl⟩
  obtain ⟨after, hafter⟩ := hrun
  refine ⟨after, hafter, ?_⟩
  have hsources : Dict.Distinct [("a", "b")] := List.nodup_singleton "a"
  have hnames : (Dict.values [("a", "b")]).Nodup := List.nodup_singleton "b"
  have hstart : (Renamed.stored true).ImportsDistinct := fun t => Dict.distinct_nil
  obtain ⟨source, between, ⟨scope, mid, hfound, hmerged⟩, -, -, himports, -⟩ :=
    imports_of_use (i := ⟨[.string "s"], [("a", "b")]⟩) rfl hsources hnames hstart rfl hafter
  cases hfound
  cases hmerged
  exact himports "a" "b" List.mem_cons_self [] _ _ rfl

/-- The page shows the one block or the other, in the order in which they are defined. -/
theorem text_renamed :
    let text (renamedFirst : Bool) := (({} : Environment).run .patient 9
      (renamed.text []).run (Renamed.stored renamedFirst)).text?
    text false = some "A" ∧ text true = some "B" := by
  decide +kernel

end Environment
end Stencil
