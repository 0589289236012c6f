import Stencil.Proofs.Tree.Control

/-!
# From tokens to a tree

Tokens whose expressions and tags can be read make a tree exactly if the tags nest.  The tree is
then written back as the tokens say (`Item.parts`): none of them is lost, and a text loses the
blanks at its ends that the tags beside it take away.  Tags that do not nest are reported as the
first one that cannot stand where it does, or as the innermost one that is left open
(`Node.ofTokens_eq`).
-/
namespace Stencil

/-! ## What the tokens say -/

/-- What a token says. -/
inductive Item where
  | text (value : String)
  | comment
  | output (trimming : Source.Trimming) (e : Expr)
  | tag (trimming : Source.Trimming) (t : TagText)

namespace Item

/-- Read an expression or a tag from the text of a token. -/
def read (t : Source.Token) : Except Failure Item :=
  match t.kind with
  | .raw => .ok (.text t.value)
  | .comment => .ok .comment
  | .output trimming => do
    let e ← Expr.compile t.value
    .ok (.output trimming e)
  | .logic trimming => do
    let tag ← TagText.read t.value
    .ok (.tag trimming tag)

def trimsBefore : Item → Bool
  | .output trimming _ | .tag trimming _ => trimming.before
  | _ => false

def trimsAfter : Item → Bool
  | .output trimming _ | .tag trimming _ => trimming.after
  | _ => false

def tag? : Item → Option TagText
  | .tag _ t => some t
  | _ => none

/-- The next item that is neither a comment nor an empty text trims what is before it. -/
def trimBefore : List Item → Bool
  | [] => false
  | .comment :: rest => trimBefore rest
  | .text value :: rest => value.isEmpty && trimBefore rest
  | item :: _ => item.trimsBefore

/-- The part that an item stands for, with the blanks at the start or at the end of a text taken
away; none for a comment or a text with nothing left. -/
def part? (trimStart trimEnd : Bool) : Item → Option Part
  | .text value =>
    let kept := if trimStart then String.ofList (Text.trimStart value.toList) else value
    if kept.isEmpty then none
    else some (.text (if trimEnd then String.ofList (Text.trimEnd kept.toList) else kept))
  | .comment => none
  | .output _ e => some (.expression e)
  | .tag _ t => some t.part

/-- The parts that items stand for; `trimStart` if what is before them trims what is behind it. -/
def parts (trimStart : Bool) : List Item → List Part
  | [] => []
  | item :: rest =>
    (item.part? trimStart (trimBefore rest)).toList ++ parts item.trimsAfter rest

end Item

namespace TreeBuilder

/-! ## One token -/

/-- Take in what a token says. -/
def take (b : TreeBuilder) (item : Item) : Except Failure TreeBuilder :=
  let trimStart := b.trimNext
  let b := if item.trimsBefore then b.modifyTarget trimLast else b
  let b := { b with trimNext := item.trimsAfter }
  match item with
  | .text value => .ok (b.text trimStart value)
  | .comment => .ok b
  | .output _ e => .ok (b.emit (.output e))
  | .tag _ t => b.control t

theorem step_of_read {t : Source.Token} {item : Item} (h : Item.read t = .ok item)
    (b : TreeBuilder) : b.step t = b.take item := by
  obtain ⟨kind, value, offset⟩ := t
  cases kind with
  | raw | comment =>
    cases h
    rfl
  | output trimming =>
    cases he : Expr.compile value with
    | error e => simp [Item.read, he, bind, Except.bind] at h
    | ok e =>
      simp only [Item.read, he, bind, Except.bind] at h
      cases h
      simp only [step, he]
      rfl
  | logic trimming =>
    cases ht : TagText.read value with
    | error e => simp [Item.read, ht, bind, Except.bind] at h
    | ok tag =>
      simp only [Item.read, ht, bind, Except.bind] at h
      cases h
      simp only [step, ht]
      rfl

/-- The tree with the trailing blanks of a text at its end taken away. -/
def trimmed (b : TreeBuilder) (trim : Bool) : TreeBuilder :=
  if trim then b.modifyTarget trimLast else b

theorem trimmed_of_settled {b : TreeBuilder} (h : b.Settled) (trim : Bool) :
    b.trimmed trim = b := by
  cases trim with
  | false => rfl
  | true => exact modifyTarget_of_eq h

theorem Opens.trimmed {b : TreeBuilder} {s : List Opened} (h : b.Opens s) (trim : Bool) :
    (b.trimmed trim).Opens s := by
  cases trim with
  | false => exact h
  | true => exact h.modifyTarget _

/-- The tree has taken in an item: its part is written behind the others, whatever follows. -/
structure Takes (b b' : TreeBuilder) (item : Item) : Prop where
  settled : b'.trimNext = true → b'.Settled
  trimNext : b'.trimNext = item.trimsAfter
  written : ∀ rest, (b'.trimmed (Item.trimBefore rest)).written false =
    (b.trimmed (Item.trimBefore (item :: rest))).written false ++
      (item.part? b.trimNext (Item.trimBefore rest)).toList

theorem written_trimmed_trimNext (b : TreeBuilder) (trimNext trim : Bool) :
    ({ b with trimNext := trimNext }.trimmed trim).written false =
      (b.trimmed trim).written false := by
  cases trim with
  | false => rfl
  | true =>
    unfold trimmed modifyTarget
    cases b.stack <;> simp [written]

theorem written_text (b : TreeBuilder) (value : String) :
    (b.emit (.raw value)).written false = b.written false ++ [.text value] := by
  rw [written_emit]
  rfl

theorem trimmed_emit_raw (b : TreeBuilder) (value : String) (trim : Bool) :
    (b.emit (.raw value)).trimmed trim =
      b.emit (.raw (if trim then String.ofList (Text.trimEnd value.toList) else value)) := by
  cases trim with
  | false => rfl
  | true => exact modifyTarget_modifyTarget _ _ _

theorem take_text {b : TreeBuilder} {s : List Opened} (hb : b.Opens s)
    (hsettled : b.trimNext = true → b.Settled) (value : String) :
    ∃ b', b.take (.text value) = .ok b' ∧ b'.Opens s ∧ b.Takes b' (.text value) := by
  have htake : b.take (.text value) =
      .ok ({ b with trimNext := false }.text b.trimNext value) := rfl
  have hwithout : Opens { b with trimNext := false } s := ⟨hb.stack, hb.endsWell⟩
  rw [htake, text]
  generalize hkept :
    (if b.trimNext then String.ofList (Text.trimStart value.toList) else value) = kept
  cases hempty : kept.isEmpty with
  | true =>
    refine ⟨_, rfl, hwithout, nofun, rfl, fun rest => ?_⟩
    simp only [hempty, if_true, written_trimmed_trimNext, Item.part?, hkept, Item.trimBefore,
      Option.toList_none, List.append_nil]
    cases hvalue : value.isEmpty with
    | true => rfl
    | false =>
      -- a text that is not empty lost all of its blanks, so a tag is before it
      have htrim : b.trimNext = true := by
        cases htrim : b.trimNext with
        | true => rfl
        | false =>
          rw [htrim] at hkept
          rw [← hkept] at hempty
          exact absurd (hvalue.symm.trans hempty) nofun
      rw [trimmed_of_settled (hsettled htrim), trimmed_of_settled (hsettled htrim)]
  | false =>
    have hvalue : value.isEmpty = false := by
      cases hvalue : value.isEmpty with
      | false => rfl
      | true =>
        obtain rfl := String.isEmpty_iff.mp hvalue
        rw [← hkept] at hempty
        cases htrim : b.trimNext <;> rw [htrim] at hempty <;> cases hempty
    refine ⟨_, rfl, hwithout.modifyTarget _, fun htrim => ?_, emit_trimNext _ _, fun rest => ?_⟩
    · rw [if_neg (by simp), emit_trimNext] at htrim
      cases htrim
    · simp only [hempty, Bool.false_eq_true, if_false, trimmed_emit_raw, written_text, Item.part?,
        hkept, Item.trimBefore, hvalue, Bool.false_and]
      rfl

theorem take_comment {b : TreeBuilder} {s : List Opened} (hb : b.Opens s) :
    ∃ b', b.take .comment = .ok b' ∧ b'.Opens s ∧ b.Takes b' .comment := by
  refine ⟨_, rfl, ⟨hb.stack, hb.endsWell⟩, nofun, rfl, fun rest => ?_⟩
  exact (written_trimmed_trimNext b false _).trans (List.append_nil _).symm

theorem Takes.of_settled {b b' : TreeBuilder} {item : Item} {part : Part} (hsettled : b'.Settled)
    (htrimNext : b'.trimNext = item.trimsAfter)
    (htrim : ∀ rest, Item.trimBefore (item :: rest) = item.trimsBefore)
    (hpart : ∀ trimStart trimEnd, item.part? trimStart trimEnd = some part)
    (hwritten : b'.written false = (b.trimmed item.trimsBefore).written false ++ [part]) :
    b.Takes b' item := by
  refine ⟨fun _ => hsettled, htrimNext, fun rest => ?_⟩
  rw [trimmed_of_settled hsettled, htrim, hpart]
  exact hwritten

theorem take_output {b : TreeBuilder} {s : List Opened} (hb : b.Opens s)
    (trimming : Source.Trimming) (e : Expr) :
    ∃ b', b.take (.output trimming e) = .ok b' ∧ b'.Opens s ∧ b.Takes b' (.output trimming e) := by
  have hopens := hb.trimmed trimming.before
  have hready : Opens { b.trimmed trimming.before with trimNext := trimming.after } s :=
    ⟨hopens.stack, hopens.endsWell⟩
  refine ⟨{ b.trimmed trimming.before with trimNext := trimming.after }.emit (.output e), rfl,
    hready.modifyTarget _, ?_⟩
  refine .of_settled ?_ (emit_trimNext _ _) (fun _ => rfl) (fun _ _ => rfl) ?_
  · rw [Settled, emit, target_modifyTarget]
    rfl
  · rw [written_emit]
    rfl

theorem take_tag {b : TreeBuilder} {s : List Opened} (hb : b.Opens s)
    (trimming : Source.Trimming) {t : TagText} (ht : t.Fits) :
    match advance s t with
    | some s' => ∃ b', b.take (.tag trimming t) = .ok b' ∧ b'.Opens s' ∧
        b.Takes b' (.tag trimming t)
    | none => b.take (.tag trimming t) =
        .error ⟨.unexpectedTag t.kind.name (previous s), none⟩ := by
  have hopens := hb.trimmed trimming.before
  have hcontrol := @control_eq { b.trimmed trimming.before with trimNext := trimming.after } s
    ⟨hopens.stack, hopens.endsWell⟩ t ht
  cases hadvance : advance s t with
  | none =>
    rw [hadvance] at hcontrol
    exact hcontrol
  | some s' =>
    rw [hadvance] at hcontrol
    obtain ⟨b', hb', hin⟩ := hcontrol
    refine ⟨b', hb', hin.opens, ?_⟩
    exact .of_settled hin.settled hin.trimNext (fun _ => rfl) (fun _ _ => rfl) hin.written

end TreeBuilder

/-- The control tags that items say. -/
def Item.tags (items : List Item) : List TagText := items.filterMap Item.tag?

/-- The tag of an item is one of its kind. -/
def Item.Fits (item : Item) : Prop := ∀ t, item.tag? = some t → t.Fits

theorem Item.fits_of_read {t : Source.Token} {item : Item} (h : Item.read t = .ok item) :
    item.Fits := by
  intro tag htag
  unfold Item.read at h
  split at h
  · cases h
    cases htag
  · cases h
    cases htag
  · cases he : Expr.compile t.value <;> rw [he] at h <;> cases h
    cases htag
  · cases ht : TagText.read t.value <;> rw [ht] at h <;> cases h
    cases htag
    exact TagText.read_fits ht

namespace TreeBuilder

/-- An item that is no control tag is taken in. -/
theorem take_of_tag?_none {b : TreeBuilder} {s : List Opened} (hb : b.Opens s)
    (hsettled : b.trimNext = true → b.Settled) {item : Item} (hitem : item.tag? = none) :
    ∃ b', b.take item = .ok b' ∧ b'.Opens s ∧ b.Takes b' item := by
  cases item with
  | text value => exact take_text hb hsettled value
  | comment => exact take_comment hb
  | output trimming e => exact take_output hb trimming e
  | tag trimming t => cases hitem

theorem Takes.written_parts {b b₁ b' : TreeBuilder} {item : Item} {rest : List Item}
    (h : b.Takes b₁ item)
    (hrest : b'.written false = (b₁.trimmed (Item.trimBefore rest)).written false ++
      Item.parts b₁.trimNext rest) :
    b'.written false = (b.trimmed (Item.trimBefore (item :: rest))).written false ++
      Item.parts b.trimNext (item :: rest) := by
  rw [hrest, h.written, h.trimNext, Item.parts, List.append_assoc]

theorem foldlM_take_cons {b b₁ : TreeBuilder} {item : Item} (h : b.take item = .ok b₁)
    (rest : List Item) : (item :: rest).foldlM take b = rest.foldlM take b₁ := by
  rw [List.foldlM_cons, h]
  rfl

/-- What some items make of a tree that is being built: all of them are written behind what was
there, or the first tag that cannot stand where it does is reported. -/
def Makes (b : TreeBuilder) (s : List Opened) (items : List Item) : Prop :=
  match openTags s (Item.tags items) with
  | some s' => ∃ b', items.foldlM take b = .ok b' ∧ b'.Opens s' ∧
      b'.written false = (b.trimmed (Item.trimBefore items)).written false ++
        Item.parts b.trimNext items
  | none => ∃ before t after s', Item.tags items = before ++ t :: after ∧
      openTags s before = some s' ∧ advance s' t = none ∧
      items.foldlM take b = .error ⟨.unexpectedTag t.kind.name (previous s'), none⟩

section
variable {b b₁ : TreeBuilder} {s s₁ : List Opened} {rest : List Item}

/-- Before the others, one that is no control tag. -/
theorem Makes.cons_of_tag?_none {item : Item} (hrest : b₁.Makes s rest)
    (htag : item.tag? = none) (htake : b.take item = .ok b₁) (htakes : b.Takes b₁ item) :
    b.Makes s (item :: rest) := by
  have htags : Item.tags (item :: rest) = Item.tags rest := List.filterMap_cons_none htag
  unfold Makes at hrest ⊢
  rw [htags]
  simp only [foldlM_take_cons htake]
  split at hrest
  · obtain ⟨b', hb', hopens, hwritten⟩ := hrest
    exact ⟨b', hb', hopens, htakes.written_parts hwritten⟩
  · exact hrest

/-- Before the others, a tag that may stand there. -/
theorem Makes.cons_tag {trimming : Source.Trimming} {t : TagText} (hrest : b₁.Makes s₁ rest)
    (hadvance : advance s t = some s₁) (htake : b.take (.tag trimming t) = .ok b₁)
    (htakes : b.Takes b₁ (.tag trimming t)) : b.Makes s (.tag trimming t :: rest) := by
  have htags : Item.tags (.tag trimming t :: rest) = t :: Item.tags rest :=
    List.filterMap_cons_some rfl
  unfold Makes at hrest ⊢
  rw [htags, openTags_cons, hadvance]
  simp only [Option.bind_some, foldlM_take_cons htake]
  split at hrest
  · obtain ⟨b', hb', hopens, hwritten⟩ := hrest
    exact ⟨b', hb', hopens, htakes.written_parts hwritten⟩
  · obtain ⟨before, u, after, s', heq, hbefore, hu, herror⟩ := hrest
    refine ⟨t :: before, u, after, s', by rw [heq]; rfl, ?_, hu, herror⟩
    rw [openTags_cons, hadvance]
    exact hbefore

/-- A tag that may not stand there, whatever follows. -/
theorem makes_of_advance_none {trimming : Source.Trimming} {t : TagText}
    (hadvance : advance s t = none) (htake : b.take (.tag trimming t)
      = .error ⟨.unexpectedTag t.kind.name (previous s), none⟩) :
    b.Makes s (.tag trimming t :: rest) := by
  have htags : Item.tags (.tag trimming t :: rest) = t :: Item.tags rest :=
    List.filterMap_cons_some rfl
  unfold Makes
  rw [htags, openTags_cons, hadvance]
  refine ⟨[], t, Item.tags rest, s, rfl, rfl, hadvance, ?_⟩
  rw [List.foldlM_cons, htake]
  rfl

end

theorem makes_of_opens {items : List Item} (hfits : ∀ item ∈ items, item.Fits) {b : TreeBuilder}
    {s : List Opened} (hb : b.Opens s) (hsettled : b.trimNext = true → b.Settled) :
    b.Makes s items := by
  -- on the items, for every tree: that the end is trimmed if what follows asks for it is what each
  -- step hands on to the next
  induction items generalizing b s with
  | nil => exact ⟨b, rfl, hb, (List.append_nil _).symm⟩
  | cons item rest ih =>
    obtain ⟨hitem, hrest⟩ := List.forall_mem_cons.mp hfits
    cases htag : item.tag? with
    | none =>
      obtain ⟨b₁, hb₁, hopens, htakes⟩ := take_of_tag?_none hb hsettled htag
      exact (ih hrest hopens htakes.settled).cons_of_tag?_none htag hb₁ htakes
    | some t =>
      cases item with
      | tag trimming t' =>
        obtain rfl : t' = t := Option.some.inj htag
        have htake := take_tag hb trimming (hitem t' rfl)
        cases hadvance : advance s t' with
        | none =>
          rw [hadvance] at htake
          exact makes_of_advance_none hadvance htake
        | some s₁ =>
          rw [hadvance] at htake
          obtain ⟨b₁, hb₁, hopens, htakes⟩ := htake
          exact (ih hrest hopens htakes.settled).cons_tag hadvance hb₁ htakes
      | _ => cases htag

end TreeBuilder

theorem foldlM_step {ts : List Source.Token} {items : List Item}
    (h : ts.mapM Item.read = .ok items) (b : TreeBuilder) :
    ts.foldlM TreeBuilder.step b = items.foldlM TreeBuilder.take b ∧ ∀ item ∈ items, item.Fits := by
  induction ts generalizing items b with
  | nil =>
    cases h
    exact ⟨rfl, List.forall_mem_nil _⟩
  | cons t ts ih =>
    rw [List.mapM_cons] at h
    cases ht : Item.read t with
    | error e =>
      rw [ht] at h
      cases h
    | ok item =>
      rw [ht] at h
      cases hrest : ts.mapM Item.read with
      | error e =>
        rw [hrest] at h
        cases h
      | ok rest =>
        rw [hrest] at h
        cases h
        refine ⟨?_, List.forall_mem_cons.mpr ⟨Item.fits_of_read ht, (ih hrest b).2⟩⟩
        rw [List.foldlM_cons, List.foldlM_cons, TreeBuilder.step_of_read ht]
        exact bind_congr fun b' => (ih hrest b').1

/-- What tags that do not nest are said to fail with: the first tag that cannot continue the tags
before it, and what it follows; or the innermost tag that is open at the end, and what may follow
it. -/
inductive FailsToNest (tags : List TagText) : Failure → Prop
  | unexpected {before after : List TagText} {t : TagText} {previous : String}
    (htags : tags = before ++ t :: after) (hbefore : Viable before) (ht : ¬ Viable (before ++ [t]))
    (hprevious : Forms .tags before ∧ previous = "template start" ∨
      (∃ u, Innermost before u) ∧ ∀ u, Innermost before u → previous = u.kind.name) :
    FailsToNest tags ⟨.unexpectedTag t.kind.name previous, none⟩
  | unterminated {t : TagText} {expected : List TagKind} (htags : Viable tags)
    (ht : Innermost tags t) (hunique : ∀ u, Innermost tags u → u.kind = t.kind)
    (hexpected : expected.Sublist t.kind.next)
    (hmem : ∀ kind ∈ t.kind.next,
      kind ∈ expected ↔ ∃ u : TagText, u.kind = kind ∧ Viable (tags ++ [u])) :
    FailsToNest tags
      ⟨.unterminatedTag t.kind.name (", ".intercalate (expected.map TagKind.name)), none⟩

/-- Tags that end with one that cannot stand there fail at that one. -/
theorem failsToNest_of_advance {before after : List TagText} {t : TagText} {s : List Opened}
    (hbefore : openTags [] before = some s) (ht : advance s t = none) :
    FailsToNest (before ++ t :: after)
      ⟨.unexpectedTag t.kind.name (TreeBuilder.previous s), none⟩ := by
  have hnot : ¬ Viable (before ++ [t]) := by
    rw [viable_iff, openTags_append hbefore, openTags_cons, ht]
    exact nofun
  refine .unexpected rfl (viable_iff.mpr ⟨s, hbefore⟩) hnot ?_
  cases s with
  | nil => exact .inl ⟨forms_iff.mpr hbefore, rfl⟩
  | cons o s =>
    obtain ⟨hexists, hunique⟩ := innermost_kind hbefore
    exact .inr ⟨hexists, fun u hu => congrArg TagKind.name (hunique u hu).symm⟩

/-- Tags that leave some open fail at the innermost of them. -/
theorem failsToNest_of_openTags {tags : List TagText} {o : Opened} {s : List Opened}
    (h : openTags [] tags = some (o :: s)) :
    FailsToNest tags
      ⟨.unterminatedTag o.kind.name (", ".intercalate (o.next.map TagKind.name)), none⟩ := by
  obtain ⟨⟨t, ht⟩, hunique⟩ := innermost_kind h
  have hkind := hunique t ht
  rw [← hkind]
  have hall : ∀ u, Innermost tags u → u.kind = t.kind :=
    fun u hu => (hunique u hu).trans hkind.symm
  refine .unterminated (viable_iff.mpr ⟨_, h⟩) ht hall ?_ ?_
  · rw [hkind]
    exact o.next_sublist
  · rw [hkind]
    exact fun kind hkind' => mem_next_iff_viable h hkind'

/-- A tree without open tags is finished, and any other one is reported. -/
theorem TreeBuilder.finish_eq {b : TreeBuilder} {s : List Opened} (hb : b.Opens s) :
    match s with
    | [] => b.finish = .ok b.top.reverse ∧
        Node.writeAll false false b.top.reverse = b.written false
    | o :: _ => b.finish =
        .error ⟨.unterminatedTag o.kind.name (", ".intercalate (o.next.map TagKind.name)),
          none⟩ := by
  have hstack := hb.stack
  cases s with
  | nil =>
    have hnil := List.map_eq_nil_iff.mp hstack
    refine ⟨by simp only [finish, hnil], ?_⟩
    rw [written, hnil]
    rfl
  | cons o s =>
    obtain ⟨f, rest, hcons, hf, -⟩ := List.map_eq_cons_iff.mp hstack
    obtain ⟨hkind, hnext⟩ := Prod.mk.inj hf
    simp only [finish, hcons, hkind, hnext]

theorem Node.ofTokens_cases {ts : List Source.Token} {items : List Item}
    (h : ts.mapM Item.read = .ok items) :
    (∃ nodes, Node.ofTokens ts = .ok nodes ∧ Forms .tags (Item.tags items) ∧
      Node.writeAll false false nodes = Item.parts false items) ∨
    ∃ failure, Node.ofTokens ts = .error failure ∧ ¬ Forms .tags (Item.tags items) ∧
      FailsToNest (Item.tags items) failure := by
  obtain ⟨hsteps, hfits⟩ := foldlM_step h {}
  have htake := @TreeBuilder.makes_of_opens items hfits {} [] ⟨rfl, trivial⟩ nofun
  unfold TreeBuilder.Makes at htake
  rw [Node.ofTokens, hsteps]
  cases hopen : openTags [] (Item.tags items) with
  | none =>
    rw [hopen] at htake
    obtain ⟨before, t, after, s, htags, hbefore, ht, herror⟩ := htake
    refine .inr ⟨_, by rw [herror]; rfl, ?_, ?_⟩
    · rw [forms_iff, hopen]
      exact nofun
    · rw [htags]
      exact failsToNest_of_advance hbefore ht
  | some s =>
    rw [hopen] at htake
    obtain ⟨b, hb, hopens, hwritten⟩ := htake
    have hfinish := TreeBuilder.finish_eq hopens
    rw [hb]
    cases s with
    | nil =>
      obtain ⟨hfinish, hall⟩ := hfinish
      refine .inl ⟨_, hfinish, forms_iff.mpr hopen, ?_⟩
      rw [hall, hwritten]
      cases Item.trimBefore items <;> rfl
    | cons o s =>
      refine .inr ⟨_, hfinish, ?_, failsToNest_of_openTags hopen⟩
      rw [forms_iff, hopen]
      exact nofun

/-- The tags of a template are accepted exactly if they nest.  The tree that is made of the tokens
is written back as they say, without a loss; and tags that do not nest are reported as what they
are. -/
theorem Node.ofTokens_eq {ts : List Source.Token} {items : List Item}
    (h : ts.mapM Item.read = .ok items) :
    ((∃ nodes, Node.ofTokens ts = .ok nodes) ↔ Forms .tags (Item.tags items)) ∧
    (∀ nodes, Node.ofTokens ts = .ok nodes →
      Node.writeAll false false nodes = Item.parts false items) ∧
    ∀ failure, Node.ofTokens ts = .error failure → FailsToNest (Item.tags items) failure := by
  rcases Node.ofTokens_cases h with ⟨nodes, hok, hforms, hwritten⟩ | ⟨failure, herror, hnot, hfails⟩
  · rw [hok]
    refine ⟨⟨fun _ => hforms, fun _ => ⟨nodes, rfl⟩⟩, ?_, nofun⟩
    rintro _ ⟨⟩
    exact hwritten
  · rw [herror]
    refine ⟨⟨nofun, fun hforms => absurd hforms hnot⟩, nofun, ?_⟩
    rintro _ ⟨⟩
    exact hfails

/-- The tree of `{% if a -%} b{% else %}{% endif %}` is written back as the template, with the blank
that the first tag takes away missing. -/
theorem Node.ofTokens_sections :
    ([⟨.logic ⟨false, true⟩, "if a", 0⟩, ⟨.raw, " b", 11⟩, ⟨.logic ⟨false, false⟩, "else", 13⟩,
      ⟨.logic ⟨false, false⟩, "endif", 23⟩] : List Source.Token).mapM Item.read =
        .ok [.tag ⟨false, true⟩ ⟨.branch, some (.branch [.variable "a"])⟩, .text " b",
          .tag ⟨false, false⟩ ⟨.otherwise, some .otherwise⟩,
          .tag ⟨false, false⟩ ⟨.endBranch, none⟩] ∧
      Node.writeAll false false
        [.logic (.branch [.variable "a"]) [.raw "b"], .logic .otherwise []] =
        [.tag (.branch [.variable "a"]), .text "b", .tag .otherwise, .ending .endBranch] := by
  have hread : ([⟨.logic ⟨false, true⟩, "if a", 0⟩, ⟨.raw, " b", 11⟩,
      ⟨.logic ⟨false, false⟩, "else", 13⟩,
      ⟨.logic ⟨false, false⟩, "endif", 23⟩] : List Source.Token).mapM Item.read =
        .ok [.tag ⟨false, true⟩ ⟨.branch, some (.branch [.variable "a"])⟩, .text " b",
          .tag ⟨false, false⟩ ⟨.otherwise, some .otherwise⟩,
          .tag ⟨false, false⟩ ⟨.endBranch, none⟩] := rfl
  exact ⟨hread, (Node.ofTokens_eq hread).2.1 _ rfl⟩

end Stencil
