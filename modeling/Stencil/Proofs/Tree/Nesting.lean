import Stencil.Tree.TagText

/-!
# How tags nest

The tags of a template form a word of a grammar (`Forms`): a tag that stands alone, a branch with
its sections, a loop with its section, or a tag with its own end, and words between them.  The tags
that are open after a run of tags are kept on a stack (`openTags`).  The stack gets empty exactly on
the words of the grammar (`forms_iff`), a run that comes to any stack is the start of a word
(`viable_iff`), and on top of the stack is the last tag that only whole tags follow
(`innermost_kind`).
-/
namespace Stencil

/-! ## Tags and what may follow them -/

/-- The tags that have an end of their own. -/
inductive Enclosure where
  | capture
  | block
  | embeds
  | macroDef
  | scoped
  | spaceless
  | apply
  | filter
  | autoescape
  deriving DecidableEq, Repr

namespace Enclosure

def kind : Enclosure → TagKind
  | .capture => .capture
  | .block => .block
  | .embeds => .embeds
  | .macroDef => .macroDef
  | .scoped => .scoped
  | .spaceless => .spaceless
  | .apply => .apply
  | .filter => .filter
  | .autoescape => .autoescape

def ending : Enclosure → TagKind
  | .capture => .endCapture
  | .block => .endBlock
  | .embeds => .endEmbeds
  | .macroDef => .endMacro
  | .scoped => .endScoped
  | .spaceless => .endSpaceless
  | .apply => .endApply
  | .filter => .endFilter
  | .autoescape => .endAutoescape

end Enclosure

/-- A tag that is open, by what may follow it. -/
inductive Opened where
  /-- A branch, or another one behind it. -/
  | branch (again : Bool)
  | loop
  /-- The last section of a branch or of a loop. -/
  | otherwise (ofLoop : Bool)
  | enclosure (e : Enclosure)
  deriving DecidableEq, Repr

namespace Opened

def kind : Opened → TagKind
  | .branch false => .branch
  | .branch true => .elseBranch
  | .loop => .loop
  | .otherwise _ => .otherwise
  | .enclosure e => e.kind

/-- The tags that may follow. -/
def next : Opened → List TagKind
  | .branch false => [.elseBranch, .otherwise, .endBranch]
  | .branch true => [.otherwise, .elseBranch, .endBranch]
  | .loop => [.otherwise, .endLoop]
  | .otherwise false => [.endBranch]
  | .otherwise true => [.endLoop]
  | .enclosure e => [e.ending]

/-- What is open behind a tag that follows: nothing if it is the end. -/
def follow : Opened → TagKind → Option (Option Opened)
  | .branch _, .elseBranch => some (some (.branch true))
  | .branch _, .otherwise => some (some (.otherwise false))
  | .branch _, .endBranch => some none
  | .loop, .otherwise => some (some (.otherwise true))
  | .loop, .endLoop => some none
  | .otherwise false, .endBranch => some none
  | .otherwise true, .endLoop => some none
  | .enclosure e, kind => if kind = e.ending then some none else none
  | _, _ => none

end Opened

/-- What a tag is to the tags around it. -/
inductive Place where
  | alone
  | opens (o : Opened)
  /-- The tag continues or ends another one. -/
  | follows
  deriving DecidableEq, Repr

/-- The place of a tag.  A block with an expression has no end. -/
def TagText.place (t : TagText) : Place :=
  match t.kind with
  | .assign | .inherits | .uses | .includes | .imports | .importsNames | .evaluate
  | .deprecated => .alone
  | .block =>
    match t.tag with
    | some (.block _ (some _)) => .alone
    | _ => .opens (.enclosure .block)
  | .branch => .opens (.branch false)
  | .loop => .opens .loop
  | .capture => .opens (.enclosure .capture)
  | .embeds => .opens (.enclosure .embeds)
  | .macroDef => .opens (.enclosure .macroDef)
  | .scoped => .opens (.enclosure .scoped)
  | .spaceless => .opens (.enclosure .spaceless)
  | .apply => .opens (.enclosure .apply)
  | .filter => .opens (.enclosure .filter)
  | .autoescape => .opens (.enclosure .autoescape)
  | .elseBranch | .otherwise | .endBranch | .endLoop | .endCapture | .endBlock | .endEmbeds
  | .endMacro | .endScoped | .endSpaceless | .endApply | .endFilter | .endAutoescape => .follows

/-! ## The grammar -/

/-- What a run of tags is a whole of. -/
inductive Phrase where
  | tags
  /-- What follows the first section of a branch. -/
  | branchEnd
  /-- What follows the first section of a loop. -/
  | loopEnd

/-- The tags form a phrase. -/
inductive Forms : Phrase → List TagText → Prop
  | nil : Forms .tags []
  | alone {t : TagText} {rest : List TagText} (ht : t.place = .alone) (hrest : Forms .tags rest) :
    Forms .tags (t :: rest)
  | branch {t : TagText} {body sections rest : List TagText} (ht : t.kind = .branch)
    (hbody : Forms .tags body) (hsections : Forms .branchEnd sections)
    (hrest : Forms .tags rest) : Forms .tags (t :: (body ++ (sections ++ rest)))
  | loop {t : TagText} {body sections rest : List TagText} (ht : t.kind = .loop)
    (hbody : Forms .tags body) (hsections : Forms .loopEnd sections) (hrest : Forms .tags rest) :
    Forms .tags (t :: (body ++ (sections ++ rest)))
  | encloses {t ending : TagText} {e : Enclosure} {body rest : List TagText}
    (ht : t.place = .opens (.enclosure e)) (hbody : Forms .tags body)
    (hending : ending.kind = e.ending) (hrest : Forms .tags rest) :
    Forms .tags (t :: (body ++ (ending :: rest)))
  | endBranch {t : TagText} (ht : t.kind = .endBranch) : Forms .branchEnd [t]
  | elseBranch {t : TagText} {body sections : List TagText} (ht : t.kind = .elseBranch)
    (hbody : Forms .tags body) (hsections : Forms .branchEnd sections) :
    Forms .branchEnd (t :: (body ++ sections))
  | otherwise {t ending : TagText} {body : List TagText} (ht : t.kind = .otherwise)
    (hbody : Forms .tags body) (hending : ending.kind = .endBranch) :
    Forms .branchEnd (t :: (body ++ [ending]))
  | endLoop {t : TagText} (ht : t.kind = .endLoop) : Forms .loopEnd [t]
  | loopOtherwise {t ending : TagText} {body : List TagText} (ht : t.kind = .otherwise)
    (hbody : Forms .tags body) (hending : ending.kind = .endLoop) :
    Forms .loopEnd (t :: (body ++ [ending]))

/-- The tags can be continued to whole ones. -/
def Viable (ts : List TagText) : Prop := ∃ more, Forms .tags (ts ++ more)

/-- The innermost tag that is open behind the tags: whole tags only follow it. -/
def Innermost (ts : List TagText) (t : TagText) : Prop :=
  ∃ before body, ts = before ++ t :: body ∧ Forms .tags body ∧
    t.place ≠ .alone ∧ (t.place = .follows → t.kind = .elseBranch ∨ t.kind = .otherwise)

namespace Forms

theorem append {ts us : List TagText} (ht : Forms .tags ts) (hu : Forms .tags us) :
    Forms .tags (ts ++ us) := by
  generalize hp : Phrase.tags = p at ht
  induction ht with
  | nil => exact hu
  | alone ht hrest ih => exact .alone ht (ih hp)
  | branch ht hbody hsections hrest _ _ ih =>
    simpa using Forms.branch ht hbody hsections (ih hp)
  | loop ht hbody hsections hrest _ _ ih => simpa using Forms.loop ht hbody hsections (ih hp)
  | encloses ht hbody hending hrest _ ih => simpa using Forms.encloses ht hbody hending (ih hp)
  | endBranch | elseBranch | otherwise | endLoop | loopOtherwise => cases hp

end Forms

/-! ## Open tags -/

namespace Opened

/-- What may follow the body of an open tag up to its end. -/
def Ends : Opened → List TagText → Prop
  | .branch _, ts => Forms .branchEnd ts
  | .loop, ts => Forms .loopEnd ts
  | .otherwise false, ts => ∃ t, ts = [t] ∧ t.kind = .endBranch
  | .otherwise true, ts => ∃ t, ts = [t] ∧ t.kind = .endLoop
  | .enclosure e, ts => ∃ t, ts = [t] ∧ t.kind = e.ending

end Opened

/-- The open tags behind a tag, the innermost first; none if the tag cannot stand there. -/
def advance (s : List Opened) (t : TagText) : Option (List Opened) :=
  match t.place with
  | .alone => some s
  | .opens o => some (o :: s)
  | .follows =>
    match s with
    | [] => none
    | o :: s => (o.follow t.kind).map fun o' => o'.toList ++ s

/-- The open tags behind some tags. -/
def openTags (s : List Opened) (ts : List TagText) : Option (List Opened) := ts.foldlM advance s

theorem openTags_cons (s : List Opened) (t : TagText) (ts : List TagText) :
    openTags s (t :: ts) = (advance s t).bind (openTags · ts) := rfl

theorem openTags_append {s s' : List Opened} {ts : List TagText} (h : openTags s ts = some s')
    (us : List TagText) : openTags s (ts ++ us) = openTags s' us := by
  rw [openTags, List.foldlM_append]
  exact congrArg (·.bind (openTags · us)) h

/-! ## Words leave nothing open -/

/-- A phrase leaves open what is open around it. -/
def Phrase.Closes : Phrase → List TagText → Prop
  | .tags, ts => ∀ s, openTags s ts = some s
  | .branchEnd, ts => ∀ again s, openTags (.branch again :: s) ts = some s
  | .loopEnd, ts => ∀ s, openTags (.loop :: s) ts = some s

theorem TagText.place_eq_follows (t : TagText) : t.place = .follows ↔ t.kind.isOpen = false := by
  obtain ⟨kind, tag⟩ := t
  cases kind with
  | block =>
    simp only [place, TagKind.isOpen]
    split <;> simp
  | _ => simp [place, TagKind.isOpen]

theorem TagText.place_of_kind {t : TagText} (o : Opened) (ho : o = .branch false ∨ o = .loop)
    (h : t.kind = o.kind) : t.place = .opens o := by
  rcases ho with rfl | rfl <;> simp only [place, h, Opened.kind]

theorem TagText.kind_of_place {t : TagText} {o : Opened} (h : t.place = .opens o) :
    t.kind = o.kind ∧ (o = .branch false ∨ o = .loop ∨ ∃ e, o = .enclosure e) := by
  obtain ⟨kind, tag⟩ := t
  cases kind with
  | block =>
    simp only [place] at h
    split at h <;> cases h
    exact ⟨rfl, .inr (.inr ⟨_, rfl⟩)⟩
  | _ =>
    cases h <;> simp [Opened.kind, Enclosure.kind]

theorem Enclosure.ending_isOpen (e : Enclosure) : e.ending.isOpen = false := by
  cases e <;> rfl

theorem advance_follows {o : Opened} {s : List Opened} {t : TagText} {kind : TagKind}
    (ht : t.kind = kind) (hkind : kind.isOpen = false) :
    advance (o :: s) t = (o.follow kind).map fun o' => o'.toList ++ s := by
  obtain rfl := ht
  simp only [advance, t.place_eq_follows.mpr hkind]

theorem Forms.closes {p : Phrase} {ts : List TagText} (h : Forms p ts) : p.Closes ts := by
  -- on the derivation: what is below on the stack is not touched before the phrase is closed, so it
  -- is left general in every case
  induction h with
  | nil => exact fun s => rfl
  | alone ht hrest ih =>
    intro s
    simp only [openTags_cons, advance, ht, Option.bind_some]
    exact ih s
  | branch ht hbody hsections hrest ihbody ihsections ihrest =>
    intro s
    have hplace := TagText.place_of_kind (.branch false) (.inl rfl) ht
    simp only [openTags_cons, advance, hplace, Option.bind_some]
    rw [openTags_append (ihbody _), openTags_append (ihsections _ _)]
    exact ihrest s
  | loop ht hbody hsections hrest ihbody ihsections ihrest =>
    intro s
    have hplace := TagText.place_of_kind .loop (.inr rfl) ht
    simp only [openTags_cons, advance, hplace, Option.bind_some]
    rw [openTags_append (ihbody _), openTags_append (ihsections _)]
    exact ihrest s
  | @encloses t ending e body rest ht hbody hending hrest ihbody ihrest =>
    intro s
    simp only [openTags_cons, advance, ht, Option.bind_some]
    rw [openTags_append (ihbody _), openTags_cons, advance_follows hending e.ending_isOpen,
      Opened.follow, if_pos rfl]
    exact ihrest s
  | endBranch ht =>
    intro again s
    rw [openTags_cons, advance_follows ht rfl]
    rfl
  | elseBranch ht hbody hsections ihbody ihsections =>
    intro again s
    rw [openTags_cons, advance_follows ht rfl]
    exact (openTags_append (ihbody _) _).trans (ihsections true s)
  | otherwise ht hbody hending ihbody =>
    intro again s
    rw [openTags_cons, advance_follows ht rfl]
    refine (openTags_append (ihbody (.otherwise false :: s)) _).trans ?_
    rw [openTags_cons, advance_follows hending rfl]
    rfl
  | endLoop ht =>
    intro s
    rw [openTags_cons, advance_follows ht rfl]
    rfl
  | loopOtherwise ht hbody hending ihbody =>
    intro s
    rw [openTags_cons, advance_follows ht rfl]
    refine (openTags_append (ihbody (.otherwise true :: s)) _).trans ?_
    rw [openTags_cons, advance_follows hending rfl]
    rfl

/-! ## What the stack says of the tags -/

/-- The tags since an open one, it included, become whole with what may end it. -/
structure Opened.Holds (o : Opened) (ts : List TagText) : Prop where
  opener : ∃ before t, ts = before ++ [t] ∧ t.kind = o.kind ∧ t.place ≠ .alone
  whole : ∀ body sections, Forms .tags body → o.Ends sections →
    Forms .tags (ts ++ (body ++ sections))

/-- The open tags with what has been read since each of them. -/
def Stacked : List Opened → List TagText → Prop
  | [], ts => Forms .tags ts
  | o :: s, ts => ∃ before since body, ts = before ++ (since ++ body) ∧ Stacked s before ∧
      o.Holds since ∧ Forms .tags body

theorem Stacked.append {s : List Opened} {ts us : List TagText} (h : Stacked s ts)
    (hu : Forms .tags us) : Stacked s (ts ++ us) := by
  cases s with
  | nil => exact Forms.append h hu
  | cons o s =>
    obtain ⟨before, since, body, rfl, hbefore, hholds, hbody⟩ := h
    exact ⟨before, since, body ++ us, by simp, hbefore, hholds, hbody.append hu⟩

theorem Stacked.push {s : List Opened} {ts : List TagText} (h : Stacked s ts) {o : Opened}
    {t : TagText} (ht : o.Holds [t]) : Stacked (o :: s) (ts ++ [t]) :=
  ⟨ts, [t], [], by simp, h, ht, .nil⟩

/-- A tag that ends the innermost open tag makes it whole. -/
theorem Stacked.close {o : Opened} {s : List Opened} {ts : List TagText} {t : TagText}
    (h : Stacked (o :: s) ts) (ht : o.Ends [t]) : Stacked s (ts ++ [t]) := by
  obtain ⟨before, since, body, rfl, hbefore, hholds, hbody⟩ := h
  simpa using hbefore.append (hholds.whole body [t] hbody ht)

/-- A tag that continues the innermost open tag takes its place. -/
theorem Stacked.continue {o o' : Opened} {s : List Opened} {ts : List TagText} {t : TagText}
    (h : Stacked (o :: s) ts) (hkind : t.kind = o'.kind) (hplace : t.place ≠ .alone)
    (ht : ∀ body sections, Forms .tags body → o'.Ends sections →
      o.Ends (t :: (body ++ sections))) : Stacked (o' :: s) (ts ++ [t]) := by
  obtain ⟨before, since, body, rfl, hbefore, hholds, hbody⟩ := h
  refine ⟨before, since ++ body ++ [t], [], by simp, hbefore, ⟨?_, ?_⟩, .nil⟩
  · exact ⟨since ++ body, t, rfl, hkind, hplace⟩
  · intro body' sections hbody' hsections
    simpa using hholds.whole body _ hbody (ht body' sections hbody' hsections)

/-- The kind of the end of an open tag. -/
def Opened.ending : Opened → TagKind
  | .branch _ | .otherwise false => .endBranch
  | .loop | .otherwise true => .endLoop
  | .enclosure e => e.ending

theorem Opened.follow_ending (o : Opened) : o.follow o.ending = some none := by
  cases o with
  | otherwise ofLoop => cases ofLoop <;> rfl
  | enclosure e => exact if_pos rfl
  | _ => rfl

theorem Opened.ending_isOpen (o : Opened) : o.ending.isOpen = false := by
  cases o with
  | otherwise ofLoop => cases ofLoop <;> rfl
  | enclosure e => exact e.ending_isOpen
  | _ => rfl

/-- What a tag that follows does to the innermost open tag. -/
theorem Opened.follow_eq_some {o : Opened} {t : TagText} {o' : Option Opened}
    (h : o.follow t.kind = some o') :
    (o' = none ∧ t.kind = o.ending ∧ o.Ends [t]) ∨
      ∃ inside, o' = some inside ∧ t.kind = inside.kind ∧
        ∀ body sections, Forms .tags body → inside.Ends sections →
          o.Ends (t :: (body ++ sections)) := by
  generalize hkind : t.kind = kind at h
  rw [follow.eq_def] at h
  split at h
  · cases h
    exact .inr ⟨_, rfl, rfl, fun body sections hbody => Forms.elseBranch hkind hbody⟩
  · cases h
    refine .inr ⟨_, rfl, rfl, ?_⟩
    rintro body _ hbody ⟨ending, rfl, hending⟩
    exact Forms.otherwise hkind hbody hending
  · cases h
    exact .inl ⟨rfl, rfl, Forms.endBranch hkind⟩
  · cases h
    refine .inr ⟨_, rfl, rfl, ?_⟩
    rintro body _ hbody ⟨ending, rfl, hending⟩
    exact Forms.loopOtherwise hkind hbody hending
  · cases h
    exact .inl ⟨rfl, rfl, Forms.endLoop hkind⟩
  · cases h
    exact .inl ⟨rfl, rfl, t, rfl, hkind⟩
  · cases h
    exact .inl ⟨rfl, rfl, t, rfl, hkind⟩
  · split at h
    · next hending =>
      cases h
      exact .inl ⟨rfl, hending, t, rfl, hkind.trans hending⟩
    · cases h
  · cases h

theorem Opened.holds_opener {o : Opened} {t : TagText} (h : t.place = .opens o) : o.Holds [t] := by
  obtain ⟨hkind, ho⟩ := TagText.kind_of_place h
  refine ⟨⟨[], t, rfl, hkind, by simp [h]⟩, ?_⟩
  rcases ho with rfl | rfl | ⟨e, rfl⟩
  · intro body sections hbody hsections
    simpa using Forms.branch hkind hbody hsections .nil
  · intro body sections hbody hsections
    simpa using Forms.loop hkind hbody hsections .nil
  · rintro body _ hbody ⟨ending, rfl, hending⟩
    simpa using Forms.encloses h hbody hending .nil

theorem Stacked.advance {s s' : List Opened} {ts : List TagText} {t : TagText} (h : Stacked s ts)
    (ht : advance s t = some s') : Stacked s' (ts ++ [t]) := by
  rw [advance.eq_def] at ht
  split at ht
  · next hplace =>
    cases ht
    exact h.append (.alone hplace .nil)
  · next o hplace =>
    cases ht
    exact h.push (Opened.holds_opener hplace)
  · next hplace =>
    split at ht
    · cases ht
    · next o s =>
      obtain ⟨o', ho', rfl⟩ := Option.map_eq_some_iff.mp ht
      rcases Opened.follow_eq_some ho' with ⟨rfl, -, hends⟩ | ⟨inside, rfl, hkind, hends⟩
      · exact h.close hends
      · exact h.continue hkind (by simp [hplace]) hends

theorem Stacked.openTags {s s' : List Opened} {before ts : List TagText} (h : Stacked s before)
    (hts : openTags s ts = some s') : Stacked s' (before ++ ts) := by
  induction ts generalizing s before with
  | nil =>
    cases hts
    rwa [List.append_nil]
  | cons t ts ih =>
    rw [openTags_cons] at hts
    obtain ⟨between, ht, hrest⟩ := Option.bind_eq_some_iff.mp hts
    have hall := ih (h.advance ht) hrest
    rwa [List.append_assoc] at hall

/-- Some tags are whole exactly if they leave nothing open. -/
theorem forms_iff {ts : List TagText} : Forms .tags ts ↔ openTags [] ts = some [] := by
  constructor
  · intro h
    exact h.closes []
  · intro h
    exact @Stacked.openTags [] [] [] ts .nil h

/-! ## What tags can be continued with -/

/-- All open tags can be ended. -/
theorem openTags_endings (s : List Opened) :
    openTags s (s.map fun o => ⟨o.ending, none⟩) = some [] := by
  induction s with
  | nil => rfl
  | cons o s ih =>
    rw [List.map_cons, openTags_cons, advance_follows rfl o.ending_isOpen, o.follow_ending]
    exact ih

theorem viable_iff {ts : List TagText} : Viable ts ↔ ∃ s, openTags [] ts = some s := by
  constructor
  · rintro ⟨more, hmore⟩
    have hall := forms_iff.mp hmore
    rw [openTags, List.foldlM_append] at hall
    obtain ⟨s, hs, -⟩ := Option.bind_eq_some_iff.mp hall
    exact ⟨s, hs⟩
  · -- what is open can be ended, from the innermost on
    rintro ⟨s, hs⟩
    exact ⟨_, forms_iff.mpr ((openTags_append hs _).trans (openTags_endings s))⟩

theorem Opened.kind_of_isOpen {o : Opened} (h : o.kind.isOpen = false) :
    o.kind = .elseBranch ∨ o.kind = .otherwise := by
  cases o with
  | branch again => cases again <;> simp_all [kind, TagKind.isOpen]
  | loop => cases h
  | otherwise ofLoop => exact .inr rfl
  | enclosure e => cases e <;> cases h

theorem Opened.ending_ne (o : Opened) : o.ending ≠ .elseBranch ∧ o.ending ≠ .otherwise := by
  cases o with
  | otherwise ofLoop => cases ofLoop <;> decide
  | enclosure e => cases e <;> decide
  | branch | loop => exact ⟨nofun, nofun⟩

/-- A tag that is open itself gets on top of the stack. -/
theorem kind_of_advance {s s' : List Opened} {t : TagText} (h : advance s t = some s')
    (hplace : t.place ≠ .alone)
    (hfollows : t.place = .follows → t.kind = .elseBranch ∨ t.kind = .otherwise) :
    ∃ o rest, s' = o :: rest ∧ t.kind = o.kind := by
  rw [advance.eq_def] at h
  split at h
  · next halone => exact absurd halone hplace
  · next o hopens =>
    cases h
    exact ⟨o, s, rfl, (TagText.kind_of_place hopens).1⟩
  · next hplace =>
    split at h
    · cases h
    · next o s =>
      obtain ⟨o', ho', rfl⟩ := Option.map_eq_some_iff.mp h
      rcases Opened.follow_eq_some ho' with ⟨-, hending, -⟩ | ⟨inside, rfl, hkind, -⟩
      · rcases hfollows hplace with hkind | hkind
        · exact absurd (hending.symm.trans hkind) o.ending_ne.1
        · exact absurd (hending.symm.trans hkind) o.ending_ne.2
      · exact ⟨inside, s, rfl, hkind⟩

/-- The innermost open tag is the one on top of the stack. -/
theorem innermost_kind {ts : List TagText} {o : Opened} {s : List Opened}
    (h : openTags [] ts = some (o :: s)) :
    (∃ t, Innermost ts t) ∧ ∀ t, Innermost ts t → t.kind = o.kind := by
  constructor
  · obtain ⟨before, since, body, rfl, -, hholds, hbody⟩ := @Stacked.openTags [] _ [] ts .nil h
    obtain ⟨pre, t, rfl, hkind, hplace⟩ := hholds.opener
    refine ⟨t, before ++ pre, body, by simp, hbody, hplace, fun hfollows => ?_⟩
    rw [t.place_eq_follows, hkind] at hfollows
    rw [hkind]
    exact Opened.kind_of_isOpen hfollows
  · rintro t ⟨before, body, rfl, hbody, hplace, hfollows⟩
    rw [openTags, List.foldlM_append] at h
    obtain ⟨s₀, -, h⟩ := Option.bind_eq_some_iff.mp h
    obtain ⟨s₁, ht, h⟩ := Option.bind_eq_some_iff.mp h
    obtain ⟨o', rest, rfl, hkind⟩ := kind_of_advance ht hplace hfollows
    cases (hbody.closes _).symm.trans h
    exact hkind

theorem Opened.mem_next_iff {o : Opened} {kind : TagKind} :
    kind ∈ o.next ↔ (o.follow kind).isSome = true := by
  cases o with
  | branch again => cases again <;> cases kind <;> decide
  | loop => cases kind <;> decide
  | otherwise ofLoop => cases ofLoop <;> cases kind <;> decide
  | enclosure e =>
    by_cases hkind : kind = e.ending
    · simp [next, follow, hkind]
    · simp [next, follow, hkind]

theorem Opened.next_sublist (o : Opened) : o.next.Sublist o.kind.next := by
  cases o with
  | branch again => cases again <;> decide
  | loop => decide
  | otherwise ofLoop => cases ofLoop <;> decide
  | enclosure e => cases e <;> decide

theorem TagKind.isOpen_of_mem_next (kind : TagKind) : ∀ k ∈ kind.next, k.isOpen = false := by
  cases kind <;> decide

/-- The tags that may follow the innermost open tag are those that keep the tags viable. -/
theorem mem_next_iff_viable {ts : List TagText} {o : Opened} {s : List Opened}
    (h : openTags [] ts = some (o :: s)) {kind : TagKind} (hkind : kind ∈ o.kind.next) :
    kind ∈ o.next ↔ ∃ t : TagText, t.kind = kind ∧ Viable (ts ++ [t]) := by
  have hopen := o.kind.isOpen_of_mem_next kind hkind
  have hopened (t : TagText) (ht : t.kind = kind) :
      openTags [] (ts ++ [t]) = (o.follow kind).map fun o' => o'.toList ++ s := by
    rw [openTags_append h, openTags_cons, advance_follows ht hopen]
    cases o.follow kind <;> rfl
  rw [Opened.mem_next_iff]
  constructor
  · intro hfollow
    obtain ⟨o', ho'⟩ := Option.isSome_iff_exists.mp hfollow
    refine ⟨⟨kind, none⟩, rfl, viable_iff.mpr ⟨o'.toList ++ s, ?_⟩⟩
    rw [hopened _ rfl, ho']
    rfl
  · rintro ⟨t, ht, hviable⟩
    obtain ⟨s', hs'⟩ := viable_iff.mp hviable
    rw [hopened t ht] at hs'
    obtain ⟨o', ho', -⟩ := Option.map_eq_some_iff.mp hs'
    rw [ho']
    rfl

end Stencil
