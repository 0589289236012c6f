import Stencil.Expr.Postfix

/-!
# Literals in compiled expressions

An array or an object stands between a start and an end token.  A list of tokens is well nested if
it can be taken apart into single tokens and whole literals (`WellNested`), and it is sound if so
are, down to the last, all lists that its tokens hold (`Sound`).  Whoever reads tokens in order
matches starts and ends on a stack (`crossAll`), and finds the same lists well nested
(`wellNested_iff`).
-/
namespace Stencil.Expr

namespace Token

/-- The lists of tokens inside a token. -/
def inner : Token → List (List Token)
  | .lambda _ body => [body]
  | .function _ params | .filter _ params | .test _ _ params => params.toList
  | .computedKey tokens | .group tokens _ => [tokens]
  | .keyBrackets key params => key :: params.toList
  | _ => []

/-- The literals that are open behind a token, the innermost first, if it ends none but the
innermost one. -/
def cross : Token → List Pending → Option (List Pending)
  | .arrayStart, around => some (.arrayStart :: around)
  | .objectStart, around => some (.objectStart :: around)
  | .arrayEnd, .arrayStart :: around => some around
  | .objectEnd, .objectStart :: around => some around
  | .arrayEnd, _ | .objectEnd, _ => none
  | _, around => some around

/-- The token starts no literal and ends none. -/
def Unmarked (t : Token) : Prop := ∀ around, t.cross around = some around

end Token

/-- The tokens at the start and at the end of a literal. -/
inductive Delimits : Token → Pending → Token → Prop
  | array : Delimits .arrayStart .arrayStart .arrayEnd
  | object : Delimits .objectStart .objectStart .objectEnd

/-- The tokens are single tokens and whole literals, whose items are such tokens again. -/
inductive WellNested : List Token → Prop
  | nil : WellNested []
  | token {t : Token} {rest : List Token} (ht : t.Unmarked) (hrest : WellNested rest) :
    WellNested (t :: rest)
  | literal {start stop : Token} {p : Pending} {items rest : List Token}
    (hp : Delimits start p stop) (hitems : WellNested items) (hrest : WellNested rest) :
    WellNested (start :: items ++ stop :: rest)

/-- The tokens are well nested, and so are all that stand inside them. -/
inductive Sound : List Token → Prop
  | intro {ts : List Token} (word : WellNested ts)
    (inside : ∀ t ∈ ts, ∀ tokens ∈ t.inner, Sound tokens) : Sound ts

/-- The tokens are those of an expression, or they stand inside one of them at any depth. -/
inductive Part (e : List Token) : List Token → Prop
  | whole : Part e e
  | inner {ts tokens : List Token} {t : Token} (h : Part e ts) (ht : t ∈ ts)
    (htokens : tokens ∈ t.inner) : Part e tokens

theorem Sound.part {e ts : List Token} (h : Sound e) (hpart : Part e ts) : Sound ts := by
  induction hpart with
  | whole => exact h
  | inner _ ht htokens ih =>
    obtain ⟨-, hinside⟩ := ih
    exact hinside _ ht _ htokens

/-! ## Open literals -/

/-- The literals that are open behind a list of tokens. -/
def crossAll (around : List Pending) (ts : List Token) : Option (List Pending) :=
  ts.foldlM (fun around t => t.cross around) around

theorem crossAll_cons (around : List Pending) (t : Token) (rest : List Token) :
    crossAll around (t :: rest) = (t.cross around).bind fun within => crossAll within rest :=
  List.foldlM_cons

theorem crossAll_append (around : List Pending) (ts rest : List Token) :
    crossAll around (ts ++ rest) = (crossAll around ts).bind fun within => crossAll within rest :=
  List.foldlM_append

theorem Delimits.cross_start {start stop : Token} {p : Pending} (h : Delimits start p stop)
    (around : List Pending) : start.cross around = some (p :: around) := by
  cases h <;> rfl

theorem Delimits.cross_stop {start stop : Token} {p : Pending} (h : Delimits start p stop)
    (around : List Pending) : stop.cross (p :: around) = some around := by
  cases h <;> rfl

/-- A literal that is open is ended by one token only. -/
theorem Delimits.stop_eq {start stop start' stop' : Token} {p : Pending}
    (h : Delimits start p stop) (h' : Delimits start' p stop') : stop = stop' := by
  cases h <;> cases h' <;> rfl

/-- What a token does to the literals that are open. -/
inductive Crossing : Token → List Pending → List Pending → Prop
  | none {t : Token} {around : List Pending} (ht : t.Unmarked) : Crossing t around around
  | start {start stop : Token} {p : Pending} {around : List Pending} (hp : Delimits start p stop) :
    Crossing start around (p :: around)
  | stop {start stop : Token} {p : Pending} {around : List Pending} (hp : Delimits start p stop) :
    Crossing stop (p :: around) around

theorem Token.cross_arrayEnd {around within : List Pending}
    (h : Token.arrayEnd.cross around = some within) : around = .arrayStart :: within := by
  unfold cross at h
  split at h <;> simp_all

theorem Token.cross_objectEnd {around within : List Pending}
    (h : Token.objectEnd.cross around = some within) : around = .objectStart :: within := by
  unfold cross at h
  split at h <;> simp_all

theorem Token.cross_eq_some {t : Token} {around within : List Pending} :
    t.cross around = some within ↔ Crossing t around within := by
  constructor
  · intro h
    cases t with
    | arrayStart =>
      obtain rfl := Option.some.inj h
      exact .start .array
    | objectStart =>
      obtain rfl := Option.some.inj h
      exact .start .object
    | arrayEnd =>
      obtain rfl := cross_arrayEnd h
      exact .stop .array
    | objectEnd =>
      obtain rfl := cross_objectEnd h
      exact .stop .object
    | _ =>
      obtain rfl := Option.some.inj h
      exact .none fun _ => rfl
  · rintro (ht | hp | hp)
    · exact ht _
    · exact hp.cross_start _
    · exact hp.cross_stop _

/-- The bracket starts a literal. -/
def Pending.IsLiteral (p : Pending) : Prop := ∃ start stop, Delimits start p stop

/-- Tokens open nothing but literals. -/
theorem isLiteral_of_crossAll {ts : List Token} {around within : List Pending}
    (h : crossAll around ts = some within) (haround : ∀ p ∈ around, p.IsLiteral) :
    ∀ p ∈ within, p.IsLiteral := by
  induction ts generalizing around with
  | nil =>
    obtain rfl := Option.some.inj h
    exact haround
  | cons t rest ih =>
    rw [crossAll_cons] at h
    obtain ⟨mid, ht, hrest⟩ := Option.bind_eq_some_iff.mp h
    refine ih hrest ?_
    cases Token.cross_eq_some.mp ht with
    | none => exact haround
    | start hp => exact List.forall_mem_cons.mpr ⟨⟨_, _, hp⟩, haround⟩
    | stop => exact fun p hp => haround p (List.mem_cons_of_mem _ hp)

/-- Tokens close no bracket that starts no literal, and nothing further out. -/
theorem exists_of_crossAll_append {ts : List Token} {p : Pending} (hp : ¬ p.IsLiteral)
    (around : List Pending) {outer within : List Pending}
    (h : crossAll (around ++ p :: outer) ts = some within) :
    ∃ own, within = own ++ p :: outer ∧ crossAll around ts = some own := by
  induction ts generalizing around with
  | nil =>
    obtain rfl := Option.some.inj h
    exact ⟨around, rfl, rfl⟩
  | cons t rest ih =>
    rw [crossAll_cons] at h
    obtain ⟨mid, ht, hrest⟩ := Option.bind_eq_some_iff.mp h
    generalize haround : around ++ p :: outer = all at ht
    rw [Token.cross_eq_some] at ht
    cases ht with
    | none hunmarked =>
      rw [← haround] at hrest
      obtain ⟨own, hwithin, hown⟩ := ih _ hrest
      exact ⟨own, hwithin, by rw [crossAll_cons, hunmarked, Option.bind_some, hown]⟩
    | start hq =>
      rw [← haround, ← List.cons_append] at hrest
      obtain ⟨own, hwithin, hown⟩ := ih _ hrest
      exact ⟨own, hwithin, by rw [crossAll_cons, hq.cross_start, Option.bind_some, hown]⟩
    | stop hq =>
      cases around with
      | nil =>
        obtain ⟨rfl, -⟩ := List.cons.inj haround
        exact absurd ⟨_, _, hq⟩ hp
      | cons q' around =>
        obtain ⟨rfl, rfl⟩ := List.cons.inj haround
        obtain ⟨own, hwithin, hown⟩ := ih _ hrest
        exact ⟨own, hwithin, by rw [crossAll_cons, hq.cross_stop, Option.bind_some, hown]⟩

/-! ## Words and stacks -/

namespace WellNested

theorem append {a b : List Token} (ha : WellNested a) (hb : WellNested b) :
    WellNested (a ++ b) := by
  induction ha with
  | nil => exact hb
  | token ht _ ih => exact .token ht ih
  | literal hp hitems _ _ ih =>
    rw [List.append_assoc]
    exact .literal hp hitems ih

/-- Well nested tokens leave open what is open in front of them. -/
theorem crossAll_eq {ts : List Token} (h : WellNested ts) (around : List Pending) :
    crossAll around ts = some around := by
  induction h generalizing around with
  | nil => rfl
  | token ht _ ih =>
    rw [crossAll_cons, ht, Option.bind_some, ih]
  | literal hp _ _ ihitems ihrest =>
    rw [List.cons_append, crossAll_cons, hp.cross_start, Option.bind_some, crossAll_append, ihitems,
      Option.bind_some, crossAll_cons, hp.cross_stop, Option.bind_some, ihrest]

end WellNested

/-- The tokens end the literals that are open in front of them, the innermost first, and what
stands between the ends is well nested. -/
def Ends : List Pending → List Token → Prop
  | [], ts => WellNested ts
  | p :: around, ts =>
    ∃ items start stop rest, Delimits start p stop ∧ ts = items ++ stop :: rest ∧ WellNested items ∧
      Ends around rest

theorem Ends.prepend {items rest : List Token} (hitems : WellNested items) {around : List Pending}
    (hrest : Ends around rest) : Ends around (items ++ rest) := by
  cases around with
  | nil => exact hitems.append hrest
  | cons p around =>
    obtain ⟨more, start, stop, rest, hp, rfl, hmore, hends⟩ := hrest
    exact ⟨items ++ more, start, stop, rest, hp, (List.append_assoc ..).symm, hitems.append hmore,
      hends⟩

theorem ends_of_crossAll {ts : List Token} {around : List Pending}
    (h : crossAll around ts = some []) : Ends around ts := by
  induction ts generalizing around with
  | nil =>
    obtain rfl := Option.some.inj h
    exact .nil
  | cons t rest ih =>
    rw [crossAll_cons] at h
    obtain ⟨within, ht, hrest⟩ := Option.bind_eq_some_iff.mp h
    cases Token.cross_eq_some.mp ht with
    | none hunmarked => exact Ends.prepend (.token hunmarked .nil) (ih hrest)
    | start hp =>
      -- the rest ends the literal that starts here, so all of the literal stands in front
      obtain ⟨items, start, stop, more, hp', rfl, hitems, hends⟩ := ih hrest
      have hliteral := WellNested.literal (hp.stop_eq hp' ▸ hp) hitems .nil
      rw [← List.cons_append, List.append_cons]
      exact Ends.prepend hliteral hends
    | stop hp => exact ⟨[], _, t, rest, hp, rfl, .nil, ih hrest⟩

/-- The tokens are well nested if whoever matches starts and ends comes through. -/
theorem wellNested_iff {ts : List Token} : WellNested ts ↔ crossAll [] ts = some [] :=
  ⟨fun h => h.crossAll_eq [], fun h => ends_of_crossAll h⟩

end Stencil.Expr
