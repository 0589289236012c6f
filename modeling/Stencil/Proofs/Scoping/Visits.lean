import Stencil.Proofs.Dict
import Stencil.Proofs.Inheritance.Frame

/-!
# What a loop does with its entries

A loop goes through its entries one after the other.  For each it binds the value and the key, asks
the guard, and if that lets the entry pass renews `loop` and runs the body.  `Loop.Visits` says so
step by step and keeps a record of each visit; a loop that ends well has such visits
(`Loop.runs_ok_iff`), and one that fails has them up to the entry where the guard or the body fails
(`Loop.runs_error_iff`).
-/
namespace Stencil
open Rendering

namespace Loop

/-- The visit of an entry. -/
structure Visit where
  entry : Value × Value
  /-- The scope in which the guard is asked. -/
  asked : Scope
  /-- If the entry passes: the scope in which the body starts, and its text. -/
  kept? : Option (Scope × String)

/-- The scope in which the guard is asked for an entry. -/
def asked (l : Loop) (entry : Value × Value) (s : Scope) : Scope :=
  { s with context := l.names.bindEntry entry s.context }

/-- The scope in which the body starts in run number `index`. -/
def started (l : Loop) (index identity : Nat) (s : Scope) : Scope :=
  let loop := Value.object identity (loopEntries index l.length l.guard?.isSome l.parent)
  { s with context := s.context.insert "loop" loop }

/-- The runs of the body among visits: where each starts, and its text. -/
def kept (visits : List Visit) : List (Scope × String) := visits.filterMap Visit.kept?

/-- The texts of the runs, one after the other. -/
def text (visits : List Visit) : String := String.join ((kept visits).map Prod.snd)

@[simp] theorem kept_nil : kept [] = [] := rfl

@[simp] theorem kept_kept (entry : Value × Value) (asked : Scope) (run : Scope × String)
    (visits : List Visit) : kept (⟨entry, asked, some run⟩ :: visits) = run :: kept visits := rfl

@[simp] theorem text_nil : text [] = "" := rfl

@[simp] theorem text_kept (entry : Value × Value) (asked start : Scope) (done : String)
    (visits : List Visit) :
    text (⟨entry, asked, some (start, done)⟩ :: visits) = done ++ text visits :=
  String.join_cons

section
variable (answer : (r : Request) → World → Outcome r.Answer) (body : Rendering String)

/-- The loop goes through entries, from run number `index` of the body on. -/
inductive Visits (l : Loop) :
    List (Value × Value) → Nat → Scope → World → List Visit → Scope → World → Prop
  | done (index : Nat) (s : Scope) (w : World) : Visits l [] index s w [] s w
  /-- The guard does not let the entry pass. -/
  | passedOver {entry : Value × Value} {rest : List (Value × Value)} {index : Nat}
      {s next after : Scope} {w between last : World} {visits : List Visit}
      (hpasses : (l.passes (l.asked entry s)).runWith answer w = .done (.ok false, next) between)
      (hrest : Visits l rest index next between visits after last) :
      Visits l (entry :: rest) index s w (⟨entry, l.asked entry s, none⟩ :: visits) after last
  /-- The entry passes, and the body ends well. -/
  | kept {entry : Value × Value} {rest : List (Value × Value)} {index identity : Nat}
      {s mid next after : Scope} {w between start behind last : World} {text : String}
      {visits : List Visit}
      (hpasses : (l.passes (l.asked entry s)).runWith answer w = .done (.ok true, mid) between)
      (hfresh : answer .fresh between = .done identity start)
      (hbody : (body (l.started index identity mid)).runWith answer start
        = .done (.ok text, next) behind)
      (hrest : Visits l rest (index + 1) next behind visits after last) :
      Visits l (entry :: rest) index s w
        (⟨entry, l.asked entry s, some (l.started index identity mid, text)⟩ :: visits) after last

/-- The visit of an entry, in run number `index` of the body, fails. -/
inductive Fails (l : Loop) (entry : Value × Value) (index : Nat) (s : Scope) (w : World)
    (failure : Failure) (after : Scope) (last : World) : Prop
  | guard (hpasses : (l.passes (l.asked entry s)).runWith answer w
      = .done (.error failure, after) last)
  | body {mid : Scope} {between start : World} {identity : Nat}
      (hpasses : (l.passes (l.asked entry s)).runWith answer w = .done (.ok true, mid) between)
      (hfresh : answer .fresh between = .done identity start)
      (hbody : (body (l.started index identity mid)).runWith answer start
        = .done (.error failure, after) last)

end

variable {answer : (r : Request) → World → Outcome r.Answer} {body : Rendering String}
variable {l : Loop} {entries : List (Value × Value)} {index : Nat} {s after : Scope}
variable {w last : World} {visits : List Visit}

/-! ## What the visits say -/

namespace Visits

/-- Each entry is visited once, in their order. -/
theorem entries_eq (h : Visits answer body l entries index s w visits after last) :
    visits.map Visit.entry = entries := by
  induction h with
  | done => rfl
  | passedOver _ _ ih => exact congrArg _ ih
  | kept _ _ _ _ ih => exact congrArg _ ih

/-- The guard sees the variables of the entry. -/
theorem asked_eq (h : Visits answer body l entries index s w visits after last) :
    ∀ visit ∈ visits, ∃ c, visit.asked.context = l.names.bindEntry visit.entry c := by
  induction h with
  | done => exact List.forall_mem_nil _
  | @passedOver _ _ _ s _ _ _ _ _ _ _ _ ih => exact List.forall_mem_cons.mpr ⟨⟨s.context, rfl⟩, ih⟩
  | @kept _ _ _ _ s _ _ _ _ _ _ _ _ _ _ _ _ _ _ ih =>
    exact List.forall_mem_cons.mpr ⟨⟨s.context, rfl⟩, ih⟩

/-- The body starts with the `loop` of its run. -/
theorem start_eq (h : Visits answer body l entries index s w visits after last) {k : Nat}
    {start : Scope} {text : String} (hk : (Loop.kept visits)[k]? = some (start, text)) :
    ∃ identity, start.context.find? "loop" = some (.object identity
      (loopEntries (index + k) l.length l.guard?.isSome l.parent)) := by
  induction h generalizing k with
  | done => cases hk
  | passedOver _ _ ih => exact ih hk
  | @kept _ _ _ identity _ _ _ _ _ _ _ _ _ _ _ _ _ _ _ ih =>
    cases k with
    | zero =>
      cases hk
      refine ⟨identity, ?_⟩
      rw [started, Dict.find?_insert, if_pos rfl]
      rfl
    | succ k =>
      have hlater := ih hk
      rwa [Nat.add_right_comm, Nat.add_assoc] at hlater

theorem length_kept_le (h : Visits answer body l entries index s w visits after last) :
    (Loop.kept visits).length ≤ entries.length := by
  rw [← h.entries_eq, List.length_map]
  exact List.length_filterMap_le _ _

end Visits

/-! ## Runs and visits -/

/-- The renewal of `loop`. -/
theorem run_renew_iff (l : Loop) (index : Nat) (mid : Scope) {next : Scope}
    {between start : World} {r : Except Failure Unit} :
    ((do
      let identity ← fresh
      setVariable "loop" (.object identity
        (loopEntries index l.length l.guard?.isSome l.parent)) : Rendering Unit) mid).runWith answer
        between = .done (r, next) start ↔
      ∃ identity, answer .fresh between = .done identity start ∧ r = .ok () ∧
        next = l.started index identity mid := by
  have hask : (do
      let identity ← fresh
      setVariable "loop" (.object identity
        (loopEntries index l.length l.guard?.isSome l.parent)) : Rendering Unit) mid
      = .ask .fresh fun identity => .done (.ok (), l.started index identity mid) := rfl
  rw [hask, Program.runWith]
  cases answer .fresh between with
  | done n world =>
    constructor
    · rintro ⟨⟩
      exact ⟨n, rfl, rfl, rfl⟩
    · rintro ⟨_, ⟨⟩, rfl, rfl⟩
      rfl
  | pending world | tooDeep =>
    constructor
    · intro hdone
      cases hdone
    · rintro ⟨_, hdone, -⟩
      cases hdone

/-- The visit of one entry and those of the rest. -/
theorem runs_cons_iff {entry : Value × Value} {rest : List (Value × Value)} {done : String}
    {r : Except Failure (String × Nat)} :
    (l.runs body (entry :: rest) index done s).runWith answer w = .done (r, after) last ↔
      (∃ failure, r = .error failure ∧ Fails answer body l entry index s w failure after last) ∨
      (∃ next between,
        (l.passes (l.asked entry s)).runWith answer w = .done (.ok false, next) between ∧
        (l.runs body rest index done next).runWith answer between = .done (r, after) last) ∨
      ∃ mid between identity start text next behind,
        (l.passes (l.asked entry s)).runWith answer w = .done (.ok true, mid) between ∧
        answer .fresh between = .done identity start ∧
        (body (l.started index identity mid)).runWith answer start
          = .done (.ok text, next) behind ∧
        (l.runs body rest (index + 1) (done ++ text) next).runWith answer behind
          = .done (r, after) last := by
  rw [runs_cons]
  constructor
  · intro hrun
    rcases run_bind_iff.mp hrun with ⟨failure, hpasses, rfl⟩ | ⟨passed, mid, _, hpasses, hrest⟩
    · exact .inl ⟨failure, rfl, .guard hpasses⟩
    cases passed with
    | false => exact .inr (.inl ⟨mid, _, hpasses, hrest⟩)
    | true =>
      rcases run_bind_iff.mp hrest with ⟨failure, hrenew, -⟩ | ⟨_, _, _, hrenew, hbody⟩
      · obtain ⟨_, -, hok, -⟩ := (run_renew_iff l index mid).mp hrenew
        cases hok
      obtain ⟨identity, hfresh, -, rfl⟩ := (run_renew_iff l index mid).mp hrenew
      rcases run_bind_iff.mp hbody with ⟨failure, hfailed, rfl⟩ | ⟨text, next, _, htext, hlater⟩
      · exact .inl ⟨failure, rfl, .body hpasses hfresh hfailed⟩
      · exact .inr (.inr ⟨mid, _, identity, _, text, next, _, hpasses, hfresh, htext, hlater⟩)
  · rintro (⟨failure, rfl, hfails⟩ | ⟨next, between, hpasses, hlater⟩ |
      ⟨mid, between, identity, start, text, next, behind, hpasses, hfresh, htext, hlater⟩)
    · cases hfails with
      | guard hpasses => exact run_bind_iff.mpr (.inl ⟨failure, hpasses, rfl⟩)
      | @body mid _ _ _ hpasses hfresh hbody =>
        have hrenew := (run_renew_iff l index mid).mpr ⟨_, hfresh, rfl, rfl⟩
        refine run_bind_iff.mpr (.inr ⟨true, _, _, hpasses, ?_⟩)
        refine run_bind_iff.mpr (.inr ⟨(), _, _, hrenew, ?_⟩)
        exact run_bind_iff.mpr (.inl ⟨failure, hbody, rfl⟩)
    · exact run_bind_iff.mpr (.inr ⟨false, next, between, hpasses, hlater⟩)
    · have hrenew := (run_renew_iff l index mid).mpr ⟨identity, hfresh, rfl, rfl⟩
      refine run_bind_iff.mpr (.inr ⟨true, mid, between, hpasses, ?_⟩)
      refine run_bind_iff.mpr (.inr ⟨(), _, start, hrenew, ?_⟩)
      exact run_bind_iff.mpr (.inr ⟨text, next, behind, htext, hlater⟩)

theorem runs_ok_iff {done : String} {result : String × Nat} :
    (l.runs body entries index done s).runWith answer w = .done (.ok result, after) last ↔
      ∃ visits, Visits answer body l entries index s w visits after last ∧
        result = (done ++ text visits, index + (kept visits).length) := by
  induction entries generalizing index done s w with
  | nil =>
    constructor
    · rintro ⟨⟩
      exact ⟨[], .done _ _ _, by rw [text_nil, kept_nil, String.append_empty]; rfl⟩
    · rintro ⟨visits, hvisits, rfl⟩
      cases hvisits
      rw [text_nil, kept_nil, String.append_empty]
      rfl
  | cons entry rest ih =>
    rw [runs_cons_iff]
    constructor
    · rintro (⟨failure, ⟨⟩, -⟩ | ⟨next, between, hpasses, hlater⟩ |
        ⟨mid, between, identity, start, text, next, behind, hpasses, hfresh, hbody, hlater⟩)
      · obtain ⟨visits, hvisits, rfl⟩ := ih.mp hlater
        exact ⟨_, .passedOver hpasses hvisits, rfl⟩
      · obtain ⟨visits, hvisits, rfl⟩ := ih.mp hlater
        refine ⟨_, .kept hpasses hfresh hbody hvisits, ?_⟩
        rw [text_kept, kept_kept, List.length_cons, String.append_assoc, Nat.add_right_comm,
          Nat.add_assoc]
    · rintro ⟨visits, hvisits, rfl⟩
      cases hvisits with
      | passedOver hpasses hrest =>
        exact .inr (.inl ⟨_, _, hpasses, ih.mpr ⟨_, hrest, rfl⟩⟩)
      | kept hpasses hfresh hbody hrest =>
        refine .inr (.inr ⟨_, _, _, _, _, _, _, hpasses, hfresh, hbody, ih.mpr ⟨_, hrest, ?_⟩⟩)
        rw [text_kept, kept_kept, List.length_cons, String.append_assoc, Nat.add_right_comm,
          Nat.add_assoc]

/-- A loop fails at the visit of an entry, behind the visits of those before it. -/
theorem runs_error_iff {done : String} {failure : Failure} :
    (l.runs body entries index done s).runWith answer w = .done (.error failure, after) last ↔
      ∃ before entry rest visits mid between, entries = before ++ entry :: rest ∧
        Visits answer body l before index s w visits mid between ∧
        Fails answer body l entry (index + (kept visits).length) mid between failure after
          last := by
  induction entries generalizing index done s w with
  | nil =>
    constructor
    · rintro ⟨⟩
    · rintro ⟨before, entry, rest, _, _, _, hentries, -, -⟩
      cases before <;> cases hentries
  | cons entry rest ih =>
    rw [runs_cons_iff]
    constructor
    · rintro (⟨failure, ⟨⟩, hfails⟩ | ⟨next, between, hpasses, hlater⟩ |
        ⟨mid, between, identity, start, text, next, behind, hpasses, hfresh, hbody, hlater⟩)
      · exact ⟨[], entry, rest, [], s, w, rfl, .done _ _ _, hfails⟩
      · obtain ⟨before, failing, later, visits, mid, world, rfl, hvisits, hfails⟩ := ih.mp hlater
        exact ⟨entry :: before, failing, later, _, mid, world, rfl, .passedOver hpasses hvisits,
          hfails⟩
      · obtain ⟨before, failing, later, visits, mid, world, rfl, hvisits, hfails⟩ := ih.mp hlater
        refine ⟨entry :: before, failing, later, _, mid, world, rfl,
          .kept hpasses hfresh hbody hvisits, ?_⟩
        rwa [kept_kept, List.length_cons, Nat.add_comm (kept visits).length, ← Nat.add_assoc]
    · rintro ⟨before, failing, later, visits, mid, between, hentries, hvisits, hfails⟩
      cases hvisits with
      | done =>
        obtain ⟨rfl, rfl⟩ := List.cons.inj hentries
        exact .inl ⟨failure, rfl, hfails⟩
      | passedOver hpasses hrest =>
        obtain ⟨rfl, rfl⟩ := List.cons.inj hentries
        exact .inr (.inl ⟨_, _, hpasses, ih.mpr ⟨_, _, _, _, _, _, rfl, hrest, hfails⟩⟩)
      | kept hpasses hfresh hbody hrest =>
        obtain ⟨rfl, rfl⟩ := List.cons.inj hentries
        rw [kept_kept, List.length_cons, Nat.add_comm (kept _).length, ← Nat.add_assoc] at hfails
        exact .inr (.inr ⟨_, _, _, _, _, _, _, hpasses, hfresh, hbody,
          ih.mpr ⟨_, _, _, _, _, _, rfl, hrest, hfails⟩⟩)

/-! ## The whole loop -/

/-- The loop over the entries of a value. -/
def ofValue (names : LoopNames) (guard? : Option Expr) (v : Value) (identity : Nat)
    (outer : Context) : Loop :=
  ⟨names, guard?, (v.entries?.getD []).length, .object identity outer⟩

/-- How a loop may end: its expression fails, or a visit, or it goes through all entries and puts
back what it has bound. -/
theorem run_render_done {names : LoopNames} {e : Expr} {guard? : Option Expr}
    {r : Except Failure (String × Nat)}
    (h : (render names e guard? body s).runWith answer w = .done (r, after) last) :
    (∃ failure, (Expr.evaluate e s).runWith answer w = .done (.error failure, after) last ∧
      r = .error failure) ∨
    ∃ v before between identity start,
      (Expr.evaluate e s).runWith answer w = .done (.ok v, before) between ∧
      answer .fresh between = .done identity start ∧
      ((∃ failure, ((ofValue names guard? v identity before.context).runs body
            (v.entries?.getD []) 0 "" before).runWith answer start
              = .done (.error failure, after) last ∧
          r = .error failure) ∨
        ∃ result inner, ((ofValue names guard? v identity before.context).runs body
            (v.entries?.getD []) 0 "" before).runWith answer start
              = .done (.ok result, inner) last ∧
          r = .ok result ∧
          after = { inner with context := names.leave before.context inner.context }) := by
  have hsplit : render names e guard? body = Expr.evaluate e >>= fun v before =>
      .ask .fresh fun identity =>
        ((ofValue names guard? v identity before.context).runs body (v.entries?.getD []) 0 "" >>=
          fun result => modifyContext (names.leave before.context) >>= fun _ => pure result)
            before := rfl
  rw [hsplit] at h
  rcases run_bind_iff.mp h with ⟨failure, hfailed, rfl⟩ | ⟨v, before, between, hvalue, hrest⟩
  · exact .inl ⟨failure, hfailed, rfl⟩
  refine .inr ⟨v, before, between, ?_⟩
  rw [Program.runWith] at hrest
  split at hrest
  · next identity start hfresh =>
    refine ⟨identity, start, hvalue, hfresh, ?_⟩
    rcases run_bind_iff.mp hrest with ⟨failure, hfailed, rfl⟩ | ⟨result, inner, _, hruns, hend⟩
    · exact .inl ⟨failure, hfailed, rfl⟩
    · cases hend
      exact .inr ⟨result, inner, hruns, rfl, rfl⟩
  · cases hrest
  · cases hrest

end Loop
end Stencil
