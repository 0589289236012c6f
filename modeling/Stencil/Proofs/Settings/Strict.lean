import Stencil.Proofs.Settings.Texts

/-!
# Strict variables are a check

Strict variables make failures of lookups that find nothing.  They change nothing else: a text that
can be had with them can be had without them, with the same calls of the host and the same reports
on the way (`Environment.textOf_lenient`).  The two renders go in tandem until the first lookup that
finds nothing, and there the strict one fails for good, since no failure is passed over where
failures end the render.
-/
namespace Stencil

/-- A strict render, whose failures end it, and the lenient one. Nothing is known of the lenient one
from where the strict one fails. -/
def Pairing.lenient : Pairing where
  adjust := Options.lenient
  options o := o.strictVariables = true ∧ o.rethrow = true
  text _ := True
  escapes _ := True
  cause _ := True
  report _ := True
  total := False
  parts := True
  lost _ _ := True
  hosts := True
  waits := True
  cache _ := True
  adjust_autoescape _ := rfl
  adjust_allowInlineIncludes _ := rfl
  adjust_namespaces _ := rfl
  adjust_strictVariables _ ho := .inr ⟨trivial, ho.1, rfl, fun _ _ => trivial⟩
  adjust_rethrow _ _ := .inl rfl
  escapes_autoescape _ _ := trivial
  rethrow_of_parts _ _ ho := ho.2
  rethrow_of_total h := h.elim
  report_of_not_rethrow _ _ _ _ := trivial
  report_deprecated _ _ := trivial
  cause_of_ne _ _ := trivial
  ne_of_total h _ _ _ := h
  text_empty := trivial
  text_append _ _ _ _ := trivial
  text_spaceless _ _ := trivial
  text_escapeString _ _ := trivial
  text_of_escapes_none _ _ := trivial
  text_of_hosts _ _ := trivial
  lost_append _ _ _ _ := trivial

theorem yields_true {α : Type} (r : Except Failure α) :
    Yields (fun _ => True) (fun _ => True) r := by
  cases r <;> trivial

namespace Environment

open Classical in
/-- **Strict variables only check.**  Let failures end the render, and let the host be handed no
function or macro of a template.  If a text comes of a source, a name or a template with strict
variables, then the same text comes of it without, in an environment and a state that are the same
otherwise; what is asked for on the way is the same up to the setting itself, and so the calls of
the host, what it notes and what is reported are the very same. -/
theorem textOf_lenient {env : Environment}
    (hextensions : env.Extensions True True fun _ => True)
    (hloader : ∀ locator, (env.load locator).run.Meets (.aside True) fun _ => True)
    (hstrict : env.options.strictVariables = true) (hrethrow : env.options.rethrow = true)
    {entry : Entry} (hentry : ∀ t, entry = .template t →
      t.options.strictVariables = true ∧ t.options.rethrow = true)
    {c : Context} (hc : c.All Value.Foreign) (next : Nat) (cache : Dict Json) (patience : Patience)
    (depth : Nat) :
    let w := World.fresh next cache
    let p := (env.textOf entry c).run
    let events := env.events patience depth p w
    let lenient := env.withOptions Options.lenient
    let p' := (lenient.textOf (entry.adjust Options.lenient) c).run
    let events' := lenient.events patience depth p' w
    (∀ event ∈ events, env.Heeds event) →
      ∀ text after, env.run patience depth p w = .done (.ok text) after →
        (∃ last, lenient.run patience depth p' w = .done (.ok text) last ∧
          last.notes = after.notes ∧ last.reports = after.reports) ∧
        events' = events.map (Request.adjust Options.lenient) ∧
        events'.filter (env.CallsHost ·) = events.filter (env.CallsHost ·) := by
  intro w p events lenient p' events' hheeds text after hrun
  have hosts : env.Hosts .lenient := hextensions.hosts (fun _ => trivial) (fun _ => trivial)
    (fun locator => (hloader locator).mono fun r _ => yields_true r) (fun _ => trivial)
    (fun _ _ => yields_true _) fun _ _ _ => yields_true _
  have hvariables : Pairing.lenient.Variables c :=
    hc.mono fun v hv => hv.fits (K := .lenient) trivial
  have hnodes := Pairing.lenient.nodes_of (fun _ => trivial) fun _ => trivial
  have hfits : entry.Fits .lenient := by
    cases entry with
    | source source => exact fun nodes _ => hnodes nodes
    | name name => trivial
    | template t => exact ⟨hentry t rfl, hnodes t.nodes⟩
  have htandem := tandem_textOf (K := .lenient) ⟨hstrict, hrethrow⟩ hvariables hfits
  have hparallel := withOptions_parallel hosts patience depth htandem
    (World.fits_fresh next (K := .lenient) trivial) fun _ => hheeds
  rw [Dict.mapValues_foreign hc, hrun] at hparallel
  -- The strict render has come to a text, so that it has not failed where the other one goes on.
  have hnever (cause : Cause) :
      ¬ Pairing.lenient.failing.Fails cause (.ok text : Except Failure String) := by
    rintro ⟨failure, herror, -⟩
    cases herror
  obtain ⟨-, hevents, result, hresult, hlast⟩ := hparallel.of_done hnever
  refine ⟨?_, hevents, ?_⟩
  · cases hresult with
    | ok htext =>
      obtain ⟨-, rfl⟩ := htext
      exact ⟨_, hlast, rfl, rfl⟩
  · rw [show events' = events.map (Request.adjust Options.lenient) from hevents]
    exact filter_callsHost_adjust Options.lenient hheeds

/-! A text that shows a title by way of a filter of the host. -/

/-- A host with a filter of its own, which writes down what it is handed. -/
def noting : Environment :=
  { standard { strictVariables := true, rethrow := true } with
    filters := ("log", fun input _ => do
      Program.request (.note input.text)
      return input) :: Filter.builtins }

theorem extensions_noting : noting.Extensions True True fun _ => True where
  filters name f h := by
    rw [noting, Dict.find?] at h
    split at h
    · obtain rfl := Option.some.inj h
      exact .inr ⟨trivial, fun input _ hinput _ => ⟨trivial, fun _ _ => hinput⟩⟩
    · exact .inl h
  tests _ _ h := .inl h
  functions _ _ h := nomatch h
  callables _ _ _ _ _ _ := trivial

/-- The variables of the text. -/
def titled : Context := [("title", .string "Home")]

theorem textOf_lenient_noting :
    let lenient := noting.withOptions Options.lenient
    let entry := Entry.source "{{ title|log }}"
    (∃ after, noting.run .immediate 9 (noting.textOf entry titled).run (.fresh 0 [])
        = .done (.ok "Home") after ∧ after.notes = ["Home"]) ∧
      ∃ last, lenient.run .immediate 9 (lenient.textOf entry titled).run (.fresh 0 [])
        = .done (.ok "Home") last ∧ last.notes = ["Home"] := by
  intro lenient entry
  have hread : Node.ofSource "{{ title|log }}"
      = .ok [.output [.variable "title", .filter "log" none]] := rfl
  have hprogram : noting.textOf entry titled = _ := noting.renderSource_of_ofSource hread titled
  obtain ⟨after, hrun, hnotes⟩ : ∃ after, noting.run .immediate 9
      (noting.textOf entry titled).run (.fresh 0 []) = .done (.ok "Home") after ∧
        after.notes = ["Home"] := by
    rw [hprogram]
    exact ⟨_, rfl, rfl⟩
  have hheeds : ∀ event ∈ noting.events .immediate 9 (noting.textOf entry titled).run
      (.fresh 0 []), noting.Heeds event := by
    rw [hprogram]
    repeat' first
      | exact trivial
      | exact List.forall_mem_nil _
      | exact .inr ⟨trivial, List.forall_mem_nil _⟩
      | refine List.forall_mem_cons.mpr ⟨?_, ?_⟩
  have htitled : titled.All Value.Foreign := List.forall_mem_singleton.mpr trivial
  obtain ⟨⟨last, hlast, hsame, -⟩, -⟩ := textOf_lenient extensions_noting (fun _ => trivial) rfl rfl
    (by nofun) htitled 0 [] .immediate 9 hheeds "Home" after hrun
  exact ⟨⟨after, hrun, hnotes⟩, last, hlast, hsame.trans hnotes⟩

end Environment
end Stencil
