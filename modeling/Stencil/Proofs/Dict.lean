import Stencil.Template

/-!
# What is bound in a dictionary

A lookup finds the first pair of a name.  Binding keeps names apart, so that what is built by
binding has each name once (`Dict.Distinct`); a merge with such a dictionary finds what that one
binds, or else what was bound before.

Binding does not look at the values: to replace every value goes with all that is done to a
dictionary (`Dict.mapValues`), and what holds of all values that are bound holds of all that there
are (`Dict.All`).
-/
namespace Stencil.Dict
variable {α β : Type}

theorem find?_map (d : Dict α) (f : α → β) (name : String) :
    find? (d.map fun (key, v) => (key, f v)) name = (d.find? name).map f := by
  induction d with
  | nil => rfl
  | cons entry rest ih =>
    rw [List.map_cons, find?, find?, ih]
    split
    · rfl
    · rfl

/-- Every value replaced by what a function makes of it. -/
def mapValues (f : α → β) (d : Dict α) : Dict β := d.map fun (key, v) => (key, f v)

@[simp] theorem mapValues_nil (f : α → β) : mapValues f [] = [] := rfl

@[simp] theorem mapValues_cons (f : α → β) (entry : String × α) (rest : Dict α) :
    mapValues f (entry :: rest) = (entry.1, f entry.2) :: mapValues f rest := rfl

@[simp] theorem length_mapValues (f : α → β) (d : Dict α) : (mapValues f d).length = d.length :=
  List.length_map _

@[simp] theorem keys_mapValues (f : α → β) (d : Dict α) : (mapValues f d).keys = d.keys := by
  rw [keys, keys, mapValues, List.map_map]
  rfl

@[simp] theorem find?_mapValues (f : α → β) (d : Dict α) (name : String) :
    (mapValues f d).find? name = (d.find? name).map f := find?_map d f name

@[simp] theorem contains_mapValues (f : α → β) (d : Dict α) (name : String) :
    (mapValues f d).contains name = d.contains name := by
  rw [contains, contains, find?_mapValues, Option.isSome_map]

theorem mapValues_insert (f : α → β) (d : Dict α) (name : String) (value : α) :
    mapValues f (d.insert name value) = (mapValues f d).insert name (f value) := by
  induction d with
  | nil => rfl
  | cons entry rest ih =>
    rw [insert, mapValues_cons, insert]
    split
    · rfl
    · rw [mapValues_cons, ih]

theorem mapValues_merge (f : α → β) (d e : Dict α) :
    mapValues f (d.merge e) = (mapValues f d).merge (mapValues f e) := by
  induction e generalizing d with
  | nil => rfl
  | cons entry rest ih =>
    rw [mapValues_cons, merge, merge, List.foldl_cons, List.foldl_cons]
    rw [← mapValues_insert]
    exact ih (d.insert entry.1 entry.2)

theorem mapValues_ofPairs (f : α → β) (pairs : List (String × α)) :
    mapValues f (ofPairs pairs) = ofPairs (mapValues f pairs) := mapValues_merge f empty pairs

theorem mem_of_find? {d : Dict α} {name : String} {value : α} (h : d.find? name = some value) :
    (name, value) ∈ d := by
  induction d with
  | nil => cases h
  | cons entry rest ih =>
    obtain ⟨key, v⟩ := entry
    rw [find?] at h
    split at h
    · next heq =>
      subst heq
      obtain rfl := Option.some.inj h
      exact List.mem_cons_self
    · exact List.mem_cons_of_mem _ (ih h)

/-! ## All values -/

/-- Something holds of all values. -/
def All (P : α → Prop) (d : Dict α) : Prop := ∀ entry ∈ d, P entry.2

section
variable {P Q : α → Prop} {d e : Dict α}

theorem all_nil : All P [] := List.forall_mem_nil _

theorem all_cons {entry : String × α} {rest : Dict α} :
    All P (entry :: rest) ↔ P entry.2 ∧ All P rest := List.forall_mem_cons

theorem All.mono (h : d.All P) (himp : ∀ v, P v → Q v) : d.All Q := fun entry hentry =>
  himp entry.2 (h entry hentry)

theorem All.find? (h : d.All P) {name : String} {value : α} (hfound : d.find? name = some value) :
    P value := h _ (mem_of_find? hfound)

theorem All.insert (h : d.All P) (name : String) {value : α} (hvalue : P value) :
    All P (d.insert name value) := by
  induction d with
  | nil => exact all_cons.mpr ⟨hvalue, all_nil⟩
  | cons entry rest ih =>
    obtain ⟨hentry, hrest⟩ := all_cons.mp h
    rw [Dict.insert]
    split
    · exact all_cons.mpr ⟨hvalue, hrest⟩
    · exact all_cons.mpr ⟨hentry, ih hrest⟩

theorem All.merge (h : d.All P) (he : e.All P) : All P (d.merge e) := by
  induction e generalizing d with
  | nil => exact h
  | cons entry rest ih =>
    obtain ⟨hentry, hrest⟩ := all_cons.mp he
    exact ih (h.insert entry.1 hentry) hrest

theorem All.ofPairs (h : d.All P) : All P (ofPairs d) := All.merge all_nil h

theorem All.ofFirst (h : d.All P) : All P (ofFirst d) := by
  have hfold (first : Dict α) (hfirst : first.All P) :
      All P (d.foldl (fun d pair => d.insertNew pair.1 pair.2) first) := by
    induction d generalizing first with
    | nil => exact hfirst
    | cons pair rest ih =>
      obtain ⟨hpair, hrest⟩ := all_cons.mp h
      refine ih hrest _ ?_
      dsimp only [insertNew]
      split
      · exact hfirst
      · exact hfirst.insert pair.1 hpair
  exact hfold empty all_nil

theorem mapValues_eq_self {f : α → α} (h : d.All fun v => f v = v) : mapValues f d = d := by
  induction d with
  | nil => rfl
  | cons entry rest ih =>
    obtain ⟨hentry, hrest⟩ := all_cons.mp h
    rw [mapValues_cons, hentry, ih hrest]

end

/-! ## Lookups -/

theorem find?_insert (d : Dict α) (name other : String) (value : α) :
    (d.insert name value).find? other = if name = other then some value else d.find? other := by
  induction d with
  | nil => rfl
  | cons entry rest ih =>
    obtain ⟨key, v⟩ := entry
    rw [insert]
    by_cases hkey : key = name
    · subst hkey
      rw [if_pos rfl, find?, find?]
      split
      · rfl
      · rfl
    · rw [if_neg hkey, find?, find?, ih]
      by_cases hother : key = other
      · subst hother
        rw [if_pos rfl, if_pos rfl, if_neg fun h => hkey h.symm]
      · rw [if_neg hother, if_neg hother]

theorem find?_insertNew (d : Dict α) (name other : String) (value : α) :
    (d.insertNew name value).find? other
      = (d.find? other).or (if name = other then some value else none) := by
  rw [insertNew, contains]
  cases hfound : d.find? name with
  | some v =>
    rw [Option.isSome_some, if_pos rfl]
    by_cases hother : name = other
    · subst hother
      rw [hfound, Option.some_or]
    · rw [if_neg hother, Option.or_none]
  | none =>
    rw [Option.isSome_none, if_neg Bool.false_ne_true, find?_insert]
    by_cases hother : name = other
    · subst hother
      rw [hfound, Option.none_or]
    · rw [if_neg hother, if_neg hother, Option.or_none]

/-- Of items that are bound one after the other, the last of each name counts. -/
theorem find?_foldl_insert {γ : Type} (key : γ → String) (value : γ → α) (items : List γ)
    (d : Dict α) (name : String) :
    (items.foldl (fun d item => d.insert (key item) (value item)) d).find? name
      = ((items.reverse.find? fun item => key item = name).map value).or (d.find? name) := by
  induction items generalizing d with
  | nil => rfl
  | cons item rest ih =>
    rw [List.foldl_cons, ih, find?_insert, List.reverse_cons, List.find?_append, Option.map_or,
      Option.or_assoc, List.find?_singleton]
    by_cases hname : key item = name
    · rw [if_pos hname, decide_eq_true hname]
      rfl
    · rw [if_neg hname, decide_eq_false hname]
      rfl

/-- Of pairs that are bound one after the other, the first of each name counts. -/
theorem find?_ofFirst (pairs : List (String × α)) (name : String) :
    (ofFirst pairs).find? name = find? pairs name := by
  have hfold (d : Dict α) : (pairs.foldl (fun d pair => d.insertNew pair.1 pair.2) d).find? name
      = (d.find? name).or (find? pairs name) := by
    induction pairs generalizing d with
    | nil => exact (Option.or_none).symm
    | cons pair rest ih =>
      rw [List.foldl_cons, ih, find?_insertNew, find?, Option.or_assoc]
      split
      · rfl
      · rfl
  exact (hfold empty).trans Option.none_or

/-- To bind a known name anew changes neither the names nor their order. -/
theorem keys_insert {d : Dict α} {name : String} (h : d.contains name = true) (value : α) :
    (d.insert name value).keys = d.keys := by
  induction d with
  | nil => cases h
  | cons entry rest ih =>
    obtain ⟨key, v⟩ := entry
    rw [insert]
    split
    · rfl
    · next hne =>
      rw [contains, find?, if_neg hne] at h
      exact congrArg (key :: ·) (ih h)

theorem contains_insert {d : Dict α} {name : String} (h : d.contains name = true) (value : α)
    (other : String) : (d.insert name value).contains other = d.contains other := by
  rw [contains, find?_insert, contains]
  split
  · next heq =>
    subst heq
    exact h.symm
  · rfl

/-! ## Distinct names -/

/-- Each name is bound once. -/
def Distinct (d : Dict α) : Prop := d.keys.Nodup

theorem distinct_nil : Distinct ([] : Dict α) := List.nodup_nil

theorem Distinct.find?_of_mem {d : Dict α} (h : d.Distinct) {name : String} {value : α}
    (hmem : (name, value) ∈ d) : d.find? name = some value := by
  induction d with
  | nil => cases hmem
  | cons entry rest ih =>
    obtain ⟨hnew, hrest⟩ := List.nodup_cons.mp h
    rcases List.mem_cons.mp hmem with rfl | hmem
    · exact if_pos rfl
    · have hne : entry.1 ≠ name := fun heq => hnew (heq ▸ List.mem_map_of_mem hmem)
      exact (if_neg hne).trans (ih hrest hmem)

theorem find?_eq_none {d : Dict α} {name : String} (h : name ∉ d.keys) : d.find? name = none := by
  induction d with
  | nil => rfl
  | cons entry rest ih =>
    rw [keys, List.map_cons, List.mem_cons, not_or] at h
    rw [find?, if_neg fun heq => h.1 heq.symm]
    exact ih h.2

/-- What a dictionary with distinct names binds is found in a merge with it. -/
theorem find?_merge {e : Dict α} (he : e.Distinct) (d : Dict α) (name : String) :
    (d.merge e).find? name = (e.find? name).or (d.find? name) := by
  induction e generalizing d with
  | nil => rfl
  | cons entry rest ih =>
    obtain ⟨hnew, hrest⟩ := List.nodup_cons.mp he
    have hmerge := ih hrest (d.insert entry.1 entry.2)
    rw [merge, List.foldl_cons]
    rw [merge] at hmerge
    rw [hmerge, find?_insert, find?]
    by_cases hname : entry.1 = name
    · subst hname
      rw [if_pos rfl, if_pos rfl, find?_eq_none hnew, Option.none_or, Option.some_or]
    · rw [if_neg hname, if_neg hname]

/-- The names that are bound are those under which something is found. -/
theorem mem_keys_iff {d : Dict α} {name : String} :
    name ∈ d.keys ↔ ∃ value, d.find? name = some value := by
  constructor
  · intro h
    induction d with
    | nil => cases h
    | cons entry rest ih =>
      rw [find?]
      by_cases hname : entry.1 = name
      · exact ⟨entry.2, if_pos hname⟩
      · rw [if_neg hname]
        exact ih ((List.mem_cons.mp h).resolve_left fun heq => hname heq.symm)
  · rintro ⟨value, h⟩
    exact List.mem_map_of_mem (mem_of_find? h)

theorem mem_keys_insert {d : Dict α} {name key : String} {value : α}
    (h : key ∈ (d.insert name value).keys) : key = name ∨ key ∈ d.keys := by
  induction d with
  | nil => exact .inl (List.mem_singleton.mp h)
  | cons entry rest ih =>
    rw [insert] at h
    split at h
    · exact .inr h
    · rcases List.mem_cons.mp h with hkey | hkey
      · exact .inr (hkey ▸ List.mem_cons_self)
      · exact (ih hkey).imp_right (List.mem_cons_of_mem _)

theorem Distinct.insert {d : Dict α} (h : d.Distinct) (name : String) (value : α) :
    (d.insert name value).Distinct := by
  induction d with
  | nil => exact List.nodup_cons.mpr ⟨List.not_mem_nil, List.nodup_nil⟩
  | cons entry rest ih =>
    obtain ⟨hnew, hrest⟩ := List.nodup_cons.mp h
    rw [Dict.insert]
    split
    · exact h
    · next hne =>
      refine List.nodup_cons.mpr ⟨fun hmem => ?_, ih hrest⟩
      rcases mem_keys_insert hmem with heq | hmem
      · exact hne heq
      · exact hnew hmem

theorem Distinct.merge {d : Dict α} (h : d.Distinct) (e : Dict α) : (d.merge e).Distinct := by
  induction e generalizing d with
  | nil => exact h
  | cons entry rest ih => exact ih (h.insert entry.1 entry.2)

theorem distinct_ofFirst (pairs : List (String × α)) : (ofFirst pairs).Distinct := by
  have hfold (d : Dict α) (h : d.Distinct) :
      Distinct (pairs.foldl (fun d pair => d.insertNew pair.1 pair.2) d) := by
    induction pairs generalizing d with
    | nil => exact h
    | cons pair rest ih =>
      refine ih _ ?_
      dsimp only [insertNew]
      split
      · exact h
      · exact h.insert pair.1 pair.2
  exact hfold empty distinct_nil

end Stencil.Dict
