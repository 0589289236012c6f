import Stencil.Locator

/-!
# Relative references compose

A relative reference is a walk that starts in the directory of the template it stands in and takes
one segment after the other.  Where it ends in a name, the directory of what it names is where the
walk to that name has got to, so that a reference from there goes on with the same walk
(`Locator.resolve_resolve`), and so does one from a template that is reached by any number of
references (`Locator.resolve_chain`).  From a directory of ordinary names the walk never leaves
them, as `..` at the root stays there (`Locator.ordinary_walk`).
-/
namespace Stencil.Locator

/-! ## Segments -/

theorem splitOn_eq (separator : Char) (cs : List Char) :
    splitOn separator cs = cs.splitOn separator := by
  induction cs with
  | nil => rfl
  | cons c cs ih =>
    rw [splitOn, ih, List.splitOn_cons_eq_if_modifyHead]
    by_cases hc : c = separator
    · rw [if_pos hc, if_pos (beq_iff_eq.mpr hc)]
    · rw [if_neg hc, if_neg (by simpa using hc)]
      cases hparts : cs.splitOn separator with
      | nil => exact absurd hparts (List.splitOn_ne_nil separator cs)
      | cons part parts => rfl

theorem splitOn_of_notMem {separator : Char} {cs : List Char} (h : separator ∉ cs) :
    splitOn separator cs = [cs] := by
  rw [splitOn_eq, List.splitOn_eq_singleton h]

theorem splitOn_append_cons (separator : Char) (cs ds : List Char) :
    splitOn separator (cs ++ separator :: ds) = splitOn separator cs ++ splitOn separator ds := by
  rw [splitOn_eq, splitOn_eq, splitOn_eq, List.splitOn_append_cons_self]

theorem notMem_of_mem_splitOn {separator : Char} {cs part : List Char}
    (h : part ∈ splitOn separator cs) : separator ∉ part := by
  induction cs generalizing part with
  | nil =>
    rw [List.mem_singleton.mp h]
    exact List.not_mem_nil
  | cons c cs ih =>
    rw [splitOn] at h
    split at h
    · rcases List.mem_cons.mp h with rfl | h
      · exact List.not_mem_nil
      · exact ih h
    · next hc =>
      split at h
      · next hparts =>
        rw [List.mem_singleton.mp h, List.mem_singleton]
        exact fun heq => hc heq.symm
      · next first parts hparts =>
        rcases List.mem_cons.mp h with rfl | h
        · rw [List.mem_cons, not_or]
          exact ⟨fun heq => hc heq.symm, ih (hparts ▸ List.mem_cons_self)⟩
        · exact ih (hparts ▸ List.mem_cons_of_mem first h)

/-- Segments are read back from what they are joined to. -/
theorem splitOn_join {segments : List (List Char)} (hne : segments ≠ [])
    (h : ∀ s ∈ segments, '/' ∉ s) : splitOn '/' (join segments) = segments := by
  rw [splitOn_eq, join, List.splitOn_intercalate '/' h hne]

/-- The name of a directory or of a template: no step to anywhere else. -/
structure Ordinary (segment : List Char) : Prop where
  ne_nil : segment ≠ []
  ne_dot : segment ≠ ['.']
  ne_dots : segment ≠ ['.', '.']
  noSlash : '/' ∉ segment

instance (segment : List Char) : Decidable (Ordinary segment) :=
  decidable_of_iff (segment ≠ [] ∧ segment ≠ ['.'] ∧ segment ≠ ['.', '.'] ∧ '/' ∉ segment)
    ⟨fun ⟨hnil, hdot, hdots, hslash⟩ => ⟨hnil, hdot, hdots, hslash⟩,
      fun h => ⟨h.ne_nil, h.ne_dot, h.ne_dots, h.noSlash⟩⟩

theorem follow_ordinary {segment : List Char} (h : Ordinary segment)
    (directory : List (List Char)) : follow directory segment = directory ++ [segment] := by
  simp [follow, h.ne_nil, h.ne_dot, h.ne_dots]

/-- One step leads into the directory or up, and else into what it names. -/
theorem forall_mem_follow {P : List Char → Prop} {directory : List (List Char)}
    {segment : List Char} (hdirectory : ∀ s ∈ directory, P s)
    (hsegment : segment ≠ [] → segment ≠ ['.'] → segment ≠ ['.', '.'] → P segment) :
    ∀ s ∈ follow directory segment, P s := by
  intro s hs
  rw [follow] at hs
  split at hs
  · exact hdirectory s hs
  · next hstays =>
    split at hs
    · exact hdirectory s (List.dropLast_subset _ hs)
    · next hdots =>
      simp only [Bool.or_eq_true, decide_eq_true_eq, not_or] at hstays
      rcases List.mem_append.mp hs with hs | hs
      · exact hdirectory s hs
      · rw [List.mem_singleton.mp hs]
        exact hsegment hstays.1 hstays.2 hdots

/-! ## Walks -/

/-- Where a reference leads from a directory. -/
def walk (directory : List (List Char)) (reference : List Char) : List (List Char) :=
  (splitOn '/' reference).foldl follow directory

theorem walk_append (directory : List (List Char)) (d r : List Char) :
    walk directory (d ++ '/' :: r) = walk (walk directory d) r := by
  rw [walk, splitOn_append_cons, List.foldl_append, walk, walk]

theorem walk_ordinary {name : List Char} (h : Ordinary name) (directory : List (List Char)) :
    walk directory name = directory ++ [name] := by
  rw [walk, splitOn_of_notMem h.noSlash, List.foldl_cons, List.foldl_nil, follow_ordinary h]

/-- What holds of the directory and of all ordinary names holds wherever a reference leads. -/
theorem forall_mem_walk {P : List Char → Prop} (hP : ∀ s, Ordinary s → P s)
    {directory : List (List Char)} (hdirectory : ∀ s ∈ directory, P s) (reference : List Char) :
    ∀ s ∈ walk directory reference, P s := by
  -- on the segments: none of them has a slash in it, which is all that an ordinary name needs
  -- beside not being a step
  have hslash : ∀ s ∈ splitOn '/' reference, '/' ∉ s := fun s => notMem_of_mem_splitOn
  rw [walk]
  generalize splitOn '/' reference = segments at hslash ⊢
  induction segments generalizing directory with
  | nil => exact hdirectory
  | cons segment rest ih =>
    obtain ⟨hsegment, hrest⟩ := List.forall_mem_cons.mp hslash
    refine ih (forall_mem_follow hdirectory fun hnil hdot hdots => ?_) hrest
    exact hP segment ⟨hnil, hdot, hdots, hsegment⟩

/-- From among ordinary names no reference leads out. -/
theorem ordinary_walk {directory : List (List Char)} (h : ∀ s ∈ directory, Ordinary s)
    (reference : List Char) : ∀ s ∈ walk directory reference, Ordinary s :=
  forall_mem_walk (fun _ hs => hs) h reference

theorem noSlash_directory (base : Option (List Char)) : ∀ s ∈ directory base, '/' ∉ s := by
  intro s hs
  cases base with
  | none => cases hs
  | some base => exact notMem_of_mem_splitOn (List.dropLast_subset _ hs)

/-- The directory of a template is where its name was added to. -/
theorem directory_join {segments : List (List Char)} {name : List Char}
    (hsegments : ∀ s ∈ segments, '/' ∉ s) (hname : '/' ∉ name) :
    directory (some (join (segments ++ [name]))) = segments := by
  have hall : ∀ s ∈ segments ++ [name], '/' ∉ s :=
    List.forall_mem_append.mpr ⟨hsegments, List.forall_mem_singleton.mpr hname⟩
  rw [directory, splitOn_join (List.append_ne_nil_of_right_ne_nil _ (List.cons_ne_nil _ _)) hall,
    List.dropLast_concat]

/-! ## References -/

theorem expandNamespace?_nil (reference : List Char) : expandNamespace? [] reference = none := by
  simp only [expandNamespace?, Dict.find?, Option.bind_eq_bind, Option.bind_none,
    Option.bind_fun_none]
  split <;> rfl

theorem resolve_relative {reference : List Char} (h : isRelative reference = true)
    (base : Option (List Char)) :
    resolve [] base reference = join (walk (directory base) reference) := by
  rw [resolve, expandNamespace?_nil, h, walk]
  rfl

/-- Whether a reference is relative is settled before its first slash. -/
theorem isRelative_append {d f : List Char} (h : isRelative (d ++ '/' :: f) = true)
    (r : List Char) : isRelative (d ++ '/' :: r) = true := by
  match d with
  | [] => simp [isRelative] at h
  | [a] => simpa [isRelative] using h
  | [a, b] => simpa [isRelative] using h
  | a :: b :: c :: d => simpa [isRelative] using h

/-- A reference from what is referred to goes on where the reference to it has led. -/
theorem resolve_resolve (base : Option (List Char)) {d f r : List Char}
    (hd : isRelative (d ++ '/' :: f) = true) (hf : Ordinary f) (hr : isRelative r = true) :
    resolve [] (some (resolve [] base (d ++ '/' :: f))) r = resolve [] base (d ++ '/' :: r) := by
  have hslash : ∀ s ∈ walk (directory base) d, '/' ∉ s :=
    forall_mem_walk (fun _ hs => hs.noSlash) (noSlash_directory base) d
  rw [resolve_relative hr, resolve_relative hd, resolve_relative (isRelative_append hd r),
    walk_append, walk_ordinary hf, directory_join hslash hf.noSlash, walk_append]

/-- However many templates refer to one another, each by a directory and a name, a reference from
the last of them is one from the first through all of the directories. -/
theorem resolve_chain (base : Option (List Char)) {references : List (List Char × List Char)}
    (h : ∀ s ∈ references, isRelative (s.1 ++ '/' :: s.2) = true ∧ Ordinary s.2) {r : List Char}
    (hr : isRelative r = true) :
    resolve [] (references.foldl (fun base s => some (resolve [] base (s.1 ++ '/' :: s.2))) base) r
      = resolve [] base (references.foldr (fun s rest => s.1 ++ '/' :: rest) r) := by
  induction references generalizing base with
  | nil => rfl
  | cons s rest ih =>
    obtain ⟨⟨hd, hf⟩, hrest⟩ := List.forall_mem_cons.mp h
    have hrelative : isRelative (rest.foldr (fun s rest => s.1 ++ '/' :: rest) r) = true := by
      cases rest with
      | nil => exact hr
      | cons t rest => exact isRelative_append (hrest t List.mem_cons_self).1 _
    rw [List.foldl_cons, ih _ hrest, List.foldr_cons, resolve_resolve base hd hf hrelative]

/-! ## Locators as strings -/

theorem toList_resolveString (namespaces : Dict String) (base : Option String)
    (reference : String) : (resolveString namespaces base reference).toList =
      resolve namespaces (base.map String.toList) reference.toList :=
  String.toList_ofList

/-- **Relative references compose.**  Where the base is made of ordinary names, or there is none,
what a relative reference names is made of ordinary names; and from any base, a relative reference
from what a directory and a name lead to is one through that directory. -/
theorem resolve_composes :
    (∀ (base : Option String) (reference : String),
      (∀ b ∈ base, ∀ s ∈ splitOn '/' b.toList, Ordinary s) →
      isRelative reference.toList = true →
      ∃ segments, (∀ s ∈ segments, Ordinary s) ∧
        (resolveString [] base reference).toList = join segments) ∧
    ∀ (base : Option String) (d f r : String), isRelative (d ++ "/" ++ f).toList = true →
      Ordinary f.toList → isRelative r.toList = true →
      resolveString [] (some (resolveString [] base (d ++ "/" ++ f))) r =
        resolveString [] base (d ++ "/" ++ r) := by
  constructor
  · intro base reference hbase hrelative
    have hdirectory : ∀ s ∈ directory (base.map String.toList), Ordinary s := by
      intro s hs
      cases base with
      | none => cases hs
      | some b => exact hbase b rfl s (List.dropLast_subset _ hs)
    refine ⟨_, ordinary_walk hdirectory reference.toList, ?_⟩
    rw [toList_resolveString, resolve_relative hrelative]
  · intro base d f r hd hf hr
    have hjoined (s : String) : (d ++ "/" ++ s).toList = d.toList ++ '/' :: s.toList := by
      simp [String.toList_append]
    rw [hjoined] at hd
    apply String.toList_injective
    rw [toList_resolveString, toList_resolveString, Option.map_some, toList_resolveString, hjoined,
      hjoined, resolve_resolve _ hd hf hr]

/-- A part of a page refers to another part in its directory. -/
theorem resolve_composes_parts :
    (∀ s ∈ splitOn '/' "views/pages/home".toList, Ordinary s) ∧
      isRelative "../parts/list".toList = true ∧ Ordinary "list".toList ∧
      isRelative "./item".toList = true ∧
      (∃ segments, (∀ s ∈ segments, Ordinary s) ∧
        (resolveString [] (some "views/pages/home") "../parts/list").toList = join segments) ∧
      resolveString [] (some (resolveString [] (some "views/pages/home") "../parts/list")) "./item"
        = resolveString [] (some "views/pages/home") "../parts/./item" := by
  have hbase : ∀ s ∈ splitOn '/' "views/pages/home".toList, Ordinary s := by decide
  have hname : Ordinary "list".toList := by decide
  refine ⟨hbase, by decide, hname, by decide, ?_, ?_⟩
  · refine resolve_composes.1 (some "views/pages/home") _ ?_ (by decide)
    rintro _ ⟨⟩
    exact hbase
  · exact resolve_composes.2 (some "views/pages/home") "../parts" "list" "./item" (by decide) hname
      (by decide)

end Stencil.Locator
