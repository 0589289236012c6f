import Stencil.Engine.Cache
import Stencil.Proofs.Dict
import Mathlib.Data.List.Nodup

/-!
# Trees that come back from the cache

The cache in memory holds a tree as a document.  Reading the document gives the tree or fails, and
never gives another tree (`Cache.memory_write_read`).  Two things have no way back: a number that is
not finite is written as null, which is no number, and a document that is nested too deeply is
written but not read (`Cache.memory_deep`).

The reading of a variant is inverted field by field.  How deep the document of a token is bounds the
fuel that its reading takes.
-/
namespace Stencil

/-! ## Records -/

namespace Json
variable {α : Type}

/-- The name of a variant is taken off its other members. -/
@[simp] theorem variant?_obj {tag name : String} {members : List (String × Json)}
    (h : tag ∉ members.map Prod.fst) :
    variant? tag (.obj ((tag, .str name) :: members)) = some (name, .obj members) := by
  have hother : ∀ m ∈ members, m.1 ≠ tag := fun m hm heq => h (heq ▸ List.mem_map_of_mem hm)
  have hnone : members.filter (fun m => m.1 = tag) = [] := by
    rw [List.filter_eq_nil_iff]
    simpa using hother
  have hall : members.filter (fun m => m.1 != tag) = members := by
    rw [List.filter_eq_self]
    simpa using hother
  simp [variant?, hnone, hall]

@[simp] theorem fields?_obj {names : List String} {members : List (String × Json)}
    (hnames : members.map Prod.fst = names) (h : names.Nodup) :
    fields? names (.obj members) = some (.named members) := by
  have honce : ∀ name, (members.filter fun m => m.1 = name).length ≤ 1 := by
    intro name
    have hcount := List.nodup_iff_count_le_one.mp h name
    rw [← hnames, List.count_eq_countP, List.countP_map, List.countP_eq_length_filter] at hcount
    simpa [Function.comp_def, beq_eq_decide] using hcount
  simp [fields?, honce]

namespace Fields
variable {name other : String} {j : Json} {members : List (String × Json)} {position : Nat}
  {decode : Json → Option α}

@[simp] theorem required?_head :
    required? (.named ((name, j) :: members)) name position decode = decode j := by
  simp [required?, find?, Dict.find?]

@[simp] theorem required?_tail (h : other ≠ name) :
    required? (.named ((other, j) :: members)) name position decode =
      required? (.named members) name position decode := by
  simp [required?, find?, Dict.find?, h]

@[simp] theorem optional?_head :
    optional? (.named ((name, j) :: members)) name position decode = orNull? decode j := by
  simp [optional?, find?, Dict.find?]

@[simp] theorem optional?_tail (h : other ≠ name) :
    optional? (.named ((other, j) :: members)) name position decode =
      optional? (.named members) name position decode := by
  simp only [optional?, find?, Dict.find?, h, if_false]
  cases Dict.find? members name <;> rfl

end Fields

@[simp] theorem str?_str (s : String) : str? (.str s) = some s := rfl

@[simp] theorem bool?_bool (b : Bool) : bool? (.bool b) = some b := rfl

@[simp] theorem bareVariant?_str (s : String) : bareVariant? (.str s) = some s := rfl

@[simp] theorem float?_ofFloat (x : Float) :
    float? (ofFloat x) = if Number.isFinite x then some x else none := by
  rw [ofFloat]
  split <;> rfl

/-- A part that may be missing. -/
theorem orNull?_ofOption {encode : α → Json} {decode : Json → Option α} {a : Option α}
    (h : ∀ b, a = some b → encode b ≠ .null ∧ decode (encode b) = some b) :
    orNull? decode (ofOption encode a) = some a := by
  cases a with
  | none => rfl
  | some b =>
    obtain ⟨hnull, hread⟩ := h b rfl
    rw [ofOption, orNull?, hread]
    · rfl
    · exact hnull

@[simp] theorem orNull?_string (s : Option String) :
    orNull? str? (ofOption .str s) = some s := orNull?_ofOption fun _ _ => ⟨nofun, rfl⟩

/-- An array is read item by item. -/
theorem list?_map {encode : α → Json} {decode : Json → Option α} {comes : α → Bool}
    {as : List α} (h : ∀ a ∈ as, decode (encode a) = if comes a then some a else none) :
    list? decode (.arr (as.map encode)) = if as.all comes then some as else none := by
  simp only [list?]
  induction as with
  | nil => rfl
  | cons a rest ih =>
    have ha := h a (List.mem_cons_self ..)
    have hrest := ih fun b hb => h b (List.mem_cons_of_mem _ hb)
    rw [List.map_cons, List.mapM_cons, ha, hrest, List.all_cons]
    cases comes a <;> cases rest.all comes <;> rfl

/-- An array all of whose items are read. -/
theorem list?_map_some {encode : α → Json} {decode : Json → Option α} (as : List α)
    (h : ∀ a, decode (encode a) = some a) : list? decode (.arr (as.map encode)) = some as := by
  have hitems : ∀ a ∈ as, decode (encode a) = if (fun _ => true) a then some a else none :=
    fun a _ => h a
  simpa using list?_map hitems

@[simp] theorem list?_strings (names : List String) :
    list? str? (.arr (names.map .str)) = some names := list?_map_some names str?_str

@[simp] theorem list?_ofStringPairs (pairs : List (String × String)) :
    list? stringPair? (ofStringPairs pairs) = some pairs := list?_map_some pairs fun _ => rfl

theorem depthList_le {encode : α → Json} {as : List α} {n : Nat} :
    depthList (as.map encode) ≤ n ↔ ∀ a ∈ as, (encode a).depth ≤ n := by
  induction as with
  | nil => simp [depthList]
  | cons a rest ih => rw [List.map_cons, depthList, Nat.max_le, ih, List.forall_mem_cons]

theorem depthMembers_le {members : List (String × Json)} {n : Nat} :
    depthMembers members ≤ n ↔ ∀ m ∈ members, m.2.depth ≤ n := by
  induction members with
  | nil => simp [depthMembers]
  | cons m rest ih => rw [depthMembers, Nat.max_le, ih, List.forall_mem_cons, depthMember]

/-- A member is less deep than the object. -/
theorem depth_get? {j value : Json} {name : String} (h : j.get? name = some value) :
    value.depth < j.depth := by
  cases j with
  | obj members =>
    have hmember := depthMembers_le.mp (Nat.le_refl _) _ (Dict.mem_of_find? h)
    rw [depth]
    exact Nat.lt_succ_of_le hmember
  | _ => cases h

end Json

/-! ## Tokens -/

namespace Expr.Token

mutual

/-- The token and all tokens inside it. -/
def walk : Token → List Token
  | .lambda params body => .lambda params body :: walkAll body
  | .function name params => .function name params :: walkParams params
  | .filter name params => .filter name params :: walkParams params
  | .test name negated params => .test name negated params :: walkParams params
  | .computedKey key => .computedKey key :: walkAll key
  | .group tokens call => .group tokens call :: walkAll tokens
  | .keyBrackets key params => .keyBrackets key params :: (walkAll key ++ walkParams params)
  | t => [t]
termination_by structural t => t

/-- The tokens of a list and all tokens inside them. -/
def walkAll : List Token → List Token
  | [] => []
  | t :: rest => walk t ++ walkAll rest
termination_by structural l => l

/-- The tokens of an expression that may be missing, and all tokens inside them. -/
def walkParams : Option (List Token) → List Token
  | none => []
  | some tokens => walkAll tokens
termination_by structural p => p

end

/-- The number that the token stands for. -/
def number? : Token → Option Float
  | .number value => some value
  | _ => none

/-- No token of the list stands for an infinity or a NaN. -/
def areFinite (ts : List Token) : Bool := ts.all fun t => t.number?.all Number.isFinite

/-- The bounds of a slice are integers of 64 bits. -/
def Bounded : Token → Prop
  | .slice start stop =>
    ∀ n, start = some n ∨ stop = some n → Number.minWord ≤ n ∧ n ≤ Number.maxWord
  | _ => True

@[simp] theorem areFinite_nil : areFinite [] = true := rfl

@[simp] theorem areFinite_cons (t : Token) (rest : List Token) :
    areFinite (t :: rest) = (t.number?.all Number.isFinite && areFinite rest) := rfl

@[simp] theorem areFinite_append (ts us : List Token) :
    areFinite (ts ++ us) = (areFinite ts && areFinite us) := List.all_append ..

theorem areFinite_flatMap {α : Type} (f : α → List Token) (as : List α) :
    areFinite (as.flatMap f) = as.all fun a => areFinite (f a) := List.all_flatMap ..

theorem areFinite_iff {ts : List Token} :
    areFinite ts ↔ ∀ x ∈ ts.filterMap number?, Number.isFinite x := by
  simp only [areFinite, List.all_eq_true, Option.all_eq_true, List.mem_filterMap]
  exact ⟨fun h x ⟨t, ht, hx⟩ => h t ht x hx, fun h t ht x hx => h x ⟨t, ht, hx⟩⟩

theorem listToJson_eq_map (ts : List Token) : listToJson ts = ts.map toJson := by
  induction ts with
  | nil => rfl
  | cons t rest ih => rw [listToJson, ih, List.map_cons]

theorem walkAll_eq_flatMap (ts : List Token) : walkAll ts = ts.flatMap walk := by
  induction ts with
  | nil => rfl
  | cons t rest ih => rw [walkAll, ih, List.flatMap_cons]

/-- Reading the document of the token gives the token back, or nothing if it has a number that is
not finite. -/
def Comes (t : Token) : Prop :=
  ∀ fuel, t.toJson.depth ≤ fuel → (∀ u ∈ t.walk, u.Bounded) →
    ofJsonWith? fuel t.toJson = if areFinite t.walk then some t else none

variable {fuel : Nat}

theorem list?_toJson {ts : List Token} (h : ∀ t ∈ ts, t.Comes)
    (hdepth : (Json.arr (listToJson ts)).depth ≤ fuel + 1)
    (hbounded : ∀ u ∈ walkAll ts, u.Bounded) :
    Json.list? (ofJsonWith? fuel) (.arr (listToJson ts)) =
      if areFinite (walkAll ts) then some ts else none := by
  rw [Json.depth, Nat.add_le_add_iff_right, listToJson_eq_map] at hdepth
  rw [walkAll_eq_flatMap] at hbounded
  rw [listToJson_eq_map, walkAll_eq_flatMap, areFinite_flatMap]
  refine Json.list?_map fun t ht => ?_
  have hlow := Json.depthList_le.mp hdepth t ht
  exact h t ht fuel hlow fun u hu => hbounded u (List.mem_flatMap.mpr ⟨t, ht, hu⟩)

theorem orNull?_toJson {params : Option (List Token)} (h : ∀ ts ∈ params, ∀ t ∈ ts, t.Comes)
    (hdepth : (paramsToJson params).depth ≤ fuel + 1)
    (hbounded : ∀ u ∈ walkParams params, u.Bounded) :
    Json.orNull? (Json.list? (ofJsonWith? fuel)) (paramsToJson params) =
      if areFinite (walkParams params) then some params else none := by
  cases params with
  | none => rfl
  | some ts =>
    have hread := list?_toJson (h ts rfl) hdepth hbounded
    rw [paramsToJson, Json.orNull?, hread, walkParams]
    · split <;> rfl
    · exact Json.noConfusion

theorem orNull?_bound {bound : Option Int}
    (h : ∀ n, bound = some n → Number.minWord ≤ n ∧ n ≤ Number.maxWord) :
    Json.orNull? Json.word? (.ofOption .int bound) = some bound :=
  Json.orNull?_ofOption fun n hn => ⟨nofun, by simp [Json.word?, h n hn]⟩

@[simp] theorem ofName?_unary (op : UnaryOp) : UnaryOp.ofName? op.name = some op := by
  cases op <;> decide

@[simp] theorem ofName?_binary (op : BinaryOp) : BinaryOp.ofName? op.name = some op := by
  cases op <;> decide

mutual

/-- Every token comes back. -/
theorem comes (t : Token) : t.Comes := by
  intro fuel hdepth hbounded
  cases fuel with
  | zero => cases t <;> simp [toJson, variantJson, Json.depth] at hdepth
  | succ fuel =>
    -- members are less deep than the token, so that the fuel is enough for what is inside of it
    have hmember (name : String) (j : Json) (hj : t.toJson.get? name = some j) :
        j.depth ≤ fuel + 1 := by
      have := Json.depth_get? hj
      omega
    cases t with
    | number value =>
      simp [toJson, variantJson, ofJsonWith?, walk, number?]
      split <;> rfl
    | slice start stop =>
      have hbound := hbounded _ (List.mem_singleton_self _)
      have hstart := orNull?_bound fun n hn => hbound n (.inl hn)
      have hstop := orNull?_bound fun n hn => hbound n (.inr hn)
      simp [toJson, variantJson, ofJsonWith?, hstart, hstop, walk, number?]
    | lambda params body =>
      have hbody := list?_toJson (comesAll body) (hmember "body" _ rfl)
        fun u hu => hbounded u (List.mem_cons_of_mem _ hu)
      simp [toJson, variantJson, ofJsonWith?, hbody, walk, number?]
      split <;> rfl
    | function name params | filter name params | test name negated params =>
      have hparams := orNull?_toJson (comesParams params) (hmember "params" _ rfl)
        fun u hu => hbounded u (List.mem_cons_of_mem _ hu)
      simp [toJson, variantJson, ofJsonWith?, hparams, walk, number?]
      split <;> rfl
    | computedKey key =>
      have hkey := list?_toJson (comesAll key) (hmember "key" _ rfl)
        fun u hu => hbounded u (List.mem_cons_of_mem _ hu)
      simp [toJson, variantJson, ofJsonWith?, hkey, walk, number?]
      split <;> rfl
    | group tokens call =>
      have htokens := list?_toJson (comesAll tokens) (hmember "tokens" _ rfl)
        fun u hu => hbounded u (List.mem_cons_of_mem _ hu)
      simp [toJson, variantJson, ofJsonWith?, htokens, walk, number?]
      split <;> rfl
    | keyBrackets key params =>
      have hkey := list?_toJson (comesAll key) (hmember "key" _ rfl)
        fun u hu => hbounded u (List.mem_cons_of_mem _ (List.mem_append_left _ hu))
      have hparams := orNull?_toJson (comesParams params) (hmember "params" _ rfl)
        fun u hu => hbounded u (List.mem_cons_of_mem _ (List.mem_append_right _ hu))
      simp [toJson, variantJson, ofJsonWith?, hkey, hparams, walk, number?]
      cases areFinite (walkAll key) <;> cases areFinite (walkParams params) <;> rfl
    | _ => simp [toJson, variantJson, ofJsonWith?, walk, number?]
termination_by structural t

theorem comesAll (ts : List Token) : ∀ t ∈ ts, t.Comes := by
  cases ts with
  | nil => exact List.forall_mem_nil _
  | cons t rest => exact List.forall_mem_cons.mpr ⟨comes t, comesAll rest⟩
termination_by structural ts

theorem comesParams (params : Option (List Token)) : ∀ ts ∈ params, ∀ t ∈ ts, t.Comes := by
  cases params with
  | none => exact fun _ hts => nomatch hts
  | some ts =>
    rintro _ ⟨⟩
    exact comesAll ts
termination_by structural params

end

end Expr.Token

/-! ## Expressions, parameters and inclusions -/

namespace Expr
open Token

theorem ofJson?_toJson {e : Expr} (hdepth : e.toJson.depth ≤ Json.maxDepth)
    (hbounded : ∀ u ∈ walkAll e, u.Bounded) :
    ofJson? e.toJson = if areFinite (walkAll e) then some e else none :=
  list?_toJson (comesAll e) (Nat.le_succ_of_le (Nat.le_succ_of_le hdepth)) hbounded

theorem orNull?_ofOption {e : Option Expr}
    (hdepth : (Json.ofOption toJson e).depth ≤ Json.maxDepth)
    (hbounded : ∀ u ∈ walkParams e, u.Bounded) :
    Json.orNull? ofJson? (Json.ofOption toJson e) =
      if areFinite (walkParams e) then some e else none := by
  have hparams : Json.ofOption toJson e = paramsToJson e := by cases e <;> rfl
  rw [hparams] at hdepth ⊢
  exact orNull?_toJson (comesParams e) (Nat.le_succ_of_le (Nat.le_succ_of_le hdepth)) hbounded

end Expr

namespace MacroParam
open Expr.Token

/-- The tokens of the parameter's default and all tokens inside them. -/
def tokens (p : MacroParam) : List Expr.Token := walkParams p.default

theorem ofJson?_toJson {p : MacroParam} (hdepth : p.toJson.depth ≤ Json.maxDepth)
    (hbounded : ∀ u ∈ p.tokens, u.Bounded) :
    ofJson? p.toJson = if areFinite p.tokens then some p else none := by
  have hmember : p.toJson.get? "default" = some (Json.ofOption Expr.toJson p.default) := rfl
  have hlow := Json.depth_get? hmember
  have hdefault := Expr.orNull?_ofOption (by omega) hbounded
  rw [tokens]
  simp [toJson, ofJson?, hdefault]
  cases areFinite (walkParams p.default) <;> rfl

end MacroParam

namespace Inclusion
open Expr.Token

/-- The tokens of what the inclusion says and all tokens inside them. -/
def tokens (i : Inclusion) : List Expr.Token := walkAll i.expression ++ walkParams i.bindings

theorem ofJson?_fields {i : Inclusion} (hdepth : Json.depthMembers i.fields ≤ Json.maxDepth)
    (hbounded : ∀ u ∈ i.tokens, u.Bounded) :
    ofJson? (.obj i.fields) = if areFinite i.tokens then some i else none := by
  have hfield (name : String) (j : Json) (hj : Dict.find? i.fields name = some j) :
      j.depth ≤ Json.maxDepth := Json.depthMembers_le.mp hdepth _ (Dict.mem_of_find? hj)
  have hexpression := Expr.ofJson?_toJson (hfield "expression" _ rfl)
    fun u hu => hbounded u (List.mem_append_left _ hu)
  have hbindings := Expr.orNull?_ofOption (hfield "with" _ rfl)
    fun u hu => hbounded u (List.mem_append_right _ hu)
  simp [fields, ofJson?, hexpression, hbindings, tokens]
  cases areFinite (walkAll i.expression) <;> cases areFinite (walkParams i.bindings) <;> rfl

end Inclusion

/-! ## Tags -/

@[simp] theorem Autoescape.ofJson?_toJson (a : Autoescape) : ofJson? a.toJson = some a := by
  obtain - | strategy := a
  · rfl
  · cases strategy <;> rfl

namespace Tag
open Expr.Token

/-- The tokens of what the tag says and all tokens inside them. -/
def tokens : Tag → List Expr.Token
  | .branch e | .elseBranch e | .assign _ e | .inherits e | .uses e _ | .imports e _
  | .importsNames e _ | .apply e | .evaluate e | .deprecated e => walkAll e
  | .block _ e | .scoped e _ => walkParams e
  | .loop _ _ e condition => walkAll e ++ walkParams condition
  | .includes i | .embeds i => i.tokens
  | .macroDef _ params => params.flatMap MacroParam.tokens
  | .otherwise | .capture _ | .spaceless | .autoescape _ => []

theorem ofJson?_toJson {tag : Tag} (hdepth : tag.toJson.depth ≤ Json.maxDepth)
    (hbounded : ∀ u ∈ tag.tokens, u.Bounded) :
    ofJson? tag.toJson = if areFinite tag.tokens then some tag else none := by
  have hmember (name : String) (j : Json) (hj : tag.toJson.get? name = some j) :
      j.depth ≤ Json.maxDepth := by
    have := Json.depth_get? hj
    omega
  cases tag with
  | branch e | elseBranch e =>
    have he := Expr.ofJson?_toJson (hmember "condition" _ rfl) hbounded
    rw [tokens]
    simp [toJson, variantJson, ofJson?, he]
    cases areFinite (walkAll e) <;> rfl
  | assign name e | inherits e | uses e renames | imports e name | importsNames e names
  | evaluate e =>
    have he := Expr.ofJson?_toJson (hmember "expression" _ rfl) hbounded
    rw [tokens]
    simp [toJson, variantJson, ofJson?, he]
    cases areFinite (walkAll e) <;> rfl
  | apply e =>
    have he := Expr.ofJson?_toJson (hmember "filters" _ rfl) hbounded
    rw [tokens]
    simp [toJson, variantJson, ofJson?, he]
    cases areFinite (walkAll e) <;> rfl
  | deprecated e =>
    have he := Expr.ofJson?_toJson (hmember "message" _ rfl) hbounded
    rw [tokens]
    simp [toJson, variantJson, ofJson?, he]
    cases areFinite (walkAll e) <;> rfl
  | block name e | «scoped» e only =>
    have he := Expr.orNull?_ofOption (hmember "expression" _ rfl) hbounded
    rw [tokens]
    simp [toJson, variantJson, ofJson?, he]
    cases areFinite (walkParams e) <;> rfl
  | loop key value e condition =>
    have he := Expr.ofJson?_toJson (hmember "expression" _ rfl)
      fun u hu => hbounded u (List.mem_append_left _ hu)
    have hcondition := Expr.orNull?_ofOption (hmember "condition" _ rfl)
      fun u hu => hbounded u (List.mem_append_right _ hu)
    rw [tokens]
    simp [toJson, variantJson, ofJson?, he, hcondition]
    cases areFinite (walkAll e) <;> cases areFinite (walkParams condition) <;> rfl
  | includes i | embeds i =>
    have hfields : Json.depthMembers i.fields ≤ Json.maxDepth := by
      simp only [toJson, variantJson, Json.depth, Json.depthMembers] at hdepth
      omega
    have hi := Inclusion.ofJson?_fields hfields hbounded
    have htag : "tag" ∉ i.fields.map Prod.fst := by simp [Inclusion.fields]
    rw [tokens]
    simp [toJson, variantJson, ofJson?, htag, hi]
  | macroDef name params =>
    have hparams : Json.list? MacroParam.ofJson? (.arr (params.map MacroParam.toJson)) =
        if areFinite (params.flatMap MacroParam.tokens) then some params else none := by
      have harr := hmember "params" _ rfl
      rw [Json.depth] at harr
      rw [areFinite_flatMap]
      refine Json.list?_map fun p hp => MacroParam.ofJson?_toJson ?_ fun u hu =>
        hbounded u (List.mem_flatMap.mpr ⟨p, hp, hu⟩)
      exact Json.depthList_le.mp (Nat.le_of_succ_le harr) p hp
    rw [tokens]
    simp [toJson, variantJson, ofJson?, hparams]
    cases areFinite (params.flatMap MacroParam.tokens) <;> rfl
  | _ => simp [toJson, variantJson, ofJson?, tokens]

end Tag

/-! ## Nodes and trees -/

namespace Node
open Expr.Token (areFinite)

mutual

/-- The tokens of a node and of all nodes inside it, with all tokens inside them. -/
def tokens : Node → List Expr.Token
  | .raw _ => []
  | .output e => Expr.Token.walkAll e
  | .logic tag body => tag.tokens ++ allTokens body
termination_by structural n => n

/-- The tokens of some nodes. -/
def allTokens : List Node → List Expr.Token
  | [] => []
  | n :: rest => tokens n ++ allTokens rest
termination_by structural l => l

end

theorem listToJson_eq_map (ns : List Node) : listToJson ns = ns.map toJson := by
  induction ns with
  | nil => rfl
  | cons n rest ih => rw [listToJson, ih, List.map_cons]

theorem allTokens_eq_flatMap (ns : List Node) : allTokens ns = ns.flatMap tokens := by
  induction ns with
  | nil => rfl
  | cons n rest ih => rw [allTokens, ih, List.flatMap_cons]

/-- Reading the document of the node gives the node back, or nothing if it has a number that is not
finite. -/
def Comes (n : Node) : Prop :=
  ∀ fuel, n.toJson.depth ≤ fuel → n.toJson.depth ≤ Json.maxDepth → (∀ u ∈ n.tokens, u.Bounded) →
    ofJsonWith? fuel n.toJson = if areFinite n.tokens then some n else none

theorem list?_toJson {fuel : Nat} {ns : List Node} (h : ∀ n ∈ ns, n.Comes)
    (hdepth : (Json.arr (listToJson ns)).depth ≤ fuel + 1)
    (hlow : (Json.arr (listToJson ns)).depth ≤ Json.maxDepth)
    (hbounded : ∀ u ∈ allTokens ns, u.Bounded) :
    Json.list? (ofJsonWith? fuel) (.arr (listToJson ns)) =
      if areFinite (allTokens ns) then some ns else none := by
  rw [Json.depth, listToJson_eq_map] at hdepth hlow
  rw [allTokens_eq_flatMap] at hbounded
  rw [listToJson_eq_map, allTokens_eq_flatMap, Expr.Token.areFinite_flatMap]
  refine Json.list?_map fun n hn => h n hn fuel ?_ ?_ fun u hu =>
    hbounded u (List.mem_flatMap.mpr ⟨n, hn, hu⟩)
  · exact Json.depthList_le.mp (Nat.le_of_succ_le_succ hdepth) n hn
  · exact Json.depthList_le.mp (Nat.le_of_succ_le hlow) n hn

mutual

/-- Every node comes back. -/
theorem comes (n : Node) : n.Comes := by
  intro fuel hdepth hlow hbounded
  cases fuel with
  | zero => cases n <;> simp [toJson, variantJson, Json.depth] at hdepth
  | succ fuel =>
    have hmember (name : String) (j : Json) (hj : n.toJson.get? name = some j) :
        j.depth ≤ fuel + 1 ∧ j.depth ≤ Json.maxDepth := by
      have := Json.depth_get? hj
      omega
    cases n with
    | raw value => simp [toJson, variantJson, ofJsonWith?, tokens]
    | output e =>
      have he := Expr.ofJson?_toJson (hmember "expression" _ rfl).2 hbounded
      rw [tokens]
      simp [toJson, variantJson, ofJsonWith?, he]
      cases areFinite (Expr.Token.walkAll e) <;> rfl
    | logic tag body =>
      have htag := Tag.ofJson?_toJson (hmember "tag" _ rfl).2
        fun u hu => hbounded u (List.mem_append_left _ hu)
      obtain ⟨hfuel, hbelow⟩ := hmember "body" _ rfl
      have hbody := list?_toJson (comesAll body) hfuel hbelow
        fun u hu => hbounded u (List.mem_append_right _ hu)
      rw [tokens]
      simp [toJson, variantJson, ofJsonWith?, htag, hbody]
      cases areFinite tag.tokens <;> cases areFinite (allTokens body) <;> rfl
termination_by structural n

theorem comesAll (ns : List Node) : ∀ n ∈ ns, n.Comes := by
  cases ns with
  | nil => exact List.forall_mem_nil _
  | cons n rest => exact List.forall_mem_cons.mpr ⟨comes n, comesAll rest⟩
termination_by structural ns

end

end Node

namespace CompiledTree

/-- All tokens in the tree. -/
def tokens (t : CompiledTree) : List Expr.Token := Node.allTokens t.nodes

/-- All numbers in the tree. -/
def numbers (t : CompiledTree) : List Float := t.tokens.filterMap Expr.Token.number?

theorem ofJson?_toJson {t : CompiledTree} (hbounded : ∀ u ∈ t.tokens, u.Bounded) :
    ofJson? t.toJson =
      if (∀ x ∈ t.numbers, Number.isFinite x) ∧ t.toJson.depth ≤ Json.maxDepth then some t
      else none := by
  rw [ofJson?]
  by_cases hdepth : t.toJson.depth ≤ Json.maxDepth
  · have hnodes : Json.list? Node.ofJson? (.arr (Node.listToJson t.nodes)) =
        if Expr.Token.areFinite t.tokens then some t.nodes else none := by
      have hmember : t.toJson.get? "tokens" = some (.arr (Node.listToJson t.nodes)) := rfl
      have hlow := Json.depth_get? hmember
      exact Node.list?_toJson (Node.comesAll t.nodes) (by omega) (by omega) hbounded
    rw [if_neg (Nat.not_lt.mpr hdepth)]
    simp only [hdepth, and_true, numbers, ← Expr.Token.areFinite_iff]
    simp [toJson, hnodes]
    cases Expr.Token.areFinite t.tokens <;> rfl
  · rw [if_pos (Nat.not_le.mp hdepth), if_neg fun h => hdepth h.2]

/-- A tree that comes back has its name. -/
theorem id_of_ofJson? {t back : CompiledTree} (h : ofJson? t.toJson = some back) :
    back.id = t.id := by
  rw [ofJson?] at h
  split at h
  · cases h
  · simp [toJson] at h
    cases hnodes : Json.list? Node.ofJson? (.arr (Node.listToJson t.nodes)) with
    | none =>
      rw [hnodes] at h
      cases h
    | some nodes =>
      rw [hnodes] at h
      cases h
      rfl

end CompiledTree

/-! ## The cache -/

namespace Cache

/-- **A tree comes back from the cache as it is, or it does not come back.**  What is written under
a name in the cache in memory is read under that name again if all its numbers are finite and its
document is nested at most `Json.maxDepth` deep; otherwise the read fails.  Other names are read as
before.  The bounds of slices are integers of 64 bits. -/
theorem memory_write_read (entries : Dict Json) (locator : String) (t : CompiledTree)
    (hbounded : ∀ u ∈ t.tokens, u.Bounded) :
    ∃ written, memory.write entries locator t = .ok written ∧
      (memory.read written locator =
        if (∀ x ∈ t.numbers, Number.isFinite x) ∧ t.toJson.depth ≤ Json.maxDepth then .ok (some t)
        else .error ⟨.cache locator "the entry is not a compiled template", none⟩) ∧
      ∀ other, other ≠ locator → memory.read written other = memory.read entries other := by
  refine ⟨_, rfl, ?_, fun other hother => ?_⟩
  · simp only [memory, Dict.find?_insert, if_true, readDocument]
    rw [CompiledTree.ofJson?_toJson hbounded]
    by_cases hback : (∀ x ∈ t.numbers, Number.isFinite x) ∧ t.toJson.depth ≤ Json.maxDepth
    · rw [if_pos hback, if_pos hback]
      rfl
    · rw [if_neg hback, if_neg hback]
      rfl
  · simp only [memory, Dict.find?_insert, if_neg hother.symm]

/-- A value in so many pairs of parentheses. -/
def nested : Nat → Expr
  | 0 => [.bool true]
  | n + 1 => [.group (nested n) false]

/-- A page that prints the value. -/
def page (n : Nat) : CompiledTree := ⟨some "page", [.output (nested n)]⟩

theorem memory_write_read_page :
    (∀ u ∈ (page 2).tokens, u.Bounded) ∧ ∃ written,
      memory.write [] "page" (page 2) = .ok written ∧
        memory.read written "page" = .ok (some (page 2)) := by
  have hbounded : ∀ u ∈ (page 2).tokens, u.Bounded := by
    rintro u (_ | ⟨_, _ | ⟨_, _ | ⟨_, ⟨⟩⟩⟩⟩) <;> trivial
  obtain ⟨written, hwrite, hread, -⟩ := memory_write_read [] "page" (page 2) hbounded
  exact ⟨hbounded, written, hwrite,
    hread.trans (if_pos ⟨List.forall_mem_nil _, by decide⟩)⟩

/-- **A tree without numbers that does not come back.**  Its parentheses are nested too deeply for
its document to be read. -/
theorem memory_deep :
    (page 62).numbers = [] ∧ ∃ written, memory.write [] "page" (page 62) = .ok written ∧
      memory.read written "page" =
        .error ⟨.cache "page" "the entry is not a compiled template", none⟩ := by
  have hnumbers : (page 62).numbers.isEmpty = true := by decide +kernel
  have hdeep : Json.maxDepth < (page 62).toJson.depth := by decide +kernel
  have hread : CompiledTree.ofJson? (page 62).toJson = none := if_pos hdeep
  refine ⟨List.isEmpty_iff.mp hnumbers, _, rfl, ?_⟩
  simp only [memory, Dict.find?_insert, if_true, readDocument, hread]
  rfl

end Cache
end Stencil
