import Stencil.Value.Basic

/-!
The ways in which values are compared: loosely, where a text may equal a number; strictly, where
containers and functions equal only themselves; by contents; and by order.
-/

namespace Stencil.Value

/-- Truth values, numbers and texts. -/
def isScalar : Value → Bool
  | .bool _ | .number _ | .string _ | .markup .. => true
  | _ => false

/-- Loose equality of two values that are not both containers of one kind. -/
def looseEqSimple (a b : Value) : Bool :=
  if a.isNone || b.isNone then a.isNone && b.isNone
  else match a, b with
    | .number x, .number y => x == y
    | .bool x, .bool y => x == y
    | a, b =>
      match a.functionIdentity?, b.functionIdentity? with
      | some i, some j => i == j
      | _, _ =>
        match a.string?, b.string? with
        | some s, some t => s == t
        | _, _ => a.isScalar && b.isScalar && a.toNumber == b.toNumber

mutual

/-- Equality with coercion: null equals what does not exist, a scalar equals one of another type
with the same number, and containers are equal if their values are. -/
def looseEq : Value → Value → Bool
  | .array _ items, b =>
    match b with
    | .array _ others => looseEqItems items others
    | b => looseEqSimple (.array 0 []) b
  | .object _ entries, b =>
    match b with
    | .object _ others => entries.length == others.length && looseEqEntries entries others
    | b => looseEqSimple (.object 0 []) b
  | a, b => looseEqSimple a b
termination_by structural a => a

/-- Loose equality of two lists, place by place. -/
def looseEqItems : List Value → List Value → Bool
  | [], [] => true
  | a :: as, b :: bs => looseEq a b && looseEqItems as bs
  | _, _ => false
termination_by structural l => l

/-- Each entry has an entry of its key that equals it loosely. -/
def looseEqEntries : List (String × Value) → List (String × Value) → Bool
  | [], _ => true
  | e :: rest, others => looseEqEntry e others && looseEqEntries rest others
termination_by structural l => l

/-- The entry has an entry of its key that equals it loosely. -/
def looseEqEntry : String × Value → List (String × Value) → Bool
  | (k, v), others =>
    match Dict.find? others k with
    | some w => looseEq v w
    | none => false
termination_by structural e => e

end

/-- Equality without coercion: containers and functions equal only themselves, and a macro not even
that. -/
def strictEq (a b : Value) : Bool :=
  match a, b with
  | .undefined, .undefined | .null, .null => true
  | .number x, .number y => x == y
  | .bool x, .bool y => x == y
  | .array i _, .array j _ | .object i _, .object j _ => i == j
  | a, b =>
    match a.functionIdentity?, b.functionIdentity? with
    | some i, some j => i == j
    | _, _ =>
      match a.string?, b.string? with
      | some s, some t => s == t
      | _, _ => false

/-- Equality of two values that are not both containers of one kind, of the same type and contents.
-/
def sameSimple (a b : Value) : Bool :=
  match a, b with
  | .undefined, .undefined | .null, .null => true
  | .bool x, .bool y => x == y
  | .number x, .number y => x == y
  | .string s, .string t => s == t
  | .markup s f, .markup t g => s == t && f == g
  | .templateMacro t n, .templateMacro u m => t.number == u.number && n == m
  | a, b =>
    match a.functionIdentity?, b.functionIdentity? with
    | some i, some j => i == j
    | _, _ => false

mutual

/-- Equality of type and contents; the order of entries does not count. -/
def same : Value → Value → Bool
  | .array _ items, b =>
    match b with
    | .array _ others => sameItems items others
    | _ => false
  | .object _ entries, b =>
    match b with
    | .object _ others => entries.length == others.length && sameEntries entries others
    | _ => false
  | a, b => sameSimple a b
termination_by structural a => a

/-- Equality of two lists, place by place. -/
def sameItems : List Value → List Value → Bool
  | [], [] => true
  | a :: as, b :: bs => same a b && sameItems as bs
  | _, _ => false
termination_by structural l => l

/-- Each entry has an entry of its key that equals it. -/
def sameEntries : List (String × Value) → List (String × Value) → Bool
  | [], _ => true
  | e :: rest, others => sameEntry e others && sameEntries rest others
termination_by structural l => l

/-- The entry has an entry of its key that equals it. -/
def sameEntry : String × Value → List (String × Value) → Bool
  | (k, v), others =>
    match Dict.find? others k with
    | some w => same v w
    | none => false
termination_by structural e => e

end

/-- The order of two values: that of their characters for two texts, that of their numbers for all
others. -/
def compare? (a b : Value) : Option Ordering :=
  match a.string?, b.string? with
  | some s, some t => some (if s < t then .lt else if t < s then .gt else .eq)
  | _, _ => Number.compare? a.toNumber b.toNumber

end Stencil.Value
