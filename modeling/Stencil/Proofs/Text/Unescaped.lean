import Stencil.Proofs.Text.Escaped
import Stencil.Regex.Escape

/-!
# Reading escaped text

A script, a style sheet and an address have ways of their own to write a character that could not
stand there: by UTF-16 units, by its code point, by its UTF-8 bytes.  What is escaped for one of
them consists of letters, digits and a few marks, and is read there as the text that it was before
(`Strategy.reversible`).

Each reader is shown to undo the escape of one character in front of any text
(`scriptUnits?_jsChar`, `styleText?_cssChar`, `addressBytes_urlChar`), so that no escape can run
into what follows it; the round trip of a text is an induction on that.
-/
namespace Stencil
open Text
open Regex (hexValueOf?)

namespace Text

/-! ## Hexadecimal digits -/

theorem hexValueOf?_append (digits : List Char) (d : Char) : hexValueOf? (digits ++ [d])
    = (hexValueOf? digits).bind fun n => (hexValue? d).map fun value => 16 * n + value :=
  List.foldl_append

theorem hexValueOf?_upperHex (n : Nat) : hexValueOf? (upperHex n) = some n := by
  have hlast : ∀ d < 16, hexValue? (Nat.digitChar d).toUpper = some d := by decide
  induction n using Nat.strongRecOn with
  | ind n ih =>
    rw [upperHex, hex, Nat.toDigits_eq_if (by decide)]
    split
    · next hn =>
      rw [List.map_singleton, ← List.nil_append [_], hexValueOf?_append, hlast n hn]
      simp [hexValueOf?]
    · next hn =>
      have hfront := ih (n / 16) (Nat.div_lt_self (by omega) (by decide))
      rw [upperHex, hex] at hfront
      rw [List.map_append, List.map_singleton, hexValueOf?_append, hfront,
        hlast (n % 16) (Nat.mod_lt n (by decide)), Option.bind_some, Option.map_some,
        Nat.div_add_mod]

/-- Zeros in front do not count. -/
theorem hexValueOf?_zeros (k : Nat) (digits : List Char) :
    hexValueOf? (List.replicate k '0' ++ digits) = hexValueOf? digits := by
  induction k with
  | zero => rfl
  | succ k ih => exact ih

theorem hexValueOf?_paddedHex (width n : Nat) : hexValueOf? (paddedHex width n) = some n :=
  (hexValueOf?_zeros _ _).trans (hexValueOf?_upperHex n)

theorem length_paddedHex {width n : Nat} (hwidth : 0 < width) (hn : n < Nat.pow 16 width) :
    (paddedHex width n).length = width := by
  have hdigits := (Nat.length_toDigits_le_iff (b := 16) (by decide) hwidth).mpr hn
  rw [paddedHex, List.length_leftpad, upperHex, hex, List.length_map]
  omega

theorem exists_paddedHex_two {n : Nat} (hn : n < 0x100) :
    ∃ a b, paddedHex 2 n = [a, b] ∧ hexValueOf? [a, b] = some n := by
  have hlength := length_paddedHex (by decide : 0 < 2) hn
  have hvalue := hexValueOf?_paddedHex 2 n
  match hdigits : paddedHex 2 n, hlength with
  | [a, b], _ => exact ⟨a, b, rfl, hdigits ▸ hvalue⟩

theorem exists_paddedHex_four {n : Nat} (hn : n < 0x10000) :
    ∃ a b c d, paddedHex 4 n = [a, b, c, d] ∧ hexValueOf? [a, b, c, d] = some n := by
  have hlength := length_paddedHex (by decide : 0 < 4) hn
  have hvalue := hexValueOf?_paddedHex 4 n
  match hdigits : paddedHex 4 n, hlength with
  | [a, b, c, d], _ => exact ⟨a, b, c, d, rfl, hdigits ▸ hvalue⟩

end Text

namespace Strategy

/-! ## Scripts -/

/-- The UTF-16 units of a string in a script.  Other escapes than those of one unit are not read. -/
def scriptUnits? : List Char → Option (List Nat)
  | [] => some []
  | '\\' :: 'x' :: a :: b :: cs => do
    let unit ← hexValueOf? [a, b]
    let units ← scriptUnits? cs
    return unit :: units
  | '\\' :: 'u' :: a :: b :: c :: d :: cs => do
    let unit ← hexValueOf? [a, b, c, d]
    let units ← scriptUnits? cs
    return unit :: units
  | c :: cs => if c = '\\' then none else (scriptUnits? cs).map (utf16Units c ++ ·)

/-- The characters that UTF-16 units are of.  A high surrogate and a low one make one character; a
surrogate that is not paired makes none. -/
def joinUnits? : List Nat → Option (List Char)
  | [] => some []
  | unit :: units =>
    if 0xD800 ≤ unit ∧ unit < 0xDC00 then
      match units with
      | [] => none
      | low :: units =>
        if 0xDC00 ≤ low ∧ low < 0xE000 then do
          let c ← charOf? (0x10000 + (unit - 0xD800) * 0x400 + (low - 0xDC00))
          let cs ← joinUnits? units
          return c :: cs
        else none
    else do
      let c ← charOf? unit
      let cs ← joinUnits? units
      return c :: cs

/-- The text that a string in a script stands for. -/
def readScript? (s : String) : Option String :=
  ((scriptUnits? s.toList).bind joinUnits?).map String.ofList

/-- A character that is no backslash stands for itself. -/
theorem scriptUnits?_cons {c : Char} (hc : c ≠ '\\') (cs : List Char) :
    scriptUnits? (c :: cs) = (scriptUnits? cs).map (utf16Units c ++ ·) := by
  rw [scriptUnits?]
  · rw [if_neg hc]
  · rintro a b rest rfl -
    exact hc rfl
  · rintro a b d e rest rfl -
    exact hc rfl

theorem utf16Units_lt (c : Char) : ∀ unit ∈ utf16Units c, unit < 0x10000 := by
  have hc : c.toNat < 0xD800 ∨ 0xDFFF < c.toNat ∧ c.toNat < 0x110000 := c.valid
  unfold utf16Units
  intro unit hunit
  split at hunit
  · simp only [List.mem_singleton] at hunit
    omega
  · simp only [List.mem_cons, List.not_mem_nil, or_false] at hunit
    omega

/-- Units that are written one after the other are read one after the other. -/
theorem scriptUnits?_units {units : List Nat} (hunits : ∀ unit ∈ units, unit < 0x10000)
    (cs : List Char) :
    scriptUnits? (units.flatMap (fun unit => '\\' :: 'u' :: paddedHex 4 unit) ++ cs)
      = (scriptUnits? cs).map (units ++ ·) := by
  induction units with
  | nil => simp
  | cons unit units ih =>
    obtain ⟨hunit, hunits⟩ := List.forall_mem_cons.mp hunits
    obtain ⟨a, b, c, d, hdigits, hvalue⟩ := exists_paddedHex_four hunit
    rw [List.flatMap_cons, hdigits, List.append_assoc]
    simp only [List.cons_append, List.nil_append]
    rw [scriptUnits?, hvalue, ih hunits]
    cases scriptUnits? cs <;> rfl

/-- **One character of a script.** -/
theorem scriptUnits?_jsChar (c : Char) (cs : List Char) :
    scriptUnits? (jsChar c ++ cs) = (scriptUnits? cs).map (utf16Units c ++ ·) := by
  unfold jsChar
  split
  · next hplain =>
    refine scriptUnits?_cons ?_ cs
    rintro rfl
    exact absurd hplain (by decide)
  · split
    · next hascii =>
      obtain ⟨a, b, hdigits, hvalue⟩ := exists_paddedHex_two (show c.toNat < 0x100 by omega)
      rw [hdigits]
      simp only [List.cons_append, List.nil_append]
      rw [scriptUnits?, hvalue, utf16Units, if_pos (by omega)]
      cases scriptUnits? cs <;> rfl
    · exact scriptUnits?_units (utf16Units_lt c) cs

theorem scriptUnits?_escape (cs : List Char) :
    scriptUnits? (Strategy.js.escape cs) = some (cs.flatMap utf16Units) := by
  induction cs with
  | nil => rfl
  | cons c cs ih =>
    rw [escape, List.flatMap_cons]
    refine (scriptUnits?_jsChar c _).trans ?_
    rw [show List.flatMap Strategy.js.escapeChar cs = Strategy.js.escape cs from rfl, ih]
    rfl

/-- A unit that is no high surrogate is a character of its own. -/
theorem joinUnits?_cons {unit : Nat} (hunit : ¬ (0xD800 ≤ unit ∧ unit < 0xDC00))
    (units : List Nat) :
    joinUnits? (unit :: units) = (charOf? unit).bind fun c => (joinUnits? units).map (c :: ·) := by
  cases units <;> simp only [joinUnits?, hunit, if_false, Option.map_eq_bind] <;> rfl

/-- The units of a character make that character, whatever follows. -/
theorem joinUnits?_utf16Units (c : Char) (units : List Nat) :
    joinUnits? (utf16Units c ++ units) = (joinUnits? units).map (c :: ·) := by
  have hvalid : c.toNat < 0xD800 ∨ 0xDFFF < c.toNat ∧ c.toNat < 0x110000 := c.valid
  by_cases hc : c.toNat < 0x10000
  · rw [utf16Units, if_pos hc, List.singleton_append, joinUnits?_cons (by omega), charOf?_toNat,
      Option.bind_some]
  · have hsum : 0x10000 + (0xD800 + (c.toNat - 0x10000) / 0x400 - 0xD800) * 0x400
        + (0xDC00 + (c.toNat - 0x10000) % 0x400 - 0xDC00) = c.toNat := by omega
    rw [utf16Units, if_neg hc]
    simp only [List.cons_append, List.nil_append]
    rw [joinUnits?, if_pos (by omega), if_pos (by omega), hsum, charOf?_toNat]
    cases joinUnits? units <;> rfl

theorem joinUnits?_flatMap (cs : List Char) : joinUnits? (cs.flatMap utf16Units) = some cs := by
  induction cs with
  | nil => rfl
  | cons c cs ih => rw [List.flatMap_cons, joinUnits?_utf16Units, ih, Option.map_some]

/-! ## Style sheets -/

/-- A hexadecimal digit. -/
def isHexDigit (c : Char) : Bool := (hexValue? c).isSome

/-- What follows a space in front, or the text if it starts with none. -/
def afterSpace : List Char → List Char
  | ' ' :: cs => cs
  | cs => cs

theorem length_afterSpace_le (cs : List Char) : (afterSpace cs).length ≤ cs.length := by
  unfold afterSpace
  split
  · exact Nat.le_succ _
  · exact Nat.le_refl _

/-- The text that a string in a style sheet stands for.  A backslash and hexadecimal digits are the
character of a code point, and a space right behind them belongs to them. -/
def styleText? : List Char → Option (List Char)
  | [] => some []
  | c :: cs =>
    if c = '\\' then
      if (cs.takeWhile isHexDigit).isEmpty then none
      else do
        let c ← (hexValueOf? (cs.takeWhile isHexDigit)).bind charOf?
        let more ← styleText? (afterSpace (cs.dropWhile isHexDigit))
        return c :: more
    else (styleText? cs).map (c :: ·)
termination_by cs => cs.length
decreasing_by
  · have hspace := length_afterSpace_le (cs.dropWhile isHexDigit)
    have hdigits := (List.dropWhile_suffix isHexDigit (l := cs)).length_le
    simp only [List.length_cons]
    omega
  · exact Nat.lt_succ_self _

/-- `styleText?` on strings. -/
def readStyle? (s : String) : Option String := (styleText? s.toList).map String.ofList

theorem isHexDigit_of_mem_upperHex {n : Nat} {c : Char} (h : c ∈ upperHex n) :
    isHexDigit c = true := by
  have hdigits : ∀ d < 16, isHexDigit (Nat.digitChar d).toUpper = true := by decide
  obtain ⟨digit, hdigit, rfl⟩ := List.mem_map.mp h
  obtain ⟨d, hd, rfl⟩ := mem_hex hdigit
  exact hdigits d hd

theorem upperHex_ne_nil (n : Nat) : upperHex n ≠ [] := by
  rw [upperHex, hex, Ne, List.map_eq_nil_iff]
  exact Nat.toDigits_ne_nil

/-- **One character of a style sheet.**  The space ends its digits, so that a digit that follows is
none of them. -/
theorem styleText?_cssChar (c : Char) (cs : List Char) :
    styleText? (cssChar c ++ cs) = (styleText? cs).map (c :: ·) := by
  unfold cssChar
  split
  · next hplain =>
    have hc : c ≠ '\\' := by
      rintro rfl
      exact absurd hplain (by decide)
    rw [List.singleton_append, styleText?, if_neg hc]
  · have hdigits := fun d (hd : d ∈ upperHex c.toNat) => isHexDigit_of_mem_upperHex hd
    have htake : (upperHex c.toNat ++ ' ' :: cs).takeWhile isHexDigit = upperHex c.toNat := by
      rw [List.takeWhile_append_of_pos hdigits, List.takeWhile_cons_of_neg (by decide),
        List.append_nil]
    have hdrop : (upperHex c.toNat ++ ' ' :: cs).dropWhile isHexDigit = ' ' :: cs := by
      rw [List.dropWhile_append_of_pos hdigits, List.dropWhile_cons_of_neg (by decide)]
    have hempty : (upperHex c.toNat).isEmpty = false :=
      List.isEmpty_eq_false_iff.mpr (upperHex_ne_nil _)
    simp only [List.cons_append, List.append_assoc, List.nil_append]
    rw [styleText?, if_pos rfl, htake, hdrop, hempty, hexValueOf?_upperHex, Option.bind_some,
      charOf?_toNat]
    simp only [Bool.false_eq_true, if_false, afterSpace]
    cases styleText? cs <;> rfl

theorem styleText?_escape (cs : List Char) :
    styleText? (Strategy.css.escape cs) = some cs := by
  induction cs with
  | nil => simp [escape, styleText?]
  | cons c cs ih =>
    rw [escape, List.flatMap_cons]
    refine (styleText?_cssChar c _).trans ?_
    rw [show List.flatMap Strategy.css.escapeChar cs = Strategy.css.escape cs from rfl, ih]
    rfl

/-! ## Addresses -/

/-- The bytes of an address: a percent sign and two hexadecimal digits are one byte, and all else
stands for itself. -/
def addressBytes : List Char → List UInt8
  | [] => []
  | '%' :: a :: b :: cs =>
    match hexValueOf? [a, b] with
    | some n => UInt8.ofNat n :: addressBytes cs
    | none => String.utf8EncodeChar '%' ++ addressBytes (a :: b :: cs)
  | c :: cs => String.utf8EncodeChar c ++ addressBytes cs

/-- The text whose UTF-8 bytes an address writes. -/
def readAddress? (s : String) : Option String :=
  String.fromUTF8? (addressBytes s.toList).toByteArray

theorem addressBytes_cons {c : Char} (hc : c ≠ '%') (cs : List Char) :
    addressBytes (c :: cs) = String.utf8EncodeChar c ++ addressBytes cs := by
  rw [addressBytes]
  rintro a b rest rfl -
  exact hc rfl

/-- Bytes that are written one after the other are read one after the other. -/
theorem addressBytes_bytes (bytes : List UInt8) (cs : List Char) :
    addressBytes (bytes.flatMap (fun byte => '%' :: paddedHex 2 byte.toNat) ++ cs)
      = bytes ++ addressBytes cs := by
  induction bytes with
  | nil => rfl
  | cons byte bytes ih =>
    obtain ⟨a, b, hdigits, hvalue⟩ := exists_paddedHex_two byte.toNat_lt
    rw [List.flatMap_cons, hdigits, List.append_assoc]
    simp only [List.cons_append, List.nil_append]
    rw [addressBytes, hvalue, ih]
    simp only [UInt8.ofNat_toNat]

/-- **One character of an address.** -/
theorem addressBytes_urlChar (c : Char) (cs : List Char) :
    addressBytes (urlChar c ++ cs) = String.utf8EncodeChar c ++ addressBytes cs := by
  unfold urlChar
  split
  · next hplain =>
    refine addressBytes_cons ?_ cs
    rintro rfl
    exact absurd hplain (by decide)
  · exact addressBytes_bytes _ cs

theorem addressBytes_escape (cs : List Char) :
    addressBytes (Strategy.url.escape cs) = cs.flatMap String.utf8EncodeChar := by
  induction cs with
  | nil => rfl
  | cons c cs ih =>
    rw [escape, List.flatMap_cons, List.flatMap_cons]
    refine (addressBytes_urlChar c _).trans ?_
    rw [show List.flatMap Strategy.url.escapeChar cs = Strategy.url.escape cs from rfl, ih]

theorem fromUTF8?_utf8Encode (cs : List Char) :
    String.fromUTF8? cs.utf8Encode = some (String.ofList cs) := by
  rw [← String.toByteArray_ofList, String.fromUTF8?, dif_pos (String.isValidUTF8 _)]
  rfl

/-! ## The alphabet -/

/-- All characters are letters and digits of ASCII or among the marks. -/
def Within (marks cs : List Char) : Prop := ∀ c ∈ cs, c.isAlphanum = true ∨ c ∈ marks

theorem within_append {marks cs ds : List Char} :
    Within marks (cs ++ ds) ↔ Within marks cs ∧ Within marks ds :=
  List.forall_mem_append

theorem within_cons {marks cs : List Char} {c : Char} :
    Within marks (c :: cs) ↔ (c.isAlphanum = true ∨ c ∈ marks) ∧ Within marks cs :=
  List.forall_mem_cons

theorem within_upperHex (marks : List Char) (n : Nat) : Within marks (upperHex n) :=
  fun _ hc => .inl (isAlphanum_of_mem_upperHex hc)

theorem within_paddedHex (marks : List Char) (width n : Nat) :
    Within marks (paddedHex width n) :=
  fun _ hc => .inl (isAlphanum_of_mem_paddedHex hc)

theorem within_flatMap {α : Type} {marks : List Char} {f : α → List Char} {items : List α}
    (h : ∀ x ∈ items, Within marks (f x)) : Within marks (items.flatMap f) := by
  intro c hc
  obtain ⟨x, hx, hc⟩ := List.mem_flatMap.mp hc
  exact h x hx c hc

theorem within_jsChar (c : Char) : Within [',', '.', '_', '\\'] (jsChar c) := by
  unfold jsChar
  split
  · next hkept =>
    simp only [isPlain, Bool.or_eq_true, decide_eq_true_eq] at hkept
    refine within_cons.mpr ⟨?_, nofun⟩
    rcases hkept with ((hplain | rfl) | rfl) | rfl
    · exact .inl hplain
    all_goals decide
  · split
    · exact within_cons.mpr ⟨by decide, within_cons.mpr ⟨by decide, within_paddedHex _ 2 _⟩⟩
    · refine within_flatMap fun unit _ => ?_
      exact within_cons.mpr ⟨by decide, within_cons.mpr ⟨by decide, within_paddedHex _ 4 _⟩⟩

theorem within_cssChar (c : Char) : Within ['\\', ' '] (cssChar c) := by
  unfold cssChar
  split
  · next hplain => exact within_cons.mpr ⟨.inl hplain, nofun⟩
  · refine within_append.mpr ⟨?_, within_cons.mpr ⟨by decide, nofun⟩⟩
    exact within_cons.mpr ⟨by decide, within_upperHex _ _⟩

theorem within_urlChar (c : Char) : Within ['-', '_', '.', '~', '%'] (urlChar c) := by
  unfold urlChar
  split
  · next hkept =>
    simp only [isPlain, Bool.or_eq_true, decide_eq_true_eq] at hkept
    refine within_cons.mpr ⟨?_, nofun⟩
    rcases hkept with (((hplain | rfl) | rfl) | rfl) | rfl
    · exact .inl hplain
    all_goals decide
  · refine within_flatMap fun byte _ => ?_
    exact within_cons.mpr ⟨by decide, within_paddedHex _ 2 _⟩

/-! ## Reversible strategies -/

/-- What is escaped consists of letters and digits of ASCII and of `marks`, and `read?` gives back
the text that it was before; so no two texts are escaped to the same. -/
structure Reversible (strategy : Strategy) (marks : List Char) (read? : String → Option String) :
    Prop where
  alphabet : ∀ s, Within marks (strategy.escapeString s).toList
  read_escape : ∀ s, read? (strategy.escapeString s) = some s
  injective : Function.Injective strategy.escapeString

/-- It is enough to know the characters and the reading. -/
theorem reversible_of {strategy : Strategy} {marks : List Char} {read? : String → Option String}
    (hchar : ∀ c, Within marks (strategy.escapeChar c))
    (hread : ∀ cs, read? (String.ofList (strategy.escape cs)) = some (String.ofList cs)) :
    strategy.Reversible marks read? := by
  have hstring : ∀ s, read? (strategy.escapeString s) = some s := fun s => by
    rw [escapeString, hread, String.ofList_toList]
  refine ⟨fun s => ?_, hstring, fun s t heq => ?_⟩
  · rw [escapeString, String.toList_ofList]
    exact within_flatMap fun c _ => hchar c
  · have hs := hstring s
    rw [heq, hstring t] at hs
    exact (Option.some.inj hs).symm

/-- **Escaping for a script, a style sheet or an address can be undone.**  Each of the three leaves
letters, digits and a few marks, and what it makes of a text is read there as that text. -/
theorem reversible :
    Strategy.js.Reversible [',', '.', '_', '\\'] readScript? ∧
      Strategy.css.Reversible ['\\', ' '] readStyle? ∧
      Strategy.url.Reversible ['-', '_', '.', '~', '%'] readAddress? := by
  refine ⟨reversible_of within_jsChar fun cs => ?_, reversible_of within_cssChar fun cs => ?_,
    reversible_of within_urlChar fun cs => ?_⟩
  · rw [readScript?, String.toList_ofList, scriptUnits?_escape, Option.bind_some,
      joinUnits?_flatMap, Option.map_some]
  · rw [readStyle?, String.toList_ofList, styleText?_escape, Option.map_some]
  · rw [readAddress?, String.toList_ofList, addressBytes_escape]
    exact fromUTF8?_utf8Encode cs

/-- A character beyond the basic plane is two units of a script. -/
example : Strategy.js.escapeString "a😀" = "a\\uD83D\\uDE00" ∧
    readScript? "a\\uD83D\\uDE00" = some "a😀" := by
  decide +kernel

end Strategy
end Stencil
