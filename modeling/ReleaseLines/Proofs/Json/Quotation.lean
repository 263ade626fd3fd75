import ReleaseLines.Json.Reader
import ReleaseLines.Json.Writer
import Mathlib.Algebra.Group.Nat.Defs
import Mathlib.Data.List.Basic

namespace ReleaseLines

namespace Text

theorem hexNumber?_concat {cs : List Char} {c : Char} {n d : Nat} (hn : hexNumber? cs = some n)
    (hd : hexValue? c = some d) : hexNumber? (cs ++ [c]) = some (16 * n + d) := by
  obtain ⟨values, hvalues, rfl⟩ := Option.map_eq_some_iff.mp hn
  simp [hexNumber?, List.mapM_append, hvalues, hd]

theorem hexNumber?_hexDigits (width n : Nat) :
    hexNumber? (hexDigits width n) = some (n % 16 ^ width) := by
  induction width generalizing n with
  | zero => simp [hexDigits, hexNumber?, Nat.mod_one]
  | succ width ih =>
    rw [hexDigits, hexNumber?_concat (ih (n / 16)) (hexValue?_hexDigit (Nat.mod_lt n (by omega))),
      Nat.pow_succ', Nat.mod_mul, Nat.add_comm]

theorem le_of_mem_hexDigits {width n : Nat} {c : Char} (h : c ∈ hexDigits width n) :
    0x20 ≤ c.toNat := by
  have hdigit : ∀ d : Fin 16, 0x20 ≤ (hexDigit d).toNat := by decide
  induction width generalizing n with
  | zero => cases h
  | succ width ih =>
    rcases List.mem_append.mp h with h | h
    · exact ih h
    · obtain rfl := List.mem_singleton.mp h
      exact hdigit ⟨n % 16, Nat.mod_lt n (by omega)⟩

end Text

namespace Json

/-- The codes that a character is escaped as: two halves beyond the first plane. -/
def codesOf (c : Char) : List Nat :=
  if c.toNat < 0x10000 then [c.toNat]
  else [0xD800 + (c.toNat - 0x10000) / 0x400, 0xDC00 + (c.toNat - 0x10000) % 0x400]

theorem toNat_lt (c : Char) : c.toNat < 0x110000 := by
  rcases c.valid with h | h
  · exact Nat.lt_trans h (by decide)
  · exact h.2

theorem not_surrogate (c : Char) : c.toNat < 0xD800 ∨ 0xE000 ≤ c.toNat := by
  rcases c.valid with h | h
  · exact .inl h
  · exact .inr h.1

theorem readCodes_unitEscape (before : List Nat) {unit : Nat} (h : unit < 0x10000)
    (rest : List Char) :
    readCodes before (unitEscape unit ++ rest) = readCodes (unit :: before) rest := by
  have hdigits : Text.hexNumber? (Text.hexDigits 4 unit) = some unit :=
    (Text.hexNumber?_hexDigits 4 unit).trans (congrArg some (Nat.mod_eq_of_lt h))
  simp only [Text.hexDigits, List.nil_append, List.cons_append] at hdigits
  simp only [unitEscape, Text.hexDigits, List.nil_append, List.cons_append]
  rw [readCodes]
  simp only [hdigits]

theorem readCodes_escape (before : List Nat) {letter : Char} {code : Nat} (hu : letter ≠ 'u')
    (h : escapes.lookup letter = some code) (rest : List Char) :
    readCodes before ('\\' :: letter :: rest) = readCodes (code :: before) rest := by
  rw [readCodes]
  · simp only [h]
  · intro a b c d after heq
    exact absurd heq hu

theorem readCodes_plain (before : List Nat) {c : Char} (hquote : c ≠ '"') (hslash : c ≠ '\\')
    (h : 0x20 ≤ c.toNat) (rest : List Char) :
    readCodes before (c :: rest) = readCodes (c.toNat :: before) rest := by
  rw [readCodes]
  · rw [if_neg (Nat.not_lt.mpr h)]
  · exact hquote
  · intro a b c d after heq
    exact absurd heq hslash
  · intro letter after heq
    exact absurd heq hslash

theorem codesOf_of_lt {c : Char} (h : c.toNat < 0x10000) : codesOf c = [c.toNat] := if_pos h

/-- The ways in which a character is written. -/
inductive Escaped (c : Char) : List Char → Prop
  | letter (l : Char) (hu : l ≠ 'u') (hl : 0x20 ≤ l.toNat)
      (hc : escapes.lookup l = some c.toNat) (hplane : c.toNat < 0x10000) : Escaped c ['\\', l]
  | plain (hquote : c ≠ '"') (hslash : c ≠ '\\') (hc : 0x20 ≤ c.toNat)
      (hplane : c.toNat < 0x10000) : Escaped c [c]
  | unit (hplane : c.toNat < 0x10000) : Escaped c (unitEscape c.toNat)
  | pair (hplane : 0x10000 ≤ c.toNat) :
      Escaped c (unitEscape (0xD800 + (c.toNat - 0x10000) / 0x400) ++
        unitEscape (0xDC00 + (c.toNat - 0x10000) % 0x400))

theorem escaped_escapedChar (c : Char) : Escaped c (escapedChar c) := by
  have lettered (l : Char) (code : Nat) (hc : c.toNat = code) (h : l ≠ 'u' ∧ 0x20 ≤ l.toNat ∧
      escapes.lookup l = some code ∧ code < 0x10000) : Escaped c ['\\', l] := by
    obtain ⟨hu, hl, hlookup, hplane⟩ := h
    exact .letter l hu hl (hc ▸ hlookup) (hc ▸ hplane)
  fun_cases escapedChar c with
  | case1 h => exact lettered '"' 0x22 (eq_of_beq h ▸ rfl) (by decide)
  | case2 _ h => exact lettered '\\' 0x5C (eq_of_beq h ▸ rfl) (by decide)
  | case3 _ _ h => exact lettered 'n' 0x0A (eq_of_beq h ▸ rfl) (by decide)
  | case4 _ _ _ h => exact lettered 'r' 0x0D (eq_of_beq h ▸ rfl) (by decide)
  | case5 _ _ _ _ h => exact lettered 't' 0x09 (eq_of_beq h ▸ rfl) (by decide)
  | case6 n _ _ _ _ _ h => exact lettered 'b' 0x08 (eq_of_beq h) (by decide)
  | case7 n _ _ _ _ _ _ h => exact lettered 'f' 0x0C (eq_of_beq h) (by decide)
  | case8 n hquote hslash _ _ _ _ _ h =>
    rw [Bool.and_eq_true, decide_eq_true_iff, decide_eq_true_iff] at h
    exact .plain (by simpa using hquote) (by simpa using hslash) h.1 (by omega)
  | case9 n _ _ _ _ _ _ _ _ h => exact .unit h
  | case10 n _ _ _ _ _ _ _ _ h => exact .pair (Nat.le_of_not_lt h)

theorem Escaped.readCodes {c : Char} {written : List Char} (h : Escaped c written)
    (before : List Nat) (rest : List Char) :
    readCodes before (written ++ rest) = readCodes ((codesOf c).reverse ++ before) rest := by
  cases h with
  | letter l hu hl hc hplane =>
    rw [codesOf_of_lt hplane]
    exact readCodes_escape before hu hc rest
  | plain hquote hslash hc hplane =>
    rw [codesOf_of_lt hplane]
    exact readCodes_plain before hquote hslash hc rest
  | unit hplane =>
    rw [codesOf_of_lt hplane]
    exact readCodes_unitEscape before hplane rest
  | pair hplane =>
    have hc := toNat_lt c
    rw [List.append_assoc, readCodes_unitEscape _ (by omega), readCodes_unitEscape _ (by omega),
      codesOf, if_neg (Nat.not_lt.mpr hplane)]
    rfl

theorem readCodes_flatMap (before : List Nat) (cs rest : List Char) :
    readCodes before (cs.flatMap escapedChar ++ '"' :: rest) =
      some (before.reverse ++ cs.flatMap codesOf, rest) := by
  induction cs generalizing before with
  | nil => simp [readCodes]
  | cons c cs ih =>
    rw [List.flatMap_cons, List.append_assoc, (escaped_escapedChar c).readCodes, ih]
    simp

theorem joinCodes_codesOf (before : List Char) (c : Char) (codes : List Nat) :
    joinCodes before (codesOf c ++ codes) = joinCodes (c :: before) codes := by
  have hc := toNat_lt c
  by_cases hplane : c.toNat < 0x10000
  · have hself : charOf c.toNat = c := by
      have := not_surrogate c
      rw [charOf, if_neg (by simp; omega), Char.ofNat_toNat]
    rw [codesOf_of_lt hplane]
    cases codes with
    | nil => simp [joinCodes, hself]
    | cons low rest =>
      have hnone : joined? c.toNat low = none := by
        have := not_surrogate c
        rw [joined?, if_neg]
        simp only [Bool.and_eq_true, decide_eq_true_iff]
        omega
      simp only [List.singleton_append, joinCodes, hnone, hself]
  · have hpair : joined? (0xD800 + (c.toNat - 0x10000) / 0x400)
        (0xDC00 + (c.toNat - 0x10000) % 0x400) = some c := by
      rw [joined?, if_pos (by simp only [Bool.and_eq_true, decide_eq_true_iff]; omega),
        Option.some.injEq]
      have hn : 0x10000 + 0x400 * (0xD800 + (c.toNat - 0x10000) / 0x400 - 0xD800) +
          (0xDC00 + (c.toNat - 0x10000) % 0x400 - 0xDC00) = c.toNat := by omega
      rw [hn, Char.ofNat_toNat]
    simp only [codesOf, if_neg hplane, List.cons_append, List.nil_append, joinCodes, hpair]

theorem joinCodes_flatMap (before cs : List Char) :
    joinCodes before (cs.flatMap codesOf) = before.reverse ++ cs := by
  induction cs generalizing before with
  | nil => simp [joinCodes]
  | cons c cs ih =>
    rw [List.flatMap_cons, joinCodes_codesOf, ih, List.reverse_cons, List.append_assoc,
      List.singleton_append]

theorem toList_writeText (s : String) :
    (writeText s).toList = '"' :: (s.toList.flatMap escapedChar ++ ['"']) :=
  String.toList_ofList

/-- A text is read back from its written form, whatever follows. -/
theorem readText_flatMap (s : String) (rest : List Char) :
    readText (s.toList.flatMap escapedChar ++ '"' :: rest) = some (s, rest) := by
  rw [readText, readCodes_flatMap, Option.map_some]
  simp only [List.reverse_nil, List.nil_append, joinCodes_flatMap, String.ofList_toList]

theorem le_of_mem_unitEscape {unit : Nat} {d : Char} (h : d ∈ unitEscape unit) :
    0x20 ≤ d.toNat := by
  rcases List.mem_cons.mp h with rfl | h
  · decide
  · rcases List.mem_cons.mp h with rfl | h
    · decide
    · exact Text.le_of_mem_hexDigits h

theorem Escaped.le_of_mem {c d : Char} {written : List Char} (h : Escaped c written)
    (hd : d ∈ written) : 0x20 ≤ d.toNat := by
  cases h with
  | letter l hu hl hc hplane =>
    rcases List.mem_pair.mp hd with rfl | rfl
    · decide
    · exact hl
  | plain hquote hslash hc hplane => exact List.mem_singleton.mp hd ▸ hc
  | unit hplane => exact le_of_mem_unitEscape hd
  | pair hplane => exact (List.mem_append.mp hd).elim le_of_mem_unitEscape le_of_mem_unitEscape

/-- A written text is on one line, whatever it says. -/
theorem le_of_mem_writeText {s : String} {d : Char} (h : d ∈ (writeText s).toList) :
    0x20 ≤ d.toNat := by
  rw [toList_writeText] at h
  rcases List.mem_cons.mp h with rfl | h
  · decide
  · rcases List.mem_append.mp h with h | h
    · obtain ⟨c, _, hd⟩ := List.mem_flatMap.mp h
      exact (escaped_escapedChar c).le_of_mem hd
    · obtain rfl := List.mem_singleton.mp h
      decide

end Json

end ReleaseLines
