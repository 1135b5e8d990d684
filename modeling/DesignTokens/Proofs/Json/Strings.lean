import DesignTokens.Proofs.Json.Reading
import DesignTokens.Proofs.Text.Utf8

/-!
# Strings are read back

A string is written with an escape for each of its characters. Whether only the characters that must
be escaped are, or all that are not ASCII as well, the string comes back from its escapes, and a
reader passes all of them up to the closing quote.

## Main Definitions

* `Json.Escapes` — characters that stand for a character between quotes

## Main Statements

* `Json.unitEscape_eq` — the four digits of a 16-bit unit, from which it is read
* `Json.escapes_escapeControl`, `Json.escapes_escapeAscii` — the escapes of both kinds of strings
* `Json.unescape?_flatMap` — a string comes back from its escaped characters
* `Json.Reader.run_quote_value`, `Json.Reader.run_quote_name` — a string is read to its end
-/

namespace DesignTokens.Json

open Number Text

/-! ### Units -/

/-- The last hexadecimal digit can be taken off. -/
theorem hexDigits_succ (width n : Nat) : hexDigits (width + 2) n =
    hexDigits (width + 1) (n / 16) ++ [Nat.digitChar (n % 16)] := by
  unfold hexDigits
  by_cases hsmall : n < 16
  · rw [Nat.toDigits_of_lt_base hsmall, Nat.div_eq_of_lt hsmall, Nat.mod_eq_of_lt hsmall,
      Nat.toDigits_of_lt_base (by decide)]
    show List.replicate (width + 1) '0' ++ _ = List.replicate width '0' ++ ['0'] ++ _
    rw [List.replicate_succ']
  · rw [Nat.toDigits_of_base_le (by decide) (Nat.not_lt.mp hsmall)]
    dsimp only
    rw [List.length_append, List.append_assoc]
    show List.replicate (width + 1 + 1 - (_ + 1)) '0' ++ _ = _
    rw [Nat.add_sub_add_right]

/-- The four digits of a 16-bit unit. -/
theorem unitEscape_eq {n : Nat} (h : n < 0x10000) : unitEscape n =
    ['\\', 'u', Nat.digitChar (n / 16 / 16 / 16), Nat.digitChar (n / 16 / 16 % 16),
      Nat.digitChar (n / 16 % 16), Nat.digitChar (n % 16)] := by
  have hfirst : n / 16 / 16 / 16 < 16 := by omega
  have hone : hexDigits 1 (n / 16 / 16 / 16) = [Nat.digitChar (n / 16 / 16 / 16)] := by
    rw [hexDigits, Nat.toDigits_of_lt_base hfirst]
    rfl
  rw [unitEscape, hexDigits_succ, hexDigits_succ, hexDigits_succ, hone]
  rfl

theorem hexDigitValue?_digitChar : ∀ n < 16, hexDigitValue? (Nat.digitChar n) = some n := by decide

/-- No hexadecimal digit ends a string or begins an escape. -/
theorem digitChar_ne : ∀ n < 16, Nat.digitChar n ≠ '"' ∧ Nat.digitChar n ≠ '\\' := by decide

/-- And it is read from them. -/
theorem hexValue?_digitChar {n : Nat} (h : n < 0x10000) :
    hexValue? [Nat.digitChar (n / 16 / 16 / 16), Nat.digitChar (n / 16 / 16 % 16),
      Nat.digitChar (n / 16 % 16), Nat.digitChar (n % 16)] = some n := by
  have hdigit := hexDigitValue?_digitChar
  simp only [hexValue?, List.mapM_cons, List.mapM_nil, hdigit (n / 16 / 16 / 16) (by omega),
    hdigit (n / 16 / 16 % 16) (by omega), hdigit (n / 16 % 16) (by omega),
    hdigit (n % 16) (by omega), Option.pure_def, Option.bind_eq_bind, Option.bind_some,
    Option.map_some]
  refine congrArg some ?_
  show 16 * (16 * (16 * (16 * 0 + _) + _) + _) + _ = n
  omega

theorem units?_unitEscape {n : Nat} (h : n < 0x10000) (rest : List Char) :
    units? (unitEscape n ++ rest) = (units? rest).map (n :: ·) := by
  rw [unitEscape_eq h]
  show units? ('\\' :: 'u' :: _ :: _ :: _ :: _ :: rest) = _
  generalize hmore : units? rest = more
  unfold units?
  rw [if_pos (beq_self_eq_true '\\')]
  simp only [hexValue?_digitChar h, Option.bind_some, hmore]

/-- A character that is not half of a surrogate pair is one. -/
theorem joinUnits?_toNat_cons (c : Char) (more : List Nat) :
    joinUnits? (c.toNat :: more) = (joinUnits? more).map (c :: ·) := by
  have hvalid : ¬ (0xd800 ≤ c.toNat ∧ c.toNat < 0xdc00) := by
    rintro ⟨hlow, hhigh⟩
    rcases c.valid with h | ⟨h, -⟩ <;> simp only [Char.toNat] at hlow hhigh <;> omega
  generalize hrest : joinUnits? more = rest
  unfold joinUnits?
  rw [if_neg hvalid, charOfCode?_toNat, hrest]
  rfl

/-- The two halves of a surrogate pair are one character. -/
theorem joinUnits?_pair {c : Char} {high low : Nat} (hhigh : 0xd800 ≤ high ∧ high < 0xdc00)
    (hlow : 0xdc00 ≤ low ∧ low < 0xe000)
    (hcode : 0x10000 + (high - 0xd800) * 0x400 + (low - 0xdc00) = c.toNat) (more : List Nat) :
    joinUnits? (high :: low :: more) = (joinUnits? more).map (c :: ·) := by
  generalize hrest : joinUnits? more = rest
  unfold joinUnits?
  rw [if_pos hhigh]
  dsimp only
  rw [if_pos hlow, hcode, charOfCode?_toNat, hrest]
  rfl

/-! ### Escapes -/

namespace Reader

variable {frames : List Frame} {before : Option (List (String × Json))}

theorem run_cons (c : Char) (rest : List Char) (reader : Reader) :
    run (c :: rest) reader = (reader.step c).bind (run rest) := rfl

/-- A character that is neither a quote nor a backslash stands for itself. -/
theorem run_plain {c : Char} (hquote : c ≠ '"') (hbackslash : c ≠ '\\') (body rest : List Char) :
    run (c :: rest) ⟨frames, .string before body false⟩ =
      run rest ⟨frames, .string before (c :: body) false⟩ := by
  have hstep : step ⟨frames, .string before body false⟩ c =
      some ⟨frames, .string before (c :: body) false⟩ := by
    simp [step, stepString, hquote, hbackslash]
  rw [run_cons, hstep, Option.bind_some]

end Reader

/-- Characters between quotes that stand for a character: it comes back from them, and a reader
passes them. -/
structure Escapes (c : Char) (escape : List Char) : Prop where
  /-- The character comes back, whatever follows. -/
  unescapes : ∀ rest, (units? (escape ++ rest)).bind joinUnits? =
    ((units? rest).bind joinUnits?).map (c :: ·)
  /-- None of the characters ends the string. -/
  runs : ∀ frames before body rest,
    Reader.run (escape ++ rest) ⟨frames, .string before body false⟩ =
      Reader.run rest ⟨frames, .string before (escape.reverse ++ body) false⟩

/-- What is left to be joined when a code point has been read. -/
theorem bind_map_joinUnits? (c : Char) (units : Option (List Nat)) :
    (units.map (c.toNat :: ·)).bind joinUnits? = (units.bind joinUnits?).map (c :: ·) := by
  cases units with
  | none => rfl
  | some more => exact joinUnits?_toNat_cons c more

theorem escapes_letter {c letter : Char} (hu : letter ≠ 'u')
    (hcode : escapedCode? letter = some c.toNat) : Escapes c ['\\', letter] := by
  refine ⟨fun rest => ?_, fun _ _ _ _ => rfl⟩
  rw [← bind_map_joinUnits?]
  refine congrArg (Option.bind · joinUnits?) ?_
  show units? ('\\' :: letter :: rest) = _
  generalize hmore : units? rest = more
  unfold units?
  rw [if_pos (beq_self_eq_true '\\')]
  split
  · next heq => exact absurd (List.cons.inj heq).1 hu
  · next heq =>
      obtain ⟨rfl, rfl⟩ := List.cons.inj heq
      rw [hcode, Option.bind_some, hmore]
  · next heq => cases heq

theorem escapes_self {c : Char} (hplain : 0x20 ≤ c.toNat) (hquote : c ≠ '"')
    (hbackslash : c ≠ '\\') : Escapes c [c] := by
  refine ⟨fun rest => ?_, fun _ _ body rest => Reader.run_plain hquote hbackslash body rest⟩
  rw [← bind_map_joinUnits?]
  refine congrArg (Option.bind · joinUnits?) ?_
  show units? (c :: rest) = _
  generalize hmore : units? rest = more
  unfold units?
  rw [if_neg (by simpa using hbackslash), if_neg (Nat.not_lt.mpr hplain), hmore]

theorem Reader.run_unitEscape {n : Nat} (h : n < 0x10000) (frames : List Frame)
    (before : Option (List (String × Json))) (body rest : List Char) :
    run (unitEscape n ++ rest) ⟨frames, .string before body false⟩ =
      run rest ⟨frames, .string before ((unitEscape n).reverse ++ body) false⟩ := by
  rw [unitEscape_eq h]
  show run (Nat.digitChar _ :: Nat.digitChar _ :: Nat.digitChar _ :: Nat.digitChar _ :: rest)
    ⟨frames, .string before ('u' :: '\\' :: body) false⟩ = _
  have hdigit := digitChar_ne
  obtain ⟨hquote, hbackslash⟩ := hdigit (n / 16 / 16 / 16) (by omega)
  obtain ⟨hquote', hbackslash'⟩ := hdigit (n / 16 / 16 % 16) (by omega)
  obtain ⟨hquote'', hbackslash''⟩ := hdigit (n / 16 % 16) (by omega)
  obtain ⟨hquote₃, hbackslash₃⟩ := hdigit (n % 16) (by omega)
  rw [run_plain hquote hbackslash, run_plain hquote' hbackslash', run_plain hquote'' hbackslash'',
    run_plain hquote₃ hbackslash₃]
  rfl

theorem escapes_unit {c : Char} (h : c.toNat < 0x10000) : Escapes c (unitEscape c.toNat) := by
  refine ⟨fun rest => ?_, Reader.run_unitEscape h⟩
  rw [units?_unitEscape h, bind_map_joinUnits?]

theorem escapes_pair {c : Char} {high low : Nat} (hhigh : 0xd800 ≤ high ∧ high < 0xdc00)
    (hlow : 0xdc00 ≤ low ∧ low < 0xe000)
    (hcode : 0x10000 + (high - 0xd800) * 0x400 + (low - 0xdc00) = c.toNat) :
    Escapes c (unitEscape high ++ unitEscape low) := by
  refine ⟨fun rest => ?_, fun frames before body rest => ?_⟩
  · rw [List.append_assoc, units?_unitEscape (by omega), units?_unitEscape (by omega)]
    cases units? rest with
    | none => rfl
    | some more => exact joinUnits?_pair hhigh hlow hcode more
  · rw [List.append_assoc, Reader.run_unitEscape (by omega), Reader.run_unitEscape (by omega),
      List.reverse_append, List.append_assoc]

/-! ### The escapes of a writer -/

/-- A character has an escape that any JSON text must use, or may stand for itself. -/
theorem escapes_shortEscape? (c : Char) :
    (∃ escape, shortEscape? c = some escape ∧ Escapes c escape) ∨
      shortEscape? c = none ∧ Escapes c [c] := by
  by_cases hletter : c ∈ ['"', '\\', '\n', '\r', '\t', '\x08', '\x0c']
  · simp only [List.mem_cons, List.not_mem_nil, or_false] at hletter
    rcases hletter with rfl | rfl | rfl | rfl | rfl | rfl | rfl <;>
      exact .inl ⟨_, rfl, escapes_letter (by decide) rfl⟩
  · simp only [List.mem_cons, List.not_mem_nil, or_false, not_or] at hletter
    obtain ⟨hquote, hbackslash, hfeed, hreturn, htab, hback, hform⟩ := hletter
    have hback : c.toNat ≠ 0x8 := fun heq => hback (Char.toNat_inj.mp heq)
    have hform : c.toNat ≠ 0xc := fun heq => hform (Char.toNat_inj.mp heq)
    unfold shortEscape?
    simp only [beq_iff_eq, hquote, hbackslash, hfeed, hreturn, htab, hback, hform, if_false]
    split
    · next hcontrol => exact .inl ⟨_, rfl, escapes_unit (by omega)⟩
    · next hplain => exact .inr ⟨rfl, escapes_self (Nat.not_lt.mp hplain) hquote hbackslash⟩

theorem escapes_escapeControl (c : Char) : Escapes c (escapeControl c) := by
  rw [escapeControl]
  rcases escapes_shortEscape? c with ⟨escape, hshort, hescapes⟩ | ⟨hnone, hself⟩
  · rwa [hshort]
  · rwa [hnone]

theorem escapes_escapeAscii (c : Char) : Escapes c (escapeAscii c) := by
  unfold escapeAscii
  rcases escapes_shortEscape? c with ⟨escape, hshort, hescapes⟩ | ⟨hnone, hself⟩
  · rwa [hshort]
  rw [hnone]
  dsimp only
  split
  · exact hself
  split
  · next hunit => exact escapes_unit hunit
  · next hpair =>
      -- Beyond the first plane a character takes a pair of surrogates.
      have hmax := toNat_lt c
      exact escapes_pair (by omega) (by omega) (by omega)

section Writing

variable {escape : Char → List Char} (hescape : ∀ c, Escapes c (escape c))
include hescape

/-- **A string comes back from its escaped characters.** -/
theorem unescape?_flatMap (s : String) : unescape? (s.toList.flatMap escape) = some s := by
  have hunits : ∀ cs : List Char, (units? (cs.flatMap escape)).bind joinUnits? = some cs := by
    intro cs
    induction cs with
    | nil => rfl
    | cons c rest ih =>
        rw [List.flatMap_cons, (hescape c).unescapes, ih]
        rfl
  rw [unescape?, hunits, Option.map_some, String.ofList_toList]

namespace Reader

variable {frames : List Frame} {before : Option (List (String × Json))}

/-- All characters of a string are read up to its closing quote. -/
theorem run_flatMap (cs body rest : List Char) :
    run (cs.flatMap escape ++ rest) ⟨frames, .string before body false⟩ =
      run rest ⟨frames, .string before ((cs.flatMap escape).reverse ++ body) false⟩ := by
  induction cs generalizing body with
  | nil => rfl
  | cons c more ih =>
      rw [List.flatMap_cons, List.append_assoc, (hescape c).runs, ih, List.reverse_append,
        List.append_assoc]

/-- **A string is read to its closing quote**, and gives what stands in it. -/
theorem run_string (s : String) (rest : List Char) :
    run (s.toList.flatMap escape ++ '"' :: rest) ⟨frames, .string before [] false⟩ =
      run rest ⟨frames, placeOf before s⟩ := by
  have hclose : closeString frames before (s.toList.flatMap escape).reverse =
      some ⟨frames, placeOf before s⟩ := by
    rw [closeString, List.reverse_reverse, unescape?_flatMap hescape, Option.map_some]
  have hstep : step ⟨frames, .string before (s.toList.flatMap escape).reverse false⟩ '"' =
      closeString frames before (s.toList.flatMap escape).reverse := rfl
  rw [run_flatMap hescape, List.append_nil, run_cons, hstep, hclose, Option.bind_some]

omit hescape in
theorem toList_quote (s : String) :
    (quote escape s).toList = '"' :: (s.toList.flatMap escape ++ ['"']) := by
  rw [quote, String.toList_ofList]
  rfl

/-- A string as a value. -/
theorem run_quote_value (s : String) (mayClose : Bool) (rest : List Char) :
    run ((quote escape s).toList ++ rest) ⟨frames, .value mayClose⟩ =
      run rest ⟨frames, .done (.string s)⟩ := by
  rw [toList_quote, List.cons_append, List.append_assoc, run_cons]
  exact run_string hescape s rest

/-- A string as the name of a member. -/
theorem run_quote_name (s : String) (members : List (String × Json)) (mayClose : Bool)
    (rest : List Char) :
    run ((quote escape s).toList ++ rest) ⟨frames, .name members mayClose⟩ =
      run rest ⟨frames, .colon members s⟩ := by
  rw [toList_quote, List.cons_append, List.append_assoc, run_cons]
  exact run_string hescape s rest

end Reader

end Writing

end DesignTokens.Json
