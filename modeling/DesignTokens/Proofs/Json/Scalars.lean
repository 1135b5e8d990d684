import DesignTokens.Proofs.Json.Strings
import DesignTokens.Proofs.Number.DocumentText
import Mathlib.Data.List.TakeWhile

/-!
# Words and numbers are read back

A word or a number goes on up to a blank, a comma or a closing bracket, and is looked at only then.
So what is read of it does not depend on what is around it. Integers come back from their digits,
and finite doubles from the text that documents show; the words for what is infinite or no number
are refused.

## Main Definitions

* `Json.EndsScalar` — what may follow a word or a number
* `Json.Reads` — a text is read to its end, or refused, whatever is around it
* `Json.IsWord`, `Json.IsScalarText` — characters that are read as a word or a number

## Main Statements

* `Json.reads_of_isWord` — a word or a number is read to its end
* `Json.isScalarText_intText` — **an integer comes back from its digits**
* `Json.isScalarText_floatText` — **a finite double comes back from its text**
* `Json.reads_floatText` — and no other double does
-/

namespace DesignTokens.Json

open Number Text

/-- What may follow a word or a number. -/
def EndsScalar (rest : List Char) : Prop := ∀ c, rest.head? = some c → endsScalar c = true

/-- A text is read to its end as a value, or refused, whatever is around it and whatever follows. -/
def Reads (text : String) (result : Option Json) : Prop :=
  ∀ (frames : List Frame) (mayClose : Bool) (rest : List Char), EndsScalar rest →
    Reader.run (text.toList ++ rest) ⟨frames, .value mayClose⟩ =
      result.bind fun json => Reader.run rest ⟨frames, .done json⟩

/-- Characters that stand together as a word or a number, of whatever value. -/
structure IsWord (cs : List Char) : Prop where
  /-- The first one begins no other value. -/
  first : ∃ c rest, cs = c :: rest ∧ isSpace c = false ∧ c ≠ '[' ∧ c ≠ '{' ∧ c ≠ '"' ∧ c ≠ ']'
  /-- None ends a word or a number. -/
  goesOn : ∀ c ∈ cs, endsScalar c = false

/-- Characters that are read as a word or a number. -/
structure IsScalarText (cs : List Char) (json : Json) : Prop extends IsWord cs where
  /-- They have a value. -/
  reads : scalar? cs = some json

/-- The characters of a word or a number are gathered, on top of those that have been before. -/
theorem Reader.run_scalar {frames : List Frame} {more : List Char}
    (h : ∀ c ∈ more, endsScalar c = false) (body rest : List Char) :
    Reader.run (more ++ rest) ⟨frames, .scalar body⟩ =
      Reader.run rest ⟨frames, .scalar (more.reverse ++ body)⟩ := by
  induction more generalizing body with
  | nil => rfl
  | cons d more ih =>
      obtain ⟨hd, hmore⟩ := List.forall_mem_cons.mp h
      have hstep : Reader.step ⟨frames, .scalar body⟩ d = some ⟨frames, .scalar (d :: body)⟩ := by
        simp [Reader.step, Reader.stepScalar, hd]
      rw [List.cons_append, Reader.run_cons, hstep, Option.bind_some, ih hmore (d :: body),
        List.reverse_cons, List.append_assoc]
      rfl

/-- **A word or a number is read to its end**, or refused there. -/
theorem reads_of_isWord {text : String} (h : IsWord text.toList) :
    Reads text (scalar? text.toList) := by
  intro frames mayClose rest hrest
  obtain ⟨⟨c, more, hcs, hspace, harray, hobject, hquote, hclosing⟩, hgoesOn⟩ := h
  rw [hcs] at hgoesOn ⊢
  have hfirst : Reader.step ⟨frames, .value mayClose⟩ c = some ⟨frames, .scalar [c]⟩ := by
    simp [Reader.step, Reader.stepValue, hspace, harray, hobject, hquote, hclosing]
  have hvalue : scalar? (more.reverse ++ [c]).reverse = scalar? (c :: more) := by simp
  rw [List.cons_append, Reader.run_cons, hfirst, Option.bind_some,
    Reader.run_scalar (List.forall_mem_cons.mp hgoesOn).2]
  cases rest with
  | nil =>
      show Reader.finish? ⟨frames, .scalar (more.reverse ++ [c])⟩ = _
      cases frames with
      | nil => simp [Reader.run, Reader.finish?]
      | cons frame outer => cases scalar? (c :: more) <;> rfl
  | cons d rest =>
      have hends : endsScalar d = true := hrest d rfl
      have hstep : Reader.step ⟨frames, .scalar (more.reverse ++ [c])⟩ d =
          (scalar? (c :: more)).bind fun json => Reader.stepDone frames json d := by
        simp only [Reader.step, Reader.stepScalar, hends, if_true, hvalue]
      rw [Reader.run_cons, hstep, Option.bind_assoc]
      rfl

theorem IsScalarText.reads_text {text : String} {json : Json} (h : IsScalarText text.toList json) :
    Reads text (some json) := h.reads ▸ reads_of_isWord h.toIsWord

/-! ### Words -/

/-- A word is read as its value. -/
theorem isScalarText_null : IsScalarText "null".toList null := by
  have hgoesOn : ∀ c ∈ ['n', 'u', 'l', 'l'], endsScalar c = false := by simp [endsScalar, isSpace]
  exact ⟨⟨⟨'n', _, rfl, by decide⟩, hgoesOn⟩, if_pos rfl⟩

theorem isScalarText_bool (b : Bool) : IsScalarText (boolWord b).toList (bool b) := by
  cases b with
  | true =>
      have hgoesOn : ∀ c ∈ ['t', 'r', 'u', 'e'], endsScalar c = false := by
        simp [endsScalar, isSpace]
      exact ⟨⟨⟨'t', _, rfl, by decide⟩, hgoesOn⟩, (if_neg (by decide)).trans (if_pos rfl)⟩
  | false =>
      have hgoesOn : ∀ c ∈ ['f', 'a', 'l', 's', 'e'], endsScalar c = false := by
        simp [endsScalar, isSpace]
      have hreads : scalar? (boolWord false).toList = some (bool false) :=
        (if_neg (by decide)).trans ((if_neg (by decide)).trans (if_pos rfl))
      exact ⟨⟨⟨'f', _, rfl, by decide⟩, hgoesOn⟩, hreads⟩

/-! ### Numbers -/

/-- Digits are read as the natural number that they are written for. -/
theorem number?_natDigits (n : Nat) : number? (natDigits n) = some (int n) ∧
    number? ('-' :: natDigits n) = some (int (-n)) := by
  have hdigits := isDigit_of_mem_natDigits (n := n)
  have hwhole : (natDigits n).takeWhile Char.isDigit = natDigits n :=
    List.takeWhile_eq_self_iff.mpr hdigits
  have hrest : (natDigits n).dropWhile Char.isDigit = [] := List.dropWhile_eq_nil_iff.mpr hdigits
  have hne : natDigits n ≠ [] := Nat.toDigits_ne_nil
  have hsign : (natDigits n).head? ≠ some '-' := by
    intro hhead
    have := hdigits '-' (List.mem_of_head? hhead)
    exact absurd this (by decide)
  have hzero : ((natDigits n).head? == some '0' && decide (1 < (natDigits n).length)) = false := by
    rcases Nat.eq_zero_or_pos n with rfl | hpos
    · rfl
    · simp [head?_natDigits_ne hpos]
  have hvalue : Nat.ofDigitChars 10 (natDigits n) 0 = n := Nat.ofDigitChars_ten_toDigits
  constructor
  · simp [number?, hsign, hwhole, hrest, hne, hzero, hvalue]
  · simp [number?, hwhole, hrest, hne, hzero, hvalue]

/-- A sign or a digit is no other character. -/
theorem ne_of_sign_or_isDigit {c : Char} (h : c = '-' ∨ c.isDigit = true) {d : Char}
    (hsign : d ≠ '-') (hdigit : d.isDigit = false) : c ≠ d := by
  rintro rfl
  rcases h with rfl | hc
  · exact hsign rfl
  · rw [hdigit] at hc
    cases hc

/-- What begins with a sign or a digit is no word. -/
theorem scalar?_eq_number? {c : Char} (h : c = '-' ∨ c.isDigit = true) (rest : List Char) :
    scalar? (c :: rest) = number? (c :: rest) := by
  have hword : ∀ (word : String) (d : Char) (more : List Char), word.toList = d :: more →
      d ≠ '-' → d.isDigit = false → c :: rest ≠ word.toList := by
    intro word d more hword hsign hdigit heq
    rw [hword] at heq
    exact ne_of_sign_or_isDigit h hsign hdigit (List.cons.inj heq).1
  unfold scalar?
  rw [if_neg (hword "null" 'n' _ rfl (by decide) rfl),
    if_neg (hword "true" 't' _ rfl (by decide) rfl),
    if_neg (hword "false" 'f' _ rfl (by decide) rfl)]

/-- A number begins with a sign or a digit, and consists of these, of points and of letters for an
exponent. -/
theorem isWord_of_number {c : Char} {rest : List Char} (hfirst : c = '-' ∨ c.isDigit = true)
    (hrest : ∀ d ∈ rest, d.isDigit = true ∨ d ∈ ['.', 'e', '+', '-']) : IsWord (c :: rest) := by
  have hdigit : ∀ d : Char, d.isDigit = true → isSpace d = false ∧ endsScalar d = false := by
    intro d hd
    have hne := fun e => ne_of_sign_or_isDigit (.inr hd) (d := e)
    have hspace : isSpace d = false := by
      simp [isSpace, hne ' ' (by decide) rfl, hne '\t' (by decide) rfl, hne '\n' (by decide) rfl,
        hne '\r' (by decide) rfl]
    exact ⟨hspace, by simp [endsScalar, hspace, hne ',' (by decide) rfl, hne ']' (by decide) rfl,
      hne '}' (by decide) rfl]⟩
  have hsign : ∀ d ∈ ['.', 'e', '+', '-'], isSpace d = false ∧ endsScalar d = false := by
    simp [endsScalar, isSpace]
  have hall : ∀ d ∈ c :: rest, isSpace d = false ∧ endsScalar d = false := by
    intro d hd
    rcases List.mem_cons.mp hd with rfl | hd
    · exact hfirst.elim (fun h => hsign _ (by simp [h])) (hdigit _)
    · exact (hrest d hd).elim (hdigit d) (hsign d)
  have hne := fun e => ne_of_sign_or_isDigit hfirst (d := e)
  exact ⟨⟨c, rest, rfl, (hall c List.mem_cons_self).1, hne '[' (by decide) rfl,
    hne '{' (by decide) rfl, hne '"' (by decide) rfl, hne ']' (by decide) rfl⟩,
    fun d hd => (hall d hd).2⟩

/-- A number that consists of a sign or a digit and of more digits. -/
theorem isScalarText_of_digits {c : Char} {rest : List Char} {n : Int}
    (hfirst : c = '-' ∨ c.isDigit = true) (hrest : ∀ d ∈ rest, d.isDigit = true)
    (hnumber : number? (c :: rest) = some (int n)) : IsScalarText (c :: rest) (int n) :=
  ⟨isWord_of_number hfirst fun d hd => .inl (hrest d hd),
    (scalar?_eq_number? hfirst rest).trans hnumber⟩

/-- **An integer comes back from its digits.** -/
theorem isScalarText_intText (n : Int) : IsScalarText (intText n).toList (int n) := by
  obtain ⟨hnonneg, hneg⟩ := number?_natDigits n.natAbs
  have hdigits := isDigit_of_mem_natDigits (n := n.natAbs)
  unfold intText
  rw [String.toList_ofList]
  split
  · next hsign =>
      have hvalue : -(n.natAbs : Int) = n := by omega
      rw [hvalue] at hneg
      exact isScalarText_of_digits (.inl rfl) hdigits hneg
  · next hsign =>
      have hvalue : (n.natAbs : Int) = n := by omega
      rw [hvalue] at hnonneg
      obtain ⟨c, rest, hcons⟩ : ∃ c rest, natDigits n.natAbs = c :: rest :=
        List.exists_cons_of_ne_nil Nat.toDigits_ne_nil
      rw [hcons] at hnonneg hdigits ⊢
      obtain ⟨hfirst, hrest⟩ := List.forall_mem_cons.mp hdigits
      exact isScalarText_of_digits (.inr hfirst) hrest hnonneg

/-! ### Doubles -/

/-- Digits in front are told from what follows. -/
theorem span_digits_append {ds rest : List Char} (hds : ∀ c ∈ ds, c.isDigit = true)
    (hrest : ∀ c ∈ rest.head?, c.isDigit = false) :
    (ds ++ rest).takeWhile Char.isDigit = ds ∧ (ds ++ rest).dropWhile Char.isDigit = rest := by
  rw [List.takeWhile_append_of_pos hds, List.dropWhile_append_of_pos hds]
  cases rest with
  | nil => exact ⟨List.append_nil ds, rfl⟩
  | cons c rest =>
      have hc : ¬ c.isDigit = true := by simp [hrest c rfl]
      rw [List.takeWhile_cons_of_neg hc, List.dropWhile_cons_of_neg hc]
      exact ⟨List.append_nil ds, rfl⟩

section Figures

variable {f : Figures}

theorem isDigit_of_mem_head?_exponentText {e : Option (Bool × List Char)} :
    ∀ c ∈ (Figures.exponentText e).head?, c.isDigit = false := by
  cases e <;> simp [Figures.exponentText]

theorem isExponent_exponentText (h : f.IsReadable) :
    isExponent (Figures.exponentText f.exponent) = true := by
  cases he : f.exponent with
  | none => rfl
  | some e =>
      obtain ⟨negative, ds⟩ := e
      have hdigits : ds.all Char.isDigit = true :=
        List.all_eq_true.mpr (h.exponent_digit _ he)
      have hne : ds ≠ [] := h.exponent_ne_nil _ he
      cases negative <;> simp [Figures.exponentText, isExponent, hdigits, hne]

theorem isFraction_exponentText (e : Option (Bool × List Char)) :
    isFraction (Figures.exponentText e) = isExponent (Figures.exponentText e) := by
  cases e <;> rfl

/-- What follows the digits before the point is read as a point and an exponent. -/
theorem isFraction_text (h : f.IsReadable) :
    isFraction (Figures.fractionText f.fraction ++ Figures.exponentText f.exponent) = true := by
  have hexponent := isExponent_exponentText h
  obtain ⟨htake, hdrop⟩ := span_digits_append h.fraction_digit
    (isDigit_of_mem_head?_exponentText (e := f.exponent))
  unfold Figures.fractionText
  split
  · rw [List.nil_append, isFraction_exponentText, hexponent]
  · next hne =>
      show (!((f.fraction ++ _).takeWhile Char.isDigit).isEmpty &&
        isExponent ((f.fraction ++ _).dropWhile Char.isDigit)) = true
      rw [htake, hdrop, hexponent]
      simpa using hne

/-- The whole part of a number goes up to its point or its exponent. -/
theorem span_text (h : f.IsReadable) :
    f.text.takeWhile Char.isDigit = f.whole ∧ f.text.dropWhile Char.isDigit =
      Figures.fractionText f.fraction ++ Figures.exponentText f.exponent := by
  have hrest : ∀ c ∈ (Figures.fractionText f.fraction ++
      Figures.exponentText f.exponent).head?, c.isDigit = false := by
    unfold Figures.fractionText
    split
    · exact isDigit_of_mem_head?_exponentText
    · intro c hc
      cases hc
      rfl
  exact span_digits_append h.whole_digit hrest

/-- A number without its sign begins with a digit. -/
theorem head?_text_ne (h : f.IsReadable) : (f.text.head? == some '-') = false := by
  obtain ⟨c, rest, htext, hdigit⟩ := h.exists_text_eq
  rw [htext, List.head?_cons]
  refine beq_false_of_ne fun heq => ?_
  cases heq
  cases hdigit

/-- A number with a point or an exponent is read as the nearest double. -/
theorem number?_signed_text (h : f.IsPointed) (negative : Bool) :
    number? (signed negative f.text) =
      some (float (.ofCode negative (roundDecimal f.significand f.place))) := by
  obtain ⟨hwhole, hafter⟩ := span_text h.toIsReadable
  have hnonempty : Figures.fractionText f.fraction ++ Figures.exponentText f.exponent ≠ [] := by
    rcases h.pointed with hfraction | hexponent
    · simp [Figures.fractionText, hfraction]
    · obtain ⟨⟨negative, ds⟩, he⟩ := Option.isSome_iff_exists.mp hexponent
      simp [Figures.exponentText, he]
  have hzero : (f.whole.head? == some '0' && decide (1 < f.whole.length)) = false := by
    by_cases hhead : f.whole.head? = some '0'
    · rw [h.whole_head hhead]
      rfl
    · simp [hhead]
  have hsign := head?_text_ne h.toIsReadable
  have hfraction := isFraction_text h.toIsReadable
  have hread := h.readFigures?_text negative
  cases negative <;>
    simp [number?, signed, hsign, hwhole, hafter, hnonempty, hzero, h.whole_ne_nil, hfraction,
      hread]

end Figures

/-- **A finite double comes back from its text.** -/
theorem isScalarText_floatText {x : Double} (hfinite : x.isFinite = true) :
    IsScalarText (floatText x).toList (float x) := by
  obtain ⟨f, hpointed, hround, htext⟩ := Double.exists_documentText_eq hfinite
  have hnumber := number?_signed_text hpointed x.negative
  have hshown : floatText x = x.documentText := by
    simp [floatText, Double.isNaN_eq_false hfinite, hfinite]
  obtain ⟨c, rest, hcons, hdigit⟩ := hpointed.exists_text_eq
  have hmem : ∀ d ∈ f.text, d.isDigit = true ∨ d ∈ ['.', 'e', '+', '-'] := fun d hd =>
    hpointed.of_mem_text hd
  rw [hround] at hnumber
  rw [hshown, htext]
  cases hsign : x.negative with
  | true =>
      rw [hsign] at hnumber
      exact ⟨isWord_of_number (.inl rfl) hmem, (scalar?_eq_number? (.inl rfl) _).trans hnumber⟩
  | false =>
      rw [hsign] at hnumber
      rw [hcons] at hnumber hmem
      show IsScalarText f.text _
      rw [hcons]
      exact ⟨isWord_of_number (.inr hdigit) (List.forall_mem_cons.mp hmem).2,
        (scalar?_eq_number? (.inr hdigit) rest).trans hnumber⟩

/-- What is infinite or no number is written with a word that is refused. -/
theorem isWord_floatText_of_not_isFinite {x : Double} (hfinite : ¬ x.isFinite = true) :
    IsWord (floatText x).toList ∧ scalar? (floatText x).toList = none := by
  unfold floatText
  rw [if_neg hfinite]
  split
  · exact ⟨⟨⟨'N', _, rfl, by decide⟩, by simp [endsScalar, isSpace]⟩, rfl⟩
  split
  · exact ⟨⟨⟨'-', _, rfl, by decide⟩, by simp [endsScalar, isSpace]⟩, rfl⟩
  · exact ⟨⟨⟨'I', _, rfl, by decide⟩, by simp [endsScalar, isSpace]⟩, rfl⟩

/-- **A double comes back from its text exactly if it is finite.** -/
theorem reads_floatText (x : Double) :
    Reads (floatText x) (if x.isFinite then some (float x) else none) := by
  split
  · next hfinite => exact (isScalarText_floatText hfinite).reads_text
  · next hfinite =>
      obtain ⟨hword, hnone⟩ := isWord_floatText_of_not_isFinite hfinite
      exact hnone ▸ reads_of_isWord hword

end DesignTokens.Json
