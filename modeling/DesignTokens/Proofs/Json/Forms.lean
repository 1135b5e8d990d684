import DesignTokens.Json.Basic
import DesignTokens.Proofs.FirstFault
import DesignTokens.Theme.Basic

/-!
# JSON forms of themes

The JSON form of a theme is made of the forms of its parts. Tokens are texts, so whatever a reader
of JSON does not know stands inside of an extra: an infinite double, or one that is no number.

## Main Statements

* `Json.isStandard_mapping_iff` — the form of a mapping is standard if those of its values are
* `Theme.isStandard_form_iff` — **the form of a theme is standard exactly if those of its extras
  are**
-/

namespace DesignTokens

namespace Json

variable {form : Nat → Except Refusal Json}

/-- If a mapping has a form, then so do its values, and it is standard if all of these are. -/
theorem membersAreStandard_iff {entries : Entries} {members : List (String × Json)}
    (h : ofEntries form entries = .ok members) :
    membersAreStandard members = true ↔
      ∀ e ∈ entries, ∀ json, ofDatumWith form e.2 = .ok json → json.isStandard = true := by
  induction entries generalizing members with
  | nil =>
      rw [ofEntries] at h
      cases h
      simp [membersAreStandard]
  | cons e rest ih =>
      obtain ⟨key, value⟩ := e
      rw [ofEntries] at h
      split at h
      · cases h
      split at h
      · cases h
      next json hvalue =>
      obtain ⟨more, hmore, rfl⟩ := map_eq_ok_iff.mp h
      rw [membersAreStandard, Bool.and_eq_true, ih hmore, List.forall_mem_cons]
      refine and_congr_left fun _ => ⟨fun hjson other hother => ?_, fun hall => hall json hvalue⟩
      cases hvalue.symm.trans hother
      exact hjson

/-- **The form of a mapping is standard exactly if those of its values are.** -/
theorem isStandard_mapping_iff {entries : Entries} {json : Json}
    (h : ofDatumWith form (.mapping entries) = .ok json) :
    json.isStandard = true ↔
      ∀ e ∈ entries, ∀ json, ofDatumWith form e.2 = .ok json → json.isStandard = true := by
  rw [ofDatumWith] at h
  obtain ⟨members, hmembers, rfl⟩ := map_eq_ok_iff.mp h
  rw [isStandard, membersAreStandard_iff hmembers]

theorem isStandard_text {s : String} {json : Json}
    (h : ofDatumWith form (.text s) = .ok json) : json.isStandard = true := by
  rw [ofDatumWith] at h
  cases h
  rfl

/-- Tokens are texts. -/
theorem isStandard_tokens {tokens : TokenMap} {json : Json}
    (h : ofDatumWith form tokens.toDatum = .ok json) : json.isStandard = true := by
  refine (isStandard_mapping_iff h).mpr fun e he other hother => ?_
  obtain ⟨token, -, rfl⟩ := List.mem_map.mp he
  exact isStandard_text hother

theorem isStandard_mode {mode : ModeTokens} {json : Json}
    (h : ofDatumWith form mode.toDatum = .ok json) : json.isStandard = true := by
  refine (isStandard_mapping_iff h).mpr fun e he other hother => ?_
  obtain rfl := List.mem_singleton.mp he
  exact isStandard_tokens hother

/-- A mapping has a form only if its values have one. -/
theorem exists_form_of_mem {entries : Entries} {json : Json}
    (h : ofDatumWith form (.mapping entries) = .ok json) {e : Datum × Datum} (he : e ∈ entries) :
    ∃ json, ofDatumWith form e.2 = .ok json := by
  rw [ofDatumWith] at h
  obtain ⟨members, hmembers, -⟩ := map_eq_ok_iff.mp h
  clear h
  induction entries generalizing members with
  | nil => cases he
  | cons first rest ih =>
      obtain ⟨key, value⟩ := first
      rw [ofEntries] at hmembers
      split at hmembers
      · cases hmembers
      split at hmembers
      · cases hmembers
      next json hvalue =>
      obtain ⟨more, hmore, -⟩ := map_eq_ok_iff.mp hmembers
      rcases List.mem_cons.mp he with rfl | hrest
      · exact ⟨json, hvalue⟩
      · exact ih hrest more hmore

/-- The form of base tokens is standard exactly if those of the extras are. -/
theorem isStandard_base_iff {base : BaseTokens} {json : Json}
    (h : ofDatumWith form (.mapping (base.categories.map fun e => (.text e.1, e.2))) = .ok json) :
    json.isStandard = true ↔ ∀ extra ∈ base.mappingExtras, ∀ json,
      ofDatumWith form (.mapping extra.2) = .ok json → json.isStandard = true := by
  rw [isStandard_mapping_iff h, List.forall_mem_map]
  simp only [BaseTokens.categories, List.forall_mem_append, List.forall_mem_map]
  refine and_iff_right fun category _ json hjson => ?_
  exact isStandard_tokens hjson

end Json

/-- **The form of a theme is standard exactly if those of its extras are.** -/
theorem Theme.isStandard_form_iff {form : Nat → Except Json.Refusal Json} {theme : Theme}
    {json : Json} (h : Json.ofDatumWith form theme.toDatum = .ok json) :
    json.isStandard = true ↔ ∀ extra ∈ theme.base.mappingExtras, ∀ json,
      Json.ofDatumWith form (.mapping extra.2) = .ok json → json.isStandard = true := by
  have hbase : (Datum.text "base", Datum.mapping (theme.base.categories.map fun e =>
      (.text e.1, e.2))) ∈ theme.toEntries := by
    simp [toEntries]
  obtain ⟨base, hform⟩ := Json.exists_form_of_mem h hbase
  rw [← Json.isStandard_base_iff hform, Json.isStandard_mapping_iff h]
  refine ⟨fun hall => hall _ hbase base hform, fun hstandard e he other hother => ?_⟩
  simp only [toEntries, List.mem_cons, List.not_mem_nil, or_false] at he
  rcases he with rfl | rfl | rfl | rfl | rfl | rfl
  · exact Json.isStandard_text hother
  · exact Json.isStandard_text hother
  · exact Json.isStandard_text hother
  · cases hform.symm.trans hother
    exact hstandard
  · exact Json.isStandard_mode hother
  · exact Json.isStandard_mode hother

end DesignTokens
