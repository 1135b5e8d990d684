import DesignTokens.Proofs.Collection.Coherence
import DesignTokens.Proofs.Theme.Canonical

/-!
# Schemas of themes that were loaded

One schema is supported. Loading examines the schema that data declare under its first name, while
a theme takes its schema from either of two names. This module tells which schema a loaded theme
has, and what that means for the theme when it is saved and loaded again.

## Main Definitions

* `Theme.DeclaresAside` — data declare another schema under the second name alone

## Main Statements

* `Theme.schema_eq_iff_of_parse` — the schema of a theme that was loaded
* `Theme.parse_toEntries` — a theme as data is refused exactly if it has another schema
* `Theme.theme_file_of_alike` — so is a file that reads as the theme
* `Theme.reloads_iff` — all of this for a theme that was loaded
* `Theme.not_forall_schema_supported` — a theme of another schema can be loaded

## Design Notes

That the document of a theme reads as what was written is a premise of the statement on files.
-/

namespace DesignTokens

namespace Datum

/-- Nothing but a text is the same as it. -/
theorem eq_text_of_same {d : Datum} {s : String} (h : d.same true (.text s) = true) :
    d = .text s := by
  cases d with
  | text t => simpa using h
  | _ => simp [same, sameScalar] at h

end Datum

namespace Theme

variable {sharing : SharedData} {entries : Entries} {theme : Theme}

/-- Data declare another schema than the supported one, and they do so under the second name
alone. -/
def DeclaresAside (sharing : SharedData) (entries : Entries) : Prop :=
  Datum.lookup entries "schema" = none ∧ ∃ value schema,
    Datum.lookup entries "schema_version" = some value ∧
      readText ["schema_version"] (value.opened sharing) = .ok schema ∧ schema ≠ supportedSchema

/-! ### Loading -/

/-- What is known of data that are accepted: the first name declares the supported schema or
nothing, and the structure is that of the theme. -/
theorem of_parse (h : parse sharing entries = .ok theme) :
    (∀ value, Datum.lookup entries "schema" = some value → value = .text supportedSchema) ∧
      ofDatum sharing (.mapping entries) = .ok theme := by
  unfold parse at h
  dsimp only at h
  split at h
  · next hsame =>
      constructor
      · intro value hvalue
        rw [hvalue] at hsame
        exact Datum.eq_text_of_same hsame
      · cases hread : ofDatum sharing (.mapping entries) with
        | ok read =>
            rw [hread] at h
            cases h
            rfl
        | error violations =>
            rw [hread] at h
            cases h
  · cases h

/-- The schema of a theme is read from the data by one of its two names. -/
theorem readSchema_of_ofDatum (h : ofDatum sharing (.mapping entries) = .ok theme) :
    readOptional sharing [] readText supportedSchema entries ["schema", "schema_version"] =
      .ok theme.schema :=
  (ofDatum_mapping_iff.mp h).1

/-- **A loaded theme has the supported schema** unless its data declare another one aside. -/
theorem schema_eq_iff_of_parse (h : parse sharing entries = .ok theme) :
    theme.schema = supportedSchema ↔ ¬ DeclaresAside sharing entries := by
  obtain ⟨hfirst, hread⟩ := of_parse h
  have hschema := readSchema_of_ofDatum hread
  cases hlookup : Datum.lookup entries "schema" with
  | some value =>
      obtain rfl := hfirst value hlookup
      have hfind : findEntry entries ["schema", "schema_version"] =
          some ("schema", .text supportedSchema) := by simp [findEntry, hlookup]
      rw [readOptional_of_findEntry hfind] at hschema
      have hsupported : theme.schema = supportedSchema := (Except.ok.inj hschema).symm
      refine iff_of_true hsupported ?_
      rintro ⟨hnone, -⟩
      rw [hlookup] at hnone
      cases hnone
  | none =>
      cases hsecond : Datum.lookup entries "schema_version" with
      | none =>
          have hfind : findEntry entries ["schema", "schema_version"] = none := by
            simp [findEntry, hlookup, hsecond]
          rw [readOptional, hfind] at hschema
          refine iff_of_true (Except.ok.inj hschema).symm ?_
          rintro ⟨-, value, schema, hvalue, -⟩
          rw [hsecond] at hvalue
          cases hvalue
      | some value =>
          have hfind : findEntry entries ["schema", "schema_version"] =
              some ("schema_version", value) := by simp [findEntry, hlookup, hsecond]
          rw [readOptional_of_findEntry hfind] at hschema
          constructor
          · rintro hsupported ⟨-, other, schema, hother, hothersRead, hne⟩
            obtain rfl : value = other := Option.some.inj (hsecond.symm.trans hother)
            exact hne ((Except.ok.inj (hothersRead.symm.trans hschema)).trans hsupported)
          · intro haside
            by_contra hne
            exact haside ⟨hlookup, value, theme.schema, hsecond, hschema, hne⟩

/-! ### Loading again -/

/-- **A theme as data is accepted exactly if it has the supported schema**; otherwise it is refused
for its schema. -/
theorem parse_toEntries (hkeeps : theme.base.KeepsNames) :
    parse theme.base.sharing theme.toEntries =
      if theme.schema = supportedSchema then .ok theme.canonical
      else .error (.unsupportedSchema theme.schema) := by
  have hlookup : Datum.lookup theme.toEntries "schema" = some (.text theme.schema) := by
    simp [toEntries, Datum.lookup]
  have hread : ofDatum theme.base.sharing (.mapping theme.toEntries) = .ok theme.canonical :=
    ofDatum_toDatum hkeeps
  split
  · next hschema => simp [parse, hlookup, hschema, hread, Except.mapError]
  · next hschema =>
      simp [parse, hlookup, hschema, ThemeFault.ofSchema, Datum.plain?, Datum.opened]

/-- **Data alike to a theme of another schema are refused** for the schema. -/
theorem parse_of_alike_of_ne (hkeeps : theme.base.KeepsNames)
    (hschema : theme.schema ≠ supportedSchema) {d : Datum}
    (h : Datum.Alike sharing d theme.base.sharing theme.toDatum) :
    ∃ entries, d.opened sharing = .mapping entries ∧
      parse sharing entries = .error (.unsupportedSchema theme.schema) := by
  obtain ⟨entries, extras, hopened, hlookup, -, -⟩ := ofDatum_of_alike hkeeps h
  refine ⟨entries, hopened, ?_⟩
  simp [parse, hlookup, hschema, ThemeFault.ofSchema, Datum.plain?, Datum.opened]

/-- **A file that reads as a theme gives the theme exactly if it has the supported schema.** -/
theorem theme_file_of_alike (hkeeps : theme.base.KeepsNames) {text : String} {d : Datum}
    (hread : Yaml.read (.ofText (Text.unifyReturns text.toList)) = .ok (d, sharing))
    (halike : Datum.Alike sharing d theme.base.sharing theme.toDatum) (file : Path) :
    if theme.schema = supportedSchema then
      ∃ again, (Entry.file (Text.encodeUtf8 text)).theme file = .ok again ∧ again.SameData theme
    else (Entry.file (Text.encodeUtf8 text)).theme file =
      .error (.theme (.unsupportedSchema theme.schema)) := by
  split
  · next hschema =>
      obtain ⟨entries, again, hopened, hparse, hsame⟩ := parse_of_alike hkeeps hschema halike
      refine ⟨again, ?_, hsame⟩
      simp only [Entry.theme, Yaml.Source.ofBytes_encodeUtf8, hread, hopened, hparse]
      rfl
  · next hschema =>
      obtain ⟨entries, hopened, hparse⟩ := parse_of_alike_of_ne hkeeps hschema halike
      simp only [Entry.theme, Yaml.Source.ofBytes_encodeUtf8, hread, hopened, hparse]
      rfl

/-- **Which loaded themes can be loaded again.**  A theme that was loaded has the supported schema
unless its data declare another one under the second name alone. The theme as data is accepted
exactly if it has the supported schema, as its canonical form, and is refused for its schema
otherwise. The same is true of the file that it is saved in, if the document reads as what was
written. -/
theorem reloads_iff (sharing : SharedData) (entries : Entries) (theme : Theme)
    (h : parse sharing entries = .ok theme) :
    (theme.schema = supportedSchema ↔ ¬ DeclaresAside sharing entries) ∧
    parse theme.base.sharing theme.toEntries =
      (if theme.schema = supportedSchema then .ok theme.canonical
      else .error (.unsupportedSchema theme.schema)) ∧
    ∀ (text : String) (d : Datum) (sharing' : SharedData), theme.documentText? = some text →
      Yaml.read (.ofText (Text.unifyReturns text.toList)) = .ok (d, sharing') →
      Datum.Alike sharing' d theme.base.sharing theme.toDatum → ∀ file : Path,
        if theme.schema = supportedSchema then
          ∃ again, (Entry.file (Text.encodeUtf8 text)).theme file = .ok again ∧
            again.SameData theme
        else (Entry.file (Text.encodeUtf8 text)).theme file =
          .error (.theme (.unsupportedSchema theme.schema)) := by
  have hkeeps : theme.base.KeepsNames := keepsNames_of_ofDatum (of_parse h).2
  exact ⟨schema_eq_iff_of_parse h, parse_toEntries hkeeps,
    fun _ _ _ _ hread halike => theme_file_of_alike hkeeps hread halike⟩

/-- Data that declare another schema aside. -/
def declaredAside : Entries :=
  [(.text "schema_version", .text "theme/v2"), (.text "name", .text "plain")]

/-- The theme that they are read as. -/
def unsupported : Theme := ⟨"theme/v2", "plain", "", .empty, .empty, .empty⟩

theorem parse_declaredAside : parse [] declaredAside = .ok unsupported := by
  have hread : ofDatum [] (.mapping declaredAside) = .ok unsupported := rfl
  have hlookup : Datum.lookup declaredAside "schema" = none := by
    simp [declaredAside, Datum.lookup]
  simp [parse, hlookup, hread, Except.mapError]

/-- The theme is loaded, but neither its data nor the file that it is saved in. -/
theorem reloads_iff_declaredAside :
    parse [] declaredAside = .ok unsupported ∧ DeclaresAside [] declaredAside ∧
      parse [] unsupported.toEntries = .error (.unsupportedSchema "theme/v2") ∧
      ∃ text, unsupported.documentText? = some text ∧ ∀ file : Path,
        (Entry.file (Text.encodeUtf8 text)).theme file =
          .error (.theme (.unsupportedSchema "theme/v2")) := by
  have hne : unsupported.schema ≠ supportedSchema := by decide
  obtain ⟨haside, hagain, hfile⟩ := reloads_iff [] declaredAside unsupported parse_declaredAside
  rw [if_neg hne] at hagain
  refine ⟨parse_declaredAside, not_not.mp (mt haside.mpr hne), hagain, ?_⟩
  have hread : (unsupported.documentText?.map fun text =>
      Yaml.read (.ofText (Text.unifyReturns text.toList))) = some (.ok (unsupported.toDatum, [])) := by
    decide +kernel
  obtain ⟨text, htext, hdocument⟩ := Option.map_eq_some_iff.mp hread
  refine ⟨text, htext, fun file => ?_⟩
  have hrefused := hfile text _ _ htext hdocument (.refl _ _) file
  rwa [if_neg hne] at hrefused

/-- **A theme of another schema can be loaded**: the schema is examined under its first name
alone. -/
theorem not_forall_schema_supported :
    ¬ ∀ (sharing : SharedData) (entries : Entries) (theme : Theme),
      parse sharing entries = .ok theme → theme.schema = supportedSchema := by
  intro h
  have hsupported := h [] declaredAside unsupported parse_declaredAside
  revert hsupported
  decide

end Theme

end DesignTokens
