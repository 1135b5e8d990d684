import DesignTokens.Proofs.Theme.Rereading

/-!
# Alike data are read alike

Whether a number stands for a datum makes no difference to a reader, and neither does which number
it is. What is read from data is also read from data that are alike to them, be it a text, a category
of tokens or a mode.

## Main Statements

* `readText_of_alike`, `readTokens_of_alike`, `readMode_of_opened` — texts, categories and modes
* `stringifyEntries?_of_alike` — a category has the same written entries, however it is told
* `readOptional_of_rel` — an entry that may be absent is read from related entries

## Design Notes

Of all keys that a mapping is given, only those are seen that are kept. Still none of the others can
be anything but text or bytes if those are: each of them equals one that is kept.
-/

namespace DesignTokens

variable {s s' : SharedData}

/-! ### Related lists and values -/

/-- Related lists are related in another way if the members of the first one are. -/
theorem forall₂_of_mem {α β : Type} {R S : α → β → Prop} {l : List α} {l' : List β}
    (h : List.Forall₂ R l l') (hRS : ∀ a ∈ l, ∀ b, R a b → S a b) : List.Forall₂ S l l' :=
  List.forall₂_iff_zip.mpr ⟨h.length_eq, fun hab =>
    hRS _ (List.of_mem_zip hab).1 _ (List.forall₂_zip h hab)⟩

theorem exists_of_rel_some {α β : Type} {R : α → β → Prop} {a : α} {y : Option β}
    (h : Option.Rel R (some a) y) : ∃ b, y = some b ∧ R a b := by
  cases h with
  | some hab => exact ⟨_, rfl, hab⟩

theorem exists_of_rel_some_right {α β : Type} {R : α → β → Prop} {x : Option α} {b : β}
    (h : Option.Rel R x (some b)) : ∃ a, x = some a ∧ R a b := by
  cases h with
  | some hab => exact ⟨_, rfl, hab⟩

theorem eq_none_of_rel {α β : Type} {R : α → β → Prop} {y : Option β}
    (h : Option.Rel R none y) : y = none := by
  cases h
  rfl

/-! ### Texts -/

namespace Datum

/-- A text, or bytes that may encode one. -/
def isWritten : Datum → Bool
  | text _ | bytes _ => true
  | _ => false

theorem isPlain_of_isWritten {d : Datum} (h : d.isWritten = true) : d.isPlain = true := by
  cases d <;> first | rfl | cases h

/-- Nothing but itself is the same key as a text, or as bytes. -/
theorem eq_of_sameKey {k key : Datum} (hk : k.isWritten = true) (h : sameKey k key = true) :
    key = k := by
  cases k with
  | text t => cases key <;> simp_all [sameKey, same, sameScalar]
  | bytes bs => cases key <;> simp_all [sameKey, same, sameScalar]
  | _ => cases hk

end Datum

theorem isWritten_of_readText {path : List String} {d : Datum} {t : String}
    (h : readText path d = .ok t) : d.isWritten = true := by
  cases d <;> first | rfl | cases h

/-- Texts are read alike. -/
theorem readText_of_alike {path : List String} {d d' : Datum} {t : String}
    (h : Datum.Alike s d s' d') (hread : readText path (d.opened s) = .ok t) :
    readText path (d'.opened s') = .ok t := by
  rwa [h.opened_eq (Datum.isPlain_of_isWritten (isWritten_of_readText hread))]

/-! ### Numbers that are written out -/

theorem stringifyNumber?_of_alike {d d' written : Datum} (h : Datum.Alike s d s' d')
    (hd : stringifyNumber? d = some written) :
    ∃ written', stringifyNumber? d' = some written' ∧ Datum.Alike s written s' written' := by
  by_cases hplain : d'.isPlain = true
  · obtain rfl := (Datum.alike_iff_of_isPlain hplain).mp h
    refine ⟨written, hd, (Datum.alike_iff_of_isPlain ?_).mpr rfl⟩
    cases d with
    | int n => obtain ⟨t, -, rfl⟩ := Option.map_eq_some_iff.mp hd; rfl
    | float x => cases hd; rfl
    | _ => cases hd; exact hplain
  · -- What is no plain datum is no number to write out, and nothing alike to it is.
    have hsame : ∀ {a : Datum}, a.isPlain ≠ true → stringifyNumber? a = some a := by
      intro a ha
      cases a <;> first | rfl | exact (ha rfl).elim
    have hplain' : d.isPlain ≠ true := fun hp =>
      hplain ((Datum.alike_iff_of_isPlain hp).mp h.symm ▸ hp)
    rw [hsame hplain'] at hd
    cases hd
    exact ⟨d', hsame hplain, h⟩

theorem stringify_of_alike {e f written : Datum × Datum}
    (hkey : Datum.Alike s e.1 s' f.1) (hvalue : Datum.Alike s e.2 s' f.2)
    (he : stringifyEntry? e = some written) :
    ∃ written', stringifyEntry? f = some written' ∧ Datum.Alike s written.1 s' written'.1 ∧
      Datum.Alike s written.2 s' written'.2 := by
  simp only [ stringifyEntry?, Option.bind_eq_bind, Option.bind_eq_some_iff, Option.some.injEq] at he
  obtain ⟨key, hwrittenKey, value, hwrittenValue, rfl⟩ := he
  obtain ⟨key', hkey', hkeys⟩ := stringifyNumber?_of_alike hkey hwrittenKey
  obtain ⟨value', hvalue', hvalues⟩ := stringifyNumber?_of_alike hvalue hwrittenValue
  exact ⟨(key', value'), by simp [ stringifyEntry?, hkey', hvalue'], hkeys, hvalues⟩

theorem mapM_stringify_of_alike {given given' written : Entries}
    (h : AlikeEntries s given s' given') (hwritten : given.mapM stringifyEntry? = some written) :
    ∃ written', given'.mapM stringifyEntry? = some written' ∧
      AlikeEntries s written s' written' := by
  induction h generalizing written with
  | nil =>
      cases hwritten
      exact ⟨[], rfl, .nil⟩
  | cons hef _ ih =>
      simp only [List.mapM_cons, Option.bind_eq_bind, Option.bind_eq_some_iff, Option.pure_def,
        Option.some.injEq] at hwritten
      obtain ⟨first, hfirst, rest, hrest, rfl⟩ := hwritten
      obtain ⟨first', hfirst', hkeys, hvalues⟩ := stringify_of_alike hef.1 hef.2 hfirst
      obtain ⟨rest', hrest', hmore⟩ := ih hrest
      exact ⟨first' :: rest', by simp [List.mapM_cons, hfirst', hrest'],
        .cons ⟨hkeys, hvalues⟩ hmore⟩

/-! ### Keys that become one -/

namespace Datum

/-- Entries with the same keys and with values that are alike. -/
def SameKeyed (s : SharedData) (given : Entries) (s' : SharedData) (given' : Entries) : Prop :=
  List.Forall₂ (fun e f => e.1 = f.1 ∧ Alike s e.2 s' f.2) given given'

theorem SameKeyed.insertEntry {made made' : Entries} {key value value' : Datum}
    (hvalue : Alike s value s' value') (h : SameKeyed s made s' made') :
    SameKeyed s (insertEntry key value made) s' (insertEntry key value' made') := by
  induction h with
  | nil => exact .cons ⟨rfl, hvalue⟩ .nil
  | @cons e f _ _ hef hrest ih =>
      simp only [Datum.insertEntry, ← hef.1]
      split
      · exact .cons ⟨rfl, hvalue⟩ hrest
      · exact .cons ⟨rfl, hef.2⟩ ih

theorem SameKeyed.ofEntries {given given' : Entries} (h : SameKeyed s given s' given') :
    SameKeyed s (ofEntries given) s' (ofEntries given') := by
  refine List.rel_foldl (fun made made' hmade e f hef => ?_) .nil h
  rw [← hef.1]
  exact SameKeyed.insertEntry hef.2 hmade

/-- An entry has the key of one that is kept, or one that is the same key. -/
def IsKept (made : Entries) (key : Datum) : Prop :=
  ∃ f ∈ made, f.1 = key ∨ sameKey f.1 key = true

theorem isKept_insertEntry (key value : Datum) (made : Entries) :
    IsKept (insertEntry key value made) key := by
  induction made with
  | nil => exact ⟨_, List.mem_singleton_self _, .inl rfl⟩
  | cons e rest ih =>
      rw [insertEntry]
      split
      · next h => exact ⟨_, List.mem_cons_self, .inr h⟩
      · obtain ⟨f, hf, hkey⟩ := ih
        exact ⟨f, List.mem_cons_of_mem _ hf, hkey⟩

theorem IsKept.insertEntry {made : Entries} {k : Datum} (h : IsKept made k) (key value : Datum) :
    IsKept (insertEntry key value made) k := by
  obtain ⟨f, hf, hk⟩ := h
  induction made with
  | nil => cases hf
  | cons e rest ih =>
      rw [Datum.insertEntry]
      split
      · rcases List.mem_cons.mp hf with rfl | hrest
        · exact ⟨_, List.mem_cons_self, hk⟩
        · exact ⟨f, List.mem_cons_of_mem _ hrest, hk⟩
      · rcases List.mem_cons.mp hf with rfl | hrest
        · exact ⟨_, List.mem_cons_self, hk⟩
        · obtain ⟨g, hg, hkey⟩ := ih hrest
          exact ⟨g, List.mem_cons_of_mem _ hg, hkey⟩

theorem isKept_ofEntries {given : Entries} {e : Datum × Datum} (he : e ∈ given) :
    IsKept (ofEntries given) e.1 := by
  have hfold : ∀ (given made : Entries), IsKept made e.1 ∨ e ∈ given →
      IsKept (given.foldl (fun made e => insertEntry e.1 e.2 made) made) e.1 := by
    intro given
    induction given with
    | nil => intro made h; exact h.resolve_right List.not_mem_nil
    | cons first rest ih =>
        intro made h
        rw [List.foldl_cons]
        refine ih _ ?_
        rcases h with hmade | hmem
        · exact .inl (hmade.insertEntry _ _)
        · rcases List.mem_cons.mp hmem with rfl | hrest
          · exact .inl (isKept_insertEntry _ _ _)
          · exact .inr hrest
  exact hfold given [] (.inr he)

/-- Keys are text or bytes if those that are kept are. -/
theorem isWritten_key_of_ofEntries {given : Entries}
    (h : ∀ f ∈ ofEntries given, f.1.isWritten = true) {e : Datum × Datum} (he : e ∈ given) :
    e.1.isWritten = true := by
  obtain ⟨f, hf, heq | hsame⟩ := isKept_ofEntries he
  · rw [← heq]
    exact h f hf
  · rw [eq_of_sameKey (h f hf) hsame]
    exact h f hf

end Datum

/-! ### Categories -/

/-- Every key and every value of a mapping that is read is text, or bytes that encode it. -/
theorem isWritten_of_readTextMap {path : List String} {written : Entries} {tokens : TokenMap}
    (h : readTextMap path (.mapping written) = .ok tokens) :
    ∀ e ∈ written, e.1.isWritten = true ∧ e.2.isWritten = true := by
  obtain ⟨pairs, hall, -⟩ := map_eq_ok_iff.mp h
  rw [Checked.all_eq_ok_iff] at hall
  intro e he
  obtain ⟨pair, -, hpair⟩ := List.mem_map.mp (hall ▸ List.mem_map_of_mem he)
  obtain ⟨hkey, hvalue⟩ := Checked.both_eq_ok_iff.mp hpair.symm
  exact ⟨isWritten_of_readText hkey, isWritten_of_readText hvalue⟩

/-- **A category has the same written entries, however it is told**, if these can be read. -/
theorem stringifyEntries?_of_alike {given given' written : Entries}
    (h : AlikeEntries s given s' given') (hwritten : stringifyEntries? given = some written)
    (hread : ∀ e ∈ written, e.1.isWritten = true ∧ e.2.isWritten = true) :
    stringifyEntries? given' = some written := by
  obtain ⟨all, hall, rfl⟩ := Option.map_eq_some_iff.mp hwritten
  obtain ⟨all', hall', hentries⟩ := mapM_stringify_of_alike h hall
  -- Keys are text or bytes, all of them, and so they are equal rather than alike.
  have hkeyed : Datum.SameKeyed s all s' all' := by
    refine forall₂_of_mem hentries fun e he f hef => ⟨?_, hef.2⟩
    have hplain := Datum.isPlain_of_isWritten
      (Datum.isWritten_key_of_ofEntries (fun f hf => (hread f hf).1) he)
    exact ((Datum.alike_iff_of_isPlain hplain).mp hef.1.symm).symm
  have hsame : List.Forall₂ (fun e f => e = f) (Datum.ofEntries all) (Datum.ofEntries all') := by
    refine forall₂_of_mem hkeyed.ofEntries fun e he f hef => Prod.ext hef.1 ?_
    have hplain := Datum.isPlain_of_isWritten (hread e he).2
    exact ((Datum.alike_iff_of_isPlain hplain).mp hef.2.symm).symm
  rw [List.forall₂_eq_eq_eq] at hsame
  rw [stringifyEntries?, hall', Option.map_some, hsame]

/-- **Categories are read alike.** -/
theorem readTokens_of_alike {path : List String} {d d' : Datum} {tokens : TokenMap}
    (h : Datum.Alike s d s' d') (hread : readTokens path (d.opened s) = .ok tokens) :
    readTokens path (d'.opened s') = .ok tokens := by
  cases hd : d.opened s with
  | null => rwa [h.opened_eq (by rw [hd]; rfl)]
  | mapping given =>
      obtain ⟨given', hopened, hentries⟩ := h.opened_mapping hd
      rw [hd] at hread
      rw [hopened]
      simp only [readTokens] at hread ⊢
      cases hwritten : stringifyEntries? given with
      | none => rw [hwritten] at hread; cases hread
      | some written =>
          rw [hwritten] at hread
          rwa [stringifyEntries?_of_alike hentries hwritten (isWritten_of_readTextMap hread)]
  | _ => rw [hd] at hread; cases hread

/-! ### Entries that may be absent -/

/-- An entry is alike to one of the entries that its mapping is alike to. -/
theorem AlikeEntries.exists_mem {given given' : Entries} (h : AlikeEntries s given s' given')
    {f : Datum × Datum} (hf : f ∈ given') :
    ∃ e ∈ given, Datum.Alike s e.1 s' f.1 ∧ Datum.Alike s e.2 s' f.2 := by
  induction h with
  | nil => cases hf
  | @cons e _ _ _ hef _ ih =>
      rcases List.mem_cons.mp hf with rfl | hrest
      · exact ⟨e, List.mem_cons_self, hef⟩
      · obtain ⟨e', he', hef'⟩ := ih hrest
        exact ⟨e', List.mem_cons_of_mem _ he', hef'⟩

theorem lookup_cons (e : Datum × Datum) (rest : Entries) (name : String) :
    Datum.lookup (e :: rest) name =
      if e.1 = .text name then some e.2 else Datum.lookup rest name := by
  obtain ⟨key, value⟩ := e
  cases key <;> simp [Datum.lookup]

/-- Values under the same name are related if those of all entries are. -/
theorem lookup_of_forall₂ {R : Datum → Datum → Prop} {given given' : Entries} {name : String}
    (h : List.Forall₂ (fun e f => Datum.Alike s e.1 s' f.1 ∧ (e.1 = .text name → R e.2 f.2)) given
      given') :
    Option.Rel R (Datum.lookup given name) (Datum.lookup given' name) := by
  induction h with
  | nil => exact .none
  | @cons e f _ _ hef _ ih =>
      obtain ⟨hkey, hvalue⟩ := hef
      have hname : f.1 = .text name ↔ e.1 = .text name := by
        constructor
        · intro hf
          exact Datum.alike_text_iff.mp (hf ▸ hkey)
        · intro he
          exact Datum.alike_text_iff.mp (he ▸ hkey).symm
      rw [lookup_cons, lookup_cons]
      by_cases he : e.1 = .text name
      · rw [if_pos he, if_pos (hname.mpr he)]
        exact .some (hvalue he)
      · rw [if_neg he, if_neg (mt hname.mp he)]
        exact ih

theorem AlikeEntries.lookup {given given' : Entries} (h : AlikeEntries s given s' given')
    (name : String) :
    Option.Rel (fun d d' => Datum.Alike s d s' d') (Datum.lookup given name)
      (Datum.lookup given' name) :=
  lookup_of_forall₂ (h.imp fun _ _ hef => ⟨hef.1, fun _ => hef.2⟩)

/-- Whatever is found under some names is found in entries that are related to the first ones
there. -/
theorem findEntry_of_rel {R : Datum → Datum → Prop} {given given' : Entries} {names : List String}
    (h : ∀ name ∈ names,
      Option.Rel R (Datum.lookup given name) (Datum.lookup given' name)) :
    Option.Rel (fun a b => a.1 = b.1 ∧ R a.2 b.2) (findEntry given names)
      (findEntry given' names) := by
  induction names with
  | nil => exact .none
  | cons name rest ih =>
      obtain ⟨hfirst, hrest⟩ := List.forall_mem_cons.mp h
      simp only [findEntry, List.findSome?_cons]
      generalize Datum.lookup given name = value, Datum.lookup given' name = value' at hfirst
      cases hfirst with
      | none => exact ih hrest
      | some hvalue => exact .some ⟨rfl, hvalue⟩

/-- **An entry that may be absent is read from related entries** if what it may hold is. -/
theorem readOptional_of_rel {α : Type} {path : List String} {default a : α}
    {read read' : List String → Datum → Checked α} {R : Datum → Datum → Prop} {S : α → α → Prop}
    {given given' : Entries} {names : List String}
    (h : ∀ name ∈ names, Option.Rel R (Datum.lookup given name) (Datum.lookup given' name))
    (hvalue : ∀ path d d' a, R d d' → read path (d.opened s) = .ok a →
      ∃ a', read' path (d'.opened s') = .ok a' ∧ S a a')
    (hdefault : S default default)
    (hread : readOptional s path read default given names = .ok a) :
    ∃ a', readOptional s' path read' default given' names = .ok a' ∧ S a a' := by
  unfold readOptional at hread ⊢
  have hfind := findEntry_of_rel h
  cases hgiven : findEntry given names with
  | none =>
      rw [hgiven] at hfind hread
      rw [eq_none_of_rel hfind, ← Except.ok.inj hread]
      exact ⟨default, rfl, hdefault⟩
  | some found =>
      rw [hgiven] at hfind hread
      obtain ⟨found', hgiven', hname, hvalues⟩ := exists_of_rel_some hfind
      rw [hgiven']
      simp only [hname] at hread
      exact hvalue _ _ _ _ hvalues hread

/-- The same where what is read is equal. -/
theorem readOptional_of_lookup {α : Type} {path : List String} {default a : α}
    {read read' : List String → Datum → Checked α} {given given' : Entries} {names : List String}
    (h : ∀ name ∈ names, Option.Rel (fun d d' => Datum.Alike s d s' d')
      (Datum.lookup given name) (Datum.lookup given' name))
    (hvalue : ∀ path d d' a, Datum.Alike s d s' d' → read path (d.opened s) = .ok a →
      read' path (d'.opened s') = .ok a)
    (hread : readOptional s path read default given names = .ok a) :
    readOptional s' path read' default given' names = .ok a := by
  obtain ⟨a', ha', rfl⟩ := readOptional_of_rel (S := Eq) h
    (fun path d d' a hd hread => ⟨a, hvalue path d d' a hd hread, rfl⟩) rfl hread
  exact ha'

/-- **Modes are read alike.** -/
theorem readMode_of_opened {path : List String} {d d' : Datum} {mode : ModeTokens}
    (h : Datum.Alike s d s' d') (hread : readMode s path (d.opened s) = .ok mode) :
    readMode s' path (d'.opened s') = .ok mode := by
  cases hd : d.opened s with
  | mapping given =>
      obtain ⟨given', hopened, hentries⟩ := h.opened_mapping hd
      rw [hd] at hread
      obtain ⟨bg, hbg, rfl⟩ := map_eq_ok_iff.mp hread
      rw [hopened]
      refine map_eq_ok_iff.mpr ⟨bg, ?_, rfl⟩
      exact readOptional_of_lookup (fun name _ => AlikeEntries.lookup hentries name)
        (fun _ _ _ _ => readTokens_of_alike) hbg
  | _ => rw [hd] at hread; cases hread

end DesignTokens
