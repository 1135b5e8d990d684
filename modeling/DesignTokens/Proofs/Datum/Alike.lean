import DesignTokens.Datum.Basic
import Mathlib.Data.List.Forall2

/-!
# Alike data

Two data are alike if they hold the same at every place, whatever stands at several places in them
and by whichever numbers it is told. Data may contain themselves, so being alike is the largest
relation that looks at one place after the other.

## Main Definitions

* `Datum.content` — what a datum holds at its own place
* `Datum.Matches` — two data hold the same at their own places, and what is inside is related
* `Datum.Alike` — two data hold the same at all places
* `Datum.identical` — two data are the same, number by number

## Main Statements

* `Datum.alike_iff_matches` — data are alike if they match and what is inside is alike
* `Datum.Alike.refl`, `Datum.Alike.symm` — a datum is alike to itself, and either is to the other
* `Datum.alike_text_iff`, `Datum.Alike.exists_mapping` — what is alike to a text and to a mapping
* `Datum.Alike.opened_eq`, `Datum.Alike.opened_mapping` — what stands at the places of alike data
* `Datum.identical_iff` — whether data are equal can be decided
-/

namespace DesignTokens.Datum

/-- What a number may stand for in data that are assembled piece by piece. -/
def isShareable : Datum → Bool
  | list _ | pair _ _ | mapping _ | set _ | date _ | moment _ => true
  | _ => false

/-- What a datum holds at its own place. A number without a meaning stands for itself. -/
def content (sharing : SharedData) (d : Datum) : Datum :=
  if (d.opened sharing).isShareable then d.opened sharing else d

/-- Two data hold the same at their own places, and what is directly inside of them is related. A
number without a meaning only matches itself. -/
def Matches (s s' : SharedData) (R : Datum → Datum → Prop) (d d' : Datum) : Prop :=
  match d.content s, d'.content s' with
  | list xs, list ys => List.Forall₂ R xs ys
  | pair a b, pair c e => R a c ∧ R b e
  | mapping xs, mapping ys => List.Forall₂ (fun e f => R e.1 f.1 ∧ R e.2 f.2) xs ys
  | set xs, set ys => List.Forall₂ R xs ys
  | shared m, shared n => s = s' ∧ m = n
  | a, b => a = b

/-- Two data hold the same at all places, each with what its numbers stand for. -/
def Alike (s : SharedData) (d : Datum) (s' : SharedData) (d' : Datum) : Prop :=
  ∃ R : Datum → Datum → Prop, (∀ a b, R a b → Matches s s' R a b) ∧ R d d'

variable {s s' : SharedData} {d d' : Datum}

theorem Matches.mono {R S : Datum → Datum → Prop} (hRS : ∀ a b, R a b → S a b)
    (h : Matches s s' R d d') : Matches s s' S d d' := by
  unfold Matches at h ⊢
  split at h
  · exact h.imp hRS
  · exact ⟨hRS _ _ h.1, hRS _ _ h.2⟩
  · exact h.imp fun _ _ hef => ⟨hRS _ _ hef.1, hRS _ _ hef.2⟩
  · exact h.imp hRS
  · exact h
  · exact h

/-- **Data are alike exactly if they match and what is directly inside of them is alike.** -/
theorem alike_iff_matches :
    Alike s d s' d' ↔ Matches s s' (fun a b => Alike s a s' b) d d' := by
  constructor
  · rintro ⟨R, hR, hd⟩
    exact (hR d d' hd).mono fun a b hab => ⟨R, hR, hab⟩
  · intro h
    -- What is alike is closed under a step, and it stays closed with the pair itself.
    refine ⟨fun a b => Alike s a s' b ∨ (a = d ∧ b = d'), ?_, .inr ⟨rfl, rfl⟩⟩
    rintro a b (⟨R, hR, hab⟩ | ⟨rfl, rfl⟩)
    · exact (hR a b hab).mono fun _ _ hxy => .inl ⟨R, hR, hxy⟩
    · exact h.mono fun _ _ hxy => .inl hxy

@[simp] theorem content_mapping (s : SharedData) (entries : Entries) :
    (mapping entries).content s = mapping entries := rfl

/-- **A datum is alike to itself.** -/
theorem Alike.refl (s : SharedData) (d : Datum) : Alike s d s d := by
  refine ⟨fun a b => a = b, ?_, rfl⟩
  rintro a b rfl
  have hsame : ∀ xs : List Datum, List.Forall₂ (fun a b : Datum => a = b) xs xs :=
    fun xs => List.forall₂_same.mpr fun _ _ => rfl
  unfold Matches
  split
  · next xs ys hxs hys => rw [hxs] at hys; cases hys; exact hsame xs
  · next a b c e hab hce => rw [hab] at hce; cases hce; exact ⟨rfl, rfl⟩
  · next xs ys hxs hys => rw [hxs] at hys; cases hys; exact List.forall₂_same.mpr fun _ _ => ⟨rfl, rfl⟩
  · next xs ys hxs hys => rw [hxs] at hys; cases hys; exact hsame xs
  · next m n hm hn => rw [hm] at hn; cases hn; exact ⟨rfl, rfl⟩
  · rfl

/-- What matches is also related the other way round. -/
theorem Matches.symm {R : Datum → Datum → Prop} (h : Matches s s' R d d') :
    Matches s' s (fun a b => R b a) d' d := by
  unfold Matches at h ⊢
  split at h
  · next hxs hys => rw [hxs, hys]; exact h.flip
  · next hab hce => rw [hab, hce]; exact h
  · next hxs hys => rw [hxs, hys]; exact h.flip
  · next hxs hys => rw [hxs, hys]; exact h.flip
  · next hm hn => rw [hm, hn]; exact ⟨h.1.symm, h.2.symm⟩
  · next hlist hpair hmapping hset hshared =>
      rw [h] at hlist hpair hmapping hset hshared ⊢
      cases hc : d'.content s' with
      | list xs => exact (hlist xs xs hc hc).elim
      | pair a b => exact (hpair a b a b hc hc).elim
      | mapping xs => exact (hmapping xs xs hc hc).elim
      | set xs => exact (hset xs xs hc hc).elim
      | shared n => exact (hshared n n hc hc).elim
      | _ => rfl

/-- Being alike does not tell apart which of two data is the first one. -/
theorem Alike.symm (h : Alike s d s' d') : Alike s' d' s d := by
  obtain ⟨R, hR, hd⟩ := h
  exact ⟨fun a b => R b a, fun a b hab => (hR b a hab).symm, hd⟩

/-- A datum that is no number and that no number may stand for. -/
def isPlain : Datum → Bool
  | null | bool _ | int _ | float _ | text _ | bytes _ => true
  | _ => false

theorem isShareable_eq_false_of_isPlain {a : Datum} (ha : a.isPlain = true) :
    a.isShareable = false := by
  cases a <;> first | rfl | cases ha

theorem content_eq_self_of_isPlain {a : Datum} (ha : a.isPlain = true) : a.content s = a := by
  cases a <;> first | rfl | cases ha

/-- Nothing else has a plain datum at its place. -/
theorem eq_of_content_eq {a : Datum} (ha : a.isPlain = true) (h : d.content s = a) : d = a := by
  unfold content at h
  split at h
  · next hs => rw [h, isShareable_eq_false_of_isPlain ha] at hs; cases hs
  · exact h

/-- Only a plain datum itself is alike to it. -/
theorem alike_iff_of_isPlain {a : Datum} (ha : a.isPlain = true) : Alike s d s' a ↔ d = a := by
  rw [alike_iff_matches]
  unfold Matches
  rw [content_eq_self_of_isPlain ha]
  constructor
  · intro h
    refine eq_of_content_eq ha (s := s) ?_
    cases a with
    | list | pair | mapping | set | date | moment | shared => cases ha
    | _ => cases hc : d.content s <;> rw [hc] at h <;> simp_all
  · rintro rfl
    rw [content_eq_self_of_isPlain ha]
    cases d <;> first | rfl | cases ha

/-- Only a text is alike to a text. -/
theorem alike_text_iff {t : String} : Alike s d s' (text t) ↔ d = text t :=
  alike_iff_of_isPlain rfl

/-- What is alike to a datum that is plain at its place is the same datum there. -/
theorem Alike.opened_eq (h : Alike s d s' d') (hd : (d.opened s).isPlain = true) :
    d'.opened s' = d.opened s := by
  cases d with
  | shared n =>
      -- The number of a plain datum stands for itself, so that only the same number is alike to it.
      have hc : (shared n).content s = shared n := by
        rw [content, isShareable_eq_false_of_isPlain hd]
        rfl
      rw [alike_iff_matches] at h
      unfold Matches at h
      rw [hc] at h
      cases hc' : d'.content s' with
      | shared m =>
          rw [hc'] at h
          obtain ⟨rfl, rfl⟩ := h
          unfold content at hc'
          split at hc'
          · next hs => rw [hc'] at hs; cases hs
          · rw [hc']
      | _ => rw [hc'] at h; simp at h
  | list | pair | mapping | set | date | moment => cases hd
  | _ =>
      obtain rfl := (alike_iff_of_isPlain rfl).mp h.symm
      rfl

/-- What is alike to a mapping is a mapping at its place, with entries that are alike. -/
theorem Alike.exists_mapping {entries : Entries} (h : Alike s d s' (mapping entries)) :
    ∃ given : Entries, d.opened s = mapping given ∧
      List.Forall₂ (fun e f => Alike s e.1 s' f.1 ∧ Alike s e.2 s' f.2) given entries := by
  rw [alike_iff_matches] at h
  unfold Matches at h
  cases hc : d.content s with
  | mapping given =>
      rw [hc] at h
      refine ⟨given, ?_, h⟩
      unfold content at hc
      split at hc
      · exact hc
      · rw [hc]; rfl
  | _ => rw [hc] at h; simp at h

/-- What is alike to a datum that is a mapping at its place is one there too. -/
theorem Alike.opened_mapping {entries : Entries} (h : Alike s d s' d')
    (hd : d.opened s = mapping entries) :
    ∃ others : Entries, d'.opened s' = mapping others ∧
      List.Forall₂ (fun e f => Alike s e.1 s' f.1 ∧ Alike s e.2 s' f.2) entries others := by
  have hc : d.content s = mapping entries := by
    rw [content, hd]
    rfl
  have hmapping : Alike s (mapping entries) s' d' := by
    rw [alike_iff_matches] at h ⊢
    unfold Matches at h ⊢
    rwa [hc] at h
  obtain ⟨others, hopened, hothers⟩ := hmapping.symm.exists_mapping
  exact ⟨others, hopened, hothers.flip.imp fun _ _ hef => ⟨hef.1.symm, hef.2.symm⟩⟩

/-- Mappings with entries that are alike are alike. -/
theorem alike_mapping {xs ys : Entries}
    (h : List.Forall₂ (fun e f => Alike s e.1 s' f.1 ∧ Alike s e.2 s' f.2) xs ys) :
    Alike s (mapping xs) s' (mapping ys) :=
  alike_iff_matches.mpr h

/-! ### Identical data -/

mutual

/-- Whether two data are identical: the same at every place and in the same order. -/
def identical : Datum → Datum → Bool
  | null, null => true
  | bool a, bool b => a == b
  | int m, int n => m == n
  | float x, float y => x == y
  | text s, text t => s == t
  | bytes xs, bytes ys => xs == ys
  | date d, date e => d == e
  | moment a, moment b => a == b
  | list xs, list ys => identicalItems xs ys
  | pair a b, pair c d => identical a c && identical b d
  | mapping xs, mapping ys => identicalEntries xs ys
  | set xs, set ys => identicalItems xs ys
  | shared m, shared n => m == n
  | _, _ => false

/-- Whether two lists hold identical data. -/
def identicalItems : List Datum → List Datum → Bool
  | [], [] => true
  | x :: xs, y :: ys => identical x y && identicalItems xs ys
  | _, _ => false

/-- Whether two mappings have identical entries. -/
def identicalEntries : Entries → Entries → Bool
  | [], [] => true
  | (key, value) :: xs, (k, v) :: ys =>
    identical key k && identical value v && identicalEntries xs ys
  | _, _ => false

end

mutual

theorem identical_iff : ∀ a b : Datum, identical a b = true ↔ a = b
  | null, b => by cases b <;> simp [identical]
  | bool a, b => by cases b <;> simp [identical]
  | int n, b => by cases b <;> simp [identical]
  | float x, b => by cases b <;> simp [identical]
  | text s, b => by cases b <;> simp [identical]
  | bytes xs, b => by cases b <;> simp [identical]
  | date d, b => by cases b <;> simp [identical]
  | moment m, b => by cases b <;> simp [identical]
  | list xs, b => by cases b <;> simp [identical, identicalItems_iff xs]
  | pair a a', b => by cases b <;> simp [identical, identical_iff a, identical_iff a']
  | mapping xs, b => by cases b <;> simp [identical, identicalEntries_iff xs]
  | set xs, b => by cases b <;> simp [identical, identicalItems_iff xs]
  | shared n, b => by cases b <;> simp [identical]

theorem identicalItems_iff : ∀ xs ys : List Datum, identicalItems xs ys = true ↔ xs = ys
  | [], ys => by cases ys <;> simp [identicalItems]
  | x :: xs, ys => by cases ys <;> simp [identicalItems, identical_iff x, identicalItems_iff xs]

theorem identicalEntries_iff : ∀ xs ys : Entries, identicalEntries xs ys = true ↔ xs = ys
  | [], ys => by cases ys <;> simp [identicalEntries]
  | (key, value) :: xs, [] => by simp [identicalEntries]
  | (key, value) :: xs, (k, v) :: ys => by
      simp [identicalEntries, identical_iff key, identical_iff value, identicalEntries_iff xs,
        and_assoc]

end

instance : DecidableEq Datum := fun a b => decidable_of_iff _ (identical_iff a b)

end DesignTokens.Datum
