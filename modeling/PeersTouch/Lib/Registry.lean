import PeersTouch.Lib.Method

/-!
# Maps of records that know their own key

A map from keys to records in which every record is stored under its own key, as in the idiom
`byID[record.ID] = record`. That the key of an entry is the key of its record is part of the type,
so `insert` takes the record alone. `values` lists the records in the order of their keys, which
is what a program gets that collects the values of such a map and sorts them by key.

Two registries with the same lookups are equal (`ext`), and `addAll` rebuilds a registry from its
values (`addAll_values`).
-/

namespace PeersTouch.Lib

open Std List ExtTreeMap

/-- A map of records of type `ρ`, each stored under `key`. -/
structure Registry (ρ : Type) {κ : Type} [Ord κ] [TransOrd κ] (key : ρ → κ) where
  entries : ExtTreeMap κ ρ
  keyed : ∀ k v, entries[k]? = some v → key v = k

namespace Registry

variable {ρ κ ε : Type} [Ord κ] [TransOrd κ] [LawfulEqOrd κ] {key : ρ → κ}

def find (r : Registry ρ key) (k : κ) : Option ρ := r.entries[k]?

/-- The records in the order of their keys. -/
def values (r : Registry ρ key) : List ρ := r.entries.toList.map Prod.snd

def size (r : Registry ρ key) : ℕ := r.values.length

def empty : Registry ρ key where
  entries := ∅
  keyed := by simp

instance : EmptyCollection (Registry ρ key) := ⟨empty⟩

/-- The record `v` stored under its key, over the record that was there. -/
def insert (r : Registry ρ key) (v : ρ) : Registry ρ key where
  entries := r.entries.insert (key v) v
  keyed := by
    intro k w h
    rw [ExtTreeMap.getElem?_insert] at h
    split at h
    · next hk =>
      obtain rfl := Option.some.inj h
      exact LawfulEqOrd.eq_of_compare hk
    · exact r.keyed k w h

/-! ### Lookups -/

variable {r : Registry ρ key} {v : ρ} {vs : List ρ} {f : ρ → Except ε ρ}
  {k : κ}

omit [LawfulEqOrd κ] in
lemma key_of_find (h : r.find k = some v) : key v = k := r.keyed k v h

omit [LawfulEqOrd κ] in
@[simp] lemma find_empty (k : κ) : (∅ : Registry ρ key).find k = none := getElem?_empty

lemma find_insert [DecidableEq κ] (r : Registry ρ key) (v : ρ) (k : κ) :
    (r.insert v).find k = if key v = k then some v else r.find k := by
  simp [find, insert, ExtTreeMap.getElem?_insert]

@[simp] lemma find_insert_self (r : Registry ρ key) (v : ρ) : (r.insert v).find (key v) = some v := by
  simp [find, insert]

lemma find_insert_of_ne (r : Registry ρ key) (h : key v ≠ k) : (r.insert v).find k = r.find k := by
  rw [find, insert, ExtTreeMap.getElem?_insert, if_neg (mt LawfulEqOrd.eq_of_compare h)]
  rfl

@[ext] lemma ext {r' : Registry ρ key} (h : ∀ k, r.find k = r'.find k) : r = r' := by
  obtain ⟨m, hm⟩ := r
  obtain ⟨m', hm'⟩ := r'
  obtain rfl : m = m' := ext_getElem? h
  rfl

/-! ### Values -/

@[simp] lemma mem_values : v ∈ r.values ↔ r.find (key v) = some v := by
  simp only [values, mem_map, Prod.exists, exists_eq_right, mem_toList_iff_getElem?_eq_some]
  constructor
  · rintro ⟨k, h⟩
    obtain rfl := r.keyed k v h
    exact h
  · exact fun h => ⟨key v, h⟩

lemma mem_values_of_find (h : r.find k = some v) : v ∈ r.values := by rw [mem_values, key_of_find h, h]

lemma values_sorted (r : Registry ρ key) : r.values.Pairwise fun v w => compare (key v) (key w) = .lt := by
  rw [values, pairwise_map]
  refine r.entries.ordered_keys_toList.imp_of_mem ?_
  intro a b ha hb hab
  rw [r.keyed a.1 a.2 (mem_toList_iff_getElem?_eq_some.1 ha), r.keyed b.1 b.2 (mem_toList_iff_getElem?_eq_some.1 hb)]
  exact hab

lemma values_distinct (r : Registry ρ key) : r.values.Pairwise fun v w => key v ≠ key w := by
  refine r.values_sorted.imp ?_
  intro v w hlt hkey
  rw [hkey, ReflOrd.compare_self] at hlt
  cases hlt

/-! ### Filling a registry -/

def addNew (e : ε) (r : Registry ρ key) (v : ρ) : Except ε (Registry ρ key) := do
  failWhen ((r.find (key v)).isSome = true) e
  return r.insert v

@[simp] lemma addNew_eq_ok {e : ε} {r' : Registry ρ key} :
    r.addNew e v = .ok r' ↔ r.find (key v) = none ∧ r.insert v = r' := by
  simp [addNew]

/-- The records `vs` added one after the other under keys that must be free. -/
def addAll (e : ε) (r : Registry ρ key) (vs : List ρ) : Except ε (Registry ρ key) := vs.foldlM (addNew e) r

/-- Records with distinct keys that are free are all added, and nothing else. -/
lemma addAll_of_fresh (e : ε) (hdist : vs.Pairwise fun v w => key v ≠ key w) (hfree : ∀ v ∈ vs, r.find (key v) = none) :
    ∃ r', r.addAll e vs = .ok r' ∧ ∀ k v, r'.find k = some v ↔ r.find k = some v ∨ v ∈ vs ∧ key v = k := by
  induction vs generalizing r with
  | nil => exact ⟨r, rfl, by simp⟩
  | cons v vs ih =>
    obtain ⟨hv, hvs⟩ := pairwise_cons.1 hdist
    have hfree' : ∀ w ∈ vs, (r.insert v).find (key w) = none := by
      intro w hw
      rw [find_insert_of_ne r (hv w hw)]
      exact hfree w (mem_cons_of_mem _ hw)
    obtain ⟨r', hr', hfd⟩ := ih hvs hfree'
    refine ⟨r', ?_, ?_⟩
    · have h : r.addNew e v = .ok (r.insert v) := addNew_eq_ok.2 ⟨hfree v mem_cons_self, rfl⟩
      rw [addAll, foldlM_cons, h]
      exact hr'
    · intro k w
      rw [hfd, mem_cons]
      by_cases hk : key v = k
      · subst hk
        have hnone := hfree v mem_cons_self
        rw [find_insert_self, hnone, Option.some_inj]
        constructor
        · rintro (rfl | ⟨hw, e⟩)
          · exact .inr ⟨.inl rfl, rfl⟩
          · exact .inr ⟨.inr hw, e⟩
        · rintro (h | ⟨rfl | hw, e⟩)
          · cases h
          · exact .inl rfl
          · exact .inr ⟨hw, e⟩
      · rw [find_insert_of_ne r hk]
        constructor
        · rintro (h | ⟨hw, e⟩)
          · exact .inl h
          · exact .inr ⟨.inr hw, e⟩
        · rintro (h | ⟨rfl | hw, e⟩)
          · exact .inl h
          · exact absurd e hk
          · exact .inr ⟨hw, e⟩

lemma addAll_values (e : ε) (r : Registry ρ key) : (∅ : Registry ρ key).addAll e r.values = .ok r := by
  obtain ⟨r', hr', hfd⟩ := addAll_of_fresh e r.values_distinct fun v _ => find_empty (key v)
  obtain rfl : r' = r := by
    ext k v
    rw [hfd, mem_values]
    constructor
    · rintro (h | ⟨h, rfl⟩)
      · cases h
      · exact h
    · intro h
      rw [key_of_find h]
      exact .inr ⟨h, rfl⟩
  exact hr'

lemma find_foldl_insert_eq [DecidableEq κ] (vs : List ρ) (r : Registry ρ key) (k : κ) :
    (vs.foldl Registry.insert r).find k = (vs.reverse.find? fun v => key v = k).or (r.find k) := by
  induction vs generalizing r with
  | nil => simp
  | cons v vs ih =>
    rw [foldl_cons, ih, find_insert, reverse_cons]
    by_cases hk : key v = k <;> simp [hk]

lemma find_foldl_insert_map [DecidableEq κ] [DecidableEq ρ] {f : ρ → ρ}
    (hf : ∀ v, key (f v) = key v) (hvs : ∀ v ∈ vs, r.find (key v) = some v) (k : κ) :
    ((vs.map f).foldl Registry.insert r).find k = (r.find k).map fun v => if v ∈ vs then f v else v := by
  rw [find_foldl_insert_eq]
  cases hfd : (vs.map f).reverse.find? fun w => key w = k with
  | none =>
    have hnot : ∀ v ∈ vs, key v ≠ k := by
      intro v hv hk
      have h := find?_eq_none.1 hfd (f v) (mem_reverse.2 (mem_map_of_mem hv))
      simp [hf, hk] at h
    cases hk : r.find k with
    | none => rfl
    | some v =>
      have hv : v ∉ vs := fun hv => hnot v hv (key_of_find hk)
      simp [hv]
  | some w =>
    have hkey : key w = k := by simpa using find?_some hfd
    obtain ⟨v, hv, rfl⟩ := mem_map.1 (mem_reverse.1 (mem_of_find?_eq_some hfd))
    rw [hf] at hkey
    rw [← hkey, hvs v hv]
    simp [hv]

/-! ### Rewriting every record -/

/-- Every record, in the order of the keys, replaced by what `f` makes of it. -/
def updateM (f : ρ → Except ε ρ) (r : Registry ρ key) : Except ε (Registry ρ key) :=
  r.values.foldlM (fun r v => do return r.insert (← f v)) r

variable {r' : Registry ρ key}

/-- The loop of `updateM` over records with distinct keys. -/
private lemma find_foldlM_insert (hf : ∀ v v', f v = .ok v' → key v' = key v)
    (hdistinct : vs.Pairwise fun v w => key v ≠ key w) (h : vs.foldlM (fun r v => do return r.insert (← f v)) r = .ok r') :
    (∀ v ∈ vs, ∃ v', f v = .ok v' ∧ r'.find (key v) = some v') ∧ ∀ k, (∀ v ∈ vs, key v ≠ k) → r'.find k = r.find k := by
  induction vs generalizing r with
  | nil =>
    obtain rfl := pure_eq_ok.1 h
    simp
  | cons v vs ih =>
    rw [foldlM_cons, bind_eq_ok] at h
    obtain ⟨r₁, hv, hvs⟩ := h
    obtain ⟨v', hfv, rfl⟩ : ∃ v', f v = .ok v' ∧ r.insert v' = r₁ := by simpa using hv
    obtain ⟨hne, hrest⟩ := pairwise_cons.1 hdistinct
    obtain ⟨hmem, hother⟩ := ih hrest hvs
    have hkey := hf v v' hfv
    constructor
    · intro w hw
      rcases mem_cons.1 hw with rfl | hw
      · refine ⟨v', hfv, ?_⟩
        rw [hother _ fun w hw => (hne w hw).symm, ← hkey, find_insert_self]
      · exact hmem w hw
    · intro k hk
      rw [hother k fun w hw => hk w (mem_cons_of_mem _ hw), find_insert_of_ne]
      rw [hkey]
      exact hk v mem_cons_self

/-- After `updateM`, the record under a key is what `f` made of the one that was there. -/
lemma find_updateM (hf : ∀ v v', f v = .ok v' → key v' = key v) (h : r.updateM f = .ok r') (k : κ) :
    (∃ v v', r.find k = some v ∧ f v = .ok v' ∧ r'.find k = some v') ∨ r.find k = none ∧ r'.find k = none := by
  obtain ⟨hmem, hoth⟩ := find_foldlM_insert hf r.values_distinct h
  cases hk : r.find k with
  | some v =>
    obtain ⟨v', hfv, hv'⟩ := hmem v (mem_values_of_find hk)
    rw [key_of_find hk] at hv'
    exact .inl ⟨v, v', rfl, hfv, hv'⟩
  | none =>
    refine .inr ⟨rfl, ?_⟩
    rw [hoth k, hk]
    rintro v hv rfl
    rw [mem_values.1 hv] at hk
    cases hk

end Registry

end PeersTouch.Lib
