import Mathlib

/-!
# Tables with a unique key

A relational table whose rows carry a unique key, as a list of rows together with the proof that no
key occurs twice. The writes are the ones the stores of this development issue: `insertOrIgnore`
keeps the row that is already there and `insertAll` repeats it, `insert` refuses a key that is
taken and `insertEach` repeats it, `upsert` replaces the row under its key, `updateWhere` rewrites
the rows that satisfy a condition (`updateOne` if there is exactly one), and `delete` and
`deleteWhere` remove rows.

A table is read through `find`, the row under a key, and through the list of its rows.
-/

namespace PeersTouch.Lib

open List

/-- A table of rows of type `ρ` in which `key` is unique. -/
structure KeyedTable (ρ : Type) {κ : Type} (key : ρ → κ) where
  rows : List ρ
  keys_nodup : (rows.map key).Nodup

namespace KeyedTable

variable {ρ κ : Type} {key : ρ → κ}
  {t : KeyedTable ρ key} {r x : ρ} {k : κ} {rs : List ρ} {ε : Type} {p : ρ → Prop}

lemma eq_of_key_eq {r' : ρ} (hr : r ∈ t.rows) (hr' : r' ∈ t.rows) (h : key r = key r') : r = r' :=
  inj_on_of_nodup_map t.keys_nodup hr hr' h

variable [DecidableEq κ]

/-- The table without rows. -/
def empty : KeyedTable ρ key := ⟨[], List.nodup_nil⟩

omit [DecidableEq κ] in
@[simp] lemma rows_empty : (empty : KeyedTable ρ key).rows = [] := rfl

/-- Whether some row has the key `k`. -/
def hasKey (t : KeyedTable ρ key) (k : κ) : Bool := t.rows.any fun r => key r = k

lemma hasKey_iff : t.hasKey k = true ↔ ∃ r ∈ t.rows, key r = k := by simp [hasKey]

/-- `INSERT OR IGNORE`: a row whose key is present is dropped. -/
def insertOrIgnore (t : KeyedTable ρ key) (r : ρ) : KeyedTable ρ key :=
  if h : t.hasKey (key r) = true then t
  else
    { rows := t.rows ++ [r], keys_nodup := by
        have hr : key r ∉ t.rows.map key := by
          intro hm
          obtain ⟨r', hr', e⟩ := List.mem_map.1 hm
          exact h (hasKey_iff.2 ⟨r', hr', e⟩)
        rw [List.map_append, List.map_singleton]
        exact List.Nodup.append t.keys_nodup (List.nodup_singleton _) (List.disjoint_singleton.2 hr) }

lemma rows_insertOrIgnore (h : t.hasKey (key r) = false) : (t.insertOrIgnore r).rows = t.rows ++ [r] := by
  simp [insertOrIgnore, h]

lemma mem_insertOrIgnore_of_mem (h : x ∈ t.rows) : x ∈ (t.insertOrIgnore r).rows := by
  unfold insertOrIgnore
  split
  · exact h
  · exact mem_append_left _ h

lemma mem_of_mem_insertOrIgnore (h : x ∈ (t.insertOrIgnore r).rows) : x ∈ t.rows ∨ x = r ∧ t.hasKey (key r) = false := by
  unfold insertOrIgnore at h
  split at h
  · exact .inl h
  · rename_i hk
    rcases mem_append.1 h with h | h
    · exact .inl h
    · exact .inr ⟨mem_singleton.1 h, by simpa using hk⟩

lemma hasKey_insertOrIgnore : (t.insertOrIgnore r).hasKey k = true ↔ t.hasKey k = true ∨ key r = k := by
  unfold insertOrIgnore
  split
  · rename_i hk
    constructor
    · exact .inl
    · rintro (h | rfl)
      · exact h
      · exact hk
  · simp [hasKey_iff, or_and_right, exists_or]

/-- The rows of `rs` offered one after the other. -/
def insertAll (t : KeyedTable ρ key) (rs : List ρ) : KeyedTable ρ key := rs.foldl insertOrIgnore t

lemma insertAll_append (t : KeyedTable ρ key) (rs rs' : List ρ) :
    t.insertAll (rs ++ rs') = (t.insertAll rs).insertAll rs' :=
  foldl_append

variable (t rs) in
lemma rows_insertAll : ∃ taken, taken.Sublist rs ∧ (t.insertAll rs).rows = t.rows ++ taken := by
  induction rs generalizing t with
  | nil => exact ⟨[], .slnil, (append_nil _).symm⟩
  | cons r rs ih =>
    obtain ⟨taken, hsub, hrows⟩ := ih (t.insertOrIgnore r)
    cases hk : t.hasKey (key r) with
    | true => exact ⟨taken, hsub.cons r, hrows.trans (by simp [insertOrIgnore, hk])⟩
    | false => exact ⟨r :: taken, hsub.cons_cons r, hrows.trans (by simp [rows_insertOrIgnore hk])⟩

lemma mem_of_mem_insertAll (h : x ∈ (t.insertAll rs).rows) : x ∈ t.rows ∨ x ∈ rs := by
  obtain ⟨taken, hsub, hrows⟩ := rows_insertAll t rs
  rw [hrows] at h
  exact (mem_append.1 h).imp_right (hsub.subset ·)

lemma hasKey_insertAll : (t.insertAll rs).hasKey k = true ↔ t.hasKey k = true ∨ ∃ r ∈ rs, key r = k := by
  induction rs generalizing t with
  | nil => simp [insertAll]
  | cons r rs ih =>
    have e : t.insertAll (r :: rs) = (t.insertOrIgnore r).insertAll rs := rfl
    rw [e, ih, hasKey_insertOrIgnore, or_assoc, exists_mem_cons_iff]

/-- The row under the key `k` removed. -/
def delete (t : KeyedTable ρ key) (k : κ) : KeyedTable ρ key where
  rows := t.rows.filter fun r => key r ≠ k
  keys_nodup := t.keys_nodup.sublist (List.filter_sublist.map key)

lemma mem_delete : x ∈ (t.delete k).rows ↔ x ∈ t.rows ∧ key x ≠ k := by simp [delete]

lemma hasKey_delete {k' : κ} : (t.delete k).hasKey k' = true ↔ t.hasKey k' = true ∧ k' ≠ k := by
  simp only [hasKey_iff, mem_delete]
  constructor
  · rintro ⟨r, ⟨hr, hne⟩, rfl⟩
    exact ⟨⟨r, hr, rfl⟩, hne⟩
  · rintro ⟨⟨r, hr, rfl⟩, hne⟩
    exact ⟨r, ⟨hr, hne⟩, rfl⟩

/-! ### The row under a key -/

/-- The row under the key `k`. -/
def find (t : KeyedTable ρ key) (k : κ) : Option ρ := t.rows.find? fun r => key r = k

lemma find_eq_some : t.find k = some r ↔ r ∈ t.rows ∧ key r = k := by
  constructor
  · intro h
    exact ⟨mem_of_find?_eq_some h, by simpa using find?_some h⟩
  · rintro ⟨hr, rfl⟩
    cases h : t.find (key r) with
    | none =>
      have hne := find?_eq_none.1 h r hr
      simp at hne
    | some r' =>
      have hr' : r' ∈ t.rows := mem_of_find?_eq_some h
      have hk : key r' = key r := by simpa using find?_some h
      rw [eq_of_key_eq hr' hr hk]

lemma find_eq_none : t.find k = none ↔ t.hasKey k = false := by
  rw [← Bool.not_eq_true, hasKey_iff]
  simp [find]

lemma key_of_find (h : t.find k = some r) : key r = k := (find_eq_some.1 h).2

variable {t' : KeyedTable ρ key}

lemma find_congr (h : ∀ r, r ∈ t.rows ↔ r ∈ t'.rows) (k : κ) : t.find k = t'.find k := by
  cases hf : t'.find k with
  | none =>
    cases hf' : t.find k with
    | none => rfl
    | some r =>
      obtain ⟨hr, hk⟩ := find_eq_some.1 hf'
      have := find_eq_some.2 ⟨(h r).1 hr, hk⟩
      rw [hf] at this
      cases this
  | some r =>
    obtain ⟨hr, hk⟩ := find_eq_some.1 hf
    exact find_eq_some.2 ⟨(h r).2 hr, hk⟩

@[simp] lemma find_empty (k : κ) : (empty : KeyedTable ρ key).find k = none := rfl

lemma find_insertOrIgnore (h : t.hasKey (key r) = false) (k : κ) :
    (t.insertOrIgnore r).find k = if key r = k then some r else t.find k := by
  unfold find
  rw [rows_insertOrIgnore h, find?_append]
  split_ifs with hk
  · have hnone : t.rows.find? (fun x => key x = k) = none := find_eq_none.2 (hk ▸ h)
    rw [hnone]
    simp [hk]
  · have hsingle : [r].find? (fun x => key x = k) = none := by simp [hk]
    rw [hsingle, Option.or_none]

lemma find_delete {k' : κ} : (t.delete k).find k' = if k' = k then none else t.find k' := by
  split_ifs with h
  · rw [find_eq_none, ← Bool.not_eq_true, hasKey_delete]
    exact fun hk => hk.2 h
  · cases hf : t.find k' with
    | none =>
      rw [find_eq_none, ← Bool.not_eq_true, hasKey_delete]
      intro hk
      rw [find_eq_none.1 hf] at hk
      cases hk.1
    | some r =>
      obtain ⟨hr, rfl⟩ := find_eq_some.1 hf
      exact find_eq_some.2 ⟨mem_delete.2 ⟨hr, h⟩, rfl⟩

/-! ### Checked insertion and replacement -/

/-- A key that is taken violates the constraint, which is the error `e`. -/
def insert (t : KeyedTable ρ key) (r : ρ) (e : ε) : Except ε (KeyedTable ρ key) :=
  if t.hasKey (key r) = true then .error e else .ok (t.insertOrIgnore r)

@[simp] lemma insert_eq_ok {t' : KeyedTable ρ key} {e : ε} :
    t.insert r e = .ok t' ↔ t.hasKey (key r) = false ∧ t.insertOrIgnore r = t' := by
  unfold insert
  split <;> simp [*]

/-- One `INSERT` after the other. -/
def insertEach (t : KeyedTable ρ key) (rs : List ρ) (e : ε) : Except ε (KeyedTable ρ key) :=
  rs.foldlM (fun t r => t.insert r e) t

omit [DecidableEq κ] in
lemma eq_of_rows_eq (h : t.rows = t'.rows) : t = t' := by
  cases t
  cases t'
  simpa using h

lemma insertEach_eq_ok {e : ε} : t.insertEach rs e = .ok t' ↔ t'.rows = t.rows ++ rs := by
  induction rs generalizing t with
  | nil =>
    have h : t.insertEach [] e = .ok t := rfl
    rw [h, append_nil, Except.ok.injEq]
    exact ⟨fun h => h ▸ rfl, fun h => eq_of_rows_eq h.symm⟩
  | cons r rs ih =>
    have hcons : t.insertEach (r :: rs) e = (t.insert r e).bind fun t => t.insertEach rs e := rfl
    rw [hcons, insert]
    split_ifs with hkey
    · -- the key is taken, so the rows do not fit
      simp only [Except.bind, reduceCtorEq, false_iff]
      intro h
      obtain ⟨r', hr', hk⟩ := hasKey_iff.1 hkey
      have hnodup := t'.keys_nodup
      rw [h, map_append, nodup_append] at hnodup
      exact hnodup.2.2 _ (mem_map_of_mem hr') _ mem_cons_self hk
    · simp only [Except.bind]
      rw [ih, rows_insertOrIgnore (by simpa using hkey), append_assoc, singleton_append]

/-- `INSERT … ON CONFLICT DO UPDATE`: the row replaces the one under its key. -/
def upsert (t : KeyedTable ρ key) (r : ρ) : KeyedTable ρ key := (t.delete (key r)).insertOrIgnore r

lemma hasKey_delete_self (t : KeyedTable ρ key) (k : κ) : (t.delete k).hasKey k = false := by
  rw [← Bool.not_eq_true, hasKey_delete]
  exact fun h => h.2 rfl

lemma find_upsert : (t.upsert r).find k = if key r = k then some r else t.find k := by
  unfold upsert
  rw [find_insertOrIgnore (hasKey_delete_self t _)]
  split_ifs with h
  · rfl
  · rw [find_delete, if_neg (Ne.symm h)]

lemma rows_upsert (t : KeyedTable ρ key) (r : ρ) : (t.upsert r).rows = (t.delete (key r)).rows ++ [r] :=
  rows_insertOrIgnore (hasKey_delete_self t _)

lemma mem_upsert : x ∈ (t.upsert r).rows ↔ x ∈ t.rows ∧ key x ≠ key r ∨ x = r := by
  rw [rows_upsert, mem_append, mem_delete, mem_singleton]

lemma upsert_upsert {r' : ρ} (h : key r' = key r) : (t.upsert r).upsert r' = t.upsert r' := by
  apply eq_of_rows_eq
  rw [rows_upsert, rows_upsert, h]
  simp [delete, rows_upsert]

/-! ### Writes under a condition -/

/-- `UPDATE … WHERE p`: the key of a row is never written. -/
def updateWhere (t : KeyedTable ρ key) (p : ρ → Prop) [DecidablePred p] (f : ρ → ρ)
    (hf : ∀ r, key (f r) = key r) : KeyedTable ρ key where
  rows := t.rows.map fun r => if p r then f r else r
  keys_nodup := by
    have hkey : (key ∘ fun r => if p r then f r else r) = key := by
      funext r
      simp only [Function.comp]
      split <;> simp [hf]
    rw [List.map_map, hkey]
    exact t.keys_nodup

lemma find_updateWhere [DecidablePred p] {f : ρ → ρ} (hf : ∀ r, key (f r) = key r) (k : κ) :
    (t.updateWhere p f hf).find k = (t.find k).map fun r => if p r then f r else r := by
  have hkey : ∀ r, key (if p r then f r else r) = key r := by
    intro r
    split <;> simp [hf]
  unfold find updateWhere
  rw [find?_map]
  have hcomp : ((fun r => decide (key r = k)) ∘ fun r => if p r then f r else r) = fun r => decide (key r = k) := by
    funext r
    simp only [Function.comp, hkey]
  rw [hcomp]

/-- `SELECT COUNT(*) … WHERE p`. -/
def count (t : KeyedTable ρ key) (p : ρ → Prop) [DecidablePred p] : ℕ := t.rows.countP p

omit [DecidableEq κ] in
lemma count_eq_zero [DecidablePred p] : t.count p = 0 ↔ ∀ r ∈ t.rows, ¬p r := by simp [count]

lemma count_eq_one_of_key [DecidablePred p] (hp : ∀ r, p r → key r = k) : t.count p = 1 ↔ ∃ r, t.find k = some r ∧ p r := by
  have hle : t.count p ≤ (t.rows.filter fun r => key r = k).length := by
    unfold count
    rw [countP_eq_length_filter]
    refine List.Sublist.length_le (monotone_filter_right _ ?_)
    intro r hr
    simpa using hp r (by simpa using hr)
  have hone : (t.rows.filter fun r => key r = k).length ≤ 1 := by
    have hnodup : ((t.rows.filter fun r => key r = k).map key).Nodup := t.keys_nodup.sublist (filter_sublist.map key)
    have hall : ∀ k' ∈ (t.rows.filter fun r => key r = k).map key, k' = k := by
      intro k' hk'
      obtain ⟨r, hr, rfl⟩ := mem_map.1 hk'
      simpa using (mem_filter.1 hr).2
    have hlen := eq_replicate_of_mem hall
    rw [hlen, nodup_replicate, length_map] at hnodup
    exact hnodup
  constructor
  · intro h
    have hpos : 0 < t.rows.countP p := by
      unfold count at h
      omega
    obtain ⟨r, hr, hpr⟩ := countP_pos_iff.1 hpos
    have hpr : p r := by simpa using hpr
    exact ⟨r, find_eq_some.2 ⟨hr, hp r hpr⟩, hpr⟩
  · rintro ⟨r, hr, hpr⟩
    have hpos : 0 < t.count p := countP_pos_iff.2 ⟨r, (find_eq_some.1 hr).1, by simpa using hpr⟩
    omega

/-- An `UPDATE … WHERE p` that must change one row; any other number of rows is the error `e`. -/
def updateOne (t : KeyedTable ρ key) (p : ρ → Prop) [DecidablePred p] (f : ρ → ρ)
    (hf : ∀ r, key (f r) = key r) (e : ε) : Except ε (KeyedTable ρ key) :=
  if t.count p = 1 then .ok (t.updateWhere p f hf) else .error e

omit [DecidableEq κ] in
@[simp] lemma updateOne_eq_ok {t' : KeyedTable ρ key} [DecidablePred p] {f : ρ → ρ} {hf : ∀ r, key (f r) = key r} {e : ε} :
    t.updateOne p f hf e = .ok t' ↔ t.count p = 1 ∧ t.updateWhere p f hf = t' := by
  unfold updateOne
  split <;> simp [*]

/-- `DELETE … WHERE p`. -/
def deleteWhere (t : KeyedTable ρ key) (p : ρ → Prop) [DecidablePred p] : KeyedTable ρ key where
  rows := t.rows.filter fun r => ¬p r
  keys_nodup := t.keys_nodup.sublist (List.filter_sublist.map key)

omit [DecidableEq κ] in
lemma mem_deleteWhere [DecidablePred p] : x ∈ (t.deleteWhere p).rows ↔ x ∈ t.rows ∧ ¬p x := by simp [deleteWhere]

end KeyedTable

end PeersTouch.Lib
