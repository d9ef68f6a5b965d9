import PeersTouch.Lib.KeyedTable

/-!
# Rows in order

`ORDER BY` on a list of rows: a stable sort by a key with a linear order.
-/

namespace PeersTouch.Lib

variable {α κ : Type} [LinearOrder κ]

def orderBy (key : α → κ) (rows : List α) : List α := rows.insertionSort fun r r' => key r ≤ key r'

@[simp] lemma mem_orderBy {key : α → κ} {rows : List α} {r : α} : r ∈ orderBy key rows ↔ r ∈ rows :=
  List.mem_insertionSort _

lemma perm_orderBy (key : α → κ) (rows : List α) : (orderBy key rows).Perm rows := List.perm_insertionSort _ rows

lemma pairwise_le_orderBy (key : α → κ) (rows : List α) : (orderBy key rows).Pairwise fun r r' => key r ≤ key r' := by
  exact List.pairwise_insertionSort _ rows

variable {rows : List α}

lemma pairwise_ne_orderBy {β : Type} {f : α → β} (h : (rows.map f).Nodup) (key : α → κ) :
    (orderBy key rows).Pairwise fun r r' => f r ≠ f r' :=
  List.pairwise_map.1 (((perm_orderBy key rows).map f).nodup_iff.2 h)

lemma find?_orderBy {ρ κ' : Type} [DecidableEq κ'] {key' : ρ → κ'} (t : KeyedTable ρ key') (key : ρ → κ) (k : κ') :
    (orderBy key t.rows).find? (fun r => key' r = k) = t.find k := by
  let t' : KeyedTable ρ key' :=
    { rows := orderBy key t.rows, keys_nodup := ((perm_orderBy key t.rows).map key').nodup_iff.2 t.keys_nodup }
  exact KeyedTable.find_congr (t := t') (fun r => mem_orderBy) k

end PeersTouch.Lib
