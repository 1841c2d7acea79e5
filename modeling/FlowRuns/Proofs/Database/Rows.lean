import Mathlib.Data.List.Forall2
import Mathlib.Data.List.Induction
import Mathlib.Data.List.Nodup
import FlowRuns.Database.Tables

/-!
# Rows under keys

A list of rows, each under a key. A row that is added takes the place of the one under its key, or is merged
into it, or is put at the end where there is none. So one row is kept under each key, and the keys stand in
the order in which they first appeared.

* `Rows.first`, `Rows.last` — the first and the last row under a key.
* `Rows.addKey` — keys in the order of their first appearance, with one more.
* `Rows.eraseDups_eq_foldl_addKey` — adding keys one by one leaves out repeated ones.
* `Rows.eq_of_first` — two lists with the same keys and the same row under each are the same.
* `Rows.perm_of_first` — and if only the order of the keys differs, so does only that of the rows.
* `Rows.last_of_forall₂` — rows that stand for others, one for one.
* `Rows.first_put`, `Rows.map_put` — what changes when a row takes the place of another: the row under its
  key. `Rows.first_foldl_put`, `Rows.map_foldl_put` — and when any number of rows do.
* `Tables.first_upsert`, `Tables.map_upsert` — what an added row changes: the row under its key.
-/

namespace FlowRuns

variable {ρ κ : Type} [DecidableEq κ]

namespace Rows

/-! ## The first and the last row under a key -/

/-- The first row under a key. -/
def first (key : ρ → κ) (k : κ) (rows : List ρ) : Option ρ := rows.find? fun r => key r = k

/-- The last row under a key. -/
def last (key : ρ → κ) (k : κ) (rows : List ρ) : Option ρ := rows.findRev? fun r => key r = k

variable {key : ρ → κ} {k : κ} {rows : List ρ} {r : ρ}

theorem first_cons : first key k (r :: rows) = if key r = k then some r else first key k rows := by
  rw [first, List.find?_cons, first]
  by_cases h : key r = k
  · simp only [h, decide_true, if_true]
  · simp only [h, decide_false, if_false]

theorem first_concat :
    first key k (rows ++ [r]) = (first key k rows).or (if key r = k then some r else none) := by
  rw [first, List.find?_append, List.find?_singleton, first]
  simp only [decide_eq_true_eq]

theorem last_eq_first_reverse : last key k rows = first key k rows.reverse :=
  List.findRev?_eq_find?_reverse

theorem last_concat :
    last key k (rows ++ [r]) = if key r = k then some r else last key k rows := by
  rw [last_eq_first_reverse, List.reverse_append, List.reverse_singleton, List.singleton_append,
    first_cons, last_eq_first_reverse]

theorem last_eq_getLast?_filter : last key k rows = (rows.filter fun r => key r = k).getLast? := by
  rw [last_eq_first_reverse, first, List.getLast?_filter]

theorem mem_of_first (h : first key k rows = some r) : r ∈ rows := List.mem_of_find?_eq_some h

theorem key_of_first (h : first key k rows = some r) : key r = k := by
  simpa only [decide_eq_true_eq] using List.find?_some h

theorem key_of_last (h : last key k rows = some r) : key r = k := by
  rw [last_eq_first_reverse] at h
  exact key_of_first h

theorem first_eq_none_iff : first key k rows = none ↔ k ∉ rows.map key := by
  simp only [first, List.find?_eq_none, decide_eq_true_eq, List.mem_map, not_exists, not_and]

theorem last_eq_none_iff : last key k rows = none ↔ k ∉ rows.map key := by
  rw [last_eq_first_reverse, first_eq_none_iff, List.map_reverse, List.mem_reverse]

theorem exists_first_of_last (h : last key k rows = some r) : ∃ r', first key k rows = some r' := by
  refine Option.ne_none_iff_exists'.1 fun hnone => ?_
  rw [last_eq_none_iff.2 (first_eq_none_iff.1 hnone)] at h
  cases h

/-- Changing rows under their keys changes the first row under a key. -/
theorem first_map {f : ρ → ρ} (hf : ∀ r, key (f r) = key r) :
    first key k (rows.map f) = (first key k rows).map f := by
  rw [first, List.find?_map]
  simp only [Function.comp_def, hf]
  rfl

/-- Where no two rows are under one key, every row is the first under its own. -/
theorem first_of_mem (hnodup : (rows.map key).Nodup) (h : r ∈ rows) :
    first key (key r) rows = some r := by
  induction rows with
  | nil => cases h
  | cons a rows ih =>
    rw [List.map_cons, List.nodup_cons] at hnodup
    obtain rfl | hmem := List.mem_cons.1 h
    · exact List.find?_cons_of_pos (decide_eq_true rfl)
    · have hne : key a ≠ key r := fun heq => hnodup.1 (heq ▸ List.mem_map_of_mem hmem)
      rw [first, List.find?_cons_of_neg (by simpa using hne)]
      exact ih hnodup.2 hmem

/-- Rows under the same keys, no two under one, are the same if they are the same under each key. -/
theorem eq_of_first {rows' : List ρ} (hkeys : rows.map key = rows'.map key)
    (hnodup : (rows.map key).Nodup) (h : ∀ k ∈ rows.map key, first key k rows = first key k rows') :
    rows = rows' := by
  have hlength : rows.length = rows'.length := by simpa using congrArg List.length hkeys
  refine List.ext_getElem hlength fun i hi hi' => ?_
  have hkey : key rows[i] = key rows'[i] := by
    have heq := List.getElem_of_eq hkeys (by rwa [List.length_map])
    rwa [List.getElem_map, List.getElem_map] at heq
  have heq := h (key rows[i]) (List.mem_map_of_mem (List.getElem_mem hi))
  rw [first_of_mem hnodup (List.getElem_mem hi), hkey,
    first_of_mem (hkeys ▸ hnodup) (List.getElem_mem hi')] at heq
  exact Option.some.inj heq

/-- Where no two rows are under one key, a row is there if it is the first under its own. -/
theorem mem_iff_first (hnodup : (rows.map key).Nodup) :
    r ∈ rows ↔ first key (key r) rows = some r :=
  ⟨first_of_mem hnodup, mem_of_first⟩

/-- Where no two rows are under one key, there is no other row under the key of the first one. -/
theorem filter_eq_toList_first (hnodup : (rows.map key).Nodup) :
    (rows.filter fun r => key r = k) = (first key k rows).toList := by
  induction rows with
  | nil => rfl
  | cons a rows ih =>
    rw [List.map_cons, List.nodup_cons] at hnodup
    rw [first_cons, List.filter_cons, ih hnodup.2]
    by_cases hk : key a = k
    · have hnone : first key k rows = none := first_eq_none_iff.2 (hk ▸ hnodup.1)
      simp only [hk, decide_true, if_true, hnone, Option.toList_none, Option.toList_some]
    · simp only [hk, decide_false, if_false, Bool.false_eq_true]

/-- Rows, no two under one key, are the same up to their order if they are the same under each key. -/
theorem perm_of_first {rows' : List ρ} (hnodup : (rows.map key).Nodup)
    (hnodup' : (rows'.map key).Nodup) (h : ∀ k, first key k rows = first key k rows') :
    rows.Perm rows' := by
  refine (List.perm_ext_iff_of_nodup (List.Nodup.of_map key hnodup)
    (List.Nodup.of_map key hnodup')).2 fun r => ?_
  rw [mem_iff_first hnodup, mem_iff_first hnodup', h]

/-! ## Rows for rows -/

section Related

variable {ρ' : Type} {key' : ρ' → κ} {R : ρ → ρ' → Prop} {rows' : List ρ'}

omit [DecidableEq κ] in
/-- Rows that stand for others, each under the key of the other, have the same keys in order. -/
theorem map_of_forall₂ (h : List.Forall₂ R rows rows') (hkey : ∀ r r', R r r' → key' r' = key r) :
    rows'.map key' = rows.map key := by
  induction h with
  | nil => rfl
  | cons hr _ ih => rw [List.map_cons, List.map_cons, ih, hkey _ _ hr]

theorem first_of_forall₂ (h : List.Forall₂ R rows rows') (hkey : ∀ r r', R r r' → key' r' = key r)
    (hfirst : first key k rows = some r) : ∃ r', first key' k rows' = some r' ∧ R r r' := by
  induction h with
  | nil => cases hfirst
  | @cons a a' rows rows' hr _ ih =>
    rw [first_cons] at hfirst ⊢
    rw [hkey a a' hr]
    split
    next hk =>
      rw [if_pos hk] at hfirst
      exact ⟨a', rfl, Option.some.inj hfirst ▸ hr⟩
    next hk =>
      rw [if_neg hk] at hfirst
      exact ih hfirst

/-- The last row under a key stands for the last one under it. -/
theorem last_of_forall₂ (h : List.Forall₂ R rows rows') (hkey : ∀ r r', R r r' → key' r' = key r)
    (hlast : last key k rows = some r) : ∃ r', last key' k rows' = some r' ∧ R r r' := by
  rw [last_eq_first_reverse] at hlast ⊢
  exact first_of_forall₂ (List.forall₂_reverse_iff.2 h) hkey hlast

end Related

/-! ## Keys in the order of their first appearance -/

/-- Keys with one more, which is put at the end unless it is there. -/
def addKey (keys : List κ) (k : κ) : List κ := if k ∈ keys then keys else keys ++ [k]

theorem nodup_addKey {keys : List κ} (h : keys.Nodup) : (addKey keys k).Nodup := by
  unfold addKey
  split
  · exact h
  next hk =>
    refine List.nodup_append.2 ⟨h, by simp, fun a ha b hb => ?_⟩
    rw [List.mem_singleton.1 hb]
    rintro rfl
    exact hk ha

theorem nodup_foldl_addKey {keys : List κ} (h : keys.Nodup) (ks : List κ) :
    (ks.foldl addKey keys).Nodup := by
  induction ks generalizing keys with
  | nil => exact h
  | cons k ks ih => exact ih (nodup_addKey h)

theorem mem_addKey {keys : List κ} {k' : κ} : k' ∈ addKey keys k ↔ k' ∈ keys ∨ k' = k := by
  unfold addKey
  split
  next h => exact ⟨.inl, fun hor => hor.elim (fun hk => hk) fun heq => heq ▸ h⟩
  next h => rw [List.mem_append, List.mem_singleton]

theorem mem_foldl_addKey {keys ks : List κ} : k ∈ ks.foldl addKey keys ↔ k ∈ keys ∨ k ∈ ks := by
  induction ks generalizing keys with
  | nil => simp
  | cons k' ks ih => rw [List.foldl_cons, ih, mem_addKey, List.mem_cons, or_assoc]

/-- Keys that are there already are not added. -/
theorem foldl_addKey_of_subset {keys ks : List κ} (h : ∀ k ∈ ks, k ∈ keys) :
    ks.foldl addKey keys = keys := by
  induction ks with
  | nil => rfl
  | cons k ks ih =>
    have hk : addKey keys k = keys := if_pos (h k List.mem_cons_self)
    rw [List.foldl_cons, hk]
    exact ih fun k' hk' => h k' (List.mem_cons_of_mem k hk')

/-- Keys in the order of their first appearance, each of them once. -/
theorem eraseDups_eq_foldl_addKey (ks : List κ) : ks.eraseDups = ks.foldl addKey [] := by
  induction ks using List.reverseRecOn with
  | nil => rfl
  | append_singleton ks k ih =>
    rw [List.eraseDups_append, List.foldl_append, List.foldl_cons, List.foldl_nil, ← ih, addKey,
      List.removeAll, List.filter_singleton]
    by_cases hk : k ∈ ks
    · simp [hk]
    · simp [hk, List.eraseDups_cons]

/-- Keys that are all different stand as they first appeared. -/
theorem foldl_addKey_of_nodup {ks : List κ} (h : ks.Nodup) : ks.foldl addKey [] = ks := by
  induction ks using List.reverseRecOn with
  | nil => rfl
  | append_singleton ks k ih =>
    obtain ⟨hks, -, hdisjoint⟩ := List.nodup_append.1 h
    have hk : k ∉ ks := fun hmem => hdisjoint k hmem k (List.mem_singleton_self k) rfl
    rw [List.foldl_append, ih hks, List.foldl_cons, List.foldl_nil, addKey, if_neg hk]

/-! ## Putting rows in place -/

/-- Puts a row in the place of the first one under its key, or at the end if there is none. -/
def put (key : ρ → κ) (new : ρ) : List ρ → List ρ
  | [] => [new]
  | r :: rows => if key r = key new then new :: rows else r :: put key new rows

variable {new : ρ} {news : List ρ}

theorem map_put : (put key new rows).map key = addKey (rows.map key) (key new) := by
  unfold addKey
  induction rows with
  | nil => rfl
  | cons r rows ih =>
    by_cases hr : key r = key new
    · simp [put, hr]
    · simp only [put, if_neg hr, List.map_cons, ih, List.mem_cons, Ne.symm hr, false_or]
      split
      · rfl
      · rfl

/-- The row under the key of the one that is put there is that one; all others are as they were. -/
theorem first_put :
    first key k (put key new rows) = if key new = k then some new else first key k rows := by
  induction rows with
  | nil => exact first_cons
  | cons r rows ih =>
    rw [put, first_cons]
    by_cases hr : key r = key new
    · rw [if_pos hr, first_cons, hr]
      split
      · rfl
      · rfl
    · rw [if_neg hr, first_cons, ih]
      by_cases hk : key r = k
      · rw [if_pos hk, if_pos hk, if_neg fun heq => hr (hk.trans heq.symm)]
      · rw [if_neg hk, if_neg hk]

/-- Keys stand in the order in which they first appeared. -/
theorem map_foldl_put : (news.foldl (fun rows r => put key r rows) rows).map key =
    (news.map key).foldl addKey (rows.map key) := by
  induction news generalizing rows with
  | nil => rfl
  | cons new news ih => rw [List.foldl_cons, ih, map_put, List.map_cons, List.foldl_cons]

/-- The row under a key is the one that was put there last, or the one that was there if none was. -/
theorem first_foldl_put : first key k (news.foldl (fun rows r => put key r rows) rows) =
    (last key k news).or (first key k rows) := by
  -- from the end, where the row stands that wins
  induction news using List.reverseRecOn with
  | nil => rfl
  | append_singleton news new ih =>
    rw [List.foldl_append, List.foldl_cons, List.foldl_nil, first_put, last_concat, ih]
    split
    · rfl
    · rfl

end Rows

/-! ## Adding a row to a table -/

namespace Tables

variable {key : ρ → κ} {merge : ρ → ρ → ρ} {new : ρ} {rows : List ρ}

theorem any_key_iff : (rows.any fun r => key r = key new) = true ↔ key new ∈ rows.map key := by
  simp only [List.any_eq_true, decide_eq_true_eq, List.mem_map]

theorem upsert_of_mem (h : key new ∈ rows.map key) :
    upsert key merge new rows = rows.map fun r => if key r = key new then merge new r else r :=
  if_pos (any_key_iff.2 h)

theorem upsert_of_not_mem (h : key new ∉ rows.map key) :
    upsert key merge new rows = rows ++ [new] :=
  if_neg (mt any_key_iff.1 h)

/-- A row that is merged with another keeps its key. -/
theorem key_merged (hmerge : ∀ old, key (merge new old) = key old) (r : ρ) :
    key (if key r = key new then merge new r else r) = key r := by
  split
  · exact hmerge r
  · rfl

theorem map_upsert (hmerge : ∀ old, key (merge new old) = key old) :
    (upsert key merge new rows).map key = Rows.addKey (rows.map key) (key new) := by
  unfold Rows.addKey
  by_cases h : key new ∈ rows.map key
  · rw [upsert_of_mem h, if_pos h, List.map_map]
    exact List.map_congr_left fun r _ => key_merged hmerge r
  · rw [upsert_of_not_mem h, if_neg h, List.map_append, List.map_singleton]

/-- The row under the key of an added one is merged with it, or is the added one itself; all others are as
they were. -/
theorem first_upsert (hmerge : ∀ old, key (merge new old) = key old) (k : κ) :
    Rows.first key k (upsert key merge new rows) =
      if key new = k then some (((Rows.first key k rows).map (merge new)).getD new)
      else Rows.first key k rows := by
  by_cases h : key new ∈ rows.map key
  · rw [upsert_of_mem h, Rows.first_map (key_merged hmerge)]
    rcases hfirst : Rows.first key k rows with _ | r
    · have hk : key new ≠ k := fun heq => Rows.first_eq_none_iff.1 hfirst (heq ▸ h)
      rw [if_neg hk]
      rfl
    · obtain rfl := Rows.key_of_first hfirst
      by_cases hk : key new = key r
      · simp only [hk, if_true, Option.map_some, Option.getD_some]
      · simp only [hk, Ne.symm hk, if_false, Option.map_some]
  · rw [upsert_of_not_mem h, Rows.first_concat]
    by_cases hk : key new = k
    · rw [if_pos hk, if_pos hk, Rows.first_eq_none_iff.2 (hk ▸ h)]
      rfl
    · rw [if_neg hk, if_neg hk, Option.or_none]

end Tables

end FlowRuns
