import Mathlib.Data.List.Induction
import FlowRuns.Dataflow.Store
import FlowRuns.Proofs.Database.Rows

/-!
# Saving dataflows

A dataflow is saved for its metadata: what else is stored for its deployment was read some time ago and may
have changed since. The table keeps to that. A row, once it is there, changes in its metadata only, so a
copy may be saved however old it is. In memory the dataflow that is saved takes the place of the stored one
as a whole.

* `Dataflow.description` — a dataflow but for its number and its metadata.
* `DataflowTable.row?_save`, `MemoryDataflows.get?_save` — what one save changes.
* `MetadataSaved` — what is stored is described as it was first, with the metadata that came last.
* `saves_metadata_iff` — the table and the store in memory after any saves.
-/

namespace FlowRuns

/-- A dataflow but for its number and its metadata. -/
def Dataflow.description (d : Dataflow) : NewDataflow :=
  ⟨d.name, d.deploymentId, d.deploymentName, d.cron, d.dataflowType⟩

/-- After saves from nothing on, what is stored for a deployment is described as in the first save and has
the metadata of the last one. -/
structure MetadataSaved (saves : List Dataflow) (id : String) (stored : Option Dataflow) : Prop where
  /-- it is described as in the first save -/
  description : stored.map Dataflow.description =
    (Rows.first Dataflow.deploymentId id saves).map Dataflow.description
  /-- it has the metadata of the last save -/
  metadata : stored.map Dataflow.metadata =
    (Rows.last Dataflow.deploymentId id saves).map Dataflow.metadata

/-- The last save for a deployment describes the dataflow as the first one did. -/
def DescriptionKept (saves : List Dataflow) (id : String) : Prop :=
  (Rows.last Dataflow.deploymentId id saves).map Dataflow.description =
    (Rows.first Dataflow.deploymentId id saves).map Dataflow.description

instance (saves : List Dataflow) (id : String) : Decidable (DescriptionKept saves id) :=
  inferInstanceAs (Decidable (_ = _))

/-! ## In the table -/

namespace DataflowTable

variable {t : DataflowTable} {d row : Dataflow} {id : String} {saves : List Dataflow}

theorem merge_eq (new old : Dataflow) : merge new old = { old with metadata := new.metadata } := rfl

/-- A dataflow under the number that is drawn for its row. -/
abbrev numbered (t : DataflowTable) (d : Dataflow) : Dataflow :=
  { d with dataflowId := Int64.ofNat (t.drawn + 1) }

/-- The row of the deployment takes over the metadata, or it is added. -/
theorem row?_save : (t.save d).row? id =
    if d.deploymentId = id then some (((t.row? id).map (merge (t.numbered d))).getD (t.numbered d))
    else t.row? id :=
  Tables.first_upsert (fun _ => rfl) id

/-- **A row that is there** changes in its metadata only, whatever copy of it is saved. -/
theorem row?_save_of_some (h : t.row? id = some row) : (t.save d).row? id =
    some { row with metadata := if d.deploymentId = id then d.metadata else row.metadata } := by
  rw [row?_save, h, Option.map_some, Option.getD_some, merge_eq]
  split
  · rfl
  · rfl

/-- **One save**. -/
theorem metadataSaved_save (h : MetadataSaved saves id (t.row? id)) :
    MetadataSaved (saves ++ [d]) id ((t.save d).row? id) := by
  obtain ⟨hdescription, hmetadata⟩ := h
  rcases hrow : t.row? id with _ | row
  · -- the first save for the deployment, if it is one at all
    rw [hrow] at hdescription hmetadata
    have hfirst := Option.map_eq_none_iff.1 hdescription.symm
    have hlast := Option.map_eq_none_iff.1 hmetadata.symm
    rw [row?_save, hrow]
    refine ⟨?_, ?_⟩
    · rw [Rows.first_concat, hfirst, Option.none_or]
      split
      · rfl
      · rfl
    · rw [Rows.last_concat, hlast]
      split
      · rfl
      · rfl
  · rw [hrow, Option.map_some] at hdescription hmetadata
    obtain ⟨first, hfirst, hsame⟩ := Option.map_eq_some_iff.1 hdescription.symm
    rw [row?_save_of_some hrow]
    refine ⟨?_, ?_⟩
    · rw [Rows.first_concat, hfirst, Option.some_or, Option.map_some, Option.map_some, hsame]
      rfl
    · rw [Rows.last_concat, Option.map_some]
      split
      · rfl
      · exact hmetadata

/-- **Any number of saves**. -/
theorem metadataSaved_foldl : MetadataSaved saves id ((saves.foldl save empty).row? id) := by
  induction saves using List.reverseRecOn with
  | nil => exact ⟨rfl, rfl⟩
  | append_singleton saves d ih =>
    rw [List.foldl_append]
    exact metadataSaved_save ih

end DataflowTable

/-! ## In memory -/

namespace MemoryDataflows

variable {s : MemoryDataflows} {d : Dataflow} {id : String} {saves : List Dataflow}

theorem putEntry_eq_put (entries : List (String × Dataflow)) :
    putEntry d entries = Rows.put Prod.fst (d.deploymentId, d) entries := by
  induction entries with
  | nil => rfl
  | cons entry entries ih =>
    obtain ⟨k, e⟩ := entry
    rw [putEntry, Rows.put, ih]
    by_cases hk : k = d.deploymentId
    · rw [if_pos hk, if_pos hk, hk]
    · rw [if_neg hk, if_neg hk]

theorem lookup_eq_first (entries : List (String × Dataflow)) :
    entries.lookup id = (Rows.first Prod.fst id entries).map Prod.snd := by
  induction entries with
  | nil => rfl
  | cons entry entries ih =>
    obtain ⟨k, e⟩ := entry
    rw [List.lookup_cons, Rows.first_cons, ih]
    by_cases h : k = id
    · rw [if_pos h, h, beq_self_eq_true]
      rfl
    · rw [if_neg h, beq_false_of_ne (Ne.symm h)]

/-- **One save**: the dataflow of the deployment is replaced, or it is added. -/
theorem get?_save : (s.save d).get? id = if d.deploymentId = id then some d else s.get? id := by
  rw [get?, get?, lookup_eq_first, lookup_eq_first, save, putEntry_eq_put, Rows.first_put]
  split
  · rfl
  · rfl

/-- **Any number of saves**: what is stored is the dataflow that was saved last. -/
theorem get?_foldl_save :
    (saves.foldl save empty).get? id = Rows.last Dataflow.deploymentId id saves := by
  induction saves using List.reverseRecOn with
  | nil => rfl
  | append_singleton saves d ih =>
    rw [List.foldl_append, Rows.last_concat, ← ih]
    exact get?_save

end MemoryDataflows

/-! ## The two beside each other -/

/-- **What saves leave behind.** In the table stands, for every deployment, the dataflow as it was described
first, with the metadata that was saved last, and no save changes more of a row than its metadata. In memory
stands the dataflow that was saved last as a whole. It is described as it was first exactly if the last save
described it so. -/
theorem saves_metadata_iff (saves : List Dataflow) (id : String) :
    let table := saves.foldl DataflowTable.save .empty
    let memory := saves.foldl MemoryDataflows.save .empty
    MetadataSaved saves id (table.row? id) ∧
    (∀ (t : DataflowTable) row d, t.row? id = some row → (t.save d).row? id =
      some { row with metadata := if d.deploymentId = id then d.metadata else row.metadata }) ∧
    memory.get? id = Rows.last Dataflow.deploymentId id saves ∧
    (MetadataSaved saves id (memory.get? id) ↔ DescriptionKept saves id) := by
  intro table memory
  have hmemory : memory.get? id = Rows.last Dataflow.deploymentId id saves :=
    MemoryDataflows.get?_foldl_save
  refine ⟨DataflowTable.metadataSaved_foldl, fun t row d h => DataflowTable.row?_save_of_some h,
    hmemory, ?_⟩
  rw [hmemory]
  exact ⟨fun h => h.description, fun h => ⟨h, rfl⟩⟩

/-- A dataflow that is saved again with metadata and described as before: memory holds what it should. A copy
under another name that is saved after that leaves the row in the table as it is, but for the metadata. -/
theorem saves_metadata_iff_refreshed :
    let d : Dataflow := { (default : Dataflow) with name := "daily", deploymentId := "dep" }
    let refreshed : Dataflow := { d with metadata := some (.string "stats") }
    let copy : Dataflow := { d with name := "nightly" }
    let table := [d, refreshed].foldl DataflowTable.save .empty
    let memory := [d, refreshed].foldl MemoryDataflows.save .empty
    DescriptionKept [d, refreshed] "dep" ∧ MetadataSaved [d, refreshed] "dep" (memory.get? "dep") ∧
      table.row? "dep" = some { refreshed with dataflowId := 1 } ∧
      (table.save copy).row? "dep" = some { d with dataflowId := 1 } := by
  intro d refreshed copy table memory
  have hkept : DescriptionKept [d, refreshed] "dep" := by decide
  have hrow : table.row? "dep" = some { refreshed with dataflowId := 1 } := rfl
  obtain ⟨-, hsave, -, hmemory⟩ := saves_metadata_iff [d, refreshed] "dep"
  exact ⟨hkept, hmemory.2 hkept, hrow, hsave table _ copy hrow⟩

/-- A copy under another name that is saved with metadata: in the table the name stays as it was first
saved, in memory it is that of the copy. -/
theorem not_metadataSaved_copy :
    let d : Dataflow := { (default : Dataflow) with name := "daily", deploymentId := "dep" }
    let copy : Dataflow := { d with name := "nightly", metadata := some (.string "stats") }
    let table := [d, copy].foldl DataflowTable.save .empty
    let memory := [d, copy].foldl MemoryDataflows.save .empty
    MetadataSaved [d, copy] "dep" (table.row? "dep") ∧
      ¬ MetadataSaved [d, copy] "dep" (memory.get? "dep") := by
  intro d copy table memory
  refine ⟨⟨by decide, rfl⟩, fun h => ?_⟩
  exact absurd h.description (by decide)

end FlowRuns
