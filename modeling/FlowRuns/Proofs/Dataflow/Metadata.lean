import FlowRuns.Proofs.Dataflow.Snapshot
import FlowRuns.Proofs.Json.Records

/-!
# Metadata that holds a snapshot

The metadata of a dataflow may be any JSON value. Which of them hold a snapshot is said by their shape, and
reading finds a snapshot in just these. Writing makes one of them, and whatever stood there before is gone.

* `RunTimeStats.HeldBy` — **the values that hold a snapshot.**
* `RunTimeStats.decoder_eq_ok_iff` — they are the ones that are read as it.
* `Dataflow.metadata_faithful` — **writing and reading** a snapshot beside a dataflow.
-/

namespace FlowRuns

/-- Only an integer is read as a figure, and only that integer. -/
theorem Decoder.int64_eq_ok_iff {j : Json} {n : Int64} : int64 j = .ok n ↔ j = .int n.toInt := by
  constructor
  · intro h
    cases j with
    | int i =>
      rw [int64, integer] at h
      split at h
      next hrange =>
        obtain rfl := Except.ok.inj h
        rw [Int64.toInt_ofInt_of_le hrange.1 (Int.lt_add_one_of_le hrange.2)]
      next => cases h
    | _ => cases h
  · rintro rfl
    exact RunTimeStats.decoder_figure n

namespace RunTimeStats

/-- **A value holds a snapshot**: an object with the four figures under their keys, whatever else it has, or a
sequence of the four. -/
inductive HeldBy (s : RunTimeStats) : Json → Prop where
  /-- four of the entries -/
  | object {entries : List (String × Json)}
    (max : ("max_run_time", .int s.max.toInt) ∈ entries)
    (min : ("min_run_time", .int s.min.toInt) ∈ entries)
    (avg : ("avg_run_time", .int s.avg.toInt) ∈ entries)
    (weightedAvg : ("wt_avg_run_time", .int s.weightedAvg.toInt) ∈ entries) : HeldBy s (.object entries)
  /-- the elements, in the order of their declaration -/
  | array : HeldBy s
      (.array [.int s.max.toInt, .int s.min.toInt, .int s.avg.toInt, .int s.weightedAvg.toInt])

/-- Fields that stand for a snapshot. -/
structure Given (get : Record.Fields) (s : RunTimeStats) : Prop where
  /-- the longest run time -/
  max : get "max_run_time" 0 = some (.int s.max.toInt)
  /-- the shortest -/
  min : get "min_run_time" 1 = some (.int s.min.toInt)
  /-- the mean -/
  avg : get "avg_run_time" 2 = some (.int s.avg.toInt)
  /-- the mean weighted by date -/
  weightedAvg : get "wt_avg_run_time" 3 = some (.int s.weightedAvg.toInt)

/-- The four fields of a snapshot. -/
theorem means_record : record.Means 4 Given := by
  have hfields := ((((Record.means_required "max_run_time" Decoder.int64).map
    (f := RunTimes.mk)).seq
    (Record.means_required "min_run_time" Decoder.int64)).seq
    (Record.means_required "avg_run_time" Decoder.int64)).seq
    (Record.means_required "wt_avg_run_time" Decoder.int64)
  refine hfields.congr fun get s => ?_
  simp only [Decoder.int64_eq_ok_iff]
  constructor
  · rintro ⟨_, _, ⟨_, _, ⟨_, _, ⟨_, ⟨_, hmax, rfl⟩, rfl⟩, ⟨_, hmin, rfl⟩, rfl⟩, ⟨_, havg, rfl⟩, rfl⟩,
      ⟨_, hweighted, rfl⟩, rfl⟩
    exact ⟨hmax, hmin, havg, hweighted⟩
  · intro h
    exact ⟨_, _, ⟨_, _, ⟨_, _, ⟨_, ⟨_, h.max, rfl⟩, rfl⟩, ⟨_, h.min, rfl⟩, rfl⟩, ⟨_, h.avg, rfl⟩, rfl⟩,
      ⟨_, h.weightedAvg, rfl⟩, rfl⟩

end RunTimeStats

/-- What is found under a key of an object in order is the value of the entry with that key. -/
theorem Json.lookup_eq_some_iff_mem {es : List (String × Json)} (h : Ascending es) {key : String}
    {value : Json} : es.lookup key = some value ↔ (key, value) ∈ es := by
  refine ⟨fun hlookup => ?_, fun hmem => lookup_of_mem h hmem⟩
  obtain ⟨before, after, rfl, -⟩ := List.lookup_eq_some_iff.1 hlookup
  exact List.mem_append_right before List.mem_cons_self

namespace RunTimeStats

/-- Four fields that are found in a sequence of at most four elements are its elements. -/
theorem given_array_iff {es : List Json} {s : RunTimeStats} :
    es.length ≤ 4 ∧ Given (Json.array es).field? s ↔
      es = [.int s.max.toInt, .int s.min.toInt, .int s.avg.toInt, .int s.weightedAvg.toInt] := by
  constructor
  · rintro ⟨hlength, hmax, hmin, havg, hweighted⟩
    match es with
    | [a, b, c, d] =>
      obtain rfl := Option.some.inj hmax
      obtain rfl := Option.some.inj hmin
      obtain rfl := Option.some.inj havg
      obtain rfl := Option.some.inj hweighted
      rfl
    | [] => cases hmax
    | [_] => cases hmin
    | [_, _] => cases havg
    | [_, _, _] => cases hweighted
    | _ :: _ :: _ :: _ :: _ :: _ => exact absurd hlength (by simp)
  · rintro rfl
    exact ⟨Nat.le_refl 4, rfl, rfl, rfl, rfl⟩

/-- **The values that are read as a snapshot** are those that hold it. -/
theorem decoder_eq_ok_iff {j : Json} (hj : j.Ordered) {s : RunTimeStats} :
    decoder j = .ok s ↔ s.HeldBy j := by
  refine (means_record.decoder_eq_ok_iff hj).trans ?_
  cases hj with
  | @object entries keys values =>
    have hfield (key : String) (position : Nat) (value : Json) :
        (Json.object entries).field? key position = some value ↔ (key, value) ∈ entries :=
      Json.lookup_eq_some_iff_mem keys
    constructor
    · rintro ⟨-, h⟩
      exact .object ((hfield _ _ _).1 h.max) ((hfield _ _ _).1 h.min) ((hfield _ _ _).1 h.avg)
        ((hfield _ _ _).1 h.weightedAvg)
    · intro h
      cases h with
      | object max min avg weightedAvg =>
        exact ⟨trivial, (hfield _ _ _).2 max, (hfield _ _ _).2 min, (hfield _ _ _).2 avg,
          (hfield _ _ _).2 weightedAvg⟩
  | array =>
    refine given_array_iff.trans ⟨?_, ?_⟩
    · rintro rfl
      exact .array
    · intro h
      cases h
      rfl
  | _ => exact ⟨fun h => h.1.elim, nofun⟩

end RunTimeStats

namespace Dataflow

/-- A snapshot is found beside a dataflow exactly if the metadata hold it. -/
theorem runTimeStats?_eq_some_iff {d : Dataflow} {j : Json} (hj : j.Ordered)
    (hd : d.metadata = some j) {s : RunTimeStats} : d.runTimeStats? = some s ↔ s.HeldBy j := by
  rw [← RunTimeStats.decoder_eq_ok_iff hj, runTimeStats?, hd]
  dsimp only
  cases RunTimeStats.decoder j <;> simp [Except.toOption]

/-- **Metadata are a faithful place for a snapshot.** Any four 64-bit figures can be put beside a dataflow:
nothing but the metadata changes, they are found there again, and of what the metadata held before nothing is
left. And a snapshot is found in metadata, whatever value they are, exactly if that value holds it: it is
an object with the four figures as integers under their keys, or a sequence of just these. In every other
value, and if there is none, no snapshot is found. -/
theorem metadata_faithful (d : Dataflow) :
    (∀ s : RunTimeStats, { d.withRunTimeStats s with metadata := d.metadata } = d ∧
      (d.withRunTimeStats s).runTimeStats? = some s ∧
      ∀ earlier : Option Json, { d with metadata := earlier }.withRunTimeStats s = d.withRunTimeStats s) ∧
    (∀ s₁ s : RunTimeStats, (d.withRunTimeStats s₁).withRunTimeStats s = d.withRunTimeStats s) ∧
    (∀ j : Json, j.Ordered →
      (∀ s, { d with metadata := some j }.runTimeStats? = some s ↔ s.HeldBy j) ∧
      ({ d with metadata := some j }.runTimeStats? = none ↔ ∀ s, ¬ RunTimeStats.HeldBy s j)) ∧
    { d with metadata := none }.runTimeStats? = none := by
  refine ⟨fun s => ⟨rfl, runTimeStats?_withRunTimeStats d s, fun _ => rfl⟩, fun _ _ => rfl,
    fun j hj => ?_, rfl⟩
  have hsome (s : RunTimeStats) : { d with metadata := some j }.runTimeStats? = some s ↔ s.HeldBy j :=
    runTimeStats?_eq_some_iff hj rfl
  refine ⟨hsome, ?_⟩
  rw [Option.eq_none_iff_forall_ne_some]
  exact forall_congr' fun s => not_congr (hsome s)

/-- An entry that is none of the four does not matter, and the greatest and the least figure are read; a figure
one greater is not. -/
theorem metadata_faithful_foreignEntry :
    let d : Dataflow := ⟨1, "flow", "dep", "flow-deployment", none, "orchestrate", some (.string "old")⟩
    let s : RunTimeStats := ⟨Int64.maxValue, Int64.minValue, -1, 0⟩
    let metadata (longest : Int) : Json := .object [("avg_run_time", .int (-1)),
      ("max_run_time", .int longest), ("min_run_time", .int (-9223372036854775808)),
      ("owner", .string "data-team"), ("wt_avg_run_time", .int 0)]
    (∀ longest, (metadata longest).Ordered) ∧
      (d.withRunTimeStats s).runTimeStats? = some s ∧
      { d with metadata := some (metadata 9223372036854775807) }.runTimeStats? = some s ∧
      { d with metadata := some (metadata 9223372036854775808) }.runTimeStats? = none := by
  intro d s metadata
  have hordered (longest : Int) : (metadata longest).Ordered := by
    refine .object ?_ ?_
    · have hkeys : ["avg_run_time", "max_run_time", "min_run_time", "owner", "wt_avg_run_time"].Pairwise
          (· < ·) := by decide +kernel
      exact List.pairwise_map.1 hkeys
    · simp only [List.forall_mem_cons]
      exact ⟨.int _, .int _, .int _, .string _, .int _, nofun⟩
  obtain ⟨hwritten, -, hread, -⟩ := metadata_faithful d
  refine ⟨hordered, (hwritten s).2.1, ((hread _ (hordered _)).1 s).2 ?_, (hread _ (hordered _)).2.2 ?_⟩
  · obtain ⟨hmax, hmin, havg, hweighted⟩ : s.max.toInt = 9223372036854775807 ∧
        s.min.toInt = -9223372036854775808 ∧ s.avg.toInt = -1 ∧ s.weightedAvg.toInt = 0 := by decide
    exact .object (by simp [hmax]) (by simp [hmin]) (by simp [havg])
      (by simp [hweighted])
  · intro t ht
    have hlongest : t.max.toInt = 9223372036854775808 := by
      cases ht with
      | object max => simpa [metadata] using max
    have hmost := Int64.toInt_le t.max
    have hgreatest : Int64.maxValue.toInt = 9223372036854775807 := by decide
    omega

end Dataflow

end FlowRuns
