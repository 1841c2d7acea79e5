import FlowRuns.Proofs.History.Latest
import FlowRuns.Proofs.Stats.Rerecording
import FlowRuns.Proofs.Stats.AtomicUpdate
import FlowRuns.Proofs.Stats.WeightedMean
import FlowRuns.Proxy.Client

/-!
# The snapshot over no runs

Callers tell a snapshot from the one over no runs by its figures alone. A computed snapshot has these figures
too if every run that was considered took more than minus two seconds and at most minus one, which nothing but
the database rules out. In every other case the figures tell whether there were runs, and so whether a save was
asked for.

* `Binary64.ceilInt64_eq_noRunsFigure_iff`, `Run.LooksLikeNone` — the durations that are rounded up to the
  figure of no runs.
* `hasRuns_iff_of_computed` — the snapshots of some runs.
* `StatsService.SentinelUnambiguous` — what callers rely on.
* `StatsService.sentinelUnambiguous_iff` — **when they can.**
-/

namespace FlowRuns

/-! ## Durations -/

/-- A finite number is rounded up to the figure of no runs if it is more than minus two and at most minus
one. -/
theorem Binary64.ceilInt64_eq_noRunsFigure_iff {x : Binary64} (h : x.isFinite = true) :
    x.ceilInt64 = noRunsFigure ↔ -2 < x.toRat ∧ x.toRat ≤ -1 := by
  have hsaturate (i : Int) :
      saturate Int64.minValue.toInt Int64.maxValue.toInt i = -1 ↔ i = -1 := by
    have hmin : Int64.minValue.toInt = -9223372036854775808 := rfl
    have hmax : Int64.maxValue.toInt = 9223372036854775807 := rfl
    rw [hmin, hmax, saturate]
    repeat' split
    all_goals omega
  have hfigure : noRunsFigure.toInt = -1 := rfl
  rw [← Int64.toInt_inj, toInt_ceilInt64_of_isFinite h, hfigure, hsaturate, Int.ceil_eq_iff]
  norm_num

/-- A run whose duration is rounded up to the figure of no runs. -/
def Run.LooksLikeNone (r : Run) : Prop := -2 < r.totalRunTime.toRat ∧ r.totalRunTime.toRat ≤ -1

/-! ## Snapshots -/

section Snapshot

variable {runs : List Run} {s : RunTimeStats}

/-- Rounded up, every duration stands between the extremes of the snapshot. -/
theorem ceilInt64_between_extremes (h : computeRunTimeStats? runs = some s) {r : Run} (hr : r ∈ runs)
    (hnum : r.totalRunTime.isNaN = false) :
    s.min ≤ r.totalRunTime.ceilInt64 ∧ r.totalRunTime.ceilInt64 ≤ s.max := by
  have hmem : r.totalRunTime ∈ (runs.map Run.sample).map Prod.snd :=
    List.mem_map_of_mem (f := Prod.snd) (List.mem_map_of_mem hr)
  obtain ⟨hmax, hmin⟩ := Stats.extremes_of_computed (List.ne_nil_of_mem hr) h
  obtain ⟨hlow, hhigh⟩ := Stats.position_between_extremes hmem hnum
  rw [hmax, hmin]
  exact ⟨Binary64.ceilInt64_mono hlow, Binary64.ceilInt64_mono hhigh⟩

/-- The extremes of a snapshot are the durations of two of the runs, rounded up. -/
theorem extremes_mem (hne : runs ≠ []) (hfinite : ∀ r ∈ runs, r.totalRunTime.isFinite = true)
    (h : computeRunTimeStats? runs = some s) :
    (∃ r ∈ runs, r.totalRunTime.ceilInt64 = s.max) ∧ ∃ r ∈ runs, r.totalRunTime.ceilInt64 = s.min := by
  have hexact : (runs.map Run.exactSample).map Prod.snd ≠ [] :=
    mt List.map_eq_nil_iff.1 (mt List.map_eq_nil_iff.1 hne)
  have hrange : ∀ x ∈ (runs.map Run.exactSample).map Prod.snd,
      -Rat.largestBinary64 ≤ x ∧ x ≤ Rat.largestBinary64 := by
    simp only [List.map_map, List.forall_mem_map, Function.comp_apply, Run.exactSample]
    exact fun r _ => r.totalRunTime.toRat_bounds
  have hsame {x : Binary64} (hx : x.isFinite = true)
      (hmem : x.toRat ∈ (runs.map Run.exactSample).map Prod.snd) :
      ∃ r ∈ runs, r.totalRunTime.ceilInt64 = x.ceilInt64 := by
    obtain ⟨sample, hsample, heq⟩ := List.mem_map.1 hmem
    obtain ⟨r, hr, rfl⟩ := List.mem_map.1 hsample
    refine ⟨r, hr, ?_⟩
    rw [Stats.ceilInt64_eq_ofInt (hfinite r hr), Stats.ceilInt64_eq_ofInt hx, ← heq]
    rfl
  obtain ⟨⟨hmaxFinite, hmax⟩, hminFinite, hmin⟩ := Stats.extremes_exactSample hfinite
  obtain ⟨hsmax, hsmin⟩ := Stats.extremes_of_computed hne h
  rw [hsmax, hsmin]
  refine ⟨hsame hmaxFinite ?_, hsame hminFinite ?_⟩
  · rw [hmax]
    exact (Stats.isGreatest_longest hexact fun x hx => (hrange x hx).1).1
  · rw [hmin]
    exact (Stats.isLeast_shortest hexact fun x hx => (hrange x hx).2).1

/-- The means of a snapshot stand between its extremes. -/
theorem means_between_extremes (hne : runs ≠ []) (hlen : runs.length < UInt64.size)
    (hfinite : ∀ r ∈ runs, r.totalRunTime.isFinite = true) (h : computeRunTimeStats? runs = some s) :
    (s.min ≤ s.avg ∧ s.avg ≤ s.max) ∧ s.min ≤ s.weightedAvg ∧ s.weightedAvg ≤ s.max := by
  have hnum : ∀ d ∈ (runs.map Run.sample).map Prod.snd, d.isNaN = false := by
    simp only [List.map_map, List.forall_mem_map]
    exact fun r hr => Binary64.isNaN_of_isFinite (hfinite r hr)
  obtain ⟨t, ht, hal, hah, hwl, hwh⟩ := Stats.figures_between_extremes
    (mt List.map_eq_nil_iff.1 hne) (by rwa [List.length_map]) hnum
  rw [computeRunTimeStats?, if_neg (by simpa using hne), ht] at h
  obtain rfl := Option.some.inj h
  exact ⟨⟨Binary64.ceilInt64_mono hal, Binary64.ceilInt64_mono hah⟩, Binary64.ceilInt64_mono hwl,
    Binary64.ceilInt64_mono hwh⟩

/-- **A snapshot of some runs** has the figures of none exactly if the duration of every run is rounded up to
such a figure. -/
theorem hasRuns_iff_of_computed (hne : runs ≠ []) (hlen : runs.length < UInt64.size)
    (hfinite : ∀ r ∈ runs, r.totalRunTime.isFinite = true) (h : computeRunTimeStats? runs = some s) :
    s.hasRuns = true ↔ ∃ r ∈ runs, ¬ r.LooksLikeNone := by
  have hlooks {r : Run} (hr : r ∈ runs) : r.LooksLikeNone ↔ r.totalRunTime.ceilInt64 = noRunsFigure :=
    (Binary64.ceilInt64_eq_noRunsFigure_iff (hfinite r hr)).symm
  have hnone : s = .noRuns ↔ ∀ r ∈ runs, r.LooksLikeNone := by
    constructor
    · rintro rfl r hr
      obtain ⟨hlow, hhigh⟩ :=
        ceilInt64_between_extremes h hr (Binary64.isNaN_of_isFinite (hfinite r hr))
      exact (hlooks hr).2 (Int64.le_antisymm hhigh hlow)
    · intro hall
      obtain ⟨⟨r, hr, hmax⟩, r', hr', hmin⟩ := extremes_mem hne hfinite h
      obtain ⟨⟨hal, hah⟩, hwl, hwh⟩ := means_between_extremes hne hlen hfinite h
      rw [(hlooks hr).1 (hall r hr)] at hmax
      rw [(hlooks hr').1 (hall r' hr')] at hmin
      have havg : s.avg = noRunsFigure := Int64.le_antisymm (hmax ▸ hah) (hmin ▸ hal)
      have hweighted : s.weightedAvg = noRunsFigure := Int64.le_antisymm (hmax ▸ hwh) (hmin ▸ hwl)
      calc s = ⟨s.max, s.min, s.avg, s.weightedAvg⟩ := rfl
        _ = .noRuns := by
          rw [← hmax, ← hmin, havg, hweighted]
          rfl
  rw [RunTimeStats.hasRuns, bne_iff_ne, Ne, hnone]
  simp only [not_forall, exists_prop]

end Snapshot

/-! ## Queries -/

/-- A query with room for a run gets none only if it admits none. -/
theorem MemoryHistory.latest_ne_nil_iff {h : MemoryHistory} {q : HistoryQuery} (hlimit : q.limit ≠ 0) :
    h.latest q ≠ [] ↔ ∃ r ∈ h.runs, q.admits r = true := by
  have hroom : q.limit.toNat ≠ 0 := fun h0 => hlimit (UInt32.toNat_inj.1 h0)
  constructor
  · intro hne
    obtain ⟨r, hr⟩ := List.exists_mem_of_ne_nil _ hne
    exact ⟨r, mem_of_mem_latest hr⟩
  · rintro ⟨r, hr, hadmits⟩ hnil
    have hmem : r ∈ h.admitted q := admitted_perm.mem_iff.2 (List.mem_filter.2 ⟨hr, hadmits⟩)
    have hnone : h.admitted q = [] := (List.take_eq_nil_iff.1 hnil).resolve_left hroom
    rw [hnone] at hmem
    cases hmem

theorem MemoryHistory.length_latest_lt (h : MemoryHistory) (q : HistoryQuery) :
    (h.latest q).length < UInt64.size := by
  have hle : (h.latest q).length ≤ q.limit.toNat := List.length_take_le _ _
  have hlimit := q.limit.toNat_lt
  simp only [UInt64.size]
  omega

/-! ## Computations -/

namespace StatsService

variable {σ : Type} (store : (r : dataflowPeer.Request) → σ → dataflowPeer.Answer r × σ) (w : σ)
  (h : MemoryHistory) (d : Dataflow) (o : StatsOptions)

/-- A computation in the place of a dataflow, against a history in memory and any store of dataflows. -/
abbrev computation : Program.Outcome ((MemoryHistory × σ) × List storesPeer.Request)
    (Except Failure RunTimeStats × Dataflow) :=
  leaves (serveMemory store) (h, w) d o

/-- Some run of the history is one that the computation asks for. -/
def SomeRunMatches : Prop := ∃ r ∈ h.runs, (queryOf d o).admits r = true

/-- The store was asked for a save. -/
def SaveAsked (asked : List storesPeer.Request) : Prop := ∃ d', .inr (.save d') ∈ asked

/-- **What callers rely on**: statistics that a computation gives have runs exactly if some run matched, and
exactly if the store was asked for a save. -/
def SentinelUnambiguous : Prop :=
  ∀ stats, (computation store w h d o).result.1 = .ok stats →
    (stats.hasRuns = true ↔ SomeRunMatches h d o) ∧
      (stats.hasRuns = true ↔ SaveAsked (computation store w h d o).state.2)

variable {store w h d o}

theorem not_saveAsked_query (r : HistoryRequest) : ¬ SaveAsked [.inl r] := by
  rintro ⟨d', hd'⟩
  cases List.mem_singleton.1 hd'

theorem saveAsked_save (r : HistoryRequest) (d' : Dataflow) : SaveAsked [.inl r, .inr (.save d')] :=
  ⟨d', List.mem_cons_of_mem _ List.mem_cons_self⟩

/-- **How a computation has come to statistics**: no run was considered, and no save was asked for; or they
are those of the runs that were considered, and a save was asked for. -/
theorem computation_ok {stats : RunTimeStats} (hok : (computation store w h d o).result.1 = .ok stats) :
    Acceptable d o ∧
      (h.latest (queryOf d o) = [] ∧ stats = .noRuns ∧
          ¬ SaveAsked (computation store w h d o).state.2 ∨
        h.latest (queryOf d o) ≠ [] ∧ computeRunTimeStats? (h.latest (queryOf d o)) = some stats ∧
          SaveAsked (computation store w h d o).state.2) := by
  by_cases hacceptable : Acceptable d o
  · refine ⟨hacceptable, ?_⟩
    by_cases hruns : h.latest (queryOf d o) = []
    · have hquery : serveMemory store (.inl (.latest (queryOf d o))) (h, w) =
          (Except.ok [], (h, w)) := by rw [← hruns]; rfl
      rw [computation, leaves_of_no_runs hacceptable hquery] at hok ⊢
      exact .inl ⟨hruns, (Except.ok.inj hok).symm, not_saveAsked_query _⟩
    · have hquery : serveMemory store (.inl (.latest (queryOf d o))) (h, w) =
          (Except.ok (h.latest (queryOf d o)), (h, w)) := rfl
      cases hstats : computeRunTimeStats? (h.latest (queryOf d o)) with
      | none =>
        have hnan := (computeRunTimeStats_eq_none_iff hruns).1 hstats
        rw [computation, leaves_of_no_numbers hacceptable hruns hquery hnan] at hok
        cases hok
      | some s =>
        rcases hsave : serveMemory store (.inr (.save (d.withRunTimeStats s))) (h, w) with ⟨saved, s₂⟩
        cases (saved : Except FlowError Unit) with
        | error e =>
          rw [computation, leaves_of_failed_save hacceptable hruns hquery hstats hsave] at hok
          cases hok
        | ok u =>
          rw [computation, leaves_of_save hacceptable hruns hquery hstats hsave] at hok ⊢
          exact .inr ⟨hruns, congrArg some (Except.ok.inj hok), saveAsked_save _ _⟩
  · obtain ⟨v, hv⟩ := program_of_not_acceptable hacceptable
    rw [computation, leaves, hv] at hok
    cases hok

/-- **When the sentinel is unambiguous.** Over every history whose durations are finite, beside every store of
dataflows, for every dataflow and all options: if a computation gives statistics, then some run matched exactly
if a save was asked for. The statistics tell so exactly if no run was considered, or not all of those considered
took more than minus two seconds and at most minus one; so they always tell if no run took less than no time. -/
theorem sentinelUnambiguous_iff (hfinite : ∀ r ∈ h.runs, r.totalRunTime.isFinite = true)
    {stats : RunTimeStats} (hok : (computation store w h d o).result.1 = .ok stats) :
    (SomeRunMatches h d o ↔ SaveAsked (computation store w h d o).state.2) ∧
      (SentinelUnambiguous store w h d o ↔
        (h.latest (queryOf d o) ≠ [] → ∃ r ∈ h.latest (queryOf d o), ¬ r.LooksLikeNone)) ∧
      ((∀ r ∈ h.runs, 0 ≤ r.totalRunTime.toRat) → SentinelUnambiguous store w h d o) := by
  have hlatest : ∀ r ∈ h.latest (queryOf d o), r.totalRunTime.isFinite = true := fun r hr =>
    hfinite r (MemoryHistory.mem_of_mem_latest hr).1
  obtain ⟨hacceptable, hend⟩ := computation_ok hok
  have hmatches : SomeRunMatches h d o ↔ h.latest (queryOf d o) ≠ [] :=
    (MemoryHistory.latest_ne_nil_iff hacceptable.roomy).symm
  have hsaved : SomeRunMatches h d o ↔ SaveAsked (computation store w h d o).state.2 := by
    obtain ⟨hnil, -, hnone⟩ | ⟨hne, -, hsome⟩ := hend
    · exact iff_of_false (fun hsome => hmatches.1 hsome hnil) hnone
    · exact iff_of_true (hmatches.2 hne) hsome
  have htells : SentinelUnambiguous store w h d o ↔ (stats.hasRuns = true ↔ SomeRunMatches h d o) := by
    refine ⟨fun hall => (hall stats hok).1, fun hiff stats' hok' => ?_⟩
    obtain rfl := Except.ok.inj (hok.symm.trans hok')
    exact ⟨hiff, hiff.trans hsaved⟩
  have hunambiguous : SentinelUnambiguous store w h d o ↔
      (h.latest (queryOf d o) ≠ [] → ∃ r ∈ h.latest (queryOf d o), ¬ r.LooksLikeNone) := by
    rw [htells, hmatches]
    obtain ⟨hnil, rfl, -⟩ | ⟨hne, hstats, -⟩ := hend
    · exact iff_of_true (iff_of_false (by decide) fun hne => hne hnil) fun hne => absurd hnil hne
    · rw [hasRuns_iff_of_computed hne (h.length_latest_lt _) hlatest hstats, iff_true_right hne,
        forall_prop_of_true hne]
  refine ⟨hsaved, hunambiguous, fun hnonneg => hunambiguous.2 fun hne => ?_⟩
  obtain ⟨r, hr⟩ := List.exists_mem_of_ne_nil _ hne
  refine ⟨r, hr, fun hlooks => ?_⟩
  have hlow := hnonneg r (MemoryHistory.mem_of_mem_latest hr).1
  linarith [hlooks.2]

/-- A computation over one run that the store keeps. -/
theorem computation_of_singleton {run : Run} (hacceptable : Acceptable d o)
    (hadmits : (queryOf d o).admits run = true) {stats : RunTimeStats}
    (hstats : computeRunTimeStats? [run] = some stats) :
    let out := computation MemoryDataflows.serve .empty ⟨[run]⟩ d o
    out.result = (.ok stats, d.withRunTimeStats stats) ∧ SaveAsked out.state.2 := by
  have hlatest : MemoryHistory.latest ⟨[run]⟩ (queryOf d o) = [run] := by
    have hlimit : o.limit.toNat ≠ 0 := fun h0 => hacceptable.roomy (UInt32.toNat_inj.1 h0)
    obtain ⟨n, hn⟩ := Nat.exists_eq_succ_of_ne_zero hlimit
    rw [MemoryHistory.latest, List.filter_cons_of_pos hadmits, List.filter_nil, List.mergeSort_singleton,
      hn, List.take_succ_cons, List.take_nil]
  have hquery : serveMemory MemoryDataflows.serve (.inl (.latest (queryOf d o))) (⟨[run]⟩, .empty) =
      (Except.ok [run], (⟨[run]⟩, .empty)) :=
    congrArg (fun runs => (Except.ok runs, _)) hlatest
  intro out
  have hout : out = _ := leaves_of_save hacceptable (List.cons_ne_nil run []) hquery hstats rfl
  rw [hout]
  exact ⟨rfl, saveAsked_save _ _⟩

/-- One run that took minus two seconds: its figures are not those of no runs. -/
theorem sentinelUnambiguous_iff_minusTwo :
    let run : Run := { (default : Run) with
      deploymentId := "dep", totalRunTime := .ofInt (-2), status := .completed }
    let d : Dataflow := { (default : Dataflow) with deploymentId := "dep" }
    (∀ r ∈ [run], r.totalRunTime.isFinite = true) ∧
      (computation MemoryDataflows.serve .empty ⟨[run]⟩ d default).result.1 = .ok ⟨-2, -2, -2, -2⟩ ∧
      SentinelUnambiguous MemoryDataflows.serve .empty ⟨[run]⟩ d default := by
  intro run d
  have hacceptable : Acceptable d default := ⟨by decide +kernel, by decide, by decide⟩
  have hfinite : ∀ r ∈ [run], r.totalRunTime.isFinite = true := by decide +kernel
  have hstats : computeRunTimeStats? [run] = some ⟨-2, -2, -2, -2⟩ := by decide +kernel
  obtain ⟨hresult, -⟩ := computation_of_singleton hacceptable (by decide) hstats
  have hok := congrArg Prod.fst hresult
  refine ⟨hfinite, hok, (sentinelUnambiguous_iff hfinite hok).2.1.2 fun hne => ?_⟩
  obtain ⟨r, hr⟩ := List.exists_mem_of_ne_nil _ hne
  refine ⟨r, hr, fun hlooks => ?_⟩
  obtain rfl := List.mem_singleton.1 (MemoryHistory.mem_of_mem_latest hr).1
  have hfigure := (Binary64.ceilInt64_eq_noRunsFigure_iff (hfinite _ List.mem_cons_self)).2 hlooks
  exact absurd hfigure (by decide +kernel)

/-- The proxy reports that a run took minus one second. It is read and recorded like any other, the statistics
are computed and saved, and they are the figures of no runs. -/
theorem not_sentinelUnambiguous_minusOne :
    let report : Json := .object [("id", .string "a"), ("name", .string "n"),
      ("startTime", .string "2024-01-01T00:00:00Z"), ("status", .string "COMPLETED"),
      ("totalRunTime", .int (-1))]
    let run : Run := ⟨"dep", "a", "n", ⟨1704067200, 0⟩, ⟨1704067200, 0⟩, .ofInt (-1), .completed, "COMPLETED"⟩
    let h : MemoryHistory := MemoryHistory.empty.record [run]
    let d : Dataflow := { (default : Dataflow) with deploymentId := "dep" }
    let out := computation MemoryDataflows.serve .empty h d default
    (ProxyClient.runsIn "dep" (.object [("flow_runs", .array [report])])).toOption = some [run] ∧
      (∀ r ∈ h.runs, r.totalRunTime.isFinite = true) ∧
      out.result.1 = .ok .noRuns ∧ SomeRunMatches h d default ∧ SaveAsked out.state.2 ∧
      ¬ SentinelUnambiguous MemoryDataflows.serve .empty h d default := by
  intro report run h d out
  have hread : (ProxyClient.runsIn "dep" (.object [("flow_runs", .array [report])])).toOption =
      some [run] := by decide +kernel
  have hfinite : ∀ r ∈ h.runs, r.totalRunTime.isFinite = true := by decide +kernel
  have hstats : computeRunTimeStats? [run] = some .noRuns := by decide +kernel
  have hmatches : SomeRunMatches h d default := ⟨run, List.mem_cons_self, by decide⟩
  obtain ⟨hresult, hsaved⟩ := computation_of_singleton (d := d) (o := default)
    ⟨by decide +kernel, by decide, by decide⟩ (by decide) hstats
  have hok : out.result.1 = .ok .noRuns := congrArg Prod.fst hresult
  refine ⟨hread, hfinite, hok, hmatches, hsaved, fun hall => ?_⟩
  exact absurd ((hall .noRuns hok).1.2 hmatches) (by decide)

end StatsService

end FlowRuns
