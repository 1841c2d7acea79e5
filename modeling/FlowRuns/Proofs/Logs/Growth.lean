import FlowRuns.Proofs.Logs.Walk

/-!
# Walks over a log that grows

A flow run may write further lines to its log between any two calls of a walk. The walk loses none of the
lines that are there when it ends, and has none of them twice.

* `GrowingLog` — the lines at each call, each list a beginning of the next.
* `GrowingLog.FirstShort` — the first call whose page is not full.
* `GrowingLog.linesBefore_walk` — what has been gathered is a beginning of the log, however much it grew.
* `GrowingLog.fetchAll_growing` — the walk gives the log as it stands at that call, if its offset fits.
-/

namespace FlowRuns

/-- A log that may grow between any two calls. -/
structure GrowingLog where
  /-- the lines at the `i`-th call -/
  lines : Nat → List String
  /-- lines are added at the end only -/
  grows : ∀ i, lines i <+: lines (i + 1)

namespace GrowingLog

variable (log : GrowingLog)

/-- The log as a source, whose state is the number of calls so far: the lines from the offset on, at most
as many as the limit says. -/
def serve (r : PageRequest) (calls : Nat) : Except FlowError (List String) × Nat :=
  (.ok (((log.lines calls).drop r.offset.toNat).take r.limit.toNat), calls + 1)

/-- A walk over the log. -/
abbrev walk (flowRunId : String) (taskRunId : Option String) (size : PageSize) : LogWalk Nat :=
  ⟨flowRunId, taskRunId, size, log.serve, 0⟩

/-- The `k`-th call is the first one whose page the log does not fill. -/
structure FirstShort (size : PageSize) (k : Nat) : Prop where
  /-- the log ends within the page -/
  short : (log.lines k).length < (k + 1) * size.toNat
  /-- it filled all pages before -/
  full : ∀ i < k, (i + 1) * size.toNat ≤ (log.lines i).length

variable {log} {flowRunId : String} {taskRunId : Option String} {size : PageSize} {i n : Nat}

/-- What a log begins with, it begins with after it has grown. -/
theorem take_lines_succ (h : n ≤ (log.lines i).length) :
    (log.lines (i + 1)).take n = (log.lines i).take n := by
  obtain ⟨added, hadded⟩ := log.grows i
  rw [← hadded, List.take_append_of_le_length h]

theorem stateBefore_walk : (log.walk flowRunId taskRunId size).stateBefore i = i := by
  induction i with
  | zero => rfl
  | succ i ih => exact congrArg (· + 1) ih

theorem answer_walk (h : (log.walk flowRunId taskRunId size).Fits i) :
    (log.walk flowRunId taskRunId size).answer i =
      .ok (((log.lines i).drop (i * size.toNat)).take size.toNat) := by
  rw [LogWalk.answer, stateBefore_walk, ← LogWalk.toNat_offset h]
  rfl

/-- The log fills the `i`-th page exactly if it reaches the next one. -/
theorem le_length_page_iff :
    size.toNat ≤ (((log.lines i).drop (i * size.toNat)).take size.toNat).length ↔
      (i + 1) * size.toNat ≤ (log.lines i).length := by
  have hpos := size.toNat_pos
  rw [List.length_take, List.length_drop, Nat.succ_mul]
  omega

/-- The walk goes on from a page that the log fills, if the next offset fits. -/
theorem goesOn_walk (h : (i + 1) * size.toNat ≤ (log.lines i).length)
    (hnext : (log.walk flowRunId taskRunId size).Fits (i + 1)) :
    (log.walk flowRunId taskRunId size).GoesOn i :=
  ⟨_, answer_walk (LogWalk.fits_of_le hnext (Nat.le_succ i)), le_length_page_iff.2 h, hnext⟩

/-- **One page**: what the log began with is still its beginning, and the page follows it. -/
theorem linesBefore_succ_walk (hfits : (log.walk flowRunId taskRunId size).Fits n)
    (h : (log.walk flowRunId taskRunId size).linesBefore n = (log.lines n).take (n * size.toNat)) :
    (log.walk flowRunId taskRunId size).linesBefore (n + 1) =
      (log.lines n).take ((n + 1) * size.toNat) := by
  rw [LogWalk.linesBefore_succ, h, LogWalk.page_of_answer (answer_walk hfits), ← List.take_add,
    ← Nat.succ_mul]

/-- **Any number of full pages**: what has been gathered is the beginning of the log as it stands now. -/
theorem linesBefore_walk (hfits : (log.walk flowRunId taskRunId size).Fits n)
    (h : ∀ i < n, (i + 1) * size.toNat ≤ (log.lines i).length) :
    (log.walk flowRunId taskRunId size).linesBefore n = (log.lines n).take (n * size.toNat) := by
  induction n with
  | zero =>
    rw [Nat.zero_mul, List.take_zero]
    rfl
  | succ n ih =>
    have hbefore : (log.walk flowRunId taskRunId size).Fits n :=
      LogWalk.fits_of_le hfits (Nat.le_succ n)
    -- the log grows before the next call, but only after what it begins with
    have hsofar := ih hbefore fun i hi => h i (Nat.lt_succ_of_lt hi)
    rw [linesBefore_succ_walk hbefore hsofar, take_lines_succ (h n (Nat.lt_succ_self n))]

/-- If the offset of the first page that the log does not fill fits, the walk ends with that page and gives
the log as it stands then. -/
theorem leaves_of_firstShort (hid : Text.isBlank flowRunId = false) (taskRunId : Option String) {k : Nat}
    (hk : log.FirstShort size k) (hfits : (log.walk flowRunId taskRunId size).Fits k) :
    (log.walk flowRunId taskRunId size).leaves.result = .ok (log.lines k) ∧
      (log.walk flowRunId taskRunId size).leaves.state.2 =
        (log.walk flowRunId taskRunId size).requests (k + 1) := by
  have hgoesOn : ∀ i < k, (log.walk flowRunId taskRunId size).GoesOn i := fun i hi =>
    goesOn_walk (hk.full i hi) (LogWalk.fits_of_le hfits hi)
  have hshort := Nat.not_le.1 fun hle => Nat.not_le.2 hk.short (le_length_page_iff.1 hle)
  have hlines : (log.walk flowRunId taskRunId size).linesBefore (k + 1) = log.lines k := by
    rw [linesBefore_succ_walk hfits (linesBefore_walk hfits hk.full),
      List.take_of_length_le (Nat.le_of_lt hk.short)]
  rw [LogWalk.leaves_of_short hid hgoesOn (answer_walk hfits) hshort, hlines]
  exact ⟨rfl, rfl⟩

/-- If the log fills all pages whose offsets fit, the walk ends with an error at the last of them. -/
theorem leaves_of_full (hid : Text.isBlank flowRunId = false) (taskRunId : Option String)
    (h : ∀ i ≤ (UInt32.size - 1) / size.toNat, (i + 1) * size.toNat ≤ (log.lines i).length) :
    ∃ last, (log.walk flowRunId taskRunId size).Fits last ∧
      (log.walk flowRunId taskRunId size).leaves.result =
        .error (.error (Logs.overflow flowRunId
          ((log.walk flowRunId taskRunId size).offset last))) ∧
      (log.walk flowRunId taskRunId size).leaves.state.2 =
        (log.walk flowRunId taskRunId size).requests (last + 1) := by
  have hfits : (log.walk flowRunId taskRunId size).Fits ((UInt32.size - 1) / size.toNat) :=
    LogWalk.fits_iff.2 (Nat.le_refl _)
  have hover : ¬ (log.walk flowRunId taskRunId size).Fits ((UInt32.size - 1) / size.toNat + 1) :=
    fun hnext => Nat.not_succ_le_self _ (LogWalk.fits_iff.1 hnext)
  have hgoesOn : ∀ i < (UInt32.size - 1) / size.toNat,
      (log.walk flowRunId taskRunId size).GoesOn i := fun i hi =>
    goesOn_walk (h i (Nat.le_of_lt hi)) (LogWalk.fits_of_le hfits hi)
  refine ⟨_, hfits, ?_⟩
  rw [LogWalk.leaves_of_overflow hid hgoesOn (answer_walk hfits)
    (le_length_page_iff.2 (h _ (Nat.le_refl _))) hover]
  exact ⟨rfl, rfl⟩

/-- If no page up to the `n`-th is the first that the log does not fill, it fills all of them. -/
theorem full_of_forall_not_firstShort (h : ∀ k ≤ n, ¬ log.FirstShort size k) :
    ∀ i ≤ n, (i + 1) * size.toNat ≤ (log.lines i).length := by
  intro i
  induction i using Nat.strongRecOn with
  | ind i ih =>
    intro hi
    by_contra hshort
    exact h i hi ⟨Nat.not_le.1 hshort, fun j hj => ih j hj (Nat.le_trans (Nat.le_of_lt hj) hi)⟩

/-- **Nothing is lost and nothing comes twice**, however the log grows while it is read. If the offset of
the first page that the log does not fill fits 32 bits, the walk ends with that page and gives the whole
log as it stands then. Otherwise it ends with an error, and no offset is asked for twice. -/
theorem fetchAll_growing (log : GrowingLog) (flowRunId : String)
    (hid : Text.isBlank flowRunId = false) (taskRunId : Option String) (size : PageSize) :
    let left := (log.walk flowRunId taskRunId size).leaves
    (∀ k, log.FirstShort size k → k * size.toNat < UInt32.size →
      left.result = .ok (log.lines k) ∧ left.state.2.length = k + 1) ∧
    ((∀ k, log.FirstShort size k → UInt32.size ≤ k * size.toNat) →
      (∃ offset, left.result = .error (.error (Logs.overflow flowRunId offset))) ∧
        (left.state.2.map PageRequest.offset).Nodup) := by
  intro left
  refine ⟨fun k hk hfits => ?_, fun hnone => ?_⟩
  · obtain ⟨hresult, hrequests⟩ := leaves_of_firstShort hid taskRunId hk hfits
    exact ⟨hresult, (congrArg List.length hrequests).trans LogWalk.length_requests⟩
  · have hfull : ∀ i ≤ (UInt32.size - 1) / size.toNat, (i + 1) * size.toNat ≤ (log.lines i).length :=
      full_of_forall_not_firstShort fun k hk hshort =>
        Nat.not_lt.2 (hnone k hshort)
          ((LogWalk.fits_iff (w := log.walk flowRunId taskRunId size)).2 hk)
    obtain ⟨last, hfits, hresult, hrequests⟩ := leaves_of_full hid taskRunId hfull
    refine ⟨⟨_, hresult⟩, ?_⟩
    rw [hrequests]
    exact LogWalk.nodup_offsets hfits

/-- A log that grows past the page that is being read: the walk goes on and ends with all of it. -/
theorem fetchAll_growing_pastAPage :
    let log : GrowingLog :=
      { lines := fun calls => if calls = 0 then ["a", "b"] else ["a", "b", "c", "d", "e"]
        grows := fun calls => by
          rcases calls with _ | calls
          · exact ⟨["c", "d", "e"], rfl⟩
          · exact List.prefix_refl _ }
    let size : PageSize := ⟨2, by decide⟩
    Text.isBlank "run" = false ∧ log.FirstShort size 2 ∧
      (log.walk "run" none size).leaves.result = .ok ["a", "b", "c", "d", "e"] ∧
      (log.walk "run" none size).leaves.state.2.length = 3 := by
  intro log size
  have hid : Text.isBlank "run" = false := by decide +kernel
  have hshort : log.FirstShort size 2 := ⟨by decide, by decide⟩
  exact ⟨hid, hshort, (fetchAll_growing log "run" hid none size).1 2 hshort (by decide)⟩

end GrowingLog

end FlowRuns
