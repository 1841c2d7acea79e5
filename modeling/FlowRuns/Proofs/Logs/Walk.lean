import Mathlib.Data.List.Nodup
import Mathlib.Data.Nat.Find
import FlowRuns.Logs
import FlowRuns.Proofs.Program

/-!
# Walks over a log

What a walk over the pages of a log asks for and how it ends, whatever the source answers: pages of any
length, errors at any point, and a state of its own behind them.

* `LogWalk` — a walk and the source that answers it.
* `LogWalk.request`, `LogWalk.answer` — the `i`-th page that is asked for, and what comes for it, said
  without the walk.
* `LogWalk.GoesOn` — after which pages there is another one.
* `LogWalk.walkFrom_of_goesOn`, `LogWalk.walkFrom_zero` — one page, and from it any number of pages.
* `LogWalk.exists_last` — the growing offset bounds the number of pages.
* `LogWalk.fetchAll_walks` — the requests, the result and the events of every walk.
-/

namespace FlowRuns

namespace Logs

theorem nextOffset?_eq_some {offset : UInt32} {size : PageSize}
    (h : offset.toNat + size.toNat < UInt32.size) :
    nextOffset? offset size = some (offset + size.lines) := if_pos h

theorem nextOffset?_eq_none {offset : UInt32} {size : PageSize}
    (h : UInt32.size ≤ offset.toNat + size.toNat) : nextOffset? offset size = none :=
  if_neg (Nat.not_lt.2 h)

/-- The error of a walk that has no offset for its next page. -/
abbrev overflow (flowRunId : String) (offset : UInt32) : FlowError :=
  .remote (.invalidResponse (endpoint flowRunId) (.offsetOverflow offset))

/-- What a walk does with a page. -/
def walkOn (flowRunId : String) (taskRunId : Option String) (size : PageSize) (offset : UInt32)
    (pages : Nat) (lines page : List String) : Program logPeer (Except Failure (Nat × List String)) :=
  if page.length < size.toNat then .done (.ok (pages + 1, lines ++ page))
  else match nextOffset? offset size with
    | none => .done (.error (.error (overflow flowRunId offset)))
    | some next => (walk flowRunId taskRunId size next (pages + 1) (lines ++ page)).run

/-- **A walk as a tree**: it asks for a page, reports it, and does something with it. -/
theorem run_walk (flowRunId : String) (taskRunId : Option String) (size : PageSize) (offset : UInt32)
    (pages : Nat) (lines : List String) :
    (walk flowRunId taskRunId size offset pages lines).run =
      .ask (⟨flowRunId, taskRunId, size.lines, offset⟩ : PageRequest)
        fun (answer : Except FlowError (List String)) =>
          match answer with
          | .error e => .done (.error (.error e))
          | .ok page => .report (.logPageFetched flowRunId offset page.length)
              (walkOn flowRunId taskRunId size offset pages lines page) := by
  rw [walk, Program.runExcept_bind]
  refine congrArg (Program.ask _) (funext fun (answer : Except FlowError (List String)) => ?_)
  rcases answer with e | page
  · rfl
  refine congrArg (Program.report _) ?_
  unfold walkOn
  by_cases hshort : page.length < size.toNat
  · simp only [hshort, if_true]
    rfl
  · simp only [hshort, if_false]
    rcases nextOffset? offset size with _ | next
    · rfl
    · rfl

/-- What follows a walk: the whole log, and an event that tells of it. -/
def walked (flowRunId : String) (taskRunId : Option String) :
    Except Failure (Nat × List String) → Program logPeer (Except Failure (List String))
  | .ok (pages, lines) => .report (.logWalked flowRunId taskRunId pages lines.length) (.done (.ok lines))
  | .error e => .done (.error e)

/-- Once its arguments pass, reading a log is a walk from the first line on. -/
theorem run_fetchAll {flowRunId : String} (hid : Text.isBlank flowRunId = false)
    (taskRunId : Option String) (size : PageSize) :
    (fetchAll flowRunId taskRunId size.lines).run =
      (walk flowRunId taskRunId size 0 0 []).run.bind (walked flowRunId taskRunId) := by
  unfold fetchAll Validation.flowRunId
  rw [Validation.identifier_of_named hid, Fallible.run_ofExcept_ok_bind, PageSize.ofLines_lines,
    Fallible.run_ofExcept_ok_bind, Program.runExcept_bind]
  refine congrArg (Program.bind _) (funext fun r => ?_)
  rcases r with e | ⟨pages, lines⟩
  · rfl
  · rfl

end Logs

/-- A walk over a log: what is asked for, who answers, and the state in which the answering begins. -/
structure LogWalk (σ : Type) where
  /-- whose log -/
  flowRunId : String
  /-- of which task only, if of one -/
  taskRunId : Option String
  /-- how many lines at most come at once -/
  size : PageSize
  /-- the source -/
  serve : (r : logPeer.Request) → σ → logPeer.Answer r × σ
  /-- the state of the source before the walk -/
  start : σ

namespace LogWalk

variable {σ : Type} (w : LogWalk σ)

/-! ## Requests and answers, page by page -/

/-- The line at which the `i`-th page begins. -/
def offset (i : Nat) : UInt32 := UInt32.ofNat (i * w.size.toNat)

/-- The request for the `i`-th page. -/
def request (i : Nat) : PageRequest := ⟨w.flowRunId, w.taskRunId, w.size.lines, w.offset i⟩

/-- The requests for the pages before the `n`-th. -/
def requests (n : Nat) : List PageRequest := (List.range n).map w.request

/-- The state of the source before it is asked for the `i`-th page. -/
def stateBefore : Nat → σ
  | 0 => w.start
  | i + 1 => (w.serve (w.request i) (stateBefore i)).2

/-- What the source answers when it is asked for the `i`-th page. -/
def answer (i : Nat) : Except FlowError (List String) := (w.serve (w.request i) (w.stateBefore i)).1

/-- The lines of the `i`-th page; none if an error comes for it. -/
def page (i : Nat) : List String := (w.answer i).toOption.getD []

/-- The lines of the pages before the `n`-th, in the order in which they come. -/
def linesBefore (n : Nat) : List String := (List.range n).flatMap w.page

/-- What is reported of the `i`-th page. -/
def fetched (i : Nat) : Event := .logPageFetched w.flowRunId (w.offset i) (w.page i).length

/-- The offset of the `i`-th page fits 32 bits. -/
def Fits (i : Nat) : Prop := i * w.size.toNat < UInt32.size

/-- After the `i`-th page there is another one: a full page came, and the next offset fits. -/
def GoesOn (i : Nat) : Prop := ∃ page, w.answer i = .ok page ∧ w.size.toNat ≤ page.length ∧ w.Fits (i + 1)

theorem requests_succ (n : Nat) : w.requests (n + 1) = w.requests n ++ [w.request n] := by
  rw [requests, List.range_succ, List.map_append, List.map_singleton, requests]

variable {w} in
@[simp] theorem length_requests {n : Nat} : (w.requests n).length = n := by
  rw [requests, List.length_map, List.length_range]

theorem linesBefore_succ (n : Nat) : w.linesBefore (n + 1) = w.linesBefore n ++ w.page n := by
  rw [linesBefore, List.range_succ, List.flatMap_append, List.flatMap_singleton, linesBefore]

variable {w}

theorem page_of_answer {i : Nat} {page : List String} (h : w.answer i = .ok page) : w.page i = page := by
  rw [LogWalk.page, h]
  rfl

theorem fits_zero : w.Fits 0 := by
  rw [Fits, Nat.zero_mul]
  decide

/-- Offsets that fit do not wrap around. -/
theorem toNat_offset {i : Nat} (h : w.Fits i) : (w.offset i).toNat = i * w.size.toNat :=
  UInt32.toNat_ofNat_of_lt' h

theorem nextOffset?_offset {i : Nat} (h : w.Fits i) (hnext : w.Fits (i + 1)) :
    Logs.nextOffset? (w.offset i) w.size = some (w.offset (i + 1)) := by
  have hsum : (w.offset i).toNat + w.size.toNat < UInt32.size := by
    rw [toNat_offset h, ← Nat.succ_mul]
    exact hnext
  have hsome := Logs.nextOffset?_eq_some hsum
  rw [hsome]
  refine congrArg some (UInt32.toNat_inj.1 ?_)
  rw [Logs.toNat_nextOffset? hsome, toNat_offset h, toNat_offset hnext, Nat.succ_mul]

theorem nextOffset?_offset_eq_none {i : Nat} (h : w.Fits i) (hnext : ¬ w.Fits (i + 1)) :
    Logs.nextOffset? (w.offset i) w.size = none := by
  refine Logs.nextOffset?_eq_none ?_
  rw [toNat_offset h, ← Nat.succ_mul]
  exact Nat.not_lt.1 hnext

/-- All pages that are asked for have offsets that fit. -/
theorem fits_of_forall_goesOn {n : Nat} (h : ∀ i < n, w.GoesOn i) : w.Fits n := by
  rcases n with _ | n
  · exact fits_zero
  · obtain ⟨page, -, -, hfits⟩ := h n (Nat.lt_succ_self n)
    exact hfits

/-- The offset of the `i`-th page fits exactly if `i` is no greater than the quotient of the greatest
offset by the page size. -/
theorem fits_iff {i : Nat} : w.Fits i ↔ i ≤ (UInt32.size - 1) / w.size.toNat := by
  rw [Nat.le_div_iff_mul_le w.size.toNat_pos, Nat.le_sub_one_iff_lt (by decide), Fits]

theorem fits_of_le {i n : Nat} (h : w.Fits n) (hle : i ≤ n) : w.Fits i :=
  fits_iff.2 (Nat.le_trans hle (fits_iff.1 h))

/-- No two pages up to one whose offset fits have the same offset. -/
theorem nodup_offsets {last : Nat} (h : w.Fits last) :
    ((w.requests (last + 1)).map PageRequest.offset).Nodup := by
  rw [requests, List.map_map]
  refine List.Nodup.map_on (fun i hi j hj heq => ?_) List.nodup_range
  have hfits : ∀ i ∈ List.range (last + 1), w.Fits i := fun i hi =>
    fits_of_le h (Nat.le_of_lt_succ (List.mem_range.1 hi))
  refine Nat.eq_of_mul_eq_mul_right w.size.toNat_pos ?_
  rw [← toNat_offset (hfits i hi), ← toNat_offset (hfits j hj)]
  exact congrArg UInt32.toNat heq

/-! ## From one page to the next -/

variable (w) in
/-- What a walk leaves behind from its `i`-th page on, against a source that keeps its requests. -/
abbrev walkFrom (i : Nat) :
    Program.Outcome (σ × List logPeer.Request) (Except Failure (Nat × List String)) :=
  Program.run (Program.recording w.serve)
    (Logs.walk w.flowRunId w.taskRunId w.size (w.offset i) i (w.linesBefore i)).run
    (w.stateBefore i, w.requests i)

variable {i : Nat}

/-- The `i`-th page is asked for, and the source answers. -/
theorem walkFrom_eq :
    w.walkFrom i = Program.run (Program.recording w.serve)
      (match w.answer i with
        | .error e => .done (.error (.error e))
        | .ok page => .report (.logPageFetched w.flowRunId (w.offset i) page.length)
            (Logs.walkOn w.flowRunId w.taskRunId w.size (w.offset i) i (w.linesBefore i) page))
      (w.stateBefore (i + 1), w.requests (i + 1)) := by
  rw [walkFrom, Logs.run_walk, requests_succ]
  exact Program.run_recording_ask rfl

/-- An error ends the walk. -/
theorem walkFrom_of_error {e : FlowError} (h : w.answer i = .error e) :
    w.walkFrom i = ⟨.error (.error e), [], (w.stateBefore (i + 1), w.requests (i + 1))⟩ := by
  rw [walkFrom_eq, h]
  rfl

variable {page : List String}

/-- A page that is not full ends the walk. -/
theorem walkFrom_of_short (h : w.answer i = .ok page) (hshort : page.length < w.size.toNat) :
    w.walkFrom i = ⟨.ok (i + 1, w.linesBefore (i + 1)), [w.fetched i],
      (w.stateBefore (i + 1), w.requests (i + 1))⟩ := by
  rw [walkFrom_eq, h, linesBefore_succ, fetched, page_of_answer h]
  simp only [Logs.walkOn, hshort, if_true]
  rfl

/-- A full page ends the walk if the next offset does not fit. -/
theorem walkFrom_of_overflow (hfits : w.Fits i) (h : w.answer i = .ok page)
    (hfull : w.size.toNat ≤ page.length) (hover : ¬ w.Fits (i + 1)) :
    w.walkFrom i = ⟨.error (.error (Logs.overflow w.flowRunId (w.offset i))), [w.fetched i],
      (w.stateBefore (i + 1), w.requests (i + 1))⟩ := by
  rw [walkFrom_eq, h, fetched, page_of_answer h]
  simp only [Logs.walkOn, Nat.not_lt.2 hfull, if_false, nextOffset?_offset_eq_none hfits hover]
  rfl

/-- **One page**: the walk goes on to the next one. -/
theorem walkFrom_of_goesOn (hfits : w.Fits i) (h : w.GoesOn i) :
    w.walkFrom i = { w.walkFrom (i + 1) with events := w.fetched i :: (w.walkFrom (i + 1)).events } := by
  obtain ⟨page, hpage, hfull, hnext⟩ := h
  rw [walkFrom_eq, hpage, fetched, page_of_answer hpage]
  simp only [Logs.walkOn, Nat.not_lt.2 hfull, if_false, nextOffset?_offset hfits hnext,
    Program.run_report, walkFrom, linesBefore_succ, page_of_answer hpage]

/-- **Any number of pages**: the walk reports each of them and goes on after the last. -/
theorem walkFrom_zero {n : Nat} (h : ∀ i < n, w.GoesOn i) :
    w.walkFrom 0 =
      { w.walkFrom n with events := (List.range n).map w.fetched ++ (w.walkFrom n).events } := by
  induction n with
  | zero => rfl
  | succ n ih =>
    have hbefore : ∀ i < n, w.GoesOn i := fun i hi => h i (Nat.lt_succ_of_lt hi)
    rw [ih hbefore, walkFrom_of_goesOn (fits_of_forall_goesOn hbefore) (h n (Nat.lt_succ_self n)),
      List.range_succ, List.map_append, List.append_assoc]
    rfl

/-- The offsets that fit bound the walk: some page is the last one. -/
theorem exists_last (w : LogWalk σ) : ∃ last ≤ (UInt32.size - 1) / w.size.toNat,
    (∀ i < last, w.GoesOn i) ∧ ¬ w.GoesOn last := by
  classical
  -- nothing is known of the source, so it is the offset alone that stops the walk
  have hbound : ¬ w.GoesOn ((UInt32.size - 1) / w.size.toNat) := by
    rintro ⟨page, -, -, hfits⟩
    exact Nat.not_succ_le_self _ (fits_iff.1 hfits)
  have hex : ∃ n, ¬ w.GoesOn n := ⟨_, hbound⟩
  refine ⟨Nat.find hex, Nat.find_min' hex hbound, fun i hi => ?_, Nat.find_spec hex⟩
  exact Classical.not_not.1 (Nat.find_min hex hi)

/-! ## The whole log -/

section

variable (w)

/-- What reading the whole log leaves behind, against a source that keeps its requests. -/
abbrev leaves : Program.Outcome (σ × List logPeer.Request) (Except Failure (List String)) :=
  Program.run (Program.recording w.serve)
    (Logs.fetchAll w.flowRunId w.taskRunId w.size.lines).run (w.start, [])

/-- How reading a log ends with its last page: with the error that came for it, or with the lines of all
pages if it is not full, or with an error because there is no offset for a further one. That a log was
read is reported only with its lines. -/
def EndsAt (last : Nat) (result : Except Failure (List String)) (events : List Event) : Prop :=
  match w.answer last with
  | .error e => result = .error (.error e) ∧ events = (List.range last).map w.fetched
  | .ok page =>
    if page.length < w.size.toNat then
      result = .ok (w.linesBefore (last + 1)) ∧
        events = (List.range (last + 1)).map w.fetched ++
          [.logWalked w.flowRunId w.taskRunId (last + 1) (w.linesBefore (last + 1)).length]
    else
      result = .error (.error (Logs.overflow w.flowRunId (w.offset last))) ∧
        events = (List.range (last + 1)).map w.fetched

end

variable {last : Nat}

theorem offset_zero : w.offset 0 = 0 := by
  rw [offset, Nat.zero_mul]
  rfl

/-- Reading a log is what its first `n` pages leave to do, and the report of it. -/
theorem leaves_eq (hid : Text.isBlank w.flowRunId = false) {n : Nat} (h : ∀ i < n, w.GoesOn i) :
    w.leaves =
      let rest := w.walkFrom n
      let done := Program.run (Program.recording w.serve)
        (Logs.walked w.flowRunId w.taskRunId rest.result) rest.state
      ⟨done.result, (List.range n).map w.fetched ++ rest.events ++ done.events, done.state⟩ := by
  have hstart : w.walkFrom 0 = Program.run (Program.recording w.serve)
      (Logs.walk w.flowRunId w.taskRunId w.size 0 0 []).run (w.start, []) := by
    rw [walkFrom, offset_zero]
    rfl
  rw [leaves, Logs.run_fetchAll hid, Program.run_bind, ← hstart, walkFrom_zero h]

theorem leaves_of_error (hid : Text.isBlank w.flowRunId = false) (h : ∀ i < last, w.GoesOn i)
    {e : FlowError} (he : w.answer last = .error e) :
    w.leaves = ⟨.error (.error e), (List.range last).map w.fetched,
      (w.stateBefore (last + 1), w.requests (last + 1))⟩ := by
  rw [leaves_eq hid h, walkFrom_of_error he]
  simp [Logs.walked]

theorem leaves_of_short (hid : Text.isBlank w.flowRunId = false) (h : ∀ i < last, w.GoesOn i)
    {page : List String} (hpage : w.answer last = .ok page) (hshort : page.length < w.size.toNat) :
    w.leaves = ⟨.ok (w.linesBefore (last + 1)), (List.range (last + 1)).map w.fetched ++
        [.logWalked w.flowRunId w.taskRunId (last + 1) (w.linesBefore (last + 1)).length],
      (w.stateBefore (last + 1), w.requests (last + 1))⟩ := by
  rw [leaves_eq hid h, walkFrom_of_short hpage hshort, List.range_succ, List.map_append]
  rfl

theorem leaves_of_overflow (hid : Text.isBlank w.flowRunId = false) (h : ∀ i < last, w.GoesOn i)
    {page : List String} (hpage : w.answer last = .ok page) (hfull : w.size.toNat ≤ page.length)
    (hover : ¬ w.Fits (last + 1)) :
    w.leaves = ⟨.error (.error (Logs.overflow w.flowRunId (w.offset last))),
      (List.range (last + 1)).map w.fetched, (w.stateBefore (last + 1), w.requests (last + 1))⟩ := by
  rw [leaves_eq hid h, walkFrom_of_overflow (fits_of_forall_goesOn h) hpage hfull hover,
    List.range_succ, List.map_append]
  simp [Logs.walked]

/-- How a walk ends after pages that it went on from. -/
theorem leaves_endsAt (hid : Text.isBlank w.flowRunId = false) (h : ∀ i < last, w.GoesOn i)
    (hlast : ¬ w.GoesOn last) :
    w.leaves.state = (w.stateBefore (last + 1), w.requests (last + 1)) ∧
      w.EndsAt last w.leaves.result w.leaves.events := by
  rcases hpage : w.answer last with e | page
  · rw [leaves_of_error hid h hpage, EndsAt, hpage]
    exact ⟨rfl, rfl, rfl⟩
  by_cases hshort : page.length < w.size.toNat
  · rw [leaves_of_short hid h hpage hshort, EndsAt, hpage]
    exact ⟨rfl, by simp only [hshort, if_true, and_self]⟩
  · have hfull := Nat.not_lt.1 hshort
    have hover : ¬ w.Fits (last + 1) := fun hfits => hlast ⟨page, hpage, hfull, hfits⟩
    rw [leaves_of_overflow hid h hpage hfull hover, EndsAt, hpage]
    exact ⟨rfl, by simp only [hshort, if_false, and_self]⟩

/-- **Every walk ends, and ends as its last page has it.** Whatever the source answers, the pages that
are asked for begin at the multiples of the page size, none of which wraps around; there are at most as
many as there are multiples that fit 32 bits; and after a page comes another one exactly if it was full and
the next offset fits. -/
theorem fetchAll_walks (w : LogWalk σ) (hid : Text.isBlank w.flowRunId = false) :
    ∃ last ≤ (UInt32.size - 1) / w.size.toNat,
      w.leaves.state = (w.stateBefore (last + 1), w.requests (last + 1)) ∧
      (∀ i ≤ last, (w.offset i).toNat = i * w.size.toNat) ∧
      (∀ i ≤ last, i < last ↔ w.GoesOn i) ∧
      w.EndsAt last w.leaves.result w.leaves.events := by
  obtain ⟨last, hbound, hbefore, hlast⟩ := w.exists_last
  obtain ⟨hstate, hends⟩ := leaves_endsAt hid hbefore hlast
  refine ⟨last, hbound, hstate, fun i hi => ?_, fun i hi => ?_, hends⟩
  · exact toNat_offset (fits_of_forall_goesOn fun j hj => hbefore j (Nat.lt_of_lt_of_le hj hi))
  · refine ⟨hbefore i, fun hgo => Nat.lt_of_le_of_ne hi ?_⟩
    rintro rfl
    exact hlast hgo

/-- A source that does not keep to the limit: its first page has a line too many, and the walk goes on to
the next multiple of the page size all the same. -/
theorem fetchAll_walks_overfull :
    let w : LogWalk Nat :=
      { flowRunId := "run", taskRunId := some "task", size := ⟨2, by decide⟩, start := 0
        serve := fun _ calls => (Except.ok (if calls = 0 then ["a", "b", "c"] else ["d"]), calls + 1) }
    Text.isBlank w.flowRunId = false ∧
      w.leaves.state = (2, [⟨"run", some "task", 2, 0⟩, ⟨"run", some "task", 2, 2⟩]) ∧
      w.leaves.result = .ok ["a", "b", "c", "d"] ∧
      w.leaves.events = [.logPageFetched "run" 0 3, .logPageFetched "run" 2 1,
        .logWalked "run" (some "task") 2 4] := by
  intro w
  have hid : Text.isBlank w.flowRunId = false := by decide +kernel
  obtain ⟨last, -, hstate, -, hgoesOn, hends⟩ := fetchAll_walks w hid
  have hfirst : w.GoesOn 0 := ⟨["a", "b", "c"], rfl, by decide, by unfold Fits; decide⟩
  have hsecond : ¬ w.GoesOn 1 := by
    rintro ⟨page, hpage, hfull, -⟩
    obtain rfl : ["d"] = page := Except.ok.inj hpage
    exact absurd hfull (by decide)
  have hpos : 0 < last := (hgoesOn 0 (Nat.zero_le last)).2 hfirst
  obtain rfl : last = 1 := Nat.le_antisymm
    (Nat.not_lt.1 fun hlt => hsecond ((hgoesOn 1 hpos).1 hlt)) hpos
  exact ⟨hid, hstate, hends.1, hends.2⟩

end LogWalk

end FlowRuns
