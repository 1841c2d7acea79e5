import FlowRuns.Program
import FlowRuns.Validation

/-!
# Reading a whole log

A log is served one page at a time, by offset and limit. The walk begins at offset 0 and asks for
page after page until one has fewer lines than the limit; its lines are those of all pages in the
order in which they came.

Offsets are 32-bit numbers. The offset of the next page is the sum of this one's and the page size, if
the sum fits; otherwise the walk ends with an error. A page has room for at least one line, so offsets
keep growing, and the walk is a recursion on the room that is left above its offset.
-/

namespace FlowRuns

/-- A page that is asked for. -/
structure PageRequest where
  /-- whose log -/
  flowRunId : String
  /-- of which task only, if of one -/
  taskRunId : Option String
  /-- how many lines at most -/
  limit : UInt32
  /-- from which line on -/
  offset : UInt32
  deriving DecidableEq, Inhabited

/-- A source of log pages as a collaborator. -/
def logPeer : Peer where
  Request := PageRequest
  Answer _ := Except FlowError (List String)

/-- How many lines a page may have: at least one. -/
structure PageSize where
  /-- the number of lines -/
  lines : UInt32
  /-- there is room for a line -/
  lines_ne_zero : lines ≠ 0

namespace PageSize

/-- The page size as a natural number. -/
abbrev toNat (size : PageSize) : Nat := size.lines.toNat

theorem toNat_pos (size : PageSize) : 0 < size.toNat :=
  Nat.pos_of_ne_zero fun h => size.lines_ne_zero (UInt32.toNat_inj.1 h)

/-- A number of lines as a page size, if the check lets it pass. -/
def ofLines (lines : UInt32) : Except FlowError PageSize :=
  match h : Validation.pageSize lines with
  | .error e => .error e
  | .ok () => .ok ⟨lines, Validation.ne_zero_of_pageSize h⟩

theorem ofLines_zero : ofLines 0 = .error (.validation .zeroPageSize) := rfl

theorem ofLines_lines (size : PageSize) : ofLines size.lines = .ok size := by
  unfold ofLines
  split
  next e h => rw [Validation.pageSize_of_ne_zero size.lines_ne_zero] at h; cases h
  next => rfl

end PageSize

namespace Logs

/-- The endpoint that serves a log. -/
def endpoint (flowRunId : String) : String := "flow_runs/logs/" ++ flowRunId

/-- The offset of the page after the one at `offset`, if it fits 32 bits. -/
def nextOffset? (offset : UInt32) (size : PageSize) : Option UInt32 :=
  if offset.toNat + size.lines.toNat < UInt32.size then some (offset + size.lines) else none

theorem toNat_nextOffset? {offset next : UInt32} {size : PageSize}
    (h : nextOffset? offset size = some next) : next.toNat = offset.toNat + size.toNat := by
  unfold nextOffset? at h
  split at h
  next hfits =>
    obtain rfl := Option.some.inj h
    rw [UInt32.toNat_add, Nat.mod_eq_of_lt hfits]
  next => cases h

/-- Offsets keep growing. -/
theorem lt_of_nextOffset? {offset next : UInt32} {size : PageSize}
    (h : nextOffset? offset size = some next) : offset.toNat < next.toNat := by
  have hsize := size.toNat_pos
  have hnext := toNat_nextOffset? h
  omega

/-- The walk from a page on, with the number of pages and the lines that have come so far. -/
def walk (flowRunId : String) (taskRunId : Option String) (size : PageSize) (offset : UInt32)
    (pages : Nat) (lines : List String) : Fallible logPeer (Nat × List String) := do
  let page ← Fallible.ofExcept
    (← Fallible.ask (P := logPeer) ⟨flowRunId, taskRunId, size.lines, offset⟩)
  Fallible.note (.logPageFetched flowRunId offset page.length)
  if page.length < size.lines.toNat then return (pages + 1, lines ++ page)
  match _ : nextOffset? offset size with
  | none => Fallible.fail (.remote (.invalidResponse (endpoint flowRunId) (.offsetOverflow offset)))
  | some next => walk flowRunId taskRunId size next (pages + 1) (lines ++ page)
termination_by UInt32.size - offset.toNat
decreasing_by
  have hgrow := lt_of_nextOffset? ‹_›
  have hfits : next.toNat < UInt32.size := next.toNat_lt_size
  omega

/-- **Every line** of a flow run's log, or of one task's part of it. -/
def fetchAll (flowRunId : String) (taskRunId : Option String) (pageSize : UInt32) :
    Fallible logPeer (List String) := do
  Fallible.ofExcept (Validation.flowRunId flowRunId)
  let size ← Fallible.ofExcept (PageSize.ofLines pageSize)
  let (pages, lines) ← walk flowRunId taskRunId size 0 0 []
  Fallible.note (.logWalked flowRunId taskRunId pages lines.length)
  return lines

end Logs

end FlowRuns
