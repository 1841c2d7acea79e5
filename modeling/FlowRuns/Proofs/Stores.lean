import FlowRuns.Session

/-!
# Stores in memory, request by request

An operation of the stores that is out of order answers with its error and leaves the stores; one that is in
order answers from the history or the dataflows, and changes nothing else.
-/

namespace FlowRuns

namespace Stores

variable {s : Stores} {e : FlowError} {q : HistoryQuery} {runs : List Run} {id : String} {d : Dataflow}

theorem serve_latest_of_fault (h : s.fault .queryRuns = some e) :
    s.serve (.inl (.latest q)) = (Except.error e, s) := by
  simp only [serve, serveHistory, h]
  rfl

theorem serve_latest (h : s.fault .queryRuns = none) :
    s.serve (.inl (.latest q)) = (Except.ok (s.history.latest q), s) := by
  simp only [serve, serveHistory, h]
  rfl

theorem serveHistory_record_of_fault (h : s.fault .recordRuns = some e) :
    s.serveHistory (.record runs) = (Except.error e, s) := by
  simp only [serveHistory, h]
  rfl

theorem serveHistory_record (h : s.fault .recordRuns = none) :
    s.serveHistory (.record runs) =
      (Except.ok (MemoryHistory.batchSize runs), { s with history := s.history.record runs }) := by
  simp only [serveHistory, h]
  rfl

theorem serve_find_of_fault (h : s.fault .findDataflow = some e) :
    s.serve (.inr (.find id)) = (Except.error e, s) := by
  simp only [serve, serveDataflows, h]
  rfl

theorem serve_find (h : s.fault .findDataflow = none) :
    s.serve (.inr (.find id)) = (Except.ok (s.dataflows.get? id), s) := by
  simp only [serve, serveDataflows, h]
  rfl

theorem serve_save_of_fault (h : s.fault .saveDataflow = some e) :
    s.serve (.inr (.save d)) = (Except.error e, s) := by
  simp only [serve, serveDataflows, h]
  rfl

theorem serve_save (h : s.fault .saveDataflow = none) :
    s.serve (.inr (.save d)) = (Except.ok (), { s with dataflows := s.dataflows.save d }) := by
  simp only [serve, serveDataflows, h]
  rfl

end Stores

end FlowRuns
