import FlowRuns.Dataflow

/-!
# Snapshots beside dataflows

A snapshot is put beside a dataflow as an object of four integers, and is read from there again.

* `RunTimeStats.decoder_figure` — a figure reads as itself, over the whole range of 64-bit integers.
* `RunTimeStats.decoder_toJson` — **a snapshot reads as itself.**
* `Dataflow.runTimeStats?_withRunTimeStats` — so what is put beside a dataflow is found there.
-/

namespace FlowRuns

namespace RunTimeStats

/-- A figure reads as itself. -/
theorem decoder_figure (n : Int64) : Decoder.int64 (figure n) = .ok n := by
  have hrange : Int64.minValue.toInt ≤ n.toInt ∧ n.toInt ≤ Int64.maxValue.toInt :=
    ⟨Int64.minValue_le_toInt n, Int64.toInt_le n⟩
  rw [figure, Decoder.int64, Decoder.integer, if_pos hrange, Except.map, Int64.ofInt_toInt]

/-- **A snapshot reads as itself.** -/
theorem decoder_toJson (s : RunTimeStats) : decoder s.toJson = .ok s := by
  -- every entry passes its check, and every field finds its entry
  simp [decoder, toJson, Record.decoder, record, Record.required, Record.field, Functor.map, Seq.seq,
    Record.seq, Record.pure, List.lookup_cons, decoder_figure, bind, Except.bind, Except.map, pure,
    Except.pure]

end RunTimeStats

namespace Dataflow

/-- What is put beside a dataflow is found there. -/
@[simp] theorem runTimeStats?_withRunTimeStats (d : Dataflow) (s : RunTimeStats) :
    (d.withRunTimeStats s).runTimeStats? = some s := by
  change (RunTimeStats.decoder s.toJson).toOption = some s
  rw [RunTimeStats.decoder_toJson]
  rfl

end Dataflow

end FlowRuns
