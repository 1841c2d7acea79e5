import FlowRuns.Json.Decode

/-!
# Fields of a value

What a record makes of its fields when it succeeds, field by field, whether they are given by name or
in a sequence.

* `Decoder.Yields` — what becomes of a field that may be missing.
* `Json.field?` — where a field is found in a value: an object has it under its key, a sequence at its
  position.
* `Record.Reads` — what a record makes of a value, and what of the value is left for the fields that
  come after it.
* `Record.Reads.seq`, `Record.Reads.map`, `Record.Reads.withDefault` — a record that succeeds has read
  each of its parts, the later ones from what the earlier ones left.
* `Record.Reads.first`, `Record.Reads.last` — the same, field by field.
-/

namespace FlowRuns

variable {α β : Type}

/-! ## A field that may be missing -/

/-- `a` is what a decoder reads, or else the value that a missing field has. -/
def Decoder.Yields (decode : Decoder α) (default : α) (given? : Option Json) (a : α) : Prop :=
  match given? with
  | some j => decode j = .ok a
  | none => a = default

namespace Json

/-- The value of a field with a key and a position: objects tell fields apart by the one, sequences
by the other. -/
def field? (key : String) (position : Nat) : Json → Option Json
  | object entries => entries.lookup key
  | array elements => elements[position]?
  | _ => none

/-- What is left of a value for the fields after the first one. -/
def rest : Json → Json
  | array elements => array elements.tail
  | j => j

/-- A field of what is left is the next field of the whole. -/
theorem field?_rest (key : String) (position : Nat) (j : Json) :
    j.rest.field? key position = j.field? key (position + 1) := by
  cases j <;> simp [rest, field?]

/-- A key that was put into an object holds the value, all others what they held. -/
theorem lookup_insertEntry (key k : String) (v : Json) (es : List (String × Json)) :
    (insertEntry key v es).lookup k = if k = key then some v else es.lookup k := by
  induction es with
  | nil => by_cases hk : k = key <;> simp [insertEntry, List.lookup_cons, hk, beq_false_of_ne]
  | cons e es ih =>
    obtain ⟨k₀, v₀⟩ := e
    rw [insertEntry]
    split
    · by_cases hk : k = key <;> simp [List.lookup_cons, hk, beq_false_of_ne]
    · split
      · next same =>
        subst same
        by_cases hk : k = key <;> simp [List.lookup_cons, hk, beq_false_of_ne]
      · next other =>
        by_cases hk : k = k₀
        · have : k ≠ key := fun h => other (h.symm.trans hk)
          simp [hk, Ne.symm other]
        · simp [List.lookup_cons, beq_false_of_ne hk, ih]

end Json

/-! ## Records -/

namespace Record

/-- A record makes `a` of the fields at the front of a value, and leaves the others. -/
def Reads (r : Record α) (a : α) (left : Json) : Json → Prop
  | .object es => r.build (fun k => es.lookup k) = .ok a ∧ left = .object es
  | .array es => ∃ shape i i' es', r.take shape i es = .ok (a, i', es') ∧ left = .array es'
  | _ => False

/-- A decoder that succeeds has read the record. -/
theorem reads_of_decoder {r : Record α} {title : String} {j : Json} {a : α}
    (h : r.decoder title j = .ok a) : ∃ left, r.Reads a left j := by
  match j with
  | .object es =>
    cases hc : es.forM fun e => r.check e.1 e.2 with
    | error m => simp [decoder, hc, bind, Except.bind] at h
    | ok u => exact ⟨_, by simpa [decoder, hc, bind, Except.bind] using h, rfl⟩
  | .array es =>
    cases ht : r.take (r.shape title) 0 es with
    | error m => simp [decoder, ht, bind, Except.bind] at h
    | ok out =>
      obtain ⟨b, i, es'⟩ := out
      cases es' with
      | nil =>
        obtain rfl : b = a := by
          simpa [decoder, ht, bind, Except.bind, pure, Except.pure] using h
        exact ⟨_, _, _, _, _, ht, rfl⟩
      | cons e es' =>
        simp [decoder, ht, bind, Except.bind, throw, throwThe, MonadExceptOf.throw] at h
  | .null | .bool _ | .int _ | .float _ | .string _ => simp [decoder] at h

variable {j left : Json}

/-- Of two parts, the second one reads what the first one leaves. -/
theorem Reads.seq {f : Record (α → β)} {r : Record α} {b : β} (h : (f <*> r).Reads b left j) :
    ∃ g a mid, f.Reads g mid j ∧ r.Reads a left mid ∧ b = g a := by
  match j with
  | .object es =>
    -- the entries are there for both parts
    obtain ⟨h, rfl⟩ := h
    cases hf : f.build fun k => es.lookup k with
    | error m => simp [Seq.seq, Record.seq, hf, bind, Except.bind] at h
    | ok g =>
      cases hr : r.build fun k => es.lookup k with
      | error m => simp [Seq.seq, Record.seq, hf, hr, bind, Except.bind] at h
      | ok a =>
        obtain rfl : g a = b := by
          simpa [Seq.seq, Record.seq, hf, hr, bind, Except.bind, pure, Except.pure] using h
        exact ⟨g, a, _, ⟨hf, rfl⟩, ⟨hr, rfl⟩, rfl⟩
  | .array es =>
    -- the second part goes on where the first one ended
    obtain ⟨shape, i, i', es', h, rfl⟩ := h
    cases hf : f.take shape i es with
    | error m => simp [Seq.seq, Record.seq, hf, bind, Except.bind] at h
    | ok out =>
      obtain ⟨g, i₁, es₁⟩ := out
      cases hr : r.take shape i₁ es₁ with
      | error m => simp [Seq.seq, Record.seq, hf, hr, bind, Except.bind] at h
      | ok out =>
        obtain ⟨a, i₂, es₂⟩ := out
        obtain ⟨rfl, rfl, rfl⟩ : g a = b ∧ i₂ = i' ∧ es₂ = es' := by
          simpa [Seq.seq, Record.seq, hf, hr, bind, Except.bind, pure, Except.pure] using h
        exact ⟨g, a, _, ⟨_, _, _, _, hf, rfl⟩, ⟨_, _, _, _, hr, rfl⟩, rfl⟩
  | .null | .bool _ | .int _ | .float _ | .string _ => exact h.elim

/-- No fields are read from anything, and leave all of it. -/
theorem Reads.pure {a b : α} (h : (Pure.pure a : Record α).Reads b left j) : b = a ∧ left = j := by
  match j with
  | .object es =>
    obtain ⟨h, rfl⟩ := h
    exact ⟨(Except.ok.inj h).symm, rfl⟩
  | .array es =>
    obtain ⟨shape, i, i', es', h, rfl⟩ := h
    obtain ⟨rfl, -, rfl⟩ : a = b ∧ i = i' ∧ es = es' := by simpa [Pure.pure, Record.pure] using h
    exact ⟨rfl, rfl⟩
  | .null | .bool _ | .int _ | .float _ | .string _ => exact h.elim

/-- A function of a record reads what the record reads. -/
theorem Reads.map {f : α → β} {r : Record α} {b : β} (h : (f <$> r).Reads b left j) :
    ∃ a, r.Reads a left j ∧ b = f a := by
  obtain ⟨g, a, mid, hg, ha, rfl⟩ := Reads.seq (f := Pure.pure f) h
  obtain ⟨rfl, rfl⟩ := hg.pure
  exact ⟨a, ha, rfl⟩

/-- A field is found under its key, or first in what is left of a sequence. -/
theorem Reads.withDefault {name : String} {decode : Decoder α} {value a : α}
    (h : (Record.withDefault name decode value).Reads a left j) :
    decode.Yields value (j.field? name 0) a ∧ left = j.rest := by
  match j with
  | .object es =>
    obtain ⟨h, rfl⟩ := h
    refine ⟨?_, rfl⟩
    cases hn : es.lookup name <;>
      simpa [Record.withDefault, field, Decoder.Yields, Json.field?, hn, eq_comm] using h
  | .array [] =>
    obtain ⟨shape, i, i', es', h, rfl⟩ := h
    obtain ⟨rfl, -, rfl⟩ : value = a ∧ i + 1 = i' ∧ [] = es' := by
      simpa [Record.withDefault, field] using h
    exact ⟨rfl, rfl⟩
  | .array (e :: es) =>
    obtain ⟨shape, i, i', es', h, rfl⟩ := h
    cases he : decode e with
    | error m => simp [Record.withDefault, field, he, Except.map] at h
    | ok b =>
      obtain ⟨rfl, -, rfl⟩ : b = a ∧ i + 1 = i' ∧ es = es' := by
        simpa [Record.withDefault, field, he, Except.map] using h
      exact ⟨he, rfl⟩
  | .null | .bool _ | .int _ | .float _ | .string _ => exact h.elim

/-- The first of several fields is read from the whole value. -/
theorem Reads.first {f : α → β} {name : String} {decode : Decoder α} {value : α} {b : β}
    (h : (f <$> Record.withDefault name decode value).Reads b left j) :
    ∃ a, decode.Yields value (j.field? name 0) a ∧ left = j.rest ∧ b = f a := by
  obtain ⟨a, ha, rfl⟩ := h.map
  exact ⟨a, ha.withDefault.1, ha.withDefault.2, rfl⟩

/-- The last of several fields is read from what those before it leave. -/
theorem Reads.last {f : Record (α → β)} {name : String} {decode : Decoder α} {value : α} {b : β}
    (h : (f <*> Record.withDefault name decode value).Reads b left j) :
    ∃ g a mid, f.Reads g mid j ∧ decode.Yields value (mid.field? name 0) a ∧ left = mid.rest ∧
      b = g a := by
  obtain ⟨g, a, mid, hg, ha, rfl⟩ := h.seq
  exact ⟨g, a, mid, hg, ha.withDefault.1, ha.withDefault.2, rfl⟩

end Record

end FlowRuns
