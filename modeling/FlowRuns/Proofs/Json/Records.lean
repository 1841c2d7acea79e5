import Mathlib.Data.List.Basic
import FlowRuns.Proofs.Json.Ordered

/-!
# What a record accepts

A record is read from an object or from a sequence, and what it makes of its fields is the same in both.
That is said once for each way of building records, and gives the exact condition under which a value is
read.

* `Record.Means` — a record of so many fields makes of them just what a relation says.
* `Record.means_pure`, `Record.Means.map`, `Record.Means.required`, `Record.Means.withDefault` — no fields, a
  function of fields, and one field more.
* `Record.Means.decoder_eq_ok_iff` — **what is read**: an object in order, or a sequence that is not too
  long, whose fields stand for the result.
-/

namespace FlowRuns

variable {α β : Type}

/-- Two steps succeed exactly if the first does, and the second on what the first gives. -/
theorem bind_eq_ok_iff {ε : Type} {x : Except ε α} {f : α → Except ε β} {b : β} :
    x >>= f = .ok b ↔ ∃ a, x = .ok a ∧ f a = .ok b := by
  cases x with
  | error e => exact ⟨nofun, fun ⟨_, h, _⟩ => nomatch h⟩
  | ok a => exact ⟨fun h => ⟨a, rfl, h⟩, fun ⟨_, ha, h⟩ => Except.ok.inj ha ▸ h⟩

/-- A value that can hold so many fields: an object, whatever else it holds, or a sequence of no more
elements. -/
def Json.HasShape (n : Nat) : Json → Prop
  | .object _ => True
  | .array es => es.length ≤ n
  | _ => False

namespace Record

/-- Where fields are found, by key and position. -/
abbrev Fields := String → Nat → Option Json

/-- **A record of `n` fields means a relation** between its fields and its result, if it builds a result from
the values under the keys exactly when these stand for it, if it finds nothing wrong with such values one by
one, and if it takes a result from the front of a sequence exactly when the first `n` elements stand for
it. -/
structure Means (r : Record α) (n : Nat) (M : Fields → α → Prop) : Prop where
  /-- there are so many fields -/
  size : r.size = n
  /-- by key -/
  build : ∀ {get : String → Option Json} {a : α}, r.build get = .ok a ↔ M (fun k _ => get k) a
  /-- entry by entry -/
  check : ∀ {get : String → Option Json} {a : α}, r.build get = .ok a →
    ∀ {k : String} {v : Json}, get k = some v → r.check k v = .ok ()
  /-- by position -/
  take : ∀ {shape : String} {i : Nat} {es : List Json} {a : α} {i' : Nat} {es' : List Json},
    r.take shape i es = .ok (a, i', es') ↔ M (fun _ p => es[p]?) a ∧ i' = i + n ∧ es' = es.drop n

variable {n m : Nat} {M : Fields → α → Prop}

/-- A relation that says the same may stand for another. -/
theorem Means.congr {M' : Fields → α → Prop} {r : Record α} (h : r.Means n M)
    (hM : ∀ get a, M get a ↔ M' get a) : r.Means n M' where
  size := h.size
  build := h.build.trans (hM _ _)
  check := h.check
  take := h.take.trans (and_congr_left' (hM _ _))

/-! ## Ways of building records -/

/-- No fields stand for one value. -/
theorem means_pure (a : α) : (Pure.pure a : Record α).Means 0 fun _ b => b = a where
  size := rfl
  build := ⟨fun h => (Except.ok.inj h).symm, fun h => congrArg Except.ok h.symm⟩
  check _ _ _ _ := rfl
  take {shape i es b i' es'} := by
    change Except.ok (a, i, es) = .ok (b, i', es') ↔ _
    simp [eq_comm]

/-- Of the fields of two parts, those of the second come after those of the first. -/
theorem Means.seq {f : Record (α → β)} {r : Record α} {F : Fields → (α → β) → Prop}
    (hf : f.Means n F) (hr : r.Means m M) : (f <*> r).Means (n + m) fun get b =>
      ∃ g a, F get g ∧ M (fun k p => get k (n + p)) a ∧ b = g a where
  size := congrArg₂ (· + ·) hf.size hr.size
  build {get b} := by
    change ((f.build get) >>= fun g => (r.build get) >>= fun a => Except.ok (g a)) = .ok b ↔ _
    simp only [bind_eq_ok_iff, hf.build, hr.build, Except.ok.injEq]
    constructor
    · rintro ⟨g, hg, a, ha, rfl⟩
      exact ⟨g, a, hg, ha, rfl⟩
    · rintro ⟨g, a, hg, ha, rfl⟩
      exact ⟨g, hg, a, ha, rfl⟩
  check {get b} h k v hv := by
    change ((f.build get) >>= fun g => (r.build get) >>= fun a => Except.ok (g a)) = .ok b at h
    obtain ⟨g, hg, h⟩ := bind_eq_ok_iff.1 h
    obtain ⟨a, ha, -⟩ := bind_eq_ok_iff.1 h
    exact bind_eq_ok_iff.2 ⟨(), hf.check hg hv, hr.check ha hv⟩
  take {shape i es b i' es'} := by
    change ((f.take shape i es) >>= fun out => (r.take shape out.2.1 out.2.2) >>= fun out' =>
      Except.ok (out.1 out'.1, out'.2.1, out'.2.2)) = .ok (b, i', es') ↔ _
    simp only [bind_eq_ok_iff, Prod.exists, Except.ok.injEq, Prod.mk.injEq, hf.take, hr.take]
    constructor
    · rintro ⟨g, _, _, ⟨hg, rfl, rfl⟩, a, _, _, ⟨ha, rfl, rfl⟩, rfl, rfl, rfl⟩
      simp only [List.getElem?_drop] at ha
      exact ⟨⟨g, a, hg, ha, rfl⟩, Nat.add_assoc _ _ _, List.drop_drop⟩
    · rintro ⟨⟨g, a, hg, ha, rfl⟩, rfl, rfl⟩
      refine ⟨g, _, _, ⟨hg, rfl, rfl⟩, a, _, _, ⟨?_, rfl, rfl⟩, rfl, Nat.add_assoc _ _ _, List.drop_drop⟩
      simpa only [List.getElem?_drop] using ha

/-- A function of fields. -/
theorem Means.map {f : α → β} {r : Record α} (h : r.Means n M) :
    (f <$> r).Means n fun get b => ∃ a, M get a ∧ b = f a := by
  have hseq := (means_pure f).seq h
  rw [Nat.zero_add] at hseq
  refine hseq.congr fun get b => ?_
  simp only [Nat.zero_add]
  exact ⟨fun ⟨_, a, hg, ha, hb⟩ => ⟨a, ha, hg ▸ hb⟩, fun ⟨a, ha, hb⟩ => ⟨f, a, rfl, ha, hb⟩⟩

/-- A field that has the same value when it is missing in an object and in a sequence. -/
theorem means_field {name : String} {decode : Decoder α} {default : Option α} :
    (field name decode default default).Means 1 fun get a =>
      match get name 0 with
      | some j => decode j = .ok a
      | none => default = some a where
  size := rfl
  build {get a} := by
    unfold field
    dsimp only
    cases get name with
    | some j => exact Iff.rfl
    | none => cases default <;> simp
  check {get a} h k v hv := by
    unfold field at h ⊢
    dsimp only at h ⊢
    split
    next hk =>
      rw [← hk, hv] at h
      dsimp only at h
      rw [h]
      rfl
    · rfl
  take {shape i es a i' es'} := by
    unfold field
    dsimp only
    cases es with
    | nil => cases default <;> simp [eq_comm]
    | cons e es =>
      cases he : decode e with
      | error m => simp [Except.map, he]
      | ok b => simp [Except.map, he, eq_comm]

/-- A field that has to be there. -/
theorem means_required (name : String) (decode : Decoder α) :
    (Record.required name decode).Means 1 fun get a => ∃ j, get name 0 = some j ∧ decode j = .ok a :=
  means_field.congr fun get a => by cases get name 0 <;> simp

/-- A field with a value of its own when it is missing. -/
theorem means_withDefault (name : String) (decode : Decoder α) (value : α) :
    (Record.withDefault name decode value).Means 1 fun get a => decode.Yields value (get name 0) a :=
  means_field.congr fun get a => by cases get name 0 <;> simp [Decoder.Yields, eq_comm]

/-! ## Decoders -/

/-- Nothing is wrong with a list if nothing is wrong with its elements. -/
theorem forM_eq_ok {ε : Type} {f : α → Except ε Unit} {as : List α} (h : ∀ a ∈ as, f a = .ok ()) :
    as.forM f = .ok () := by
  induction as with
  | nil => rfl
  | cons a as ih =>
    exact bind_eq_ok_iff.2 ⟨(), h a List.mem_cons_self, ih fun b hb => h b (List.mem_cons_of_mem a hb)⟩

/-- **What is read** from a value in order: the value has the shape of the fields, and these stand for the
result. -/
theorem Means.decoder_eq_ok_iff {r : Record α} (h : r.Means n M) {title : String} {j : Json}
    (hj : j.Ordered) {a : α} : r.decoder title j = .ok a ↔ j.HasShape n ∧ M j.field? a := by
  cases hj with
  | @object es keys values =>
    change ((es.forM fun e => r.check e.1 e.2) >>= fun _ => r.build fun k => es.lookup k) = .ok a ↔ _
    rw [bind_eq_ok_iff]
    constructor
    · rintro ⟨-, -, hbuild⟩
      exact ⟨trivial, h.build.1 hbuild⟩
    · rintro ⟨-, hM⟩
      have hbuild := h.build.2 hM
      exact ⟨(), forM_eq_ok fun e he => h.check hbuild (Json.lookup_of_mem keys he), hbuild⟩
  | @array es elements =>
    change ((r.take (r.shape title) 0 es) >>= fun out =>
      if out.2.2.isEmpty then Except.ok out.1
      else .error (.wrongLength es.length "fewer elements in array")) = .ok a ↔ _
    rw [bind_eq_ok_iff]
    constructor
    · rintro ⟨⟨b, i, rest⟩, htake, hout⟩
      obtain ⟨hM, -, rfl⟩ := h.take.1 htake
      dsimp only at hout
      split at hout
      next hrest =>
        obtain rfl := Except.ok.inj hout
        exact ⟨List.drop_eq_nil_iff.1 (List.isEmpty_iff.1 hrest), hM⟩
      · cases hout
    · rintro ⟨hlength, hM⟩
      refine ⟨(a, 0 + n, es.drop n), h.take.2 ⟨hM, rfl, rfl⟩, ?_⟩
      dsimp only
      rw [List.drop_eq_nil_iff.2 hlength]
      rfl
  | _ => exact ⟨nofun, fun h => h.1.elim⟩

end Record

end FlowRuns
