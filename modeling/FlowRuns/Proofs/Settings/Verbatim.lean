import Mathlib.Data.List.Pairwise
import FlowRuns.Proofs.Settings.Overriding
import FlowRuns.Proofs.Text.Numeral

/-!
# Texts from variables

Variables say whether their value is a truth value or a number before it is known what it is for. A setting
that holds a text is given the text of that truth value or number, which is not always the one that the
variable had. The older variables are not read in this way, and their texts are kept.

* `Leaf.isText`, `Leaf.text?` — the leaves that hold texts.
* `Variables.textOf` — **the text that is left of a value.**
* `Variables.Names` — a leaf has a variable of its own, and no other one takes its section apart.
* `Layer.Holds`, `Layer.Holds.put`, `Layer.holds_laidOn?` — what is set stays, **entry by entry** and through
  a layer.
* `Variables.Names.holds`, `Variables.holds_of_older` — what is set by variables.
* `Surroundings.settings_text` — **what is loaded.**
-/

namespace FlowRuns

namespace Leaf

/-- Whether a leaf holds a text. -/
def isText : Leaf → Bool
  | baseUrl | orgSlug | databaseUrl | level => true
  | _ => false

/-- The text that a leaf holds, if it holds one. -/
def text? (s : Settings) : Leaf → Option String
  | baseUrl => some s.proxy.baseUrl
  | orgSlug => s.proxy.orgSlug
  | databaseUrl => some s.database.url
  | level => s.logging.level
  | _ => none

/-- A leaf that holds a text holds the one that is read from what is said of it. -/
theorem text?_of_yields {leaf : Leaf} {s : Settings} {j : Json} (hleaf : leaf.isText = true)
    (hj : j ≠ .null) (h : (leaf.decoder .coercing).Yields (leaf.get .default) (some j) (leaf.get s)) :
    ∃ t, Coercion.text j = .ok t ∧ leaf.text? s = some t := by
  have optional {t? : Option String} (h : Decoder.optional Coercion.text j = .ok t?) :
      ∃ t, Coercion.text j = .ok t ∧ t? = some t := by
    have mapped : (Coercion.text j).map some = .ok t? := by
      cases j <;> first | exact absurd rfl hj | exact h
    cases ht : Coercion.text j with
    | error m => rw [ht] at mapped; cases mapped
    | ok t => rw [ht] at mapped; cases mapped; exact ⟨t, rfl, rfl⟩
  cases leaf with
  | baseUrl => exact ⟨_, h, rfl⟩
  | databaseUrl => exact ⟨_, h, rfl⟩
  | orgSlug => exact optional h
  | level => exact optional h
  | _ => cases hleaf

/-- A leaf is known by its section and its key. -/
theorem path_injective {a b : Leaf} (h : a.path = b.path) : a = b := by
  cases a <;> cases b <;> first | rfl | exact absurd h (by decide)

/-- The place of a leaf names its section and its key. -/
theorem setting?_path (leaf : Leaf) :
    Place.setting? ⟨leaf.sectionName, [.child leaf.key]⟩ = some leaf.path := by
  cases leaf <;> decide

end Leaf

/-! ## What is set stays -/

/-- Whether a value has parts. -/
def Json.hasParts : Json → Bool
  | object _ => true
  | array _ => true
  | _ => false

namespace Layer

variable {sectionName key : String} {value below above : Json} {e : Place × Json} {layer : Layer}

/-- The key of a section has a value, unless something with parts has come in its place. -/
def Holds (sectionName key : String) (value document : Json) : Prop :=
  ∃ es, document.get? sectionName = some (.object es) ∧
    ∃ j, es.lookup key = some j ∧ (j = value ∨ j.hasParts = true)

/-- An entry that leaves a section together, and that sets a key of it to nothing but the value. -/
structure Spares (sectionName key : String) (value : Json) (e : Place × Json) : Prop where
  /-- what reaches into the section goes to one of its keys -/
  keyed : Text.lowercase e.1.key = sectionName → ∃ k steps, e.1.steps = .child k :: steps
  /-- what goes to the key itself is the value -/
  same : e.1.setting? = some (sectionName, key) → e.2 = value
  /-- nothing is merged -/
  single : e.2.hasParts = false

/-- What is put further down into a value makes it one with parts. -/
theorem hasParts_putAt? {step : PlaceStep} {steps : List PlaceStep} {target out : Json}
    (h : putAt? (step :: steps) value target = some out) : out.hasParts = true := by
  cases step with
  | child k =>
    cases steps with
    | nil =>
      obtain rfl := Option.some.inj h
      cases value <;> rfl
    | cons step steps =>
      simp only [putAt?, Option.bind_eq_bind, Option.bind_eq_some_iff] at h
      obtain ⟨_, -, h⟩ := h
      obtain rfl := Option.some.inj h
      rfl
  | index i =>
    simp only [putAt?, Option.bind_eq_bind, Option.bind_eq_some_iff] at h
    obtain ⟨_, -, _, -, h⟩ := h
    obtain rfl := Option.some.inj h
    rfl

/-- What goes to a key of a section is put among its entries: a value at the key, or something with
parts if it goes further down. -/
theorem get?_put?_keyed {section' k : String} {steps : List PlaceStep} (hv : value.hasParts = false)
    (hs : Text.lowercase section' = sectionName)
    (h : put? below (⟨section', .child k :: steps⟩, value) = some above) :
    ∃ new, above.get? sectionName =
        some (.object (Json.insertEntry (Text.lowercase k) new (entriesIn sectionName below))) ∧
      (steps = [] ∧ new = value ∨ new.hasParts = true) := by
  cases steps with
  | nil =>
    have notObject : ∀ es, value ≠ .object es := fun es heq => by rw [heq] at hv; cases hv
    exact ⟨value, get?_put?_child notObject hs h, .inl ⟨rfl, rfl⟩⟩
  | cons step steps =>
    subst hs
    simp only [put?, putAt?, Option.bind_eq_bind, Option.bind_eq_some_iff, lookup_entriesOf] at h
    obtain ⟨_, ⟨new, hnew, hsection⟩, h⟩ := h
    obtain rfl := Option.some.inj hsection
    obtain rfl := Option.some.inj h
    exact ⟨new, by rw [Json.get?, Json.lookup_insertEntry, if_pos rfl, entriesIn],
      .inr (hasParts_putAt? hnew)⟩

/-- An entry that sets the key makes the section hold its value. -/
theorem holds_of_put? (hv : e.2.hasParts = false) (hset : e.1.setting? = some (sectionName, key))
    (h : put? below e = some above) : Holds sectionName key e.2 above := by
  match e, hset with
  | ⟨⟨section', [.child k]⟩, v⟩, hset =>
    obtain ⟨hs, hk⟩ := Prod.mk.inj (Option.some.inj hset)
    obtain ⟨new, habove, hnew⟩ := get?_put?_keyed hv hs h
    refine ⟨_, habove, new, ?_, hnew.imp And.right id⟩
    rw [Json.lookup_insertEntry, if_pos hk.symm]

/-- **Entry by entry.** What the key holds stays if an entry spares it. -/
theorem Holds.put (hbelow : Holds sectionName key value below) (he : Spares sectionName key value e)
    (h : put? below e = some above) : Holds sectionName key value above := by
  obtain ⟨es, hes, j, hj, hvalue⟩ := hbelow
  by_cases hs : Text.lowercase e.1.key = sectionName
  · obtain ⟨k, steps, hsteps⟩ := he.keyed hs
    obtain ⟨⟨section', _⟩, v⟩ := e
    obtain rfl := hsteps
    obtain ⟨new, habove, hnew⟩ := get?_put?_keyed he.single hs h
    have hentries : entriesIn sectionName below = es := by rw [entriesIn, hes]; rfl
    rw [hentries] at habove
    refine ⟨_, habove, ?_⟩
    rw [Json.lookup_insertEntry]
    -- the entry goes to the key itself, or to another one of the section
    by_cases hk : key = Text.lowercase k
    · refine ⟨new, if_pos hk, hnew.imp ?_ id⟩
      rintro ⟨rfl, rfl⟩
      exact he.same (by rw [Place.setting?, ← hk, ← hs])
    · exact ⟨j, by rw [if_neg hk, hj], hvalue⟩
  · exact ⟨es, by rw [get?_put?_of_ne h hs, hes], j, hj, hvalue⟩

/-- **Through a layer.** A section holds the value after a layer that spares it, if it did so before or an
entry of the layer sets it. -/
theorem holds_laidOn? (hspares : ∀ e ∈ layer, Spares sectionName key value e)
    (hset : Holds sectionName key value below ∨ ∃ e ∈ layer, e.1.setting? = some (sectionName, key))
    (h : layer.laidOn? below = some above) : Holds sectionName key value above := by
  induction layer generalizing below with
  | nil =>
    obtain rfl := Option.some.inj h
    exact hset.resolve_right fun ⟨e, he, _⟩ => List.not_mem_nil he
  | cons e layer ih =>
    rw [laidOn?, List.foldlM_cons, Option.bind_eq_bind, Option.bind_eq_some_iff] at h
    obtain ⟨mid, hmid, h⟩ := h
    have he := hspares e List.mem_cons_self
    refine ih (fun e' he' => hspares e' (List.mem_cons_of_mem e he')) ?_ h
    obtain hbelow | ⟨e', he', hnamed⟩ := hset
    · exact .inl (hbelow.put he hmid)
    · obtain rfl | he' := List.mem_cons.1 he'
      · exact .inl (he.same hnamed ▸ holds_of_put? he.single hnamed hmid)
      · exact .inr ⟨e', he', hnamed⟩

end Layer

/-! ## Variables -/

namespace Variables

/-- **The text that is left of a value** when a text is asked for. -/
def textOf (s : String) : String :=
  match boolOf? s, Text.int64Of? s, Text.binary64Of? s with
  | some b, _, _ => if b then "true" else "false"
  | none, some i, _ => toString i
  | none, none, some x => DecimalStyle.positional.text x
  | none, none, none => s

theorem text_value (s : String) : Coercion.text (value s) = .ok (textOf s) := by
  rw [value, textOf]
  rcases boolOf? s with _ | b
  · rcases Text.int64Of? s with _ | i
    · rcases Text.binary64Of? s with _ | x <;> rfl
    · rfl
  · rfl

theorem hasParts_value (s : String) : (value s).hasParts = false := by
  unfold value
  split <;> rfl

theorem value_ne_null (s : String) : value s ≠ .null := by
  rw [value]
  split <;> exact Json.noConfusion

/-- A leaf has a variable of its own: its value is `s` wherever it is set, and no other variable replaces the
section as a whole or takes it as a sequence. -/
structure Names (vars : Variables) (leaf : Leaf) (s : String) : Prop where
  /-- there is a variable of this name -/
  set : ∃ v ∈ vars, setting? v.1 = some leaf.path
  /-- its value, in whatever letter case it may be spelt again -/
  same : ∀ v ∈ vars, setting? v.1 = some leaf.path → v.2 = s
  /-- what else reaches into the section goes to one of its keys -/
  keyed : ∀ v ∈ vars, ∀ p, place? v.1 = some p → Text.lowercase p.key = leaf.sectionName →
    ∃ key steps, p.steps = .child key :: steps

/-- Where variables are well spelt, a leaf has each variable that is named after it as its own. -/
theorem WellSpelt.names {vars : Variables} (h : vars.WellSpelt) {leaf : Leaf} {v : String × String}
    (hv : v ∈ vars) (hset : setting? v.1 = some leaf.path) : vars.Names leaf v.2 := by
  refine ⟨⟨v, hv, hset⟩, fun w hw hset' => ?_, fun w hw p hp hs => ?_⟩
  · by_contra hne
    have distinct := List.pairwise_filterMap.1 h.once
    have symmetric : Std.Symm fun a b : String × String =>
        ∀ x, setting? a.1 = some x → ∀ y, setting? b.1 = some y → x ≠ y :=
      ⟨fun a b hab x hx y hy => (hab y hy x hx).symm⟩
    have other : w ≠ v := fun heq => hne (congrArg Prod.snd heq)
    exact distinct.forall hw hv other leaf.path hset' leaf.path hset rfl
  · obtain ⟨key, hsteps⟩ := h.keyed w hw p hp leaf hs
    exact ⟨key, [], hsteps⟩

/-- A variable that is read as a setting has an entry in its layer. -/
theorem mem_environmentLayer {vars : Variables} {e : Place × Json} :
    e ∈ environmentLayer vars ↔ ∃ v ∈ vars, place? v.1 = some e.1 ∧ value v.2 = e.2 := by
  simp only [environmentLayer, List.mem_filterMap, Option.map_eq_some_iff, Prod.ext_iff]
  constructor
  · rintro ⟨v, hv, p, hp, rfl, hvalue⟩
    exact ⟨v, hv, hp, hvalue⟩
  · rintro ⟨v, hv, hp, hvalue⟩
    exact ⟨v, hv, e.1, hp, rfl, hvalue⟩

/-- The older variables set leaves to what they say. -/
theorem mem_legacyLayer {vars : Variables} {e : Place × Json} :
    e ∈ legacyLayer vars ↔ ∃ leaf : Leaf, leaf.older? vars = some e.2 ∧
      e.1 = ⟨leaf.sectionName, [.child leaf.key]⟩ := by
  obtain ⟨place, j⟩ := e
  simp only [legacyLayer, legacyPlaces, List.mem_filterMap, List.mem_cons, List.not_mem_nil, or_false,
    Option.map_eq_some_iff, Prod.mk.injEq]
  constructor
  · rintro ⟨_, rfl | rfl, s, hs, rfl, rfl⟩
    · exact ⟨.baseUrl, congrArg (Option.map Json.string) hs, rfl⟩
    · exact ⟨.databaseUrl, congrArg (Option.map Json.string) hs, rfl⟩
  · rintro ⟨leaf, hleaf, rfl⟩
    obtain ⟨s, hs, rfl⟩ := Option.map_eq_some_iff.1 hleaf
    obtain ⟨name, hname, hs⟩ := Option.bind_eq_some_iff.1 hs
    cases leaf with
    | baseUrl => cases hname; exact ⟨_, .inl rfl, s, hs, rfl, rfl⟩
    | databaseUrl => cases hname; exact ⟨_, .inr rfl, s, hs, rfl, rfl⟩
    | _ => cases hname

/-- **A text with another character** than those of numbers and words is kept. -/
theorem textOf_of_mem {s : String} {c : Char} (hc : c ∈ s.toList) (hascii : c.toNat < 0x80)
    (h : Text.isSpelling c = false) : textOf s = s := by
  have hbool : boolOf? s = none := by
    have hword {word : String} (hlower : Text.lowercase s = word)
        (hall : word.toList.all Text.isSpelling = true) : False := by
      rw [Text.isSpelling_of_lowercase (hlower ▸ hall) hc hascii] at h
      cases h
    rw [boolOf?, if_neg fun hlower => hword hlower (by decide), if_neg fun hlower => hword hlower (by decide)]
  have hint : Text.int64Of? s = none := by
    refine Option.eq_none_iff_forall_ne_some.2 fun i hi => ?_
    rw [Text.isSpelling_of_int64Of? hi hc] at h
    cases h
  have hfloat : Text.binary64Of? s = none := by
    refine Option.eq_none_iff_forall_ne_some.2 fun x hx => ?_
    rw [Text.isSpelling_of_binary64Of? hx hc] at h
    cases h
  rw [textOf, hbool, hint, hfloat]

variable {vars : Variables} {leaf : Leaf}

/-- The variables of a leaf, and those beside it, spare what it says. -/
theorem Names.spares {s : String} (h : vars.Names leaf s) {e : Place × Json}
    (he : e ∈ environmentLayer vars) : Layer.Spares leaf.sectionName leaf.key (value s) e := by
  obtain ⟨v, hv, hplace, hvalue⟩ := mem_environmentLayer.1 he
  refine ⟨h.keyed v hv e.1 hplace, fun hset => ?_, hvalue ▸ hasParts_value v.2⟩
  rw [← hvalue, h.same v hv (by rw [setting?, hplace, Option.bind_some, hset, Leaf.path])]

/-- The older variables spare what the one of a leaf says, if it says anything. -/
theorem spares_legacyLayer {j : Json} (h : ∀ j', leaf.older? vars = some j' → j' = j) {e : Place × Json}
    (he : e ∈ legacyLayer vars) : Layer.Spares leaf.sectionName leaf.key j e := by
  obtain ⟨leaf', hsays, hplace⟩ := mem_legacyLayer.1 he
  obtain ⟨s, -, hvalue⟩ := Option.map_eq_some_iff.1 hsays
  refine ⟨fun _ => ⟨_, _, congrArg Place.steps hplace⟩, fun hset => ?_, hvalue ▸ rfl⟩
  rw [hplace, Leaf.setting?_path] at hset
  obtain rfl := Leaf.path_injective (Option.some.inj hset)
  exact h _ hsays

variable {below above : Json}

/-- After both layers of variables a leaf has the value of its variable, if it has no older one. -/
theorem Names.holds {s : String} (h : vars.Names leaf s) (older : leaf.older? vars = none)
    (laid : vars.layers.laidOn? below = some above) :
    Layer.Holds leaf.sectionName leaf.key (value s) above := by
  rw [layers, Layer.laidOn?_append, Option.bind_eq_some_iff] at laid
  obtain ⟨mid, environment, legacy⟩ := laid
  have set : ∃ e ∈ vars.environmentLayer, e.1.setting? = some (leaf.sectionName, leaf.key) := by
    obtain ⟨v, hv, hset⟩ := h.set
    obtain ⟨p, hplace, hp⟩ := Option.bind_eq_some_iff.1 hset
    exact ⟨(p, value v.2), mem_environmentLayer.2 ⟨v, hv, hplace, rfl⟩, hp⟩
  have named := Layer.holds_laidOn? (fun e => h.spares) (.inr set) environment
  have unsaid : ∀ j, leaf.older? vars = some j → j = value s := fun j hj => by
    rw [older] at hj
    cases hj
  exact Layer.holds_laidOn? (fun e => spares_legacyLayer unsaid) (.inl named) legacy

/-- It has the value of its older variable, whatever the others are. -/
theorem holds_of_older {j : Json} (older : leaf.older? vars = some j)
    (laid : vars.layers.laidOn? below = some above) :
    Layer.Holds leaf.sectionName leaf.key j above := by
  rw [layers, Layer.laidOn?_append, Option.bind_eq_some_iff] at laid
  obtain ⟨mid, -, legacy⟩ := laid
  have set : ∃ e ∈ vars.legacyLayer, e.1.setting? = some (leaf.sectionName, leaf.key) :=
    ⟨(⟨leaf.sectionName, [.child leaf.key]⟩, j), mem_legacyLayer.2 ⟨leaf, older, rfl⟩,
      Leaf.setting?_path leaf⟩
  have same : ∀ j', leaf.older? vars = some j' → j' = j := fun j' hj' =>
    Option.some.inj (hj'.symm.trans older)
  exact Layer.holds_laidOn? (fun e => spares_legacyLayer same) (.inr set) legacy

end Variables

/-! ## What is loaded -/

namespace Surroundings

open Variables (textOf)

variable {sur : Surroundings} {path : Option String} {st : Settings} {leaf : Leaf} {document j : Json}

/-- A leaf that the document holds is read from it. -/
theorem text?_of_holds (hleaf : leaf.isText = true) (layered : sur.layered path = .ok document)
    (read : Settings.decoder .coercing document = .ok st)
    (holds : Layer.Holds leaf.sectionName leaf.key j document) (hnull : j ≠ .null) :
    ∃ t, Coercion.text j = .ok t ∧ leaf.text? st = some t := by
  obtain ⟨es, -, laid⟩ := written_of_layered layered
  obtain ⟨es', rfl⟩ := Layer.laidOn?_object laid
  obtain ⟨entries, hsection, j', hkey, hj'⟩ := holds
  have said : leaf.inDocument? (.object es') = some j' := by
    rw [Leaf.inDocument?, hsection]
    exact hkey
  have yields := Leaf.yields read leaf
  rw [said] at yields
  obtain rfl | parts := hj'
  · exact Leaf.text?_of_yields hleaf hnull yields
  · -- something else has come in its place, which is not read as a text
    obtain ⟨t, ht, -⟩ := Leaf.text?_of_yields hleaf (fun h => by rw [h] at parts; cases parts) yields
    cases j' with
    | object _ => cases ht
    | array _ => cases ht
    | _ => cases parts

/-- **Texts from variables.** If settings are loaded, a leaf that holds a text and has a variable of its own
holds the text that is left of the variable's value. It is the text that the variable had exactly if the two
are the same, and so they are if any character is not one of those with which numbers and words are spelt.
If the leaf's older variable is there, the leaf holds the text of that one as it stands. -/
theorem settings_text (hleaf : leaf.isText = true) (loaded : sur.settings path = .ok st) (s : String) :
    (sur.environment.Names leaf s → leaf.older? sur.environment = none →
      leaf.text? st = some (textOf s) ∧ (leaf.text? st = some s ↔ textOf s = s) ∧
      ((∃ c ∈ s.toList, c.toNat < 0x80 ∧ Text.isSpelling c = false) → leaf.text? st = some s)) ∧
    (leaf.older? sur.environment = some (.string s) → leaf.text? st = some s) := by
  obtain ⟨document, layered, read, -⟩ := of_settings loaded
  obtain ⟨es, -, laid⟩ := written_of_layered layered
  constructor
  · intro names older
    obtain ⟨t, ht, holds⟩ :=
      text?_of_holds hleaf layered read (names.holds older laid) (Variables.value_ne_null s)
    rw [Variables.text_value] at ht
    obtain rfl := Except.ok.inj ht
    refine ⟨holds, by rw [holds, Option.some.injEq], ?_⟩
    rintro ⟨c, hc, hascii, hother⟩
    rw [holds, Variables.textOf_of_mem hc hascii hother]
  · intro older
    obtain ⟨t, ht, holds⟩ :=
      text?_of_holds hleaf layered read (Variables.holds_of_older older laid) Json.noConfusion
    obtain rfl := Except.ok.inj ht
    exact holds

/-- The organization from a variable, among variables for other settings: its name is no number and is kept.
The base URL is that of the older variable. -/
theorem settings_text_acme :
    let vars : Variables := [("DATAFLOW__PROXY__ORG_SLUG", "acme-7"), ("DATAFLOW__LOGS__PAGE_SIZE", "25"),
      ("DATAFLOW__PROXY__BASE_URL", "http://variable:1"), ("PREFECT_PROXY_API_URL", "http://older:2")]
    let sur : Surroundings := ⟨vars, fun _ => none⟩
    ∃ st, sur.settings none = .ok st ∧
      (vars.Names .orgSlug "acme-7" ∧ Leaf.orgSlug.older? vars = none ∧
        Leaf.orgSlug.text? st = some "acme-7") ∧
      Leaf.baseUrl.text? st = some "http://older:2" := by
  intro vars sur
  have loaded : sur.settings none = .ok { Settings.default with
      proxy := ⟨"http://older:2", 30, 60, some "acme-7"⟩, logs := ⟨25⟩ } :=
    eq_ok_of_toOption (by decide +kernel)
  have spelt : vars.WellSpelt := .of_forall (by decide +kernel) (by decide +kernel)
  have names : vars.Names .orgSlug "acme-7" := spelt.names List.mem_cons_self (by decide +kernel)
  have older : Leaf.orgSlug.older? vars = none := rfl
  have base_url : Leaf.baseUrl.older? vars = some (.string "http://older:2") := rfl
  have holds := (settings_text rfl loaded "acme-7").1 names older
  have base := (settings_text rfl loaded "http://older:2").2 base_url
  exact ⟨_, loaded, ⟨names, older, holds.2.1.2 (by decide +kernel)⟩, base⟩

/-- An organization whose name is made of digits loses the zeros at its front. -/
theorem settings_text_lost :
    let vars : Variables := [("DATAFLOW__PROXY__ORG_SLUG", "007")]
    let sur : Surroundings := ⟨vars, fun _ => none⟩
    vars.Names .orgSlug "007" ∧ Leaf.orgSlug.older? vars = none ∧
      ∃ st, sur.settings none = .ok st ∧ Leaf.orgSlug.text? st = some "7" ∧
        Leaf.orgSlug.text? st ≠ some "007" := by
  intro vars sur
  have loaded : sur.settings none = .ok { Settings.default with
      proxy := { ProxySettings.default with orgSlug := some "7" } } :=
    eq_ok_of_toOption (by decide +kernel)
  have spelt : vars.WellSpelt := .of_forall (by decide +kernel) (by decide +kernel)
  have names : vars.Names .orgSlug "007" := spelt.names List.mem_cons_self (by decide +kernel)
  exact ⟨names, rfl, _, loaded, rfl, by decide +kernel⟩

end Surroundings

end FlowRuns
