import Mathlib.Order.Basic
import Mathlib.Data.String.Basic
import FlowRuns.Json.Parser
import FlowRuns.Proofs.Json.Fields

/-!
# Objects in order

In the values that are read from a text the keys of every object ascend, at every depth. So an object holds
each key once, whatever the text repeats, and an entry is what is found under its key.

* `Json.Ordered` — values all of whose objects have ascending keys.
* `Json.ordered_ofEntries` — an object that is made of entries is in order.
* `Json.readsOrdered`, `Json.ordered_of_ofBytes?` — **what is read** is in order.
* `Json.lookup_of_mem` — what is found in an object in order.
-/

namespace FlowRuns.Json

/-- Entries with ascending keys. -/
def Ascending (es : List (String × Json)) : Prop := es.Pairwise fun a b => a.1 < b.1

/-- The keys of every object in a value ascend. -/
inductive Ordered : Json → Prop where
  /-- there is no object in `null` -/
  | null : Ordered null
  /-- nor in a truth value -/
  | bool (b : Bool) : Ordered (bool b)
  /-- nor in an integer -/
  | int (i : Int) : Ordered (int i)
  /-- nor in another number -/
  | float (x : Binary64) : Ordered (float x)
  /-- nor in a text -/
  | string (s : String) : Ordered (string s)
  /-- a sequence of such values -/
  | array {es : List Json} (elements : ∀ e ∈ es, Ordered e) : Ordered (array es)
  /-- an object with ascending keys and such values -/
  | object {es : List (String × Json)} (keys : Ascending es) (values : ∀ e ∈ es, Ordered e.2) :
    Ordered (object es)

/-! ## Objects that are made of entries -/

/-- An entry that is put among others is one of them, or the others are there still. -/
theorem mem_insertEntry {key : String} {value : Json} {es : List (String × Json)} {e : String × Json}
    (h : e ∈ insertEntry key value es) : e = (key, value) ∨ e ∈ es := by
  induction es with
  | nil => exact .inl (List.mem_singleton.1 h)
  | cons e₀ es ih =>
    rw [insertEntry] at h
    split at h
    · exact (List.mem_cons.1 h)
    · split at h
      · exact (List.mem_cons.1 h).imp_right (List.mem_cons_of_mem _)
      · obtain rfl | h := List.mem_cons.1 h
        · exact .inr List.mem_cons_self
        · exact (ih h).imp_right (List.mem_cons_of_mem _)

/-- Putting an entry among ascending ones keeps them ascending. -/
theorem Ascending.insertEntry {key : String} {value : Json} {es : List (String × Json)}
    (h : Ascending es) : Ascending (insertEntry key value es) := by
  induction es with
  | nil => exact List.pairwise_singleton _ _
  | cons e₀ es ih =>
    obtain ⟨hfirst, hrest⟩ := List.pairwise_cons.1 h
    rw [Json.insertEntry]
    split
    next hlt =>
      refine List.pairwise_cons.2 ⟨fun e he => ?_, h⟩
      obtain rfl | he := List.mem_cons.1 he
      · exact hlt
      · exact lt_trans hlt (hfirst e he)
    next hge =>
      split
      next heq =>
        subst heq
        exact List.pairwise_cons.2 ⟨hfirst, hrest⟩
      next hne =>
        refine List.pairwise_cons.2 ⟨fun e he => ?_, ih hrest⟩
        obtain rfl | he := mem_insertEntry he
        · exact lt_of_le_of_ne (not_lt.1 hge) (Ne.symm hne)
        · exact hfirst e he

/-- An object that is made of entries is in order, if their values are. -/
theorem ordered_ofEntries {es : List (String × Json)} (h : ∀ e ∈ es, Ordered e.2) :
    Ordered (ofEntries es) := by
  suffices hfold : ∀ sorted : List (String × Json), Ascending sorted → (∀ e ∈ sorted, Ordered e.2) →
      Ordered (.object (es.foldl (fun sorted e => insertEntry e.1 e.2 sorted) sorted)) from
    hfold [] .nil nofun
  induction es with
  | nil => exact fun sorted hkeys hvalues => .object hkeys hvalues
  | cons e es ih =>
    intro sorted hkeys hvalues
    refine ih (fun e' he' => h e' (List.mem_cons_of_mem e he')) _ hkeys.insertEntry fun e' he' => ?_
    obtain rfl | he' := mem_insertEntry he'
    · exact h e List.mem_cons_self
    · exact hvalues e' he'

/-! ## What is read -/

section Reading

variable {depth : Nat} {s : List Char}

/-- The values at the beginning of texts of at most a given length are in order. -/
def ReadsOrdered (n : Nat) : Prop :=
  ∀ (depth : Nat) (s : List Char), s.length ≤ n → ∀ v r, value? depth s = some (v, r) → Ordered v

/-- The elements of a sequence are values of texts no longer than its own. -/
theorem ordered_of_elementsFrom {n : Nat} (hn : ReadsOrdered n) (hs : s.length ≤ n) {es : List Json}
    {r : Rest s} (h : elementsFrom depth s = some (es, r)) : ∀ e ∈ es, Ordered e := by
  induction hlen : s.length using Nat.strongRecOn generalizing s es with
  | _ m ih =>
    rw [elementsFrom] at h
    split at h
    · cases h
    next v r' hv =>
      have hv := hn depth s hs v r' hv
      split at h
      · cases h
        exact fun e he => List.mem_singleton.1 he ▸ hv
      · split at h
        · cases h
        next r'' hcomma =>
          split at h
          · cases h
          next vs rest hvs =>
            cases h
            have hshort : r''.1.length < s.length := Nat.lt_trans r''.2 r'.2
            intro e he
            obtain rfl | he := List.mem_cons.1 he
            · exact hv
            · exact ih _ (hlen ▸ hshort) (Nat.le_trans (Nat.le_of_lt hshort) hs) hvs rfl e he

/-- The values of an object stand in texts shorter than its own. -/
theorem ordered_of_entriesFrom {n : Nat} (hn : ReadsOrdered n) (hs : s.length ≤ n)
    {es : List (String × Json)} {r : Rest s} (h : entriesFrom depth s = some (es, r)) :
    ∀ e ∈ es, Ordered e.2 := by
  induction hlen : s.length using Nat.strongRecOn generalizing s es with
  | _ m ih =>
    rw [entriesFrom] at h
    split at h
    · cases h
    next k hk =>
      split at h
      · cases h
      next key r₁ hkey =>
        split at h
        · cases h
        next r₂ hcolon =>
          have hr₂ : r₂.1.length < s.length := Nat.lt_trans r₂.2 (Nat.lt_trans r₁.2 k.2)
          dsimp only at h
          split at h
          · cases h
          next v r₃ hv =>
            have hv := hn depth r₂.1 (Nat.le_trans (Nat.le_of_lt hr₂) hs) v r₃ hv
            split at h
            · cases h
              exact fun e he => List.mem_singleton.1 he ▸ hv
            · split at h
              · cases h
              next next? hcomma =>
                split at h
                · cases h
                next es' rest hes =>
                  cases h
                  have hshort : next?.1.length < s.length :=
                    Nat.lt_trans next?.2 (Nat.lt_trans r₃.2 hr₂)
                  intro e he
                  obtain rfl | he := List.mem_cons.1 he
                  · exact hv
                  · exact ih _ (hlen ▸ hshort) (Nat.le_trans (Nat.le_of_lt hshort) hs) hes rfl e he

/-- A word stands for the value that it is given for. -/
theorem eq_of_word? {word : List Char} {value v : Json} {r : Rest s}
    (h : word? word value s = some (v, r)) : v = value := by
  unfold word? at h
  split at h
  · cases h
    rfl
  · cases h

theorem ordered_of_floatOf {negative : Bool} {digits : Nat} {e : Int} {v : Json}
    (h : floatOf negative digits e = some v) : Ordered v := by
  obtain ⟨x, -, rfl⟩ := Option.map_eq_some_iff.1 h
  exact .float _

/-- A number holds no object. -/
theorem ordered_of_numberText {t : NumberText} {v : Json} (h : t.value? = some v) : Ordered v := by
  unfold NumberText.value? at h
  dsimp only at h
  split at h
  · split at h
    · split at h
      · cases h
      · cases h
        exact .float _
    · exact ordered_of_floatOf h
  · split at h
    · exact ordered_of_floatOf h
    · split at h
      · cases h
        exact .int _
      · split at h
        · cases h
          exact .float _
        · cases h
          exact .int _

theorem ordered_of_number? {v : Json} {r : Rest s} (h : number? s = some (v, r)) : Ordered v := by
  unfold number? at h
  split at h
  · cases h
  next t r' ht =>
    split at h
    next hr =>
      obtain ⟨v', hv', h⟩ := Option.map_eq_some_iff.1 h
      cases h
      exact ordered_of_numberText hv'
    · cases h

/-- What begins with none of the marks of a text, a sequence and an object holds no object. -/
theorem ordered_of_plain {v : Json} {r : Rest s}
    (h : (word? "null".toList null s).or ((word? "true".toList (bool true) s).or
      ((word? "false".toList (bool false) s).or (number? s))) = some (v, r)) : Ordered v := by
  rw [Option.or_eq_some_iff, Option.or_eq_some_iff, Option.or_eq_some_iff] at h
  obtain h | ⟨-, h | ⟨-, h | ⟨-, h⟩⟩⟩ := h
  · exact eq_of_word? h ▸ .null
  · exact eq_of_word? h ▸ .bool true
  · exact eq_of_word? h ▸ .bool false
  · exact ordered_of_number? h

/-- **What is read** at the beginning of a text is in order. -/
theorem readsOrdered (n : Nat) : ReadsOrdered n := by
  induction n with
  | zero =>
    intro depth s hs v r h
    obtain rfl := List.length_eq_zero_iff.1 (Nat.le_zero.1 hs)
    rw [value?] at h
    cases h
  | succ n ih =>
    intro depth s hs v r h
    rw [value?] at h
    split at h
    · cases h
    next c rest hskip =>
      have hrest : rest.length ≤ n := by
        have := length_skip_le s
        rw [hskip, List.length_cons] at this
        omega
      dsimp only at h
      split at h
      · obtain ⟨_, _, h⟩ := Option.map_eq_some_iff.1 h
        cases h
        exact .string _
      · split at h
        · split at h
          · cases h
          · split at h
            · cases h
              exact .array fun e he => absurd he List.not_mem_nil
            · split at h
              · cases h
              next es r' hes =>
                cases h
                exact .array (ordered_of_elementsFrom ih hrest hes)
        · split at h
          · split at h
            · cases h
            · split at h
              · cases h
                exact .object .nil fun e he => absurd he List.not_mem_nil
              · split at h
                · cases h
                next es r' hes =>
                  cases h
                  exact ordered_ofEntries (ordered_of_entriesFrom ih hrest hes)
          · obtain ⟨_, hplain, h⟩ := Option.map_eq_some_iff.1 h
            cases h
            exact ordered_of_plain hplain

/-- **The value of a body** is in order. -/
theorem ordered_of_ofBytes? {bytes : List UInt8} {j : Json} (h : ofBytes? bytes = some j) :
    Ordered j := by
  obtain ⟨s, -, h⟩ := Option.bind_eq_some_iff.1 h
  unfold ofChars? at h
  split at h
  next v r hv =>
    split at h
    · cases h
      exact readsOrdered s.length _ s (Nat.le_refl _) _ r hv
    · cases h
  · cases h

end Reading

/-! ## What is found -/

/-- An entry of an object in order is what is found under its key. -/
theorem lookup_of_mem {es : List (String × Json)} (h : Ascending es) {e : String × Json}
    (he : e ∈ es) : es.lookup e.1 = some e.2 := by
  induction es with
  | nil => cases he
  | cons e₀ es ih =>
    obtain ⟨hfirst, hrest⟩ := List.pairwise_cons.1 h
    obtain rfl | he := List.mem_cons.1 he
    · exact List.lookup_cons_self
    · rw [List.lookup_cons, beq_false_of_ne (ne_of_gt (hfirst e he))]
      exact ih hrest he

/-- What is found in a value in order is in order. -/
theorem Ordered.get? {j v : Json} (h : Ordered j) {key : String} (hv : j.get? key = some v) :
    Ordered v := by
  cases h with
  | object keys values =>
    obtain ⟨before, after, rfl, -⟩ := List.lookup_eq_some_iff.1 hv
    exact values (key, v) (List.mem_append_right before List.mem_cons_self)
  | _ => cases hv

end FlowRuns.Json
